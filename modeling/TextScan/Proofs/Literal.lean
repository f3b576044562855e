import TextScan.Proofs.Plain

namespace TextScan

/-!
# Looking for plain text

* `Text.FirstIn` says where a text occurs first in another one. `Text.not_pair_infix_append` says
  where two characters can come to stand side by side.
* `Pattern.indexOf?_eq_none_iff` and `Pattern.indexOf?_eq_some_iff` say that the search finds the
  first occurrence whenever there is one.
* `Pattern.literal_atStart_eq_some_iff` and `Pattern.literal_anywhere_eq_some_iff` tell the answers
  of the pattern that looks for a text.
* `Pattern.literal_genuine` says that what is reported is in the text. By `Pattern.char_eq_literal`
  this holds of single characters too.
-/

variable {needle t u v : Text}

/-- The text `needle` occurs in `t` between `u` and `v`, and nowhere before. -/
structure Text.FirstIn (needle t u v : Text) : Prop where
  eq_append : t = u ++ (needle ++ v)
  least : ∀ u' v', t = u' ++ (needle ++ v') → u.length ≤ u'.length

/-- There is only one first place. -/
theorem Text.FirstIn.unique {u' v' : Text} (h : needle.FirstIn t u v)
    (h' : needle.FirstIn t u' v') : u = u' := by
  have hlen : u.length = u'.length :=
    Nat.le_antisymm (h.least _ _ h'.eq_append) (h'.least _ _ h.eq_append)
  exact (List.append_inj (h.eq_append.symm.trans h'.eq_append) hlen).1

/-- What comes later does not bring the first place forward: an earlier one would end within the text
    that is there already. -/
theorem Text.FirstIn.append (h : needle.FirstIn t u v) (w : Text) :
    needle.FirstIn (t ++ w) u (v ++ w) := by
  refine ⟨by rw [h.eq_append]; simp only [List.append_assoc], fun u' v' hsplit => ?_⟩
  refine Nat.le_of_not_lt fun hlt => ?_
  have hlen : (u' ++ needle).length ≤ t.length := by
    rw [h.eq_append, List.length_append, List.length_append, List.length_append]
    omega
  have hbegins : u' ++ needle <+: t ++ w := ⟨v', by rw [hsplit, List.append_assoc]⟩
  obtain ⟨v'', hv⟩ := List.prefix_of_prefix_length_le hbegins (List.prefix_append t w) hlen
  exact Nat.not_le_of_lt hlt (h.least u' v'' (by rw [← hv, List.append_assoc]))

/-- Two characters that stand side by side in neither of two texts do so where these meet, or not at
    all. -/
theorem Text.not_pair_infix_append {c d : Char} {a b : Text} (ha : ¬ [c, d] <:+: a)
    (hb : ¬ [c, d] <:+: b) (hseam : ¬ (a.getLast? = some c ∧ b.head? = some d)) :
    ¬ [c, d] <:+: a ++ b := by
  induction a with
  | nil => exact hb
  | cons x a ih =>
    rw [List.infix_cons_iff, not_or] at ha
    rw [List.cons_append, List.infix_cons_iff, not_or]
    constructor
    · rintro ⟨w, hw⟩
      obtain ⟨rfl, htail⟩ := List.cons.inj hw
      cases a with
      | nil => exact hseam ⟨rfl, by rw [← List.nil_append b, ← htail]; rfl⟩
      | cons y a =>
        obtain ⟨rfl, -⟩ := List.cons.inj htail
        exact ha.1 ⟨a, rfl⟩
    · refine ih ha.2 fun h => hseam ⟨?_, h.2⟩
      rw [List.getLast?_cons, h.1]
      rfl

namespace Pattern

/-- The search finds nothing exactly if there is nothing to find. -/
theorem indexOf?_eq_none_iff : indexOf? needle t = none ↔ ¬ needle <:+: t := by
  induction t with
  | nil =>
    rw [indexOf?, List.infix_nil]
    cases needle <;> simp
  | cons c t ih =>
    rw [indexOf?, List.infix_cons_iff, not_or, ← ih, ← List.isPrefixOf_iff_prefix]
    by_cases h : needle.isPrefixOf (c :: t) <;> simp [h]

/-- What the search finds is the first occurrence. -/
theorem firstIn_of_indexOf? {n : Nat} (h : indexOf? needle t = some n) :
    ∃ u v, needle.FirstIn t u v ∧ u.byteSize = n := by
  induction t generalizing n with
  | nil =>
    rw [indexOf?] at h
    split at h
    · rename_i hempty
      rw [List.isEmpty_iff.1 hempty]
      exact ⟨[], [], ⟨rfl, fun _ _ _ => Nat.zero_le _⟩, Option.some.inj h⟩
    · exact absurd h (by simp)
  | cons c t ih =>
    rw [indexOf?] at h
    split at h
    · rename_i hbegins
      obtain ⟨v, hv⟩ := List.isPrefixOf_iff_prefix.1 hbegins
      exact ⟨[], v, ⟨hv.symm, fun _ _ _ => Nat.zero_le _⟩, Option.some.inj h⟩
    · rename_i hbegins
      obtain ⟨k, hk, rfl⟩ := Option.map_eq_some_iff.1 h
      obtain ⟨u, v, hfirst, rfl⟩ := ih hk
      refine ⟨c :: u, v, ⟨by rw [hfirst.eq_append]; rfl, ?_⟩, rfl⟩
      intro u' v' hsplit
      -- An earlier place would be the start, which has been tried, or one of the rest.
      cases u' with
      | nil => exact absurd (List.isPrefixOf_iff_prefix.2 ⟨v', hsplit.symm⟩) hbegins
      | cons d u' =>
        have hle := hfirst.least u' v' (List.cons.inj hsplit).2
        rw [List.length_cons, List.length_cons]
        omega

theorem indexOf?_eq_some_iff {n : Nat} :
    indexOf? needle t = some n ↔ ∃ u v, needle.FirstIn t u v ∧ u.byteSize = n := by
  constructor
  · exact firstIn_of_indexOf?
  · rintro ⟨u, v, hfirst, rfl⟩
    cases hk : indexOf? needle t with
    | none =>
      have hinfix : needle <:+: t := ⟨u, v, by rw [hfirst.eq_append, List.append_assoc]⟩
      exact absurd hinfix (indexOf?_eq_none_iff.1 hk)
    | some k =>
      -- The search has found a first place, and there is only one.
      obtain ⟨u', v', hfirst', rfl⟩ := firstIn_of_indexOf? hk
      rw [hfirst.unique hfirst']

/-- A text that occurs occurs first somewhere. -/
theorem exists_firstIn (h : needle <:+: t) : ∃ u v, needle.FirstIn t u v := by
  cases hn : indexOf? needle t with
  | none => exact absurd h (indexOf?_eq_none_iff.1 hn)
  | some n =>
    obtain ⟨u, v, hfirst, -⟩ := firstIn_of_indexOf? hn
    exact ⟨u, v, hfirst⟩

/-! ### The answers of plain patterns -/

variable {m : Found}

theorem literal_atStart_eq_some_iff :
    (literal needle).atStart t = .ok (some m) ↔ needle <+: t ∧ m = ⟨0, needle, []⟩ := by
  simp only [literal, Except.ok.injEq, Option.ite_none_right_eq_some, Option.some.injEq,
    List.isPrefixOf_iff_prefix]
  exact and_congr_right fun _ => eq_comm

theorem literal_atStart_eq_none_iff : (literal needle).atStart t = .ok none ↔ ¬ needle <+: t := by
  simp [literal, List.isPrefixOf_iff_prefix]

theorem literal_anywhere_eq_some_iff :
    (literal needle).anywhere t = .ok (some m) ↔
      ∃ u v, needle.FirstIn t u v ∧ m = ⟨u.byteSize, needle, []⟩ := by
  simp only [literal, Except.ok.injEq, Option.map_eq_some_iff, indexOf?_eq_some_iff]
  constructor
  · rintro ⟨n, ⟨u, v, hfirst, rfl⟩, rfl⟩
    exact ⟨u, v, hfirst, rfl⟩
  · rintro ⟨u, v, hfirst, rfl⟩
    exact ⟨u.byteSize, ⟨u, v, hfirst, rfl⟩, rfl⟩

theorem literal_anywhere_eq_none_iff :
    (literal needle).anywhere t = .ok none ↔ ¬ needle <:+: t := by
  simp only [literal, Except.ok.injEq, Option.map_eq_none_iff, indexOf?_eq_none_iff]

/-- Plain patterns report what is in the text. -/
theorem literal_genuine (needle : Text) : (literal needle).Genuine := by
  rintro t m (h | h)
  · obtain ⟨⟨v, rfl⟩, rfl⟩ := literal_atStart_eq_some_iff.1 h
    exact ⟨[], v, rfl, rfl⟩
  · obtain ⟨u, v, hfirst, rfl⟩ := literal_anywhere_eq_some_iff.1 h
    exact ⟨u, v, hfirst.eq_append, rfl⟩

/-- A character is looked for as the text that consists of it. -/
theorem char_eq_literal (c : Char) : char c = literal [c] := by
  have hhead (t : Text) : t.head? = some c ↔ List.isPrefixOf [c] t := by
    cases t with
    | nil => simp
    | cons d t =>
      simp only [List.head?_cons, Option.some.injEq, List.isPrefixOf, Bool.and_true, beq_iff_eq]
      exact eq_comm
  unfold char literal
  congr 1
  funext t
  simp only [hhead]

end Pattern

end TextScan
