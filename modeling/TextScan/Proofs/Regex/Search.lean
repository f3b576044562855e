import TextScan.Proofs.Regex.Match

namespace TextScan.Regex.Program

/-!
# Where a search ends

A search tries one place after another. The places of a text are the ways to split it in two parts,
and a match depends on the second part and on the last character of the first one.

* `Program.findFrom_split` says what a search has found: what matches where it ends, while nothing
  does at any place before. By `Program.matchAt_eq_none_of_findFrom`, a search that ends without a
  match has tried all places.
* `Program.findFrom_append` and `Program.findFrom_eq_none` lead the other way, for programs that do
  not depend on the character before.
* `Program.found?_filter_start` says that a search that only counts at the start of the text is the
  same as trying no other place.
-/

variable {p : Program}

/-! ### What is found -/

/-- Behind the first character, the character before a place is in the text. -/
theorem getLast?_cons_or (c : Char) (u : Text) (before : Option Char) :
    (c :: u).getLast?.or before = u.getLast?.or (some c) := by
  rw [List.getLast?_cons]
  cases u.getLast? <;> rfl

/-- What is found matches there and nowhere before. -/
theorem findFrom_split {before : Option Char} {v w : Text} {m : Match}
    (h : p.findFrom before v = some (w, m)) :
    ∃ u, v = u ++ w ∧ p.matchAt (u.getLast?.or before) w = some m ∧
      ∀ x y, v = x ++ y → x.length < u.length → p.matchAt (x.getLast?.or before) y = none := by
  induction v generalizing before with
  | nil =>
    simp only [findFrom, Option.map_eq_some_iff, Prod.mk.injEq] at h
    obtain ⟨m, hm, rfl, rfl⟩ := h
    exact ⟨[], rfl, hm, fun x y _ hx => absurd hx (Nat.not_lt_zero _)⟩
  | cons c r ih =>
    rw [findFrom] at h
    cases hhere : p.matchAt before (c :: r) with
    | some m' =>
      simp only [hhere, Option.some.injEq, Prod.mk.injEq] at h
      obtain ⟨rfl, rfl⟩ := h
      exact ⟨[], rfl, hhere, fun x y _ hx => absurd hx (Nat.not_lt_zero _)⟩
    | none =>
      simp only [hhere] at h
      obtain ⟨u, rfl, hw, hbefore⟩ := ih h
      refine ⟨c :: u, rfl, by rwa [getLast?_cons_or], fun x y hxy hx => ?_⟩
      cases x with
      | nil => exact (show y = c :: (u ++ w) from hxy.symm) ▸ hhere
      | cons d x =>
        obtain ⟨rfl, hrest⟩ := List.cons_eq_cons.1 hxy
        rw [getLast?_cons_or]
        exact hbefore x y hrest (Nat.lt_of_succ_lt_succ hx)

/-- If nothing is found, nothing matches anywhere. -/
theorem matchAt_eq_none_of_findFrom {before : Option Char} {v : Text}
    (h : p.findFrom before v = none) {x y : Text} (hxy : v = x ++ y) :
    p.matchAt (x.getLast?.or before) y = none := by
  induction v generalizing before x with
  | nil =>
    obtain ⟨rfl, rfl⟩ := List.append_eq_nil_iff.1 hxy.symm
    rwa [findFrom, Option.map_eq_none_iff] at h
  | cons c r ih =>
    rw [findFrom] at h
    cases hhere : p.matchAt before (c :: r) with
    | some m => simp [hhere] at h
    | none =>
      simp only [hhere] at h
      cases x with
      | nil => exact (show y = c :: r from hxy.symm) ▸ hhere
      | cons d x =>
        obtain ⟨rfl, hrest⟩ := List.cons_eq_cons.1 hxy
        rw [getLast?_cons_or]
        exact ih h hrest

/-- A match that is found begins an end of the text. -/
theorem findFrom_isSuffix {before : Option Char} {v w : Text} {m : Match}
    (h : p.findFrom before v = some (w, m)) : w <:+ v := by
  obtain ⟨u, rfl, -⟩ := findFrom_split h
  exact List.suffix_append u w

/-! ### What the character before is does not matter -/

section Blind

variable {f : Text → Option Match} (hmatch : ∀ before v, p.matchAt before v = f v)
include hmatch

/-- What matches somewhere and nowhere before is found there. -/
theorem findFrom_append {u w : Text} {m : Match} (hw : f w = some m)
    (hu : ∀ x, x ≠ [] → x <:+ u → f (x ++ w) = none) (before : Option Char) :
    p.findFrom before (u ++ w) = some (w, m) := by
  induction u generalizing before with
  | nil =>
    rw [List.nil_append]
    cases w with
    | nil => rw [findFrom, hmatch, hw, Option.map_some]
    | cons => rw [findFrom, hmatch, hw]
  | cons c u ih =>
    rw [List.cons_append, findFrom, hmatch, ← List.cons_append,
      hu (c :: u) (List.cons_ne_nil c u) (List.suffix_refl _)]
    exact ih (fun x hx hsuffix => hu x hx (hsuffix.trans (List.suffix_cons c u))) (some c)

/-- What matches nowhere is not found. -/
theorem findFrom_eq_none {v : Text} (hv : ∀ w, w <:+ v → f w = none) (before : Option Char) :
    p.findFrom before v = none := by
  cases hfind : p.findFrom before v with
  | none => rfl
  | some found =>
    obtain ⟨u, rfl, hw, -⟩ := findFrom_split hfind
    rw [hmatch, hv _ (List.suffix_append ..)] at hw
    cases hw

end Blind

/-! ### The start of the text -/

/-- A character in front of the text moves a match by its bytes. -/
theorem ofMatch_cons {w r : Text} (h : w <:+ r) (c : Char) (m : Match) :
    Found.ofMatch (c :: r) w m =
      { Found.ofMatch r w m with start := c.utf8Size + (Found.ofMatch r w m).start } := by
  obtain ⟨u, rfl⟩ := h
  simp only [Found.ofMatch, Text.byteSize_cons, Text.byteSize_append, Found.mk.injEq, and_true]
  omega

/-- What is found behind the start of a text does not count there. -/
theorem found?_filter_start (p : Program) (v : Text) :
    (p.found? v).filter (fun m => m.start = 0) = p.foundAtStart? v := by
  have hhere (m : Match) : (Found.ofMatch v v m).start = 0 := Nat.sub_self _
  unfold found? foundAtStart? find
  cases v with
  | nil =>
    rw [findFrom]
    cases p.matchAt none [] <;> simp [hhere]
  | cons c r =>
    rw [findFrom]
    cases p.matchAt none (c :: r) with
    | some m => simp [hhere]
    | none =>
      -- Any other place lies at least one character further on.
      cases hlater : p.findFrom (some c) r with
      | none => rfl
      | some found =>
        obtain ⟨w, m⟩ := found
        have hstart : (Found.ofMatch (c :: r) w m).start ≠ 0 := by
          have hsize := c.utf8Size_pos
          rw [ofMatch_cons (findFrom_isSuffix hlater)]
          show c.utf8Size + _ ≠ 0
          omega
        simp [hstart]

end TextScan.Regex.Program
