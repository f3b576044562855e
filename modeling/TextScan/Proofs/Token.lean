import TextScan.Proofs.Literal
import TextScan.Scanner.Token

namespace TextScan

/-!
# Tokens cut off a text

A reader goes through one text from the start to the end. What it does next depends on what is left
of the text, and a token is what its pattern cuts off that.

* `Scanner.Before` says that a scanner over a text stands before a given end of it.
* `Pattern.Cuts` says that a pattern matches, at the start of a text, what a function cuts off it.
* `Scanner.Before.token?_eq_some` and `Scanner.Before.skipToken` say where a scanner stands behind a
  token. The text has to fit in a memory, since matches are told in 64 bits.
* `Scanner.Before.locate_eq_some` says what place is told of a match ahead.
* `Yields` tells the result of a reader with what it leaves, or its error.
-/

/-- The pattern matches `f v` at the start of any text `v`, and nothing if that is empty. -/
structure Pattern.Cuts (p : Pattern) (f : Text → Text) : Prop where
  isPrefix : ∀ v, f v <+: v
  atStart : ∀ v, p.atStart v = .ok (if f v = [] then none else some ⟨0, f v, []⟩)

/-- The pattern of a text cuts off that text or nothing. -/
theorem Pattern.literal_cuts {needle : Text} (h : needle ≠ []) :
    (literal needle).Cuts fun v => if needle.isPrefixOf v then needle else [] where
  isPrefix v := by
    split
    · rename_i hbegins
      exact List.isPrefixOf_iff_prefix.1 hbegins
    · exact List.nil_prefix
  atStart v := by
    show Except.ok (if needle.isPrefixOf v then some (⟨0, needle, []⟩ : Found) else none) = _
    cases needle.isPrefixOf v
    · rfl
    · simp only [if_true, if_neg h]

/-- The pattern of a character cuts off that character or nothing. -/
theorem Pattern.char_cuts (c : Char) :
    (char c).Cuts fun v => if v.head? = some c then [c] else [] where
  isPrefix v := by
    split
    · rename_i hhead
      obtain ⟨w, rfl⟩ := List.head?_eq_some_iff.1 hhead
      exact ⟨w, rfl⟩
    · exact List.nil_prefix
  atStart v := by
    show Except.ok (if v.head? = some c then some (⟨0, [c], []⟩ : Found) else none) = _
    split <;> rfl

@[simp] theorem Cursor.unread_between (u v : Text) : (between u v).unread = v.length := by
  rw [unread, charLen_between, pos_between, List.length_append, Nat.add_sub_cancel_left]

namespace Scanner

variable {s : Scanner} {T v : Text} {p : Pattern} {f : Text → Text}

/-- The scanner is over the text `T`, and `v` is what lies behind its cursor. -/
def Before (s : Scanner) (T v : Text) : Prop := ∃ u, T = u ++ v ∧ s.toCursor = .between u v

theorem new_before (T : Text) : (new T).Before T T := ⟨[], rfl, Cursor.new_eq_between T⟩

namespace Before

theorem rest_eq (h : s.Before T v) : s.rest = v := by
  obtain ⟨u, -, hs⟩ := h
  rw [hs, Cursor.rest_between]

theorem atEnd_eq (h : s.Before T v) : s.atEnd = v.isEmpty := by
  obtain ⟨u, -, hs⟩ := h
  rw [hs, Cursor.atEnd_between]

theorem unread_eq (h : s.Before T v) : s.unread = v.length := by
  obtain ⟨u, -, hs⟩ := h
  rw [hs, Cursor.unread_between]

/-- The position is told by what is left. -/
theorem pos_eq (h : s.Before T v) : s.pos = T.length - v.length := by
  obtain ⟨u, rfl, hs⟩ := h
  rw [hs, Cursor.pos_between, List.length_append, Nat.add_sub_cancel]

theorem isSuffix (h : s.Before T v) : v <:+ T := by
  obtain ⟨u, rfl, -⟩ := h
  exact ⟨u, rfl⟩

theorem held (h : s.Before T v) (hheld : T.Held) : v.Held := by
  obtain ⟨u, rfl, -⟩ := h
  exact hheld.right

/-- The cursor moves by as many characters as one tells it. -/
theorem moveTo (h : s.Before T v) (k : Nat) :
    (s.moveTo (s.pos + k)).scanner.Before T (v.drop k) := by
  obtain ⟨u, rfl, hs⟩ := h
  have htake : v.take k ++ v.drop k = v := List.take_append_drop k v
  refine ⟨u ++ v.take k, by rw [List.append_assoc, htake], ?_⟩
  show s.toCursor.moveTo (s.pos + k) = _
  -- The position is an integer here, and not negative.
  have hpos : ((s.pos : Int) + (k : Int)).toNat = u.length + k := by
    rw [hs, Cursor.pos_between]
    omega
  rw [hs, Cursor.moveTo_between, ← hs, hpos, List.take_length_add_append,
    List.drop_length_add_append]

/-- A text that lies ahead is passed by its length. -/
theorem moveTo_append {u w : Text} (h : s.Before T (u ++ w)) :
    (s.moveTo (s.pos + u.length)).scanner.Before T w := by
  have hmoved := h.moveTo u.length
  rwa [List.drop_left] at hmoved

/-- What is matched is taken, and the cursor stands behind it. -/
theorem take (h : s.Before T v) (hheld : T.Held) (hp : p.Cuts f) :
    (s.take p).result = .ok (if f v = [] then none else some (f v)) ∧
      (s.take p).scanner.Before T (v.drop (f v).length) := by
  have hatStart := hp.atStart v
  have htext : (Attempt.take.outcome p v).text = if f v = [] then none else some (f v) := by
    by_cases hfv : f v = []
    · rw [if_pos hfv] at hatStart ⊢
      rw [Attempt.outcome_take_of_none hatStart, Outcome.text_failure]
    · have hfvHeld : (f v).Held := (h.held hheld).of_isPrefix (hp.isPrefix v)
      rw [if_neg hfv] at hatStart ⊢
      rw [Attempt.outcome_take hatStart rfl (hp.isPrefix v) hfvHeld, Outcome.text_success]
  -- Where nothing is cut off, nothing is passed, so the two cases need no telling apart below.
  have hpassed : (Attempt.take.outcome p v).text.getD [] = f v := by
    rw [htext]
    split
    · rename_i hfv
      exact hfv.symm
    · rfl
  constructor
  · rw [take_result, h.rest_eq, hatStart, htext]
    rfl
  · have hsplit := List.prefix_iff_eq_append.1 (hp.isPrefix v)
    have hrest := h.rest_eq
    obtain ⟨u, rfl, hs⟩ := h
    refine ⟨u ++ f v, by rw [List.append_assoc, hsplit], ?_⟩
    rw [take_toCursor, hrest, hpassed, hs, Cursor.pass_between_of_isPrefix u (hp.isPrefix v)]

/-- Where nothing is cut off, there is no token. -/
theorem token?_eq_none (h : s.Before T v) (hheld : T.Held) (hp : p.Cuts f) (hfv : f v = []) :
    s.token? p = .ok none := by
  have hresult := (h.take hheld hp).1
  rw [if_pos hfv] at hresult
  simp only [token?, hresult]

/-- What is cut off is a token, and the scanner behind it has less to read. -/
theorem token?_eq_some (h : s.Before T v) (hheld : T.Held) (hp : p.Cuts f) (hfv : f v ≠ []) :
    ∃ t : s.Behind, s.token? p = .ok (some (f v, t)) ∧ t.1.Before T (v.drop (f v).length) := by
  obtain ⟨hresult, hbefore⟩ := h.take hheld hp
  rw [if_neg hfv] at hresult
  have hlt : (s.take p).scanner.unread < s.unread := by
    have hpos := List.length_pos_iff.2 hfv
    have hle := (hp.isPrefix v).length_le
    rw [hbefore.unread_eq, h.unread_eq, List.length_drop]
    omega
  exact ⟨⟨(s.take p).scanner, hlt⟩, by simp only [token?, hresult, hlt, dite_true], hbefore⟩

/-- A token that may be missing. -/
theorem skipToken (h : s.Before T v) (hheld : T.Held) (hp : p.Cuts f) :
    ∃ t : s.Skipped, s.skipToken p = .ok t ∧ t.1.Before T (v.drop (f v).length) := by
  unfold Scanner.skipToken
  by_cases hfv : f v = []
  · rw [h.token?_eq_none hheld hp hfv, hfv]
    exact ⟨⟨s, Nat.le_refl _⟩, rfl, h⟩
  · obtain ⟨t, htoken, ht⟩ := h.token?_eq_some hheld hp hfv
    rw [htoken]
    exact ⟨t.toSkipped, rfl, ht⟩

/-- What is reported at a place has that place, in characters. -/
theorem locate_eq_some {u x w : Text} (h : s.Before T (u ++ (x ++ w))) (hheld : T.Held)
    (hanswer : p.anywhere (u ++ (x ++ w)) = .ok (some ⟨u.byteSize, x, []⟩)) :
    (s.locate p).result = .ok (some u.length) := by
  have hfits : Found.FitsIn ⟨u.byteSize, x, []⟩ (u ++ (x ++ w)) := by
    have hx : Text.Held (u ++ x) := (h.held hheld).of_isPrefix ⟨w, List.append_assoc ..⟩
    exact Found.fitsIn_append rfl w hx
  simp only [locate, h.rest_eq, judge_eq, hanswer, Outcome.ofAnswer, outcomeIn_of_fitsIn hfits,
    Text.takeBytes?_append]
  rfl

/-- Where nothing is reported, there is no place. -/
theorem locate_eq_none (h : s.Before T v) (hanswer : p.anywhere v = .ok none) :
    (s.locate p).result = .ok none := by
  simp only [locate, h.rest_eq, judge_eq, hanswer]
  rfl

/-- The place at which a text occurs first. -/
theorem locate_literal_of_firstIn (h : s.Before T v) (hheld : T.Held) {needle u w : Text}
    (hfirst : needle.FirstIn v u w) :
    (s.locate (.literal needle)).result = .ok (some u.length) := by
  have hanswer : (Pattern.literal needle).anywhere v = .ok (some ⟨u.byteSize, needle, []⟩) :=
    Pattern.literal_anywhere_eq_some_iff.2 ⟨u, w, hfirst, rfl⟩
  obtain rfl := hfirst.eq_append
  exact h.locate_eq_some hheld hanswer

/-- A text that does not occur has no place. -/
theorem locate_literal_of_not_infix (h : s.Before T v) {needle : Text} (hnot : ¬ needle <:+: v) :
    (s.locate (.literal needle)).result = .ok none :=
  h.locate_eq_none (Pattern.literal_anywhere_eq_none_iff.2 hnot)

end Before

end Scanner

/-! ### Readers -/

/-- A reader over `T` gives the value and leaves the text of `r`, or fails with its error. -/
def Yields {ε α : Type} (T : Text) {P : Scanner → Prop} (e : Except ε (α × { t : Scanner // P t }))
    (r : Except ε (α × Text)) : Prop :=
  match r with
  | .ok (a, w) => ∃ t, e = .ok (a, t) ∧ t.1.Before T w
  | .error err => e = .error err

/-- A reader has one result, since the text that is left lies behind the scanner. -/
theorem Yields.unique {ε α : Type} {T : Text} {P : Scanner → Prop}
    {x : Except ε (α × { t : Scanner // P t })} {r r' : Except ε (α × Text)} (h : Yields T x r)
    (h' : Yields T x r') : r = r' := by
  cases r with
  | error err =>
    simp only [Yields] at h
    subst h
    cases r' with
    | error err' => exact congrArg Except.error (Except.error.inj h')
    | ok r' =>
      obtain ⟨t, ht, -⟩ := h'
      cases ht
  | ok r =>
    obtain ⟨t, rfl, ht⟩ := h
    cases r' with
    | error err' => cases h'
    | ok r' =>
      obtain ⟨t', hok, ht'⟩ := h'
      obtain ⟨ha, rfl⟩ := Prod.mk.inj (Except.ok.inj hok)
      exact congrArg Except.ok (Prod.ext ha (ht.rest_eq.symm.trans ht'.rest_eq))

/-- What a reader makes of the value of another one leaves the same text. -/
theorem Yields.map {ε α β : Type} {T : Text} {P Q : Scanner → Prop}
    {e : Except ε (α × { t : Scanner // P t })} {r : Except ε (α × Text)} (h : Yields T e r)
    (f : α → β) (g : { t : Scanner // P t } → { t : Scanner // Q t }) (hg : ∀ t, (g t).1 = t.1) :
    Yields T (e.bind fun (a, t) => .ok (f a, g t)) (r.map fun (a, w) => (f a, w)) := by
  cases r with
  | error err =>
    simp only [Yields] at h
    rw [h]
    exact rfl
  | ok r =>
    obtain ⟨t, rfl, ht⟩ := h
    exact ⟨g t, rfl, by rwa [hg]⟩

/-! ### Positions -/

/-- The position of what is left of a text. -/
def posOf (T v : Text) : Nat := T.length - v.length

theorem posOf_append {T x w : Text} (h : x ++ w <:+ T) :
    posOf T w = posOf T (x ++ w) + x.length := by
  obtain ⟨u, rfl⟩ := h
  simp only [posOf, List.length_append]
  omega

/-- Positions add up where a text is left of what was left before. -/
theorem posOf_trans {T v w : Text} (hv : v <:+ T) (hw : w <:+ v) :
    posOf T v + posOf v w = posOf T w := by
  have hle := hv.length_le
  have hle' := hw.length_le
  unfold posOf
  omega

theorem posOf_self (v : Text) : posOf v v = 0 := Nat.sub_self _

theorem posOf_append_right (u v : Text) : posOf (u ++ v) v = u.length := by
  rw [posOf, List.length_append, Nat.add_sub_cancel]

end TextScan
