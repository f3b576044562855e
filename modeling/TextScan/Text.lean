namespace TextScan

/-!
# Texts and their byte offsets

A text is its list of characters. Places in a text are counted in two ways, in characters and in
bytes of UTF-8, and only the second can point into the middle of a character.

* `byteSize t` counts the bytes of `t`.
* `dropBytes? n t` and `takeBytes? n t` cut `t` after `n` bytes. They answer nothing if `t` is
  shorter or the cut would split a character.
* `slice? a b t` is the part between two byte offsets, under the same conditions.
-/

/-- A text as its characters, in order. -/
abbrev Text := List Char

namespace Text

/-- How many bytes the text takes in UTF-8. -/
def byteSize : Text → Nat
  | [] => 0
  | c :: t => c.utf8Size + byteSize t

/-- What follows the first `n` bytes, if they end where a character ends. -/
def dropBytes? (n : Nat) : Text → Option Text
  | [] => if n = 0 then some [] else none
  | c :: t =>
    if n = 0 then some (c :: t)
    else if c.utf8Size ≤ n then dropBytes? (n - c.utf8Size) t
    else none

/-- The first `n` bytes, if they end where a character ends. -/
def takeBytes? (n : Nat) : Text → Option Text
  | [] => if n = 0 then some [] else none
  | c :: t =>
    if n = 0 then some []
    else if c.utf8Size ≤ n then (takeBytes? (n - c.utf8Size) t).map (c :: ·)
    else none

/-- The part from byte `start` up to byte `stop`, if both are ends of characters and in order. -/
def slice? (start stop : Nat) (t : Text) : Option Text :=
  if start ≤ stop then (dropBytes? start t).bind (takeBytes? (stop - start)) else none

@[simp] theorem byteSize_nil : byteSize [] = 0 := rfl

@[simp] theorem byteSize_cons (c : Char) (t : Text) :
    byteSize (c :: t) = c.utf8Size + byteSize t := rfl

@[simp] theorem byteSize_append (s t : Text) : byteSize (s ++ t) = byteSize s + byteSize t := by
  induction s with
  | nil => simp
  | cons c s ih => simp only [List.cons_append, byteSize_cons, ih, Nat.add_assoc]

@[simp] theorem dropBytes?_zero (t : Text) : dropBytes? 0 t = some t := by cases t <;> rfl

@[simp] theorem takeBytes?_zero (t : Text) : takeBytes? 0 t = some [] := by cases t <;> rfl

/-- A cut after the bytes of `s` always succeeds and leaves what stands after `s`. -/
@[simp] theorem dropBytes?_append (s t : Text) : dropBytes? (byteSize s) (s ++ t) = some t := by
  induction s with
  | nil => simp
  | cons c s ih =>
    have h := c.utf8Size_pos
    simp only [byteSize_cons, List.cons_append, dropBytes?]
    rw [if_neg (by omega), if_pos (by omega), Nat.add_sub_cancel_left, ih]

/-- A cut after the bytes of `s` gives `s` back. -/
@[simp] theorem takeBytes?_append (s t : Text) : takeBytes? (byteSize s) (s ++ t) = some s := by
  induction s with
  | nil => simp
  | cons c s ih =>
    have h := c.utf8Size_pos
    simp only [byteSize_cons, List.cons_append, takeBytes?]
    rw [if_neg (by omega), if_pos (by omega), Nat.add_sub_cancel_left, ih, Option.map_some]

/-- A cut leaves `u` exactly if some beginning of the text takes the bytes and `u` follows it. -/
theorem dropBytes?_eq_some_iff {n : Nat} {t u : Text} :
    dropBytes? n t = some u ↔ ∃ s, t = s ++ u ∧ byteSize s = n := by
  constructor
  · intro h
    induction t generalizing n with
    | nil =>
      rw [dropBytes?] at h
      split at h
      · exact ⟨[], by simpa using h, by simp [*]⟩
      · exact absurd h (by simp)
    | cons c t ih =>
      rw [dropBytes?] at h
      split at h
      · exact ⟨[], by simpa using h, by simp [*]⟩
      · split at h
        · obtain ⟨s, rfl, hs⟩ := ih h
          exact ⟨c :: s, rfl, by rw [byteSize_cons]; omega⟩
        · exact absurd h (by simp)
  · rintro ⟨s, rfl, rfl⟩
    exact dropBytes?_append s u

/-- A cut gives `s` exactly if the text begins with `s` and `s` takes the bytes. -/
theorem takeBytes?_eq_some_iff {n : Nat} {t s : Text} :
    takeBytes? n t = some s ↔ ∃ u, t = s ++ u ∧ byteSize s = n := by
  constructor
  · intro h
    induction t generalizing n s with
    | nil =>
      rw [takeBytes?] at h
      split at h
      · obtain rfl := Option.some.inj h
        exact ⟨[], rfl, by simp [*]⟩
      · exact absurd h (by simp)
    | cons c t ih =>
      rw [takeBytes?] at h
      split at h
      · obtain rfl := Option.some.inj h
        exact ⟨c :: t, rfl, by simp [*]⟩
      · split at h
        · obtain ⟨s', h', rfl⟩ := Option.map_eq_some_iff.1 h
          obtain ⟨u, rfl, hs⟩ := ih h'
          exact ⟨u, rfl, by rw [byteSize_cons]; omega⟩
        · exact absurd h (by simp)
  · rintro ⟨u, rfl, rfl⟩
    exact takeBytes?_append s u

/-- A slice is the middle of three parts of the text, of which the first ends at its start. -/
theorem slice?_eq_some_iff {start stop : Nat} {t m : Text} :
    slice? start stop t = some m ↔
      ∃ s u, t = s ++ m ++ u ∧ byteSize s = start ∧ byteSize s + byteSize m = stop := by
  unfold slice?
  constructor
  · intro h
    split at h
    · obtain ⟨r, hr, hm⟩ := Option.bind_eq_some_iff.1 h
      obtain ⟨s, rfl, hs⟩ := dropBytes?_eq_some_iff.1 hr
      obtain ⟨u, rfl, hu⟩ := takeBytes?_eq_some_iff.1 hm
      exact ⟨s, u, by simp, hs, by omega⟩
    · exact absurd h (by simp)
  · rintro ⟨s, u, rfl, rfl, rfl⟩
    rw [if_pos (Nat.le_add_right _ _), List.append_assoc, dropBytes?_append, Option.bind_some,
      Nat.add_sub_cancel_left, takeBytes?_append]

end Text

end TextScan
