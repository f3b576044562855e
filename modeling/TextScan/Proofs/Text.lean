import TextScan.Text

namespace TextScan.Text

/-!
# The longest beginning of a kind

A text is often cut where its first characters of a kind end.

* `Text.Avoids` says that a text does not begin with a character of a kind. What is left behind the
  longest beginning of a kind does not.
* `Text.Avoids.takeWhile_append` and `Text.Avoids.dropWhile_append` say where such a beginning ends.
-/

variable {p : Char → Bool} {t w : Text}

/-- The text does not begin with a character of the kind. -/
def Avoids (p : Char → Bool) (w : Text) : Prop := ∀ c, w.head? = some c → p c = false

theorem avoids_cons {c : Char} : Avoids p (c :: w) ↔ p c = false := by
  simp only [Avoids, List.head?_cons, Option.some.injEq, forall_eq']

/-- Only how the second part begins counts, and only where the first one is empty. -/
theorem Avoids.replace {w' : Text} (h : Avoids p (t ++ w)) (hw : w'.head? = w.head? ∨ Avoids p w') :
    Avoids p (t ++ w') := by
  cases t with
  | nil =>
    rcases hw with hw | hw
    · exact fun c hc => h c (hw ▸ hc)
    · exact hw
  | cons c t => exact avoids_cons.2 (avoids_cons.1 h)

theorem takeWhile_eq_nil_iff : w.takeWhile p = [] ↔ Avoids p w := by
  cases w with
  | nil => exact iff_of_true rfl fun c hc => by cases hc
  | cons c w =>
    rw [avoids_cons, List.takeWhile_cons]
    cases p c <;> simp

theorem Avoids.takeWhile_append (hw : w.Avoids p) (ht : ∀ c ∈ t, p c) :
    (t ++ w).takeWhile p = t := by
  rw [List.takeWhile_append_of_pos ht]
  cases w with
  | nil => rw [List.takeWhile_nil, List.append_nil]
  | cons c w =>
    rw [List.takeWhile_cons_of_neg (by rw [avoids_cons.1 hw]; decide), List.append_nil]

theorem Avoids.dropWhile_append (hw : w.Avoids p) (ht : ∀ c ∈ t, p c) :
    (t ++ w).dropWhile p = w := by
  rw [List.dropWhile_append_of_pos ht]
  cases w with
  | nil => rfl
  | cons c w => exact List.dropWhile_cons_of_neg (by rw [avoids_cons.1 hw]; decide)

/-- What is left without the longest beginning of a kind does not begin with the kind. -/
theorem avoids_dropWhile (p : Char → Bool) (v : Text) : Avoids p (v.dropWhile p) := by
  intro c hc
  have h := List.head?_dropWhile_not p v
  rw [hc] at h
  simpa using h

/-- Behind the longest beginning of a kind lies what is left without it. -/
theorem drop_length_takeWhile (f : Char → Bool) (v : Text) :
    v.drop (v.takeWhile f).length = v.dropWhile f := by
  have h : (v.takeWhile f ++ v.dropWhile f).drop (v.takeWhile f).length = v.dropWhile f :=
    List.drop_left
  rwa [List.takeWhile_append_dropWhile] at h

/-- What is left behind a character that ends a longest beginning is less. -/
theorem length_lt_of_dropWhile_eq_cons {f : Char → Bool} {v u : Text} {c : Char}
    (h : v.dropWhile f = c :: u) : u.length < v.length := by
  have hlen := (List.dropWhile_suffix f (l := v)).length_le
  rwa [h, List.length_cons] at hlen

end TextScan.Text
