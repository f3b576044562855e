import TextScan.Cursor

namespace TextScan

/-!
# Cursors between two texts

A cursor keeps its place twice and the length of its text besides. If the three counts are right,
all that matters is what lies before the place and what lies behind it.

* `Cursor.between u v` is the cursor over `u ++ v` that stands between the two.
* `Cursor.Aligned` says that the counts of a cursor agree with its text. By `Cursor.aligned_iff`
  the aligned cursors are those between two texts.
* `Text.Held` bounds the size of a text by what a memory can hold.
* One lemma for each operation, such as `Cursor.pass_between`, says what it does to the two texts.
  None of them mentions bytes.
-/

namespace Text

/-- A text without bytes is empty. -/
@[simp] theorem byteSize_eq_zero {t : Text} : t.byteSize = 0 ↔ t = [] := by
  cases t with
  | nil => simp
  | cons c t =>
    have h := c.utf8Size_pos
    simp only [byteSize_cons, reduceCtorEq, iff_false]
    omega

/-- Whether a text can be held in memory, where sizes in bytes are numbers of 64 bits. -/
def Held (t : Text) : Prop := t.byteSize < Nat.pow 2 64

instance (t : Text) : Decidable t.Held := inferInstanceAs (Decidable (_ < _))

theorem Held.left {s t : Text} (h : (s ++ t).Held) : s.Held := by
  unfold Held at *
  rw [byteSize_append] at h
  omega

theorem Held.right {s t : Text} (h : (s ++ t).Held) : t.Held := by
  unfold Held at *
  rw [byteSize_append] at h
  omega

theorem Held.of_isPrefix {s t : Text} (h : t.Held) (hbegins : s <+: t) : s.Held := by
  obtain ⟨u, rfl⟩ := hbegins
  exact h.left

theorem Held.of_isSuffix {s t : Text} (h : t.Held) (hends : s <:+ t) : s.Held := by
  obtain ⟨u, rfl⟩ := hends
  exact h.right

end Text

namespace Cursor

/-- The cursor over `u ++ v` that stands between the two. -/
def between (u v : Text) : Cursor := ⟨u ++ v, (u ++ v).length, u.length, u.byteSize⟩

/-- A new cursor has everything behind it. -/
theorem new_eq_between (t : Text) : new t = between [] t := rfl

@[simp] theorem text_between (u v : Text) : (between u v).text = u ++ v := rfl

@[simp] theorem charLen_between (u v : Text) : (between u v).charLen = (u ++ v).length := rfl

@[simp] theorem pos_between (u v : Text) : (between u v).pos = u.length := rfl

@[simp] theorem byte_between (u v : Text) : (between u v).byte = u.byteSize := rfl

@[simp] theorem rest_between (u v : Text) : (between u v).rest = v := by
  simp only [rest, text_between, byte_between, Text.dropBytes?_append, Option.getD_some]

@[simp] theorem consumed_between (u v : Text) : (between u v).consumed = u := by
  simp only [consumed, text_between, byte_between, Text.takeBytes?_append, Option.getD_some]

@[simp] theorem atEnd_between (u v : Text) : (between u v).atEnd = v.isEmpty := by
  rw [Bool.eq_iff_iff]
  simp only [atEnd, byte_between, text_between, Text.byteSize_append, decide_eq_true_eq,
    Nat.left_eq_add, Text.byteSize_eq_zero, List.isEmpty_iff]

@[simp] theorem atLineStart_between (u v : Text) :
    (between u v).atLineStart = (u.isEmpty || u.getLast? = some '\n') := by
  rw [Bool.eq_iff_iff]
  simp only [atLineStart, byte_between, consumed_between, Bool.or_eq_true, decide_eq_true_eq,
    Text.byteSize_eq_zero, List.isEmpty_iff]

/-! ### Operations -/

/-- Moving over what lies behind the place. -/
theorem pass_between (u m v : Text) : (between u (m ++ v)).pass m = between (u ++ m) v := by
  simp [between, pass]

theorem pass_between_of_isPrefix (u : Text) {m v : Text} (h : m <+: v) :
    (between u v).pass m = between (u ++ m) (v.drop m.length) := by
  obtain ⟨w, rfl⟩ := h
  rw [pass_between, List.drop_left]

theorem pass_append (c : Cursor) (m n : Text) : c.pass (m ++ n) = (c.pass m).pass n := by
  simp [pass, Nat.add_assoc]

/-- Moving over nothing. -/
@[simp] theorem pass_nil (c : Cursor) : c.pass [] = c := rfl

/-- Moving to a position, of which negative ones and those past the end count as the nearest end. -/
theorem moveTo_between (u v : Text) (n : Int) :
    (between u v).moveTo n = between ((u ++ v).take n.toNat) ((u ++ v).drop n.toNat) := by
  -- A position past the end is cut to the length, and `take` stops there anyway.
  have hmin : (u ++ v).take (min n.toNat (u ++ v).length) = (u ++ v).take n.toNat :=
    List.take_eq_take_min.symm
  simp only [moveTo, between, hmin, List.take_append_drop, List.length_take]

theorem append_between (u v w : Text) : (between u v).append w = between u (v ++ w) := by
  simp [between, append, Nat.add_assoc]

theorem toStart_between (u v : Text) : (between u v).toStart = between [] (u ++ v) := rfl

theorem toEnd_between (u v : Text) : (between u v).toEnd = between (u ++ v) [] := by
  simp [between, toEnd]

/-! ### Alignment -/

/-- The counts of a cursor agree with its text: the bytes before the place end where a character
    ends, the position counts the characters among them, and the length is that of the text. -/
structure Aligned (c : Cursor) : Prop where
  boundary : c.text.takeBytes? c.byte = some c.consumed
  pos_eq : c.pos = c.consumed.length
  charLen_eq : c.charLen = c.text.length

theorem aligned_between (u v : Text) : (between u v).Aligned where
  boundary := by rw [consumed_between]; exact Text.takeBytes?_append u v
  pos_eq := by rw [consumed_between, pos_between]
  charLen_eq := rfl

/-- An aligned cursor is determined by what lies before it and what lies behind it. -/
theorem aligned_iff {c : Cursor} : c.Aligned ↔ ∃ u v, c = between u v := by
  constructor
  · rintro ⟨hb, hp, hl⟩
    -- The cut that is not refused gives both texts; the counts are theirs.
    obtain ⟨v, htext, hbyte⟩ := Text.takeBytes?_eq_some_iff.1 hb
    refine ⟨c.consumed, v, ?_⟩
    rw [between, ← htext, ← hl, ← hp, hbyte]
  · rintro ⟨u, v, rfl⟩
    exact aligned_between u v

namespace Aligned

variable {c : Cursor}

/-- An aligned cursor stands between what is consumed and the rest. -/
theorem eq_between (h : c.Aligned) : c = between c.consumed c.rest := by
  obtain ⟨u, v, rfl⟩ := aligned_iff.1 h
  rw [consumed_between, rest_between]

theorem pos_le (h : c.Aligned) : c.pos ≤ c.charLen := by
  rw [h.eq_between]
  simp

theorem byte_le (h : c.Aligned) : c.byte ≤ c.text.byteSize := by
  rw [h.eq_between]
  simp

/-- The rest is a proper slice: the cut before it is never refused. -/
theorem dropBytes?_eq_rest (h : c.Aligned) : c.text.dropBytes? c.byte = some c.rest := by
  rw [h.eq_between]
  simp

/-- Moving over what the rest begins with. -/
theorem pass {m v : Text} (h : c.Aligned) (hrest : c.rest = m ++ v) :
    (c.pass m).Aligned ∧ (c.pass m).rest = v := by
  obtain ⟨u, w, rfl⟩ := aligned_iff.1 h
  rw [rest_between] at hrest
  subst hrest
  rw [pass_between, rest_between]
  exact ⟨aligned_between _ _, rfl⟩

/-- What lies behind the place can be held if the text can. -/
theorem rest_held (h : c.Aligned) (hheld : c.text.Held) : c.rest.Held := by
  rw [h.eq_between, text_between] at hheld
  exact hheld.right

end Aligned

/-- At most the first `n` characters of the rest are a proper slice of it. -/
theorem takeBytes?_eq_peek (c : Cursor) (n : Nat) :
    c.rest.takeBytes? (c.peek n).byteSize = some (c.peek n) := by
  have h := Text.takeBytes?_append (c.rest.take n) (c.rest.drop n)
  rwa [List.take_append_drop] at h

end Cursor

end TextScan
