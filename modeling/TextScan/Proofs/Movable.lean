import TextScan.Proofs.Token

namespace TextScan

/-!
# Readers and where they stand

What a reader does is told by the text that is left. What stands in front of that text only moves
the positions that the reader names.

* `Movable` are the values that name positions, or might.
* `ReadsFrom` tells what a reader gives and leaves from a text on, wherever that text is left.
  `GivesFrom` tells the same of a reader that goes on to the end.
* `GivesFrom.eq_move` compares a reader with one that has the text alone.
-/

/-- Values that may name positions. They are moved where more characters stand in front. -/
class Movable (α : Type) where
  move : Nat → α → α
  move_move : ∀ (m n : Nat) (a : α), move m (move n a) = move (m + n) a

export Movable (move move_move)

-- Neither the value of a block nor a text names a position.

instance : Movable Int := ⟨fun _ n => n, fun _ _ _ => rfl⟩

instance : Movable Text := ⟨fun _ t => t, fun _ _ _ => rfl⟩

section

variable {ε α β : Type} [Movable ε] [Movable α] [Movable β]

instance : Movable (α × β) where
  move n p := (move n p.1, move n p.2)
  move_move m n p := by rw [move_move, move_move]

instance : Movable (Except ε α) where
  move n
    | .ok a => .ok (move n a)
    | .error e => .error (move n e)
  move_move m n r := by cases r <;> simp only [move_move]

/-- What is made of a value is moved if the value is. -/
theorem move_map {n : Nat} {f g : α → β} (h : ∀ a, move n (f a) = g (move n a)) (r : Except ε α) :
    move n (r.map f) = (move n r).map g := by
  cases r with
  | error e => rfl
  | ok a => exact congrArg Except.ok (h a)

/-! ### Readers -/

/-- Wherever `v` is left, the reader gives the value and leaves the text of `r`, or fails with its
    error. Positions are counted from the start of `v` in `r`. -/
def ReadsFrom {P : Scanner → Scanner → Prop}
    (read : (s : Scanner) → Except ε (α × { t : Scanner // P s t })) (v : Text)
    (r : Except ε (α × Text)) : Prop :=
  ∀ ⦃T : Text⦄ ⦃s : Scanner⦄, T.Held → s.Before T v → Yields T (read s) (move (posOf T v) r)

namespace ReadsFrom

variable {v w : Text} {a : α}

theorem isSuffix {P : Scanner → Scanner → Prop}
    {read : (s : Scanner) → Except ε (α × { t : Scanner // P s t })}
    (h : ReadsFrom read v (.ok (a, w))) (hv : v.Held) : w <:+ v := by
  obtain ⟨t, -, ht⟩ := h hv (Scanner.new_before v)
  exact ht.isSuffix

/-- A reader that ends because it leaves less leaves a shorter text. -/
theorem length_lt {read : (s : Scanner) → Except ε (α × s.Behind)}
    (h : ReadsFrom read v (.ok (a, w))) (hv : v.Held) : w.length < v.length := by
  have hs := Scanner.new_before v
  obtain ⟨t, -, ht⟩ := h hv hs
  have hlt : t.1.unread < (Scanner.new v).unread := t.2
  rwa [ht.unread_eq, hs.unread_eq] at hlt

end ReadsFrom

/-- Wherever `v` is left, the reader gives `r`, in which positions are counted from the start of
    `v`. -/
def GivesFrom (read : Scanner → Except ε α) (v : Text) (r : Except ε α) : Prop :=
  ∀ ⦃T : Text⦄ ⦃s : Scanner⦄, T.Held → s.Before T v → read s = move (posOf T v) r

/-- **Text in front only moves positions**: a reader gives what it gives with the text alone. -/
theorem GivesFrom.eq_move {read : Scanner → Except ε α} {T v : Text} {s : Scanner}
    {r : Except ε α} (h : GivesFrom read v r) (hT : T.Held) (hs : s.Before T v) :
    read s = move (posOf T v) (read (Scanner.new v)) := by
  rw [h hT hs, h (hs.held hT) (Scanner.new_before v), move_move, posOf_self, Nat.add_zero]

end

end TextScan
