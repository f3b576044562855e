import TextScan.Proofs.Token
import TextScan.Proofs.Text

namespace TextScan

/-!
# Loops of readers

The loops of a reader, turn by turn, with nothing but the operations of the scanner. No turn sees to
it that the cursor moves, so it is to be shown that a loop ends. Until then it is cut off after some
number of turns.

* `Turn` is what a turn of a loop comes to, `tried` is the result of an operation in it.
* `Scanner.MovesOn` says that the cursor has moved on in a text.
* `Answers` tells the result of a reader that may be cut off, with what it leaves, and
  `AnswersWithin` how many turns are enough.
* `Scanner.Before.tried_take_some` and its companions say what operations come to.
-/

/-- What a turn of a loop comes to. -/
inductive Turn (α β : Type) where
  | ends (a : α)
  | goesOn (b : β)

/-- The result of an operation and the scanner behind it. Errors of patterns become those of a
    reader, which fails without an error where it is cut off. -/
def tried {ε α : Type} (wrap : PatternError → ε) (e : Effect (Except PatternError α)) :
    Except (Option ε) (α × Scanner) :=
  match e.result with
  | .ok a => .ok (a, e.scanner)
  | .error err => .error (some (wrap err))

/-- A reader that may be cut off gives the value of `r` and stands before the text of it, or fails
    with its error. -/
def Answers {ε α : Type} (T : Text) (x : Except (Option ε) (α × Scanner))
    (r : Except ε (α × Text)) : Prop :=
  match r with
  | .ok (a, w) => ∃ t, x = .ok (a, t) ∧ t.Before T w
  | .error e => x = .error (some e)

/-- The same of a reader with `n` turns. It is cut off only if `enough` are more than these. -/
def AnswersWithin {ε α : Type} (n enough : Nat) (T : Text) (x : Except (Option ε) (α × Scanner))
    (r : Except ε (α × Text)) : Prop :=
  x = .error none ∧ n < enough ∨ Answers T x r

/-- A reader with `n` turns gives the value of `r`, or fails with its error. It is cut off only if
    `enough` are more than these. -/
def GivesWithin {ε α : Type} (n enough : Nat) (x : Except (Option ε) α) (r : Except ε α) : Prop :=
  x = .error none ∧ n < enough ∨ x = r.mapError some

theorem GivesWithin.succ {ε α : Type} {n k k' : Nat} {x : Except (Option ε) α} {r : Except ε α}
    (h : GivesWithin n k x r) (hk : k < k') : GivesWithin (n + 1) k' x r :=
  h.imp_left fun h => ⟨h.1, Nat.lt_of_le_of_lt h.2 hk⟩

/-- A reader that has given a value has given that of `r`. -/
theorem AnswersWithin.exists_of_ok {ε α : Type} {n k : Nat} {T : Text} {a : α} {t : Scanner}
    {r : Except ε (α × Text)} (h : AnswersWithin n k T (.ok (a, t)) r) :
    ∃ w, r = .ok (a, w) ∧ t.Before T w := by
  rcases h with ⟨hcut, -⟩ | hanswer
  · cases hcut
  cases r with
  | error e => cases hanswer
  | ok r =>
    obtain ⟨t', hok, ht⟩ := hanswer
    obtain ⟨rfl, rfl⟩ := Prod.mk.inj (Except.ok.inj hok)
    exact ⟨r.2, rfl, ht⟩

namespace Scanner

/-- The scanner is over the text `T`, and its cursor stands between two characters. -/
def Over (s : Scanner) (T : Text) : Prop := ∃ v, s.Before T v

/-- Over the text `T`, the cursor of `t` stands behind that of `s`. -/
structure MovesOn (T : Text) (s t : Scanner) : Prop where
  stays : t.Over T
  pos_lt : s.pos < t.pos

theorem pass_result (e : Effect (Except PatternError (Option Text))) :
    (pass e).result = e.result := by
  unfold pass
  split
  · rfl
  · rfl

namespace Before

variable {ε : Type} {s t : Scanner} {T v w : Text} {p : Pattern} {f : Text → Text}

theorem movesOn (hs : s.Before T v) (ht : t.Before T w) (hlt : w.length < v.length) :
    MovesOn T s t where
  stays := ⟨w, ht⟩
  pos_lt := by
    have hle := hs.isSuffix.length_le
    rw [hs.pos_eq, ht.pos_eq]
    omega

/-- A turn moves the cursor on if it goes on with less. -/
theorem movesOn_of_goesOn {α β : Type} {b b' : β} {t' : Scanner}
    {x : Except (Option ε) (Turn α (β × Scanner))} (hs : s.Before T v) (ht : t.Before T w)
    (hx : x = .ok (.goesOn (b, t))) (h : x = .ok (.goesOn (b', t'))) (hlt : w.length < v.length) :
    MovesOn T s t' := by
  obtain ⟨-, rfl⟩ := Prod.mk.inj (Turn.goesOn.inj (Except.ok.inj (hx.symm.trans h)))
  exact hs.movesOn ht hlt

/-- Where a scanner stands is told by its cursor. -/
theorem of_toCursor (hs : s.Before T v) (h : t.toCursor = s.toCursor) : t.Before T v := by
  obtain ⟨u, hT, hcursor⟩ := hs
  exact ⟨u, hT, h.trans hcursor⟩

theorem finish (hs : s.Before T v) : s.finish.scanner.Before T [] := by
  obtain ⟨u, rfl, hcursor⟩ := hs
  refine ⟨u ++ v, (List.append_nil _).symm, ?_⟩
  show s.toCursor.toEnd = _
  rw [hcursor, Cursor.toEnd_between]

theorem locate (hs : s.Before T v) (p : Pattern) : (s.locate p).scanner.Before T v :=
  hs.of_toCursor (by
    show (s.judge false _).scanner.toCursor = _
    rw [judge_eq])

/-! ### Operations in a loop -/

section Tried

variable (wrap : PatternError → ε)

theorem tried_take_none (hs : s.Before T v) (hT : T.Held) (hp : p.Cuts f) (hfv : f v = []) :
    ∃ t, tried wrap (s.take p) = .ok (none, t) ∧ t.Before T v := by
  obtain ⟨hresult, ht⟩ := hs.take hT hp
  rw [if_pos hfv] at hresult
  rw [hfv] at ht
  exact ⟨_, by rw [tried, hresult], ht⟩

theorem tried_take_some (hs : s.Before T v) (hT : T.Held) (hp : p.Cuts f) (hfv : f v ≠ []) :
    ∃ t, tried wrap (s.take p) = .ok (some (f v), t) ∧ t.Before T (v.drop (f v).length) := by
  obtain ⟨hresult, ht⟩ := hs.take hT hp
  rw [if_neg hfv] at hresult
  exact ⟨_, by rw [tried, hresult], ht⟩

/-- What belongs to a set is skipped. -/
theorem tried_skipWhile {q : Char → Bool} (hs : s.Before T v) (hT : T.Held)
    (hp : p.Cuts (List.takeWhile q)) :
    ∃ n t, tried wrap (s.skip p) = .ok (n, t) ∧ t.Before T (v.dropWhile q) := by
  obtain ⟨hresult, ht⟩ := hs.take hT hp
  rw [Text.drop_length_takeWhile] at ht
  refine ⟨(s.take p).scanner.outcome.length?, _, ?_, ht⟩
  simp only [tried, skip, measured, Effect.map, hresult, Except.map]

/-- Looking at a token tells it and leaves the cursor where it is. -/
theorem tried_look (hs : s.Before T v) (hT : T.Held) (hp : p.Cuts f) :
    ∃ t, tried wrap (s.look p) = .ok (if f v = [] then none else some (f v), t) ∧
      t.Before T v := by
  have hresult := (hs.take hT hp).1
  rw [Scanner.take, pass_result] at hresult
  refine ⟨_, by rw [tried, hresult], hs.of_toCursor ?_⟩
  rw [look, judge_eq]

section Literal

variable {needle : Text} (hne : needle ≠ []) (hp : p = .literal needle)

include hne hp

theorem tried_take_literal_none (hs : s.Before T v) (hT : T.Held) (hnot : ¬ needle <+: v) :
    ∃ t, tried wrap (s.take p) = .ok (none, t) ∧ t.Before T v := by
  subst hp
  exact hs.tried_take_none wrap hT (Pattern.literal_cuts hne)
    (if_neg fun hbegins => hnot (List.isPrefixOf_iff_prefix.1 hbegins))

theorem tried_take_literal_some {u : Text} (hs : s.Before T (needle ++ u)) (hT : T.Held) :
    ∃ t, tried wrap (s.take p) = .ok (some needle, t) ∧ t.Before T u := by
  subst hp
  have hcut : (if needle.isPrefixOf (needle ++ u) then needle else []) = needle :=
    if_pos (List.isPrefixOf_iff_prefix.2 (List.prefix_append _ _))
  have h := hs.tried_take_some wrap hT (Pattern.literal_cuts hne)
  simp only [hcut, List.drop_left] at h
  exact h hne

end Literal

end Tried

end Before

end Scanner

end TextScan
