import TextScan.Proofs.Regex.Shape

namespace TextScan.Regex

/-!
# Sources without marks

A source in which no character has a meaning of its own is the text that it matches.

* `Reader.run_unmarked` says that such a source is read one character after another.
* `Expr.seqOf_characters` says that its characters, one behind another, are a literal, and
  `Program.toPattern_characters` that the pattern of their program looks for the source.
* By `Engine.ofDatabase_readsPlain`, this is how the engine of this library reads it.
-/

variable {source : Text}

/-! ### The tree -/

/-- The parts that an unmarked source is read as: characters that stand for themselves. -/
def characters : Text → List Tree
  | [] => []
  | c :: r => .literal ⟨charSpan (c :: r), c, false⟩ :: characters r

theorem length_characters (source : Text) : (characters source).length = source.length := by
  induction source with
  | nil => rfl
  | cons c r ih => rw [characters, List.length_cons, List.length_cons, ih]

theorem Reader.step_of_not_mem_marks {c : Char} (hc : c ∉ marks) (s : Reader) (r : Text) :
    s.step c r = .ok (s.push (.literal ⟨charSpan s.rest, c, false⟩, r)) := by
  unfold step
  split
  -- Only the last branch is for characters that are no marks.
  case h_13 => rfl
  all_goals exact absurd (by decide) hc

/-- **Reading an unmarked source.** Every character becomes a part of its own. -/
theorem Reader.run_unmarked (h : Unmarked source) {s : Reader} (hverbose : s.verbose = false)
    (hrest : s.rest = source) :
    run source.length s = finish { s with
      level := { s.level with items := (characters source).reverse ++ s.level.items }
      rest := [] } := by
  induction source generalizing s with
  | nil =>
    obtain ⟨verbose, groups, names, level, outer, rest⟩ := s
    obtain rfl : rest = [] := hrest
    rfl
  | cons c r ih =>
    obtain ⟨hc, hr⟩ := List.forall_mem_cons.1 h
    obtain ⟨verbose, groups, names, level, outer, rest⟩ := s
    obtain rfl : verbose = false := hverbose
    obtain rfl : rest = c :: r := hrest
    rw [List.length_cons, run]
    simp only [skipBlank, Bool.false_eq_true, if_false, step_of_not_mem_marks hc, bind, Except.bind]
    rw [ih hr rfl rfl]
    simp only [push, Level.push, characters, List.reverse_cons, List.append_assoc,
      List.singleton_append]

/-- The tree of an unmarked source. -/
def unmarkedTree (source : Text) : Tree :=
  Level.sequence ⟨[], source.length, source.length, (characters source).reverse⟩ 0

/-- Two parts or more make a sequence. -/
theorem Level.sequence_of_two_le {l : Level} (h : 2 ≤ l.items.length) (stop : Nat) :
    l.sequence stop = .seq ⟨l.start, stop⟩ l.items.reverse := by
  unfold sequence
  split
  · rename_i hitems
    rw [hitems] at h
    cases h
  · rename_i item hitems
    rw [hitems] at h
    exact absurd h (by simp)
  · rfl

theorem unmarkedTree_cons_cons (c d : Char) (r : Text) :
    unmarkedTree (c :: d :: r) = .seq ⟨r.length + 2, 0⟩ (characters (c :: d :: r)) := by
  have hlen : 2 ≤ (characters (c :: d :: r)).reverse.length := by
    rw [List.length_reverse, length_characters]
    exact Nat.le_add_left 2 r.length
  rw [unmarkedTree, Level.sequence_of_two_le hlen, List.reverse_reverse]
  rfl

theorem deepAmong?_characters (room : Nat) (source : Text) :
    Tree.deepAmong? room (characters source) = none := by
  induction source with
  | nil => rfl
  | cons c r ih => rw [characters, Tree.deepAmong?, Tree.deep?, ih]; rfl

theorem Tree.ofText_unmarked (h : Unmarked source) :
    Tree.ofText false source = .ok (unmarkedTree source) := by
  have hrun : Reader.run source.length (Reader.new false source) = .ok (unmarkedTree source) := by
    rw [Reader.run_unmarked h rfl rfl]
    simp only [Reader.new, Level.new, List.append_nil]
    rfl
  have hdeep : (unmarkedTree source).deep? nestLimit = none := by
    match source with
    | [] => rfl
    | [c] => rfl
    | c :: d :: r =>
      rw [unmarkedTree_cons_cons, Tree.deep?, if_neg (by decide), deepAmong?_characters]
  simp only [Tree.ofText, hrun, bind, Except.bind, hdeep]
  rfl

/-! ### The program -/

namespace Expr

/-- The normal form of characters one behind another. -/
def spelled : Text → Expr
  | [] => .empty
  | c :: r => .literal (c :: r)

/-- Literals side by side become one. -/
theorem foldr_consMerged (c : Char) (r : Text) :
    ((c :: r).map fun c => literal [c]).foldr consMerged [] = [literal (c :: r)] := by
  induction r generalizing c with
  | nil => rfl
  | cons d r ih => rw [List.map_cons, List.foldr_cons, ih]; rfl

theorem seqOf_characters (source : Text) :
    seqOf (source.map fun c => .literal [c]) = spelled source := by
  have hparts : (source.map fun c => literal [c]).flatMap seqParts =
      source.map fun c => literal [c] := by
    rw [List.flatMap_map]
    exact (List.map_eq_flatMap ..).symm
  rw [seqOf, hparts]
  cases source with
  | nil => rfl
  | cons c r => rw [foldr_consMerged]; rfl

end Expr

theorem Program.ofExpr_spelled (source : Text) : ofExpr (.spelled source) = spelling source := by
  cases source <;> rfl

/-- **Characters one behind another** are looked for as the text that they make. -/
theorem Program.toPattern_characters (source : Text) :
    (ofExpr (.seqOf (source.map fun c => .literal [c]))).toPattern = .literal source := by
  rw [Expr.seqOf_characters, ofExpr_spelled, toPattern_spelling]

/-! ### The engine of this library -/

section Database

variable (db : Unicode.Database)

namespace Expr

/-- A character that stands for itself is a literal. -/
theorem literal_initial (l : Literal) :
    Switches.initial.toFlags.literal db l = .ok (.literal [l.char]) := by
  have honly : (CharSet.single l.char).onlyMember? = some l.char := by
    rw [CharSet.onlyMember?, CharSet.single]
    exact (if_pos rfl).trans (congrArg some (Char.ofNat_toNat l.char))
  have hset : Expr.setOf false (CharSet.single l.char) = .literal [l.char] := by
    rw [Expr.setOf, honly]
    rfl
  exact congrArg Except.ok hset

theorem ofTrees_characters (source : Text) :
    ofTrees db Switches.initial.toFlags (characters source) =
      .ok (source.map fun c => .literal [c], Switches.initial.toFlags) := by
  induction source with
  | nil => rfl
  | cons c r ih =>
    simp only [characters, ofTrees, ofTree, literal_initial, bind, Except.bind, pure, Except.pure,
      ih, List.map_cons]

theorem ofTree_unmarkedTree (source : Text) :
    ofTree db Switches.initial.toFlags (unmarkedTree source) =
      .ok (.seqOf (source.map fun c => .literal [c]), Switches.initial.toFlags) := by
  match source with
  | [] => rfl
  | [c] =>
    show (Switches.initial.toFlags.literal db _ >>= _) = _
    rw [literal_initial]
    rfl
  | c :: d :: r =>
    rw [unmarkedTree_cons_cons, ofTree, ofTrees_characters]
    rfl

theorem ofText_unmarked (h : Unmarked source) :
    ofText db .initial source = .ok (.seqOf (source.map fun c => .literal [c])) := by
  unfold ofText
  show (Tree.ofText false source >>= _) = _
  rw [Tree.ofText_unmarked h]
  show (ofTree db Switches.initial.toFlags (unmarkedTree source) >>= _) = _
  rw [ofTree_unmarkedTree]
  rfl

end Expr

/-- **Unmarked sources** are read as their characters. -/
theorem Engine.ofDatabase_readsPlain : (ofDatabase db).ReadsPlain := by
  intro source h
  exact mapError_eq_ok_iff.2 (Expr.ofText_unmarked db h)

end Database

end TextScan.Regex
