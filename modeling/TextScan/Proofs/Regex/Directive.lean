import TextScan.Proofs.Regex.Normal
import TextScan.Proofs.Regex.Progress

namespace TextScan.Regex

/-!
# A part before all others

Two readers that differ in a part before all others read on alike. It stays the first part of the
first alternative of the whole source, so only the outermost level knows of it.

* `Tree.Led` relates a tree to the tree with a part before it. `Level.Led`, `Levels.Led` and
  `Reader.Led` relate what has been read so far.
* `Reader.Led.step` is the step, `Reader.Led.run` the result for runs.
* `Expr.ofTree_of_led` says what it means for a tree that it is led by a directive.
-/

/-! ### Led by a part -/

/-- The second tree is the first one with the part `d` before it. -/
inductive Tree.Led (d : Tree) : Tree → Tree → Prop
  | empty (span : Span) : Led d (.empty span) d
  | one (t : Tree) (span : Span) : Led d t (.seq span [d, t])
  | seq (span span' : Span) (items : List Tree) : Led d (.seq span items) (.seq span' (d :: items))
  | alt (span span' : Span) {t t' : Tree} (others : List Tree) :
      Led d t t' → Led d (.alt span (t :: others)) (.alt span' (t' :: others))

/-- What the second level has read is what the first one has read, with the part `d` before it. As
    long as there is no bar, that is the first part. -/
inductive Level.Led (d : Tree) : Level → Level → Prop
  | first (altStart start altStart' start' : Nat) (items : List Tree) :
      Led d ⟨[], altStart, start, items⟩ ⟨[], altStart', start', items ++ [d]⟩
  | later (altStart altStart' start : Nat) (items branches : List Tree) {t t' : Tree} :
      Tree.Led d t t' →
      Led d ⟨branches ++ [t], altStart, start, items⟩ ⟨branches ++ [t'], altStart', start, items⟩

/-- Two stacks of levels differ in the part `d` before all that the outermost level has read. -/
inductive Levels.Led (d : Tree) : Level → List OpenGroup → Level → List OpenGroup → Prop
  | outermost {l l' : Level} : Level.Led d l l' → Led d l [] l' []
  | within (here : Level) (span : Span) (kind : GroupKind) (verbose : Bool) {l l' : Level}
      {outer outer' : List OpenGroup} : Led d l outer l' outer' →
      Led d here (⟨span, kind, verbose, l⟩ :: outer) here (⟨span, kind, verbose, l'⟩ :: outer')

/-- Two readers differ in the part `d` before all that has been read. -/
inductive Reader.Led (d : Tree) : Reader → Reader → Prop
  | mk (verbose : Bool) (groups : Nat) (names : Names) (rest : Text) {l l' : Level}
      {outer outer' : List OpenGroup} : Levels.Led d l outer l' outer' →
      Led d ⟨verbose, groups, names, l, outer, rest⟩ ⟨verbose, groups, names, l', outer', rest⟩

variable {d : Tree}

/-! ### Levels -/

namespace Level

theorem sequence_led (branches branches' : List Tree) (altStart start altStart' start' : Nat)
    (items : List Tree) (stop : Nat) :
    Tree.Led d (sequence ⟨branches, altStart, start, items⟩ stop)
      (sequence ⟨branches', altStart', start', items ++ [d]⟩ stop) := by
  match items with
  | [] => exact .empty _
  | [item] => exact .one item _
  | last :: item :: items =>
    have hreverse : ((last :: item :: items) ++ [d]).reverse =
        d :: (last :: item :: items).reverse := List.reverse_concat ..
    show Tree.Led d (.seq _ _) (.seq _ ((last :: item :: items) ++ [d]).reverse)
    rw [hreverse]
    exact .seq ..

namespace Led

variable {l l' : Level}

theorem push (h : Level.Led d l l') (item : Tree) : Level.Led d (l.push item) (l'.push item) := by
  cases h with
  | first altStart start altStart' start' items => exact .first _ _ _ _ (item :: items)
  | later altStart altStart' start items branches ht => exact .later _ _ _ _ _ ht

theorem branch (h : Level.Led d l l') (stop start : Nat) :
    Level.Led d (l.branch stop start) (l'.branch stop start) := by
  cases h with
  | first altStart start altStart' start' items =>
    exact .later _ _ _ _ [] (sequence_led ..)
  | later altStart altStart' start items branches ht =>
    exact .later _ _ _ _ (_ :: branches) ht

theorem tree (h : Level.Led d l l') (stop : Nat) : Tree.Led d (l.tree stop) (l'.tree stop) := by
  cases h with
  | first altStart start altStart' start' items => exact sequence_led ..
  | @later altStart altStart' start items branches t t' ht =>
    have htree (a : Nat) (t : Tree) : Level.tree ⟨branches ++ [t], a, start, items⟩ stop =
        .alt ⟨a, stop⟩ (t :: (sequence ⟨branches, a, start, items⟩ stop :: branches).reverse) := by
      rw [← List.reverse_concat]
      cases branches <;> rfl
    rw [htree, htree]
    exact .alt _ _ _ ht

/-- A part that cannot be repeated hides behind the parts that can. -/
theorem popRepeatable? (h : Level.Led d l l') (hd : d.repeatable = false) :
    (l.popRepeatable? = none ∧ l'.popRepeatable? = none) ∨
      ∃ item l₁ l₁', l.popRepeatable? = some (item, l₁) ∧ l'.popRepeatable? = some (item, l₁') ∧
        Level.Led d l₁ l₁' := by
  cases h with
  | first altStart start altStart' start' items =>
    match items with
    | [] => exact .inl ⟨rfl, if_neg (Bool.eq_false_iff.1 hd)⟩
    | item :: items =>
      by_cases hitem : item.repeatable
      · exact .inr ⟨item, _, _, if_pos hitem, if_pos hitem, .first _ _ _ _ items⟩
      · exact .inl ⟨if_neg hitem, if_neg hitem⟩
  | later altStart altStart' start items branches ht =>
    match items with
    | [] => exact .inl ⟨rfl, rfl⟩
    | item :: items =>
      by_cases hitem : item.repeatable
      · exact .inr ⟨item, _, _, if_pos hitem, if_pos hitem, .later _ _ _ items _ ht⟩
      · exact .inl ⟨if_neg hitem, if_neg hitem⟩

end Led

end Level

namespace Levels.Led

variable {l l' : Level} {outer outer' : List OpenGroup}

theorem push (h : Levels.Led d l outer l' outer') (item : Tree) :
    Levels.Led d (l.push item) outer (l'.push item) outer' := by
  cases h with
  | outermost h => exact .outermost (h.push item)
  | within here span kind verbose h => exact .within _ span kind verbose h

theorem branch (h : Levels.Led d l outer l' outer') (stop start : Nat) :
    Levels.Led d (l.branch stop start) outer (l'.branch stop start) outer' := by
  cases h with
  | outermost h => exact .outermost (h.branch stop start)
  | within here span kind verbose h => exact .within _ span kind verbose h

theorem popRepeatable? (h : Levels.Led d l outer l' outer') (hd : d.repeatable = false) :
    (l.popRepeatable? = none ∧ l'.popRepeatable? = none) ∨
      ∃ item l₁ l₁', l.popRepeatable? = some (item, l₁) ∧ l'.popRepeatable? = some (item, l₁') ∧
        Levels.Led d l₁ outer l₁' outer' := by
  cases h with
  | outermost h =>
    refine (h.popRepeatable? hd).imp_right ?_
    rintro ⟨item, l₁, l₁', hl, hl', h⟩
    exact ⟨item, l₁, l₁', hl, hl', .outermost h⟩
  | within here span kind verbose h =>
    cases hpop : l.popRepeatable? with
    | none => exact .inl ⟨rfl, rfl⟩
    | some popped =>
      exact .inr ⟨popped.1, popped.2, popped.2, rfl, rfl, .within _ span kind verbose h⟩

end Levels.Led

/-! ### Steps -/

namespace Reader

variable {s s' : Reader}

namespace Led

theorem finish (h : Led d s s') : Alike (Tree.Led d) s.finish s'.finish := by
  obtain ⟨verbose, groups, names, rest, h⟩ := h
  cases h with
  | outermost h => exact .ok (h.tree _)
  | within here span kind verbose h => exact .error _

theorem push (h : Led d s s') {x : Except Refusal (Tree × Text)} :
    Alike (Led d) (s.push <$> x) (s'.push <$> x) := by
  obtain ⟨verbose, groups, names, rest, h⟩ := h
  cases x with
  | error e => exact .error e
  | ok part => exact .ok (.mk _ _ _ _ (h.push part.1))

theorem stepSimpleLoop (h : Led d s s') (hd : d.repeatable = false) (min : Nat)
    (max : Option Nat) : Alike (Led d) (s.stepSimpleLoop min max) (s'.stepSimpleLoop min max) := by
  obtain ⟨verbose, groups, names, rest, h⟩ := h
  unfold Reader.stepSimpleLoop
  obtain ⟨hl, hl'⟩ | ⟨item, l₁, l₁', hl, hl', h⟩ := h.popRepeatable? hd
  · simp only [hl, hl']
    exact .error _
  · simp only [hl, hl']
    exact .ok (.mk _ _ _ _ (h.push _))

theorem stepCountedLoop (h : Led d s s') (hd : d.repeatable = false) :
    Alike (Led d) s.stepCountedLoop s'.stepCountedLoop := by
  obtain ⟨verbose, groups, names, rest, h⟩ := h
  unfold Reader.stepCountedLoop
  obtain ⟨hl, hl'⟩ | ⟨item, l₁, l₁', hl, hl', h⟩ := h.popRepeatable? hd
  · simp only [hl, hl']
    exact .error _
  · simp only [hl, hl']
    split
    · exact .error _
    · refine .of_bind fun ⟨⟨min, max⟩, rest⟩ => ?_
      dsimp only
      split
      · split
        · exact .ok (.mk _ _ _ _ (h.push _))
        · exact .error _
      · exact .error _

theorem stepOpen (h : Led d s s') : Alike (Led d) s.stepOpen s'.stepOpen := by
  obtain ⟨verbose, groups, names, rest, h⟩ := h
  unfold Reader.stepOpen
  refine .of_bind fun ⟨opening, rest⟩ => ?_
  cases opening with
  | directive flags => exact .ok (.mk _ _ _ _ (h.push _))
  | plain flags => exact .ok (.mk _ _ _ _ (.within _ _ _ _ h))
  | capturing name => exact .ok (.mk _ _ _ _ (.within _ _ _ _ h))

theorem stepClose (h : Led d s s') : Alike (Led d) s.stepClose s'.stepClose := by
  obtain ⟨verbose, groups, names, rest, h⟩ := h
  cases h with
  | outermost h => exact .error _
  | within here span kind verbose h => exact .ok (.mk _ _ _ _ (h.push _))

/-- **Steps.** What leads the source makes no difference for a step. -/
theorem step (h : Led d s s') (hd : d.repeatable = false) (c : Char) (r : Text) :
    Alike (Led d) (s.step c r) (s'.step c r) := by
  have hverbose : s'.verbose = s.verbose := by obtain ⟨⟩ := h; rfl
  have hrest : s'.rest = s.rest := by obtain ⟨⟩ := h; rfl
  have hpush (part : Tree × Text) : Alike (Led d) (.ok (s.push part)) (.ok (s'.push part)) :=
    h.push (x := .ok part)
  unfold Reader.step
  rw [hverbose, hrest]
  split
  · exact h.stepOpen
  · exact h.stepClose
  · obtain ⟨verbose, groups, names, rest, h⟩ := h
    exact .ok (.mk _ _ _ _ (h.branch _ _))
  · exact h.push
  · exact h.stepSimpleLoop hd _ _
  · exact h.stepSimpleLoop hd _ _
  · exact h.stepSimpleLoop hd _ _
  · exact h.stepCountedLoop hd
  · exact h.push
  all_goals exact hpush _

/-- **Runs.** What leads the source is before all that is read. -/
theorem run (h : Led d s s') (hd : d.repeatable = false) (n : Nat) :
    Alike (Tree.Led d) (run n s) (run n s') := by
  induction n generalizing s s' with
  | zero => exact h.finish
  | succ n ih =>
    obtain ⟨verbose, groups, names, rest, h⟩ := h
    rw [Reader.run, Reader.run]
    dsimp only
    split
    · exact Led.finish (.mk _ _ _ _ h)
    · exact (Led.step (.mk _ _ _ _ h) hd _ _).bind fun s s' h => ih h

end Led

end Reader

/-! ### Trees led by a directive -/

namespace Expr

variable (db : Unicode.Database)

theorem ofTrees_cons_flags (f : Flags) (span : Span) (settings : FlagSettings) (ts : List Tree) :
    ofTrees db f (.flags span settings :: ts) =
      ofTrees db (f.apply settings) ts >>= fun (es, f) => .ok (empty :: es, f) := by
  rw [ofTrees, ofTree]
  rfl

/-- **A directive before a tree** sets the flags under which the tree stands, and nothing else. -/
theorem ofTree_of_led {span : Span} {settings : FlagSettings} {t t' : Tree}
    (h : Tree.Led (.flags span settings) t t') (f : Flags) :
    ofTree db f t' = ofTree db (f.apply settings) t := by
  induction h with
  | empty => rfl
  | one t span =>
    rw [ofTree, ofTrees_cons_flags, ofTrees]
    cases ht : ofTree db (f.apply settings) t with
    | error r => rfl
    | ok read =>
      obtain ⟨e, f'⟩ := read
      have hseq : seqOf [.empty, e] = e := (seqOf_cons_empty [e]).trans
        (seqOf_singleton (ofTree_normal ht))
      exact congrArg (fun e => Except.ok (e, f')) hseq
  | seq span span' items =>
    rw [ofTree, ofTree, ofTrees_cons_flags]
    cases hitems : ofTrees db (f.apply settings) items with
    | error r => rfl
    | ok read => exact congrArg (fun e => Except.ok (e, read.2)) (seqOf_cons_empty read.1)
  | alt span span' others h ih =>
    rw [ofTree, ofTree, ofTrees, ofTrees, ih]

end Expr

end TextScan.Regex
