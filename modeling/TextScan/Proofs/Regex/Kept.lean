import TextScan.Proofs.Failure
import TextScan.Regex.Expr.OfTree

namespace TextScan.Regex

/-!
# What the normal form keeps

The functions that build expressions move parts around, leave some out and join literals. A property
of expressions that they respect holds of all that a tree stands for, if it holds of the tests that
the anchors in the tree stand for.

* `Tree.anchors` are the anchors in a tree, with the flags that hold where they stand.
* `Expr.Kept` says of a property that it does not depend on how an expression is built.
* `Expr.Kept.setOf`, `Expr.Kept.loopOf` and `Expr.Kept.altOf` are what follows for expressions,
  `Expr.Kept.ofTree` is what follows for trees.
-/

namespace Tree

mutual

/-- The flags that hold behind a tree. -/
def flagsBehind (f : Flags) : Tree → Flags
  | .flags _ settings => f.apply settings
  | .loop _ _ _ _ body => flagsBehind f body
  | .alt _ branches => flagsBehindAll f branches
  | .seq _ items => flagsBehindAll f items
  -- What is set in a group ends with it.
  | _ => f

/-- The flags that hold behind several trees. -/
def flagsBehindAll (f : Flags) : List Tree → Flags
  | [] => f
  | t :: ts => flagsBehindAll (flagsBehind f t) ts

end

mutual

/-- The anchors in a tree, each with the flags that hold where it stands. -/
def anchors (f : Flags) : Tree → List (Flags × Anchor)
  | .anchor _ kind => [(f, kind)]
  | .loop _ _ _ _ body => anchors f body
  | .group _ (.capturing _) body => anchors f body
  | .group _ (.plain settings) body => anchors (f.apply settings) body
  | .alt _ branches => anchorsAmong f branches
  | .seq _ items => anchorsAmong f items
  | _ => []

/-- The anchors in several trees, each under the flags that hold behind the one before it. -/
def anchorsAmong (f : Flags) : List Tree → List (Flags × Anchor)
  | [] => []
  | t :: ts => anchors f t ++ anchorsAmong (flagsBehind f t) ts

end

end Tree

namespace Expr

variable {P : Expr → Prop} {e f : Expr} {es fs : List Expr}

/-! ### Expressions -/

/-- A property of expressions that holds of all literals and sets, of an expression if it holds of
    its parts, and of the parts of sequences and alternatives that have it. -/
structure Kept (P : Expr → Prop) : Prop where
  empty : P .empty
  literal : ∀ chars, P (.literal chars)
  set : ∀ ascii s, P (.set ascii s)
  loop : ∀ {e} min max greedy, P e → P (.loop min max greedy e)
  group : ∀ {e} index, P e → P (.group index e)
  seqOf : ∀ {es}, (∀ e ∈ es, P e) → P (.seqOf es)
  alt : ∀ {es}, (∀ e ∈ es, P e) → P (.alt es)
  of_seq : ∀ {es}, P (.seq es) → ∀ e ∈ es, P e
  of_alt : ∀ {es}, P (.alt es) → ∀ e ∈ es, P e

theorem mem_of_mem_commonStart (h : e ∈ commonStart es fs) : e ∈ es := by
  induction es generalizing fs with
  | nil => simp [commonStart] at h
  | cons g es ih =>
    cases fs with
    | nil => simp [commonStart] at h
    | cons f fs =>
      rw [commonStart] at h
      split at h
      · rcases List.mem_cons.1 h with rfl | h
        · exact List.mem_cons_self
        · exact List.mem_cons_of_mem _ (ih h)
      · cases h

theorem exists_mem_of_mem_commonStartAll {rows : List (List Expr)} (h : e ∈ commonStartAll rows) :
    ∃ row ∈ rows, e ∈ row := by
  cases rows with
  | nil => cases h
  | cons row rows =>
    refine ⟨row, List.mem_cons_self, ?_⟩
    cases rows with
    | nil => exact h
    | cons other rows => exact mem_of_mem_commonStart h

theorem seq_mem_of_mapM_items? {rows : List (List Expr)} (h : es.mapM items? = some rows) :
    ∀ row ∈ rows, .seq row ∈ es := by
  induction es generalizing rows with
  | nil =>
    obtain rfl := Option.some.inj h
    exact fun _ hrow => absurd hrow List.not_mem_nil
  | cons e es ih =>
    simp only [List.mapM_cons, bind, Option.bind_eq_some_iff, pure, Option.some.injEq] at h
    obtain ⟨row, hrow, rows, hrows, rfl⟩ := h
    refine List.forall_mem_cons.2
      ⟨?_, fun row' hrow' => List.mem_cons_of_mem _ (ih hrows row' hrow')⟩
    cases e with
    | seq items =>
      obtain rfl := Option.some.inj hrow
      exact List.mem_cons_self
    | empty | literal | set | look | loop | group | alt => cases hrow

namespace Kept

variable (h : Kept P)
include h

theorem setOf (ascii : Bool) (s : CharSet) : P (.setOf ascii s) := by
  unfold Expr.setOf
  split
  · exact h.set ..
  · split
    · exact h.literal _
    · exact h.set ..

theorem loopOf (min : Nat) (max : Option Nat) (greedy : Bool) (he : P e) :
    P (.loopOf min max greedy e) := by
  unfold Expr.loopOf
  -- Whatever the bounds are, there is nothing left, one round, or a repetition.
  generalize (if e.maxLen = some 0 then _ else (min, max)) = bounds
  obtain ⟨min, max⟩ := bounds
  dsimp only
  split
  · exact h.empty
  · split
    · exact he
    · exact h.loop _ _ _ he

theorem altParts (he : P e) : ∀ p ∈ e.altParts, P p := by
  cases e with
  | alt es => exact h.of_alt he
  | empty | literal | set | look | loop | group | seq => exact List.forall_mem_singleton.2 he

theorem altUpTo (fuel : Nat) (hes : ∀ e ∈ es, P e) : P (.altUpTo fuel es) := by
  induction fuel generalizing es with
  | zero => exact h.alt hes
  | succ fuel ih =>
    have hparts : ∀ p ∈ es.flatMap Expr.altParts, P p := by
      intro p hp
      obtain ⟨e, he, hpe⟩ := List.mem_flatMap.1 hp
      exact h.altParts (hes e he) p hpe
    rw [Expr.altUpTo]
    split
    · exact h.set ..
    · rename_i e heq
      exact hparts e (heq ▸ List.mem_singleton_self e)
    · split
      · exact h.setOf ..
      · exact h.setOf ..
      · rename_i rows _ _ hrows
        -- What stands in a row stands in a sequence that is a branch.
        have hrow : ∀ row ∈ rows, ∀ e ∈ row, P e := fun row hrow =>
          h.of_seq (hparts _ (seq_mem_of_mapM_items? hrows row hrow))
        dsimp only
        split
        · exact h.alt hparts
        · refine h.seqOf (List.forall_mem_append.2 ⟨fun e he => ?_,
            List.forall_mem_singleton.2 (ih ?_)⟩)
          · obtain ⟨row, hmem, he⟩ := exists_mem_of_mem_commonStartAll he
            exact hrow row hmem e he
          · intro e he
            obtain ⟨row, hmem, rfl⟩ := List.mem_map.1 he
            exact h.seqOf fun e he => hrow row hmem e (List.mem_of_mem_drop he)
      · exact h.alt hparts

theorem altOf (hes : ∀ e ∈ es, P e) : P (.altOf es) := h.altUpTo _ hes

/-! ### Trees -/

theorem flags_literal {db : Unicode.Database} {flags : Flags} {l : Literal}
    (he : flags.literal db l = .ok e) : P e := by
  obtain ⟨-, -, he⟩ := exists_of_bind_eq_ok he
  exact Except.ok.inj he ▸ h.setOf ..

theorem flags_dot {flags : Flags} {span : Span} (he : flags.dot span = .ok e) : P e := by
  unfold Flags.dot at he
  split at he
  · cases he
  split at he
  · exact Except.ok.inj he ▸ h.set ..
  split at he
  · exact Except.ok.inj he ▸ h.set ..
  · exact Except.ok.inj he ▸ h.set ..

end Kept

mutual

/-- **What a tree stands for** has a property that is kept, if the tests of its anchors have it. And
    the flags behind it are those of the tree. -/
theorem Kept.ofTree (h : Kept P) {db : Unicode.Database} {flags flags' : Flags} {e : Expr} :
    ∀ {t : Tree}, ofTree db flags t = .ok (e, flags') →
      (∀ a ∈ t.anchors flags, P (look (a.1.anchor db a.2))) → P e ∧ flags' = t.flagsBehind flags
  | .empty _, he, _ => by
    obtain ⟨rfl, rfl⟩ := Prod.mk.inj (Except.ok.inj he)
    exact ⟨h.empty, rfl⟩
  | .flags _ _, he, _ => by
    obtain ⟨rfl, rfl⟩ := Prod.mk.inj (Except.ok.inj he)
    exact ⟨h.empty, rfl⟩
  | .anchor _ kind, he, hanchors => by
    obtain ⟨rfl, rfl⟩ := Prod.mk.inj (Except.ok.inj he)
    exact ⟨hanchors _ (List.mem_singleton_self _), rfl⟩
  | .literal l, he, _ => by
    rw [Expr.ofTree] at he
    obtain ⟨e, hread, he⟩ := exists_of_bind_eq_ok he
    obtain ⟨rfl, rfl⟩ := Prod.mk.inj (Except.ok.inj he)
    exact ⟨h.flags_literal hread, rfl⟩
  | .dot span, he, _ => by
    rw [Expr.ofTree] at he
    obtain ⟨e, hread, he⟩ := exists_of_bind_eq_ok he
    obtain ⟨rfl, rfl⟩ := Prod.mk.inj (Except.ok.inj he)
    exact ⟨h.flags_dot hread, rfl⟩
  | .property p, he, _ => by
    rw [Expr.ofTree] at he
    obtain ⟨s, -, he⟩ := exists_of_bind_eq_ok he
    obtain ⟨rfl, rfl⟩ := Prod.mk.inj (Except.ok.inj he)
    exact ⟨h.setOf .., rfl⟩
  | .shorthand span kind negated, he, _ => by
    rw [Expr.ofTree] at he
    obtain ⟨s, -, he⟩ := exists_of_bind_eq_ok he
    obtain ⟨rfl, rfl⟩ := Prod.mk.inj (Except.ok.inj he)
    exact ⟨h.setOf .., rfl⟩
  | .bracketed span negated body, he, _ => by
    rw [Expr.ofTree] at he
    obtain ⟨set, -, he⟩ := exists_of_bind_eq_ok he
    obtain ⟨s, -, he⟩ := exists_of_bind_eq_ok he
    obtain ⟨rfl, rfl⟩ := Prod.mk.inj (Except.ok.inj he)
    exact ⟨h.setOf .., rfl⟩
  | .loop _ min max greedy body, he, hanchors => by
    rw [Expr.ofTree] at he
    obtain ⟨⟨e, flags''⟩, hbody, he⟩ := exists_of_bind_eq_ok he
    obtain ⟨rfl, rfl⟩ := Prod.mk.inj (Except.ok.inj he)
    obtain ⟨hkept, hflags⟩ := Kept.ofTree h hbody hanchors
    exact ⟨h.loopOf _ _ _ hkept, hflags⟩
  | .group _ (.capturing index) body, he, hanchors => by
    rw [Expr.ofTree] at he
    obtain ⟨⟨e, flags''⟩, hbody, he⟩ := exists_of_bind_eq_ok he
    obtain ⟨rfl, rfl⟩ := Prod.mk.inj (Except.ok.inj he)
    exact ⟨h.group index (Kept.ofTree h hbody hanchors).1, rfl⟩
  | .group _ (.plain settings) body, he, hanchors => by
    rw [Expr.ofTree] at he
    obtain ⟨⟨e, flags''⟩, hbody, he⟩ := exists_of_bind_eq_ok he
    obtain ⟨rfl, rfl⟩ := Prod.mk.inj (Except.ok.inj he)
    exact ⟨(Kept.ofTree h hbody hanchors).1, rfl⟩
  | .alt _ branches, he, hanchors => by
    rw [Expr.ofTree] at he
    obtain ⟨⟨es, flags''⟩, hbranches, he⟩ := exists_of_bind_eq_ok he
    obtain ⟨rfl, rfl⟩ := Prod.mk.inj (Except.ok.inj he)
    obtain ⟨hkept, hflags⟩ := Kept.ofTrees h hbranches hanchors
    exact ⟨h.altOf hkept, hflags⟩
  | .seq _ items, he, hanchors => by
    rw [Expr.ofTree] at he
    obtain ⟨⟨es, flags''⟩, hitems, he⟩ := exists_of_bind_eq_ok he
    obtain ⟨rfl, rfl⟩ := Prod.mk.inj (Except.ok.inj he)
    obtain ⟨hkept, hflags⟩ := Kept.ofTrees h hitems hanchors
    exact ⟨h.seqOf hkept, hflags⟩

theorem Kept.ofTrees (h : Kept P) {db : Unicode.Database} {flags flags' : Flags}
    {es : List Expr} :
    ∀ {ts : List Tree}, ofTrees db flags ts = .ok (es, flags') →
      (∀ a ∈ Tree.anchorsAmong flags ts, P (look (a.1.anchor db a.2))) →
      (∀ e ∈ es, P e) ∧ flags' = Tree.flagsBehindAll flags ts
  | [], he, _ => by
    obtain ⟨rfl, rfl⟩ := Prod.mk.inj (Except.ok.inj he)
    exact ⟨fun _ hmem => absurd hmem List.not_mem_nil, rfl⟩
  | t :: ts, he, hanchors => by
    rw [Expr.ofTrees] at he
    obtain ⟨⟨e, flags₁⟩, hfirst, he⟩ := exists_of_bind_eq_ok he
    obtain ⟨⟨es, flags₂⟩, hothers, he⟩ := exists_of_bind_eq_ok he
    obtain ⟨rfl, rfl⟩ := Prod.mk.inj (Except.ok.inj he)
    obtain ⟨hin, hamong⟩ := List.forall_mem_append.1 hanchors
    obtain ⟨hkept, rfl⟩ := Kept.ofTree h hfirst hin
    obtain ⟨hkept', hflags⟩ := Kept.ofTrees h hothers hamong
    exact ⟨List.forall_mem_cons.2 ⟨hkept, hkept'⟩, hflags⟩

end

end Expr

end TextScan.Regex
