import Mathlib.Data.List.Chain
import TextScan.Proofs.Regex.Kept

namespace TextScan.Regex

/-!
# The normal form

The functions that build expressions keep to the normal form. So a sequence of one part is that
part, and a part that is empty makes no difference in a sequence.

* `Expr.Normal` is the normal form, as far as sequences are concerned.
* `Expr.seqOf_normal` says that sequences keep it, `Expr.ofTree_normal` that all that trees stand
  for is in it.
* `Expr.seqOf_singleton` and `Expr.seqOf_cons_empty` are what follows for sequences.
-/

namespace Expr

/-- Whether an expression is a literal. -/
def isLiteral : Expr → Bool
  | literal _ => true
  | _ => false

/-- Whether an expression may stand in a sequence: it is not empty and no sequence itself. -/
def isItem : Expr → Bool
  | empty | seq _ => false
  | _ => true

/-- Two expressions that may stand side by side: one of them is no literal. -/
def Apart (e f : Expr) : Prop := ¬ (e.isLiteral = true ∧ f.isLiteral = true)

/-- A sequence has at least two parts, none of which is empty or a sequence, and no two literals
    side by side. -/
inductive Normal : Expr → Prop
  | empty : Normal empty
  | literal (chars : Text) : Normal (literal chars)
  | set (ascii : Bool) (s : CharSet) : Normal (set ascii s)
  | look (test : Look) : Normal (look test)
  | loop (min : Nat) (max : Option Nat) (greedy : Bool) {e : Expr} :
      Normal e → Normal (loop min max greedy e)
  | group (index : Nat) {e : Expr} : Normal e → Normal (group index e)
  | seq {es : List Expr} : 2 ≤ es.length → es.IsChain Apart → (∀ e ∈ es, e.isItem = true) →
      (∀ e ∈ es, Normal e) → Normal (seq es)
  | alt {es : List Expr} : (∀ e ∈ es, Normal e) → Normal (alt es)

variable {e f : Expr} {es fs : List Expr}

/-! ### Sequences -/

theorem seqParts_of_isItem (h : e.isItem = true) : e.seqParts = [e] := by
  cases e with
  | empty | seq => cases h
  | literal | set | look | loop | group | alt => rfl

/-- The parts of an expression in normal form may stand in a sequence. -/
theorem Normal.seqParts (h : e.Normal) : ∀ p ∈ e.seqParts, p.isItem = true ∧ p.Normal := by
  by_cases hitem : e.isItem = true
  · rw [seqParts_of_isItem hitem]
    exact List.forall_mem_singleton.2 ⟨hitem, h⟩
  · cases h with
    | empty => exact fun _ hp => absurd hp List.not_mem_nil
    | seq _ _ hitems hnormal => exact fun p hp => ⟨hitems p hp, hnormal p hp⟩
    | literal | set | look | loop | group | alt => exact absurd rfl hitem

/-- What is put before a sequence stays apart from it, or both begin with a literal. -/
theorem consMerged_cases (e : Expr) (es : List Expr) :
    (consMerged e es = e :: es ∧ ∀ f ∈ es.head?, Apart e f) ∨
      ∃ a b rest, e = .literal a ∧ es = .literal b :: rest ∧
        consMerged e es = .literal (a ++ b) :: rest := by
  unfold consMerged
  split
  · rename_i a b rest
    exact .inr ⟨a, b, rest, rfl, rfl, rfl⟩
  · rename_i hne
    refine .inl ⟨rfl, fun f hf hboth => ?_⟩
    cases es with
    | nil => cases hf
    | cons g rest =>
      obtain rfl := Option.some.inj hf
      cases e with
      | literal a =>
        cases g with
        | literal b => exact hne a b rest rfl rfl
        | _ => cases hboth.2
      | _ => cases hboth.1

/-- Parts that are merged from the end may stand side by side. -/
theorem foldr_consMerged_normal (h : ∀ e ∈ es, e.isItem = true ∧ e.Normal) :
    (es.foldr consMerged []).IsChain Apart ∧
      ∀ e ∈ es.foldr consMerged [], e.isItem = true ∧ e.Normal := by
  induction es with
  | nil => exact ⟨.nil, fun _ he => absurd he List.not_mem_nil⟩
  | cons e es ih =>
    obtain ⟨he, hes⟩ := List.forall_mem_cons.1 h
    obtain ⟨hchain, hmem⟩ := ih hes
    rw [List.foldr_cons]
    obtain ⟨heq, hapart⟩ | ⟨a, b, rest, rfl, hrest, heq⟩ :=
      consMerged_cases e (es.foldr consMerged [])
    · rw [heq]
      exact ⟨List.isChain_cons.2 ⟨hapart, hchain⟩, List.forall_mem_cons.2 ⟨he, hmem⟩⟩
    · rw [heq]
      rw [hrest] at hchain hmem
      obtain ⟨-, hmem⟩ := List.forall_mem_cons.1 hmem
      -- What stands beside a literal stands beside a longer one.
      obtain ⟨hapart, hchain⟩ := List.isChain_cons.1 hchain
      exact ⟨List.isChain_cons.2 ⟨hapart, hchain⟩,
        List.forall_mem_cons.2 ⟨⟨rfl, .literal (a ++ b)⟩, hmem⟩⟩

theorem foldr_consMerged_of_isChain (h : es.IsChain Apart) : es.foldr consMerged [] = es := by
  induction es with
  | nil => rfl
  | cons e es ih =>
    obtain ⟨hapart, hchain⟩ := List.isChain_cons.1 h
    rw [List.foldr_cons, ih hchain]
    obtain ⟨heq, -⟩ | ⟨a, b, rest, rfl, rfl, -⟩ := consMerged_cases e es
    · exact heq
    · exact absurd ⟨rfl, rfl⟩ (hapart _ rfl)

/-- A sequence of parts in normal form is in normal form. -/
theorem seqOf_normal (h : ∀ e ∈ es, e.Normal) : (seqOf es).Normal := by
  have hparts : ∀ p ∈ es.flatMap Expr.seqParts, p.isItem = true ∧ p.Normal := by
    intro p hp
    obtain ⟨e, he, hpe⟩ := List.mem_flatMap.1 hp
    exact (h e he).seqParts p hpe
  obtain ⟨hchain, hmem⟩ := foldr_consMerged_normal hparts
  unfold seqOf
  split
  · exact .empty
  · rename_i e heq
    exact (hmem e (heq ▸ List.mem_singleton_self e)).2
  · rename_i hnil hone
    refine .seq ?_ hchain (fun e he => (hmem e he).1) fun e he => (hmem e he).2
    cases hrest : (es.flatMap Expr.seqParts).foldr consMerged [] with
    | nil => exact absurd hrest hnil
    | cons e rest =>
      cases rest with
      | nil => exact absurd hrest (hone e)
      | cons => exact Nat.le_add_left 2 _

/-- A sequence of one part is that part. -/
theorem seqOf_singleton (h : e.Normal) : seqOf [e] = e := by
  unfold seqOf
  rw [List.flatMap_singleton]
  cases h with
  | @seq es hlength hchain =>
    have hmerged : (seqParts (seq es)).foldr consMerged [] = es :=
      foldr_consMerged_of_isChain hchain
    rw [hmerged]
    cases es with
    | nil => cases hlength
    | cons e es =>
      cases es with
      | nil => exact absurd hlength (by simp)
      | cons => rfl
  | empty | literal | set | look | loop | group | alt => rfl

/-- An empty part makes no difference. -/
theorem seqOf_cons_empty (es : List Expr) : seqOf (empty :: es) = seqOf es := rfl

/-! ### Trees -/

/-- The functions that build expressions keep the normal form. -/
theorem Normal.kept : Kept Normal where
  empty := .empty
  literal := .literal
  set := .set
  loop min max greedy h := .loop min max greedy h
  group index h := .group index h
  seqOf := seqOf_normal
  alt := .alt
  of_seq h := by cases h with | seq _ _ _ hnormal => exact hnormal
  of_alt h := by cases h with | alt hnormal => exact hnormal

/-- **What a tree stands for is in normal form.** -/
theorem ofTree_normal {db : Unicode.Database} {flags flags' : Flags} {t : Tree}
    (h : ofTree db flags t = .ok (e, flags')) : e.Normal :=
  (Normal.kept.ofTree h fun _ _ => .look _).1

end Expr

end TextScan.Regex
