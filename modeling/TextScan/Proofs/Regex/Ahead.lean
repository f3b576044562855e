import TextScan.Proofs.Regex.Normal
import TextScan.Regex.Build

namespace TextScan.Regex

/-!
# Matches that depend on what lies ahead

Of all that a program does, only its tests can see the character before a place, and not all of them
do. If none of those that do occurs in a source, a match depends on nothing but the text from its
start on, wherever in a text this is.

* `Look.looksBehind` says which tests see the character before. By `Look.holds_eq` it makes no
  difference to the others.
* `Anchor.looksBehind` says so of anchors, which depend on flags. `Switches.looksAhead` says of a
  source that it has no anchor that looks behind.
* `Expr.Ahead` and `Program.Ahead` say so of expressions and of programs. `Expr.ahead_of_ofText` and
  `Program.ofExpr_ahead` lead from one to the next.
* `Program.Ahead.matchAt_eq` is what follows for matches.
-/

/-! ### Tests -/

/-- Whether a test asks for the character before the place. -/
def Look.looksBehind : Look → Bool
  | textStart | lineStart | crlfLineStart | crlfLineEnd => true
  | boundary _ | notBoundary _ | wordStart _ | wordEnd _ | wordStartHalf _ => true
  | textEnd | lineEnd | wordEndHalf _ => false

/-- To a test that does not look behind, the character before makes no difference. -/
theorem Look.holds_eq {test : Look} (h : test.looksBehind = false) (before before' : Option Char)
    (after : Text) : test.holds before after = test.holds before' after := by
  cases test with
  | textEnd | lineEnd | wordEndHalf => rfl
  | textStart | lineStart | crlfLineStart | crlfLineEnd | boundary | notBoundary | wordStart
  | wordEnd | wordStartHalf => cases h

/-- Whether an anchor asks for the character before the place. The end of a line does where a
    carriage return may end it. -/
def Anchor.looksBehind (f : Flags) : Anchor → Bool
  | lineStart | textStart => true
  | boundary | notBoundary | wordStart | wordEnd | wordStartHalf => true
  | lineEnd => f.multiLine && f.crlf
  | textEnd | wordEndHalf => false

theorem Flags.looksBehind_anchor (db : Unicode.Database) (f : Flags) (kind : Anchor) :
    (f.anchor db kind).looksBehind = kind.looksBehind f := by
  obtain ⟨caseless, multiLine, dotAll, swapGreed, unicode, crlf⟩ := f
  cases kind <;> cases multiLine <;> cases crlf <;> rfl

/-- Whether no anchor in a source looks behind. A source that cannot be read has no anchors. -/
def Switches.looksAhead (c : Switches) (source : Text) : Bool :=
  match Tree.ofText c.verbose source with
  | .ok tree => (tree.anchors c.toFlags).all fun (f, kind) => !kind.looksBehind f
  | .error _ => true

/-! ### Expressions -/

/-- No test in the expression looks behind. -/
inductive Expr.Ahead : Expr → Prop
  | empty : Ahead empty
  | literal (chars : Text) : Ahead (literal chars)
  | set (ascii : Bool) (s : CharSet) : Ahead (set ascii s)
  | look {test : Look} : test.looksBehind = false → Ahead (look test)
  | loop (min : Nat) (max : Option Nat) (greedy : Bool) {e : Expr} :
      Ahead e → Ahead (loop min max greedy e)
  | group (index : Nat) {e : Expr} : Ahead e → Ahead (group index e)
  | seq {es : List Expr} : (∀ e ∈ es, Ahead e) → Ahead (seq es)
  | alt {es : List Expr} : (∀ e ∈ es, Ahead e) → Ahead (alt es)

namespace Expr.Ahead

variable {e : Expr} {es : List Expr}

theorem seqParts (h : e.Ahead) : ∀ p ∈ e.seqParts, p.Ahead := by
  by_cases hitem : e.isItem = true
  · rw [seqParts_of_isItem hitem]
    exact List.forall_mem_singleton.2 h
  · cases h with
    | empty => exact fun _ hp => absurd hp List.not_mem_nil
    | seq hes => exact hes
    | literal | set | look | loop | group | alt => exact absurd rfl hitem

theorem consMerged (he : e.Ahead) (hes : ∀ f ∈ es, f.Ahead) :
    ∀ f ∈ Expr.consMerged e es, f.Ahead := by
  obtain ⟨heq, -⟩ | ⟨a, b, rest, rfl, rfl, heq⟩ := consMerged_cases e es
  · rw [heq]
    exact List.forall_mem_cons.2 ⟨he, hes⟩
  · rw [heq]
    exact List.forall_mem_cons.2 ⟨.literal _, (List.forall_mem_cons.1 hes).2⟩

theorem seqOf (h : ∀ e ∈ es, e.Ahead) : (Expr.seqOf es).Ahead := by
  have hparts : ∀ p ∈ es.flatMap Expr.seqParts, p.Ahead := by
    intro p hp
    obtain ⟨e, he, hpe⟩ := List.mem_flatMap.1 hp
    exact (h e he).seqParts p hpe
  have hmerged : ∀ e ∈ (es.flatMap Expr.seqParts).foldr Expr.consMerged [], e.Ahead := by
    generalize es.flatMap Expr.seqParts = parts at hparts
    induction parts with
    | nil => exact fun _ he => absurd he List.not_mem_nil
    | cons p parts ih =>
      obtain ⟨hp, hparts⟩ := List.forall_mem_cons.1 hparts
      exact hp.consMerged (ih hparts)
  unfold Expr.seqOf
  split
  · exact .empty
  · rename_i e heq
    exact hmerged e (heq ▸ List.mem_singleton_self e)
  · exact .seq hmerged

theorem kept : Kept Ahead where
  empty := .empty
  literal := .literal
  set := .set
  loop min max greedy h := .loop min max greedy h
  group index h := .group index h
  seqOf := seqOf
  alt := .alt
  of_seq h := by cases h with | seq hes => exact hes
  of_alt h := by cases h with | alt hes => exact hes

end Expr.Ahead

/-- **What a source stands for** has no test that looks behind if the source has no such anchor. -/
theorem Expr.ahead_of_ofText {db : Unicode.Database} {c : Switches} {source : Text} {e : Expr}
    (h : Expr.ofText db c source = .ok e) (hahead : c.looksAhead source = true) : e.Ahead := by
  obtain ⟨tree, htree, h⟩ := exists_of_bind_eq_ok h
  obtain ⟨⟨e, flags⟩, he, h⟩ := exists_of_bind_eq_ok h
  obtain rfl := Except.ok.inj h
  rw [Switches.looksAhead, htree] at hahead
  refine (Expr.Ahead.kept.ofTree he fun a ha => .look ?_).1
  rw [Flags.looksBehind_anchor]
  simpa using List.all_eq_true.1 hahead a ha

/-! ### Programs -/

/-- Whether an instruction asks for the character before the place. -/
def Inst.looksBehind : Inst → Bool
  | look test => test.looksBehind
  | one _ | jump _ | split _ _ | save _ => false

theorem Inst.looksBehind_choice (greedy : Bool) (inside outside : Nat) :
    (Inst.choice greedy inside outside).looksBehind = false := by
  cases greedy <;> rfl

section Repetitions

variable {piece : Nat → List Inst} (hpiece : ∀ s, ∀ inst ∈ piece s, inst.looksBehind = false)

include hpiece

theorem copies_ahead (width n start : Nat) :
    ∀ inst ∈ copies piece width n start, inst.looksBehind = false := by
  induction n generalizing start with
  | zero => exact fun _ h => absurd h List.not_mem_nil
  | succ n ih =>
    rw [copies]
    exact List.forall_mem_append.2 ⟨hpiece start, ih (start + width)⟩

theorem optionals_ahead (width : Nat) (greedy : Bool) (stop n start : Nat) :
    ∀ inst ∈ optionals piece width greedy stop n start, inst.looksBehind = false := by
  induction n generalizing start with
  | zero => exact fun _ h => absurd h List.not_mem_nil
  | succ n ih =>
    rw [optionals]
    exact List.forall_mem_cons.2 ⟨Inst.looksBehind_choice ..,
      List.forall_mem_append.2 ⟨hpiece (start + 1), ih _⟩⟩

end Repetitions

namespace Expr

mutual

/-- **The code of an expression** tests what the expression tests. -/
theorem Ahead.code : ∀ {e : Expr}, e.Ahead → ∀ start, ∀ inst ∈ e.code start,
    inst.looksBehind = false
  | .empty, _, _ => fun _ h => absurd h List.not_mem_nil
  | .literal cs, _, _ => fun inst h => by
    obtain ⟨c, -, rfl⟩ := List.mem_map.1 h
    rfl
  | .set _ _, _, _ => List.forall_mem_singleton.2 rfl
  | .look _, .look htest, _ => List.forall_mem_singleton.2 htest
  | .loop min (some max) greedy e, .loop _ _ _ he, start => by
    rw [Expr.code]
    exact List.forall_mem_append.2 ⟨copies_ahead (Ahead.code he) _ _ _,
      optionals_ahead (Ahead.code he) _ _ _ _ _⟩
  | .loop 0 none greedy e, .loop _ _ _ he, start => by
    rw [Expr.code]
    refine List.forall_mem_cons.2 ⟨Inst.looksBehind_choice .., List.forall_mem_append.2
      ⟨Ahead.code he _, List.forall_mem_singleton.2 ?_⟩⟩
    split
    · rfl
    · exact Inst.looksBehind_choice ..
  | .loop (n + 1) none greedy e, .loop _ _ _ he, start => by
    rw [Expr.code]
    exact List.forall_mem_append.2 ⟨copies_ahead (Ahead.code he) _ _ _, List.forall_mem_append.2
      ⟨Ahead.code he _, List.forall_mem_singleton.2 (Inst.looksBehind_choice ..)⟩⟩
  | .group index e, .group _ he, start => by
    rw [Expr.code]
    exact List.forall_mem_cons.2 ⟨rfl, List.forall_mem_append.2
      ⟨Ahead.code he _, List.forall_mem_singleton.2 rfl⟩⟩
  | .seq es, .seq hes, start => by
    rw [Expr.code]
    exact codeSeq_ahead hes start
  | .alt es, .alt hes, start => by
    rw [Expr.code]
    exact codeAlt_ahead hes _ start

theorem codeSeq_ahead : ∀ {es : List Expr}, (∀ e ∈ es, e.Ahead) → ∀ start,
    ∀ inst ∈ codeSeq es start, inst.looksBehind = false
  | [], _, _ => fun _ h => absurd h List.not_mem_nil
  | e :: es, h, start => by
    obtain ⟨he, hes⟩ := List.forall_mem_cons.1 h
    rw [codeSeq]
    exact List.forall_mem_append.2 ⟨Ahead.code he start, codeSeq_ahead hes _⟩

theorem codeAlt_ahead : ∀ {es : List Expr}, (∀ e ∈ es, e.Ahead) → ∀ stop start,
    ∀ inst ∈ codeAlt es stop start, inst.looksBehind = false
  | [], _, _, _ => List.forall_mem_singleton.2 rfl
  | [e], h, _, start => Ahead.code (List.forall_mem_singleton.1 h) start
  | e :: f :: es, h, stop, start => by
    obtain ⟨he, hes⟩ := List.forall_mem_cons.1 h
    exact List.forall_mem_cons.2 ⟨rfl, List.forall_mem_append.2
      ⟨Ahead.code he _, List.forall_mem_cons.2 ⟨rfl, codeAlt_ahead hes stop _⟩⟩⟩

end

end Expr

namespace Program

variable {p : Program} {after : Text} {ways : List Way}

/-- No instruction of the program looks behind. -/
def Ahead (p : Program) : Prop := ∀ inst ∈ p.code, inst.looksBehind = false

theorem ofExpr_ahead {e : Expr} (h : e.Ahead) : (ofExpr e).Ahead :=
  fun inst hinst => h.code 0 inst (List.mem_toArray.1 hinst)

namespace Ahead

variable (h : p.Ahead)
include h

/-- Following the ways to where they wait does not depend on the character before. -/
theorem settle_eq (before before' : Option Char) (fuel : Nat) (seen : List Nat) :
    p.settle before after fuel seen ways = p.settle before' after fuel seen ways := by
  induction fuel generalizing seen ways with
  | zero => rfl
  | succ fuel ih =>
    cases ways with
    | nil => rfl
    | cons way ways =>
      rw [settle, settle]
      split
      · exact ih seen
      · cases hinst : p.code[way.pc]? with
        | none => exact congrArg (way :: ·) (ih _)
        | some inst =>
          cases inst with
          | one set => exact congrArg (way :: ·) (ih _)
          | jump target => exact ih _
          | split first second => exact ih _
          | save slot => exact ih _
          | look test =>
            have htest : test.looksBehind = false := h _ (Array.mem_of_getElem? hinst)
            have hholds := Look.holds_eq htest before before' after
            dsimp only
            rw [hholds, ih, ih]

theorem run_eq (best : Option Match) (before before' : Option Char) :
    p.run best before after ways = p.run best before' after ways := by
  have hsettled : p.settled before after ways = p.settled before' after ways :=
    h.settle_eq before before' _ _
  -- Behind the first character, the character before is the same.
  cases after with
  | nil => rw [run, run, hsettled]
  | cons c r => rw [run, run, hsettled]

/-- **What lies before makes no difference** to a match. -/
theorem matchAt_eq (before : Option Char) (v : Text) : p.matchAt before v = p.matchAt none v :=
  h.run_eq none before none

end Ahead

end Program

end TextScan.Regex
