import TextScan.Regex.Expr

namespace TextScan.Regex

/-!
# Programs for regular expressions

A program is a list of instructions, numbered from zero. It accepts behind its last instruction.

* `Inst` is the type of instructions.
* `Expr.width` is the number of instructions for an expression, `Expr.code` the instructions
  themselves, which begin at a given number and leave by running past their end.

A loop over what can match the empty text is entered by a choice of its own. One choice at its head
would be reached again without having moved, and the loop would be left by the wrong branch.
-/

/-- An instruction. -/
inductive Inst where
  /-- Reads a character of the set. -/
  | one (set : CharSet)
  | jump (target : Nat)
  /-- Goes on in two ways, the first one preferred. -/
  | split (first second : Nat)
  /-- Goes on if the place passes the test. -/
  | look (test : Look)
  /-- Notes the place. -/
  | save (slot : Nat)
  deriving DecidableEq, Repr

/-- A choice between going on at `inside` and at `outside`; the greedy one prefers the former. -/
def Inst.choice (greedy : Bool) (inside outside : Nat) : Inst :=
  if greedy then split inside outside else split outside inside

/-- Copies of a piece of code of the given width, `n` of them, one behind another. -/
def copies (piece : Nat → List Inst) (width : Nat) : Nat → Nat → List Inst
  | 0, _ => []
  | n + 1, start => piece start ++ copies piece width n (start + width)

/-- Copies of a piece of code, `n` of them, each of which may be left out with all that follow it.
    -/
def optionals (piece : Nat → List Inst) (width : Nat) (greedy : Bool) (stop : Nat) :
    Nat → Nat → List Inst
  | 0, _ => []
  | n + 1, start =>
    Inst.choice greedy (start + 1) stop ::
      (piece (start + 1) ++ optionals piece width greedy stop n (start + 1 + width))

namespace Expr

mutual

/-- The number of instructions for an expression. -/
def width : Expr → Nat
  | empty => 0
  | literal cs => cs.length
  | set _ _ => 1
  | look _ => 1
  | loop min (some max) _ e => min * width e + (max - min) * (width e + 1)
  | loop 0 none _ e => width e + 2
  | loop (n + 1) none _ e => n * width e + (width e + 1)
  | group _ e => width e + 2
  | seq es => widthSeq es
  | alt es => widthAlt es

/-- The number of instructions for a sequence. -/
def widthSeq : List Expr → Nat
  | [] => 0
  | e :: es => width e + widthSeq es

/-- The number of instructions for an alternative. -/
def widthAlt : List Expr → Nat
  | [] => 1
  | [e] => width e
  | e :: es => width e + 2 + widthAlt es

end

mutual

/-- The instructions for an expression, the first of which has the number `start`. -/
def code : Expr → Nat → List Inst
  | empty, _ => []
  | literal cs, _ => cs.map fun c => .one (CharSet.single c)
  | set _ s, _ => [.one s]
  | look test, _ => [.look test]
  | loop min (some max) greedy e, start =>
    let stop := start + min * width e + (max - min) * (width e + 1)
    copies (code e) (width e) min start ++
      optionals (code e) (width e) greedy stop (max - min) (start + min * width e)
  | loop 0 none greedy e, start =>
    let stop := start + width e + 2
    Inst.choice greedy (start + 1) stop ::
      (code e (start + 1) ++
        [if (minLen e).any (0 < ·) then .jump start else Inst.choice greedy (start + 1) stop])
  | loop (n + 1) none greedy e, start =>
    let last := start + n * width e
    copies (code e) (width e) n start ++
      (code e last ++ [Inst.choice greedy last (last + width e + 1)])
  | group index e, start =>
    .save (2 * (index - 1)) :: (code e (start + 1) ++ [.save (2 * (index - 1) + 1)])
  | seq es, start => codeSeq es start
  | alt es, start => codeAlt es (start + widthAlt es) start

/-- The instructions for a sequence. -/
def codeSeq : List Expr → Nat → List Inst
  | [], _ => []
  | e :: es, start => code e start ++ codeSeq es (start + width e)

/-- The instructions for an alternative that ends before the number `stop`. -/
def codeAlt : List Expr → Nat → Nat → List Inst
  -- Without branches there is nothing to match. No character is in the empty set.
  | [], _, _ => [.one CharSet.empty]
  | [e], _, start => code e start
  | e :: es, stop, start =>
    let other := start + width e + 2
    .split (start + 1) other :: (code e (start + 1) ++ .jump stop :: codeAlt es stop other)

end

end Expr

/-- A program, and how many groups it notes. -/
structure Program where
  code : Array Inst
  groups : Nat
  deriving Repr

/-- The program for an expression. -/
def Program.ofExpr (e : Expr) : Program := ⟨(e.code 0).toArray, e.groups⟩

end TextScan.Regex
