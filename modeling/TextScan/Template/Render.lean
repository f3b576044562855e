import TextScan.Pattern.Regex
import TextScan.Scanner.Token
import TextScan.Text.Decimal

namespace TextScan.Template

/-!
# Rendering templates

A template is text with blocks in double braces. A block holds a sum of numbers, names and
parenthesised sums, and is replaced by its value:

    template := (text | "double brace" sum "double brace")*
    sum      := operand (("+" | "-") operand)*
    operand  := number | name | "(" sum ")"

Blanks may stand before every token of a block. Values are integers without bounds, numbers in the
source must fit in 64 bits.

* `RenderError` lists the causes of failure, with positions in characters.
* `Vocabulary` holds the patterns of the tokens.
* `Vocabulary.operand` and `Vocabulary.sum` read the parts of a block, `Vocabulary.render` a
  template.
-/

/-- What would have been right where something else stands. -/
inductive Expectation where
  | blockClose
  | parenthesis
  /-- A number of at most 64 bits with its sign. -/
  | smallNumber
  | operand
  deriving DecidableEq, Repr

/-- Why a template is not rendered. -/
inductive RenderError where
  | pattern (e : PatternError)
  | expected (what : Expectation) (pos : Nat)
  | unknown (name : Text) (pos : Nat)
  deriving DecidableEq, Repr

/-- The wording of an expectation. -/
def Expectation.message : Expectation → String
  | blockClose => "\x60\x7d\x7d\x60"
  | parenthesis => "\x60)\x60"
  | smallNumber => "a number that fits in i64"
  | operand => "a number, a name or \x60(\x60"

/-- The wording of an error. -/
def RenderError.message : RenderError → Text
  | pattern e => e.message
  | expected what pos => ("expected " ++ what.message ++ " at " ++ toString pos).toList
  | unknown name pos => "unknown name \x60".toList ++ name ++ ("\x60 at " ++ toString pos).toList

/-- The values of names. -/
abbrev Env := List (Text × Int)

/-- The patterns of the tokens. -/
structure Vocabulary where
  blockOpen : AnchoredRegex
  blockClose : AnchoredRegex
  space : AnchoredRegex
  number : AnchoredRegex
  name : AnchoredRegex
  operator : AnchoredRegex

/-- Builds the patterns of the tokens. -/
def Vocabulary.new? : Except PatternError Vocabulary := do
  return {
    blockOpen := ← AnchoredRegex.new? "\\\x7b\\\x7b".toList
    blockClose := ← AnchoredRegex.new? "\\\x7d\\\x7d".toList
    space := ← AnchoredRegex.new? "\\s+".toList
    number := ← AnchoredRegex.new? "-?\\d+".toList
    name := ← AnchoredRegex.new? "[a-z_]+".toList
    operator := ← AnchoredRegex.new? "[+-]".toList }

/-- The integer that a numeral in ASCII digits stands for, if it fits in 64 bits. -/
def parseInt64? (t : Text) : Option Int :=
  let negative := t.head? = some '-'
  let digits := if negative then t.tail else t
  -- The pattern of numbers also matches digits of other scripts. They are refused here.
  if digits.isEmpty || !digits.all Char.isDigit then none
  else
    let n : Int := digits.foldl (fun n c => 10 * n + (c.toNat - '0'.toNat)) 0
    let n := if negative then -n else n
    if -Nat.pow 2 63 ≤ n ∧ n < Nat.pow 2 63 then some n else none

namespace Vocabulary

open Scanner (Behind)

/-- Takes a token. -/
def token? (s : Scanner) (p : Pattern) : Except RenderError (Option (Text × s.Behind)) :=
  (s.token? p).mapError .pattern

/-- Passes blanks. -/
def skipSpace (v : Vocabulary) (s : Scanner) : Except RenderError s.Skipped :=
  (s.skipToken v.space.toPattern).mapError .pattern

mutual

/-- Reads a number, a name or a sum in parentheses. -/
def operand (v : Vocabulary) (env : Env) (s : Scanner) : Except RenderError (Int × s.Behind) := do
  let ⟨s₁, h₁⟩ ← v.skipSpace s
  -- A minus sign that is followed by a digit belongs to the number.
  match ← token? s₁ v.number.toPattern with
  | some (digits, t) =>
    match parseInt64? digits with
    | some n => return (n, t.after h₁)
    | none => throw (.expected .smallNumber s₁.pos)
  | none =>
    match ← token? s₁ v.name.toPattern with
    | some (name, t) =>
      match env.lookup name with
      | some n => return (n, t.after h₁)
      | none => throw (.unknown name s₁.pos)
    | none =>
      match ← token? s₁ (.char '(') with
      | some (_, ⟨t, h⟩) =>
        let (n, t₁) ← sum v env t
        let ⟨t₂, h₂⟩ ← v.skipSpace t₁.1
        match ← token? t₂ (.char ')') with
        | some (_, t₃) => return (n, (Behind.trans ⟨t, h⟩ (t₁.trans (t₃.after h₂))).after h₁)
        | none => throw (.expected .parenthesis t₂.pos)
      | none => throw (.expected .operand s₁.pos)
termination_by 2 * s.unread

/-- Reads a sum. -/
def sum (v : Vocabulary) (env : Env) (s : Scanner) : Except RenderError (Int × s.Behind) := do
  let (n, ⟨t, h⟩) ← operand v env s
  let (m, u) ← sumFrom v env n t
  return (m, Behind.andSkip ⟨t, h⟩ u)
termination_by 2 * s.unread + 1

/-- Reads the rest of a sum, whose value up to here is `acc`. -/
def sumFrom (v : Vocabulary) (env : Env) (acc : Int) (s : Scanner) :
    Except RenderError (Int × s.Skipped) := do
  let ⟨s₁, h₁⟩ ← v.skipSpace s
  match ← token? s₁ v.operator.toPattern with
  | none => return (acc, ⟨s₁, h₁⟩)
  | some (sign, ⟨t, h⟩) =>
    let (n, ⟨t₁, h₂⟩) ← operand v env t
    let (m, t₂) ← sumFrom v env (if sign = ['+'] then acc + n else acc - n) t₁
    return (m, ((Behind.trans ⟨t, h⟩ (Behind.andSkip ⟨t₁, h₂⟩ t₂)).after h₁).toSkipped)
termination_by 2 * s.unread

end

/-- Renders what lies behind the cursor. Text before a block is copied; where no block lies ahead,
    all that is left is text. -/
def renderFrom (v : Vocabulary) (env : Env) (s : Scanner) : Except RenderError Text := do
  if s.atEnd then return []
  match ← token? s v.blockOpen.toPattern with
  | some (_, ⟨t, _h⟩) =>
    let (n, ⟨t₁, _h₁⟩) ← v.sum env t
    let ⟨t₂, _h₂⟩ ← v.skipSpace t₁
    match ← token? t₂ v.blockClose.toPattern with
    | some (_, ⟨t₃, _h₃⟩) => return Text.decimal n ++ (← renderFrom v env t₃)
    | none => throw (.expected .blockClose t₂.pos)
  | none =>
    match ← (s.locate v.blockOpen.toPattern).result.mapError .pattern with
    | none => return s.rest
    | some k =>
      let t := (s.moveTo (s.pos + k)).scanner
      -- The braces are not at the cursor, so it moves; the test shows that reading ends.
      if _h : t.unread < s.unread then return s.peek k ++ (← renderFrom v env t)
      else return s.rest
termination_by s.unread

/-- Renders a template. -/
def render (v : Vocabulary) (env : Env) (template : Text) : Except RenderError Text :=
  v.renderFrom env (Scanner.new template)

end Vocabulary

/-- Renders a template. -/
def render (env : Env) (template : Text) : Except RenderError Text := do
  (← Vocabulary.new?.mapError .pattern).render env template

end TextScan.Template
