import TextScan.Regex.Tree

namespace TextScan.Regex

/-!
# Why a regular expression is refused

* `Fault` lists the causes, `Fault.message` their wording.
* `Refusal` adds the part of the source at fault and, for names and flags given twice, the earlier
  part.
-/

/-- The most levels that an expression may be nested. -/
def nestLimit : Nat := 250

/-- The causes for which an expression is refused. -/
inductive Fault where
  /-- A class holds an escape that stands for no character. -/
  | classEscape
  /-- A range in a class runs downwards. -/
  | classRangeOrder
  /-- An end of a range in a class is no single character. -/
  | classRangeEnd
  | classUnclosed
  | numberEmpty
  | numberTooLarge
  | hexEmpty
  | hexNotScalar
  | hexDigit
  | escapeCut
  | escapeUnknown
  | flagNegationLast
  | flagTwice
  | flagNegationTwice
  | flagCut
  | flagUnknown
  | nameTwice
  | nameEmpty
  | nameChar
  | nameCut
  | groupUnclosed
  | groupUnopened
  | nestedTooDeep
  | countOrder
  | countEmpty
  | countUnclosed
  | repeatNothing
  | boundaryUnclosed
  | boundaryUnknown
  | boundaryCut
  | propertySpelling
  | backreference
  | lookAround
  /-- A property or a character beyond ASCII where only ASCII is allowed. -/
  | beyondAscii
  /-- A part that could match one byte of a longer character. -/
  | brokenUtf8
  | propertyUnknown
  | propertyValueUnknown
  deriving DecidableEq, Repr

/-- The wording of a cause. -/
def Fault.message : Fault → String
  | classEscape => "invalid escape sequence found in character class"
  | classRangeOrder => "invalid character class range, the start must be <= the end"
  | classRangeEnd => "invalid range boundary, must be a literal"
  | classUnclosed => "unclosed character class"
  | numberEmpty => "decimal literal empty"
  | numberTooLarge => "decimal literal invalid"
  | hexEmpty => "hexadecimal literal empty"
  | hexNotScalar => "hexadecimal literal is not a Unicode scalar value"
  | hexDigit => "invalid hexadecimal digit"
  | escapeCut => "incomplete escape sequence, reached end of pattern prematurely"
  | escapeUnknown => "unrecognized escape sequence"
  | flagNegationLast => "dangling flag negation operator"
  | flagTwice => "duplicate flag"
  | flagNegationTwice => "flag negation operator repeated"
  | flagCut => "expected flag but got end of regex"
  | flagUnknown => "unrecognized flag"
  | nameTwice => "duplicate capture group name"
  | nameEmpty => "empty capture group name"
  | nameChar => "invalid capture group character"
  | nameCut => "unclosed capture group name"
  | groupUnclosed => "unclosed group"
  | groupUnopened => "unopened group"
  | nestedTooDeep =>
    "exceed the maximum number of nested parentheses/brackets (" ++ toString nestLimit ++ ")"
  | countOrder => "invalid repetition count range, the start must be <= the end"
  | countEmpty => "repetition quantifier expects a valid decimal"
  | countUnclosed => "unclosed counted repetition"
  | repeatNothing => "repetition operator missing expression"
  | boundaryUnclosed =>
    "special word boundary assertion is either unclosed or contains an invalid character"
  | boundaryUnknown =>
    "unrecognized special word boundary assertion, valid choices are: " ++
      "start, end, start-half or end-half"
  | boundaryCut =>
    "found either the beginning of a special word boundary or a bounded repetition on a \\b " ++
      "with an opening brace, but no closing brace"
  | propertySpelling => "invalid Unicode character class"
  | backreference => "backreferences are not supported"
  | lookAround => "look-around, including look-ahead and look-behind, is not supported"
  | beyondAscii => "Unicode not allowed here"
  | brokenUtf8 => "pattern can match invalid UTF-8"
  | propertyUnknown => "Unicode property not found"
  | propertyValueUnknown => "Unicode property value not found"

/-- A refusal: the cause and the part of the source at fault. -/
structure Refusal where
  fault : Fault
  span : Span
  /-- Where the same name or flag was given first, if it was given twice. -/
  earlier : Option Span
  deriving DecidableEq, Repr

/-- A refusal of the part from the place `start` to the place `stop`. -/
def refuse {α : Type} (fault : Fault) (start stop : Nat) : Except Refusal α :=
  .error ⟨fault, ⟨start, stop⟩, none⟩

/-- A refusal of a given part. -/
def refuseSpan {α : Type} (fault : Fault) (span : Span) : Except Refusal α :=
  .error ⟨fault, span, none⟩

end TextScan.Regex
