import TextScan.Json
import TextScan.Outcome
import TextScan.Text.Quoted

namespace TextScan

/-!
# Outcomes as JSON

* `Outcome.toJson` writes an outcome as an object of two fields, `text` before `captures`.
* `Outcome.ofJson` reads that object, in which the text may be missing, and also an array of the
  two values. Unknown fields do not matter.
* `DecodeError` lists the causes of a refusal, `DecodeError.message` their wording.
-/

/-- What was expected where something else was found. -/
inductive Expected where
  | state
  | captures
  | text
  deriving DecidableEq, Repr

/-- Why a JSON value is no outcome. -/
inductive DecodeError where
  /-- A value of another type. -/
  | type (found : Json) (expected : Expected)
  /-- An array with fewer than two items. -/
  | tooShort (length : Nat)
  /-- An array with more than two items. -/
  | tooLong (length : Nat)
  /-- An object without captures. -/
  | noCaptures
  deriving Repr

/-- The name of what was expected. -/
def Expected.name : Expected → String
  | state => "struct MatchState"
  | captures => "a sequence"
  | text => "a string"

/-- The description of a value by its type; scalars are shown. -/
def Json.describe : Json → Text
  | null => "null".toList
  | bool b => "boolean \x60".toList ++ (if b then "true" else "false").toList ++ ['\x60']
  | int n => "integer \x60".toList ++ Text.decimal n ++ ['\x60']
  | float f => "floating point \x60".toList ++ f.decimal ++ ['\x60']
  | str t => "string ".toList ++ Text.quoted t
  | arr _ => "sequence".toList
  | obj _ => "map".toList

/-- The wording of a cause. -/
def DecodeError.message : DecodeError → Text
  | type found expected =>
    "invalid type: ".toList ++ found.describe ++ (", expected " ++ expected.name).toList
  | tooShort n =>
    ("invalid length " ++ toString n ++ ", expected struct MatchState with 2 elements").toList
  | tooLong n => ("invalid length " ++ toString n ++ ", expected fewer elements in array").toList
  | noCaptures => "missing field \x60captures\x60".toList

/-- Reads a text or null. -/
def Json.toOptionText : Json → Except DecodeError (Option Text)
  | null => .ok none
  | str t => .ok (some t)
  | v => .error (.type v .text)

/-- Reads the texts of groups. -/
def Json.toCaptures : Json → Except DecodeError (List (Option Text))
  | arr items => items.mapM toOptionText
  | v => .error (.type v .captures)

namespace Outcome

/-- The JSON value of an outcome. -/
def toJson (o : Outcome) : Json :=
  .obj [("text".toList, .ofOption o.text), ("captures".toList, .arr (o.captures.map .ofOption))]

/-- Reads an outcome. Of an object the captures are judged before the text, and what is missing
    last. -/
def ofJson : Json → Except DecodeError Outcome
  | .obj fields => do
    let captures ← (fields.lookup "captures".toList).mapM Json.toCaptures
    let text ← (fields.lookup "text".toList).mapM Json.toOptionText
    match captures with
    | some captures => return ⟨text.join, captures⟩
    | none => .error .noCaptures
  | .arr [] => .error (.tooShort 0)
  | .arr (t :: rest) => do
    let text ← t.toOptionText
    match rest with
    | [] => .error (.tooShort 1)
    | c :: more =>
      let captures ← c.toCaptures
      if more.isEmpty then return ⟨text, captures⟩
      else .error (.tooLong (more.length + 2))
  | v => .error (.type v .state)

end Outcome

end TextScan
