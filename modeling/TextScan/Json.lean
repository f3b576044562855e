import TextScan.Text.Decimal

namespace TextScan

/-!
# JSON values and their text

* `Json` is the type of values.
* `Json.write` is the compact text of a value. Within strings it escapes quotation marks,
  backslashes and the characters below the blank, and nothing else. Numbers are written out, without
  an exponent.
-/

/-- A JSON value. -/
inductive Json where
  | null
  | bool (b : Bool)
  | int (n : Int)
  /-- A number that is not held as an integer. -/
  | float (f : Fraction)
  | str (t : Text)
  | arr (items : List Json)
  /-- The fields in their order. -/
  | obj (fields : List (Text × Json))
  deriving Repr, Inhabited

namespace Json

/-- The spelling of a character within a string. -/
def writeChar (c : Char) : Text :=
  if c = '"' then ['\\', '"']
  else if c = '\\' then ['\\', '\\']
  else if c = '\x08' then ['\\', 'b']
  else if c = '\t' then ['\\', 't']
  else if c = '\n' then ['\\', 'n']
  else if c = '\x0c' then ['\\', 'f']
  else if c = '\r' then ['\\', 'r']
  else if c.toNat < 32 then
    ['\\', 'u', '0', '0', Nat.digitChar (c.toNat / 16), Nat.digitChar (c.toNat % 16)]
  else [c]

/-- A string with its quotation marks. -/
def writeString (t : Text) : Text := '"' :: (t.flatMap writeChar ++ ['"'])

mutual

/-- The compact text of a value. -/
def write : Json → Text
  | null => "null".toList
  | bool b => (if b then "true" else "false").toList
  | int n => Text.decimal n
  | float f => f.decimal
  | str t => writeString t
  | arr items => '[' :: (writeItems items ++ [']'])
  | obj fields => '\x7b' :: (writeFields fields ++ ['\x7d'])

/-- The items of an array with commas between them. -/
def writeItems : List Json → Text
  | [] => []
  | [v] => write v
  | v :: vs => write v ++ ',' :: writeItems vs

/-- The fields of an object with commas between them. -/
def writeFields : List (Text × Json) → Text
  | [] => []
  | [(k, v)] => writeString k ++ ':' :: write v
  | (k, v) :: fs => writeString k ++ ':' :: (write v ++ ',' :: writeFields fs)

end

/-- A text that may be missing; a missing one is null. -/
def ofOption : Option Text → Json
  | none => null
  | some t => str t

end Json

end TextScan
