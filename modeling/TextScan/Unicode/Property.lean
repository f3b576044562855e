import TextScan.Unicode.Alphabetic
import TextScan.Unicode.Blank
import TextScan.Unicode.Digit
import TextScan.Unicode.Letter
import TextScan.Unicode.Punctuation
import TextScan.Unicode.Script

namespace TextScan.Unicode

/-!
# Some properties by name

Names are matched loosely: case, blanks, hyphens, underscores and a leading "is" do not count. The
character database has far more names than are listed here; these are the ones in common use.

* `looseName` is the form in which names are compared.
* `binaryProperties`, `generalCategories` and `scripts` list the names.
* `named?` finds a property, a general category or a script, in this order.
* `valued` finds a value of one of the two properties that have values here.
-/

/-- The form in which names are compared. -/
def looseName (name : Text) : Text :=
  let rest := match name with
    | a :: b :: r => if (a = 'i' ∨ a = 'I') ∧ (b = 's' ∨ b = 'S') then r else name
    | _ => name
  (rest.filter fun c => decide (c.toNat < 128) && c != ' ' && c != '_' && c != '-').map Char.toLower

/-- The set that a table of loose names gives to a name. -/
def find? (table : List (String × CharSet)) (name : Text) : Option CharSet :=
  table.findSome? fun (known, set) => if known.toList = looseName name then some set else none

/-- Some of the properties that a character has or has not. -/
def binaryProperties : List (String × CharSet) :=
  [("alphabetic", alphabetic), ("alpha", alphabetic), ("lowercase", lowercase),
    ("lower", lowercase), ("uppercase", uppercase), ("upper", uppercase),
    ("whitespace", whiteSpace), ("wspace", whiteSpace), ("space", whiteSpace)]

/-- Some of the general categories, and two sets that may be named in their place. -/
def generalCategories : List (String × CharSet) :=
  [("l", letter), ("letter", letter), ("ll", lowercaseLetter), ("lowercaseletter", lowercaseLetter),
    ("lu", uppercaseLetter), ("uppercaseletter", uppercaseLetter), ("n", number),
    ("number", number), ("nd", decimalDigit), ("decimalnumber", decimalDigit),
    ("digit", decimalDigit), ("p", punctuation), ("punctuation", punctuation),
    ("punct", punctuation), ("any", CharSet.all), ("ascii", CharSet.ofRange '\x00' '\x7f')]

/-- Some of the scripts. -/
def scripts : List (String × CharSet) :=
  [("cyrillic", cyrillic), ("cyrl", cyrillic), ("greek", greek), ("grek", greek), ("han", han),
    ("hani", han), ("latin", latin), ("latn", latin)]

/-- The set that a name alone stands for, if it is listed. -/
def named? (name : Text) : Option CharSet :=
  ((find? binaryProperties name).or (find? generalCategories name)).or (find? scripts name)

/-- What is not known in a pair of a property and its value. -/
inductive Missing where
  | property
  | value
  deriving DecidableEq, Repr

/-- The set that a value of a property stands for, if both are listed. -/
def valued (name value : Text) : Except Missing CharSet :=
  let property := String.ofList (looseName name)
  let found :=
    if property = "gc" ∨ property = "generalcategory" then some (find? generalCategories value)
    else if property = "sc" ∨ property = "script" then some (find? scripts value)
    else if (find? binaryProperties name).isSome then some none
    else none
  match found with
  | some (some set) => .ok set
  | some none => .error .value
  | none => .error .property

end TextScan.Unicode
