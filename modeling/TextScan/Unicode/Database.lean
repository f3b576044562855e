import TextScan.Unicode.Fold
import TextScan.Unicode.Property
import TextScan.Unicode.Word

namespace TextScan.Unicode

/-!
# Databases of characters

Classes of regular expressions, and case, are what a database says. Databases differ: each release
adds characters, and there are many more properties than a text is likely to ask for.

* `Database` is what a regular expression can ask for.
* `database` is the one of this library. It knows a few properties by name: those of
  `binaryProperties`, `generalCategories` and `scripts`.

All tables of the library are of version 17.0. An engine that follows an earlier version differs
from it at the characters that were added since, and in the sizes of classes that contain them. Where
this one has been compared with another engine, versions 16.0 and 17.0 give the same answers.

What holds of regular expressions holds for any database, unless it says something else.
-/

/-- What is known of characters. -/
structure Database where
  /-- Decimal digits. -/
  decimalDigit : CharSet
  /-- Blanks. -/
  whiteSpace : CharSet
  /-- Characters of words. -/
  wordChar : CharSet
  /-- The code points that differ only in case, by what they have in common. -/
  caseOrbits : List (List Nat)
  /-- The set that a name alone stands for. -/
  named? : Text → Option CharSet
  /-- The set that a value of a property stands for. -/
  valued : Text → Text → Except Missing CharSet

/-- The set with everything that differs from a member only in case. -/
def Database.closeCase (db : Database) (s : CharSet) : CharSet := s.closeUnder db.caseOrbits

/-- The database of this library. -/
def database : Database where
  decimalDigit := decimalDigit
  whiteSpace := whiteSpace
  wordChar := wordChar
  caseOrbits := caseOrbits
  named? := named?
  valued := valued

end TextScan.Unicode
