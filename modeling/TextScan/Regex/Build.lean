import TextScan.Regex.Engine
import TextScan.Regex.Expr.OfTree
import TextScan.Regex.Reading
import TextScan.Regex.Report
import TextScan.Regex.Run
import TextScan.Regex.Size

namespace TextScan.Regex

/-!
# The engine of this library

It reads a source, brings it into normal form under a database of characters and writes the program,
unless that would take more space than allowed. Matches are those of the program.

* `Expr.ofText` is the normal form of a source.
* `Program.spans?` is the match of a program as ranges of bytes.
* `Engine.ofDatabase` is the engine over a database, `engine` the one over that of the library.
-/

/-- The greatest size where none is named: ten times 2^20 bytes. -/
def usualLimit : Nat := 10 * Nat.pow 2 20

/-- The normal form of a source. -/
def Expr.ofText (db : Unicode.Database) (c : Switches) (source : Text) : Except Refusal Expr := do
  let tree ← Tree.ofText c.verbose source
  let (e, _) ← Expr.ofTree db c.toFlags tree
  return e

/-- The ranges between pairs of slots; nothing for a pair that was not noted. -/
def slotRanges (text : Text) : List (Option Text) → List (Option ByteRange)
  | start :: stop :: rest =>
    (match start, stop with
      | some a, some b => some ⟨text.byteSize - a.byteSize, text.byteSize - b.byteSize⟩
      | _, _ => none) :: slotRanges text rest
  | _ => []

/-- Where a match lies in a text. `unread` is what is unread where it starts. -/
def Spans.ofMatch (text unread : Text) (m : Match) : Spans where
  whole := ⟨text.byteSize - unread.byteSize, text.byteSize - m.rest.byteSize⟩
  groups := slotRanges text m.slots

/-- The first match of a program in a text, or the one at its start if `anchored`. -/
def Program.spans? (p : Program) (anchored : Bool) (text : Text) : Option Spans :=
  if anchored then (p.matchAt none text).map (Spans.ofMatch text text)
  else (p.find text).map fun (unread, m) => Spans.ofMatch text unread m

/-- Why there is no program for a source. -/
inductive BuildError where
  /-- The source is no regular expression. -/
  | refused (r : Refusal)
  /-- The automaton for the source would be larger than the limit. -/
  | tooLarge (limit : Nat)
  deriving DecidableEq, Repr

namespace BuildError

/-- Whether the source is too large or nested too deeply. -/
def isLimit : BuildError → Bool
  | refused r => r.fault = .nestedTooDeep
  | tooLarge _ => true

/-- The report on a source without a program. -/
def report (source : Text) : BuildError → Text
  | refused r => r.report source
  | tooLarge limit =>
    ("Compiled regex exceeds size limit of " ++ toString limit ++ " bytes.").toList

/-- The short form of the report, which only names the stage that failed. -/
def summary : BuildError → Text
  | refused _ => "error parsing pattern 0".toList
  | tooLarge _ => "error building NFA".toList

end BuildError

/-- The program for an expression, if it is not too large. -/
def Program.compile (limit : Option Nat) (e : Expr) : Except BuildError Program :=
  let limit := limit.getD usualLimit
  if e.fits limit then .ok (Program.ofExpr e) else .error (.tooLarge limit)

/-- The engine over a database of characters. -/
abbrev Engine.ofDatabase (db : Unicode.Database) : Engine where
  Program := Regex.Program
  Fault := BuildError
  read c source := (Expr.ofText db c source).mapError .refused
  compile := Regex.Program.compile
  spans? := Regex.Program.spans?
  isLimit := BuildError.isLimit
  report := BuildError.report
  summary := BuildError.summary

/-- The engine over the database of this library. -/
abbrev engine : Engine := .ofDatabase Unicode.database

end TextScan.Regex
