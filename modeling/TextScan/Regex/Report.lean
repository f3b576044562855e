import TextScan.Regex.Fault

namespace TextScan.Regex

/-!
# Reports on refused sources

A report shows the source with carets below the part at fault, and names the cause.

* `splitLines` cuts a source into its lines.
* `Spot.ofUnread` finds the line and the column of a place.
* `Refusal.report` writes the report. A source of one line is indented; a source of several lines is
  numbered and framed, and a part that crosses lines is named by its ends instead of carets.
-/

/-- The lines of a text without their ends; a carriage return before a line feed belongs to the end.
    -/
def splitLines : Text → List Text
  | [] => []
  | '\r' :: '\n' :: r => [] :: splitLines r
  | c :: r =>
    if c = '\n' then [] :: splitLines r
    else
      match splitLines r with
      | [] => [[c]]
      | line :: lines => (c :: line) :: lines

/-- A place as line and column, both counted from zero. -/
structure Spot where
  line : Nat
  column : Nat
  deriving DecidableEq, Repr

/-- The spot of the place with `unread` characters behind it. -/
def Spot.ofUnread (source : Text) (unread : Nat) : Spot :=
  let before := source.take (source.length - unread)
  ⟨before.count '\n', (before.reverse.takeWhile (· != '\n')).length⟩

/-- The two ends of a part. -/
structure Stretch where
  first : Spot
  stop : Spot
  deriving DecidableEq, Repr

/-- The parts that a refusal points at, in the order of the source. -/
def Refusal.stretches (source : Text) (r : Refusal) : List Stretch :=
  let spans := match r.earlier with
    | none => [r.span]
    | some e => if e.start ≥ r.span.start then [e, r.span] else [r.span, e]
  spans.map fun s => ⟨Spot.ofUnread source s.start, Spot.ofUnread source s.stop⟩

/-- Carets for the given stretches of one line, from the column `at` on. A stretch without
    characters gets one caret. -/
def carets (column : Nat) : List Stretch → Text
  | [] => []
  | s :: rest =>
    let width := max 1 (s.stop.column - s.first.column)
    List.replicate (s.first.column - column) ' ' ++ List.replicate width '^' ++
      carets (max column s.first.column + width) rest

/-- What stands before a line: blanks, or its number. -/
def lineHead (numberWidth line : Nat) : Text :=
  if numberWidth = 0 then List.replicate 4 ' '
  else
    let number := (toString (line + 1)).toList
    List.replicate (numberWidth - number.length) ' ' ++ number ++ [':', ' ']

/-- The lines with their heads, and below each the carets for what is at fault in it. -/
def annotate (numberWidth : Nat) (marks : List Stretch) : Nat → List Text → Text
  | _, [] => []
  | n, line :: lines =>
    let here := marks.filter fun s => s.first.line = n && s.stop.line = n
    let head := lineHead numberWidth n
    head ++ line ++ ['\n'] ++
      (if here.isEmpty then []
      else List.replicate head.length ' ' ++ carets 0 here ++ ['\n']) ++
      annotate numberWidth marks (n + 1) lines

/-- The sentence on a part that crosses lines. -/
def crossing (s : Stretch) : String :=
  "on line " ++ toString (s.first.line + 1) ++ " (column " ++ toString (s.first.column + 1) ++
    ") through line " ++ toString (s.stop.line + 1) ++ " (column " ++ toString s.stop.column ++ ")"

/-- The report on a refused source. -/
def Refusal.report (source : Text) (r : Refusal) : Text :=
  let marks := r.stretches source
  let lines := splitLines source
  let title := "regex parse error:\n".toList
  let cause := ("error: " ++ r.fault.message).toList
  if source.contains '\n' then
    let count := lines.length + (if source.getLast? = some '\n' then 1 else 0)
    let frame := List.replicate 79 '~' ++ ['\n']
    let far := marks.filter fun s => s.first.line != s.stop.line
    title ++ frame ++ annotate (toString count).length marks 0 lines ++ frame ++
      far.flatMap (fun s => (crossing s ++ "\n").toList) ++ cause
  else title ++ annotate 0 marks 0 lines ++ cause

end TextScan.Regex
