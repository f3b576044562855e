import TextScan.Cursor
import TextScan.Event
import TextScan.Outcome
import TextScan.Pattern

namespace TextScan

/-!
# Scanners

A scanner is a cursor with the outcome of the last attempt to match a pattern. An attempt gives the
pattern nothing but the text behind the cursor. It always replaces the outcome, before the cursor
moves.

* `Scanner.judge` turns the answer of a pattern into an outcome. A match counts only if it is the
  slice of the text that its place names.
* `Scanner.look` and `Scanner.take` try a pattern at the cursor, `Scanner.lookThrough` and
  `Scanner.takeThrough` look for it ahead. The taking ones pass the match.
* `Scanner.locate` tells how far away a match is; `Scanner.measure`, `Scanner.skip` and
  `Scanner.skipThrough` tell how long it is.
* `Action` names the operations on one scanner, `Scanner.act` carries them out.
-/

/-- A cursor with the outcome of the last attempt. -/
structure Scanner extends Cursor where
  outcome : Outcome
  deriving DecidableEq, Repr

/-- The result of an operation, the scanner behind it, and the events in order. -/
structure Effect (α : Type) where
  result : α
  scanner : Scanner
  events : List Event
  deriving Repr

/-- Applies a function to the result of an operation. -/
def Effect.map {α β : Type} (f : α → β) (e : Effect α) : Effect β :=
  ⟨f e.result, e.scanner, e.events⟩

namespace Scanner

/-- A scanner at the start of a text. -/
def new (text : Text) : Scanner := ⟨Cursor.new text, .failure⟩

/-- Replaces the outcome. The result is its text. -/
def setOutcome (s : Scanner) (o : Outcome) : Effect (Option Text) :=
  ⟨o.text, { s with outcome := o }, [.outcomeSet s.pos o.text]⟩

/-- The outcome for a match in `rest`. The match counts only if its text is the slice that it
    names. With `fromCursor` the outcome begins at the start of `rest`. -/
def outcomeIn (rest : Text) (fromCursor : Bool) (m : Found) : Outcome :=
  if rest.slice? m.start m.stop = some m.text then
    -- The end is where the match said. Its text is cut out anew, maybe with what is before it.
    match rest.slice? (if fromCursor then 0 else m.start) m.stop with
    | some text => .success text m.captures
    | none => .failure
  else .failure

/-- Takes in the answer of a pattern. An error leaves the outcome without a match and is passed
    on. -/
def judge (s : Scanner) (fromCursor : Bool) (answer : Answer) :
    Effect (Except PatternError (Option Text)) :=
  match answer with
  | .error err => (s.setOutcome .failure).map fun _ => .error err
  | .ok found =>
    (s.setOutcome ((found.map (outcomeIn s.rest fromCursor)).getD .failure)).map .ok

/-- Tries a pattern at the cursor, which stays. -/
def look (s : Scanner) (p : Pattern) : Effect (Except PatternError (Option Text)) :=
  s.judge false ((p.atStart s.rest).map (·.filter fun m => m.start = 0))

/-- Looks for a pattern ahead of the cursor, which stays. The outcome reaches from the cursor
    through the match. -/
def lookThrough (s : Scanner) (p : Pattern) : Effect (Except PatternError (Option Text)) :=
  s.judge true (p.anywhere s.rest)

/-- Moves the cursor over a matched text. -/
def pass (e : Effect (Except PatternError (Option Text))) :
    Effect (Except PatternError (Option Text)) :=
  match e.result with
  | .ok (some text) =>
    -- The outcome is in place already.
    let s := { e.scanner with toCursor := e.scanner.toCursor.pass text }
    ⟨e.result, s, e.events ++ [.passed s.pos]⟩
  | _ => e

/-- Tries a pattern at the cursor and passes the match. -/
def take (s : Scanner) (p : Pattern) : Effect (Except PatternError (Option Text)) := pass (s.look p)

/-- Looks for a pattern ahead of the cursor and passes the match. -/
def takeThrough (s : Scanner) (p : Pattern) : Effect (Except PatternError (Option Text)) :=
  pass (s.lookThrough p)

/-- Looks for a pattern ahead of the cursor, which stays. The result is the number of characters
    before the match, and the outcome is the match alone. -/
def locate (s : Scanner) (p : Pattern) : Effect (Except PatternError (Option Nat)) :=
  let answer := p.anywhere s.rest
  -- The number is known before the match is judged, and dropped if that fails.
  let offset : Option Nat := match answer with
    | .ok (some m) => (s.rest.takeBytes? m.start).map List.length
    | _ => none
  (s.judge false answer).map (·.map (·.bind fun _ => offset))

/-- Puts the number of characters of the outcome in the place of its text. -/
def measured (e : Effect (Except PatternError (Option Text))) :
    Effect (Except PatternError (Option Nat)) :=
  e.map (·.map fun _ => e.scanner.outcome.length?)

/-- Tells the length of a match at the cursor, which stays. -/
def measure (s : Scanner) (p : Pattern) : Effect (Except PatternError (Option Nat)) :=
  measured (s.look p)

/-- Passes a match at the cursor and tells its length. -/
def skip (s : Scanner) (p : Pattern) : Effect (Except PatternError (Option Nat)) :=
  measured (s.take p)

/-- Passes all up to the end of a match ahead and tells its length. -/
def skipThrough (s : Scanner) (p : Pattern) : Effect (Except PatternError (Option Nat)) :=
  measured (s.takeThrough p)

/-- Passes one character. -/
def takeChar (s : Scanner) : Effect (Option Text) :=
  (s.take .anyChar).map (·.toOption.join)

/-- Moves the cursor to a position within the text. The outcome stays. -/
def moveTo (s : Scanner) (pos : Int) : Effect Nat :=
  let s := { s with toCursor := s.toCursor.moveTo pos }
  ⟨s.pos, s, [.moved s.pos]⟩

/-- Adds text at the end. Cursor and outcome stay. -/
def append (s : Scanner) (more : Text) : Scanner :=
  { s with toCursor := s.toCursor.append more }

/-- Moves the cursor to the start and gives the outcome up. -/
def restart (s : Scanner) : Effect (Option Text) :=
  setOutcome { s with toCursor := s.toCursor.toStart } .failure

/-- Moves the cursor to the end and gives the outcome up. -/
def finish (s : Scanner) : Effect (Option Text) :=
  setOutcome { s with toCursor := s.toCursor.toEnd } .failure

end Scanner

/-! ### Operations by name -/

/-- The ways to try a pattern. -/
inductive Attempt where
  | look | take | lookThrough | takeThrough
  | locate | measure | skip | skipThrough
  deriving DecidableEq, Repr

/-- The operations that change a scanner. -/
inductive Action where
  | attempt (how : Attempt) (p : Pattern)
  | takeChar
  | moveTo (pos : Int)
  | append (more : Text)
  | restart
  | finish

/-- The result of an operation. -/
inductive Result where
  | text (t : Option Text)
  | count (n : Option Nat)
  | failed (e : PatternError)
  | position (n : Nat)
  | done
  deriving DecidableEq, Repr

namespace Result

/-- A text, or an error. -/
def ofText : Except PatternError (Option Text) → Result
  | .ok t => text t
  | .error e => failed e

/-- A number, or an error. -/
def ofCount : Except PatternError (Option Nat) → Result
  | .ok n => count n
  | .error e => failed e

end Result

namespace Scanner

/-- Tries a pattern. -/
def attempt (s : Scanner) (p : Pattern) : Attempt → Effect Result
  | .look => (s.look p).map .ofText
  | .take => (s.take p).map .ofText
  | .lookThrough => (s.lookThrough p).map .ofText
  | .takeThrough => (s.takeThrough p).map .ofText
  | .locate => (s.locate p).map .ofCount
  | .measure => (s.measure p).map .ofCount
  | .skip => (s.skip p).map .ofCount
  | .skipThrough => (s.skipThrough p).map .ofCount

/-- Carries out an operation. -/
def act (s : Scanner) : Action → Effect Result
  | .attempt how p => s.attempt p how
  | .takeChar => s.takeChar.map .text
  | .moveTo pos => (s.moveTo pos).map .position
  | .append more => ⟨.done, s.append more, []⟩
  | .restart => s.restart.map fun _ => .done
  | .finish => s.finish.map fun _ => .done

end Scanner

end TextScan
