import TextScan.Pattern.Regex
import TextScan.Session

namespace TextScan

/-!
# Checked runs

A checked run carries out operations on one scanner and, after each of them, tests what the
operation promises. Copies made along the way are tested at the end.

* `Trial` names the operations, with patterns taken from a fixed table.
* `Attempt.keptPromise`, `Scanner.inOrder` and `CheckedRun.copiesInOrder` are the tests.
* `checkedRun` gives all events of a run, or nothing if a test fails.
-/

/-- The operations of a checked run. A pattern is given by its number in the table. -/
inductive Trial where
  | attempt (how : Attempt) (pattern : Nat)
  | takeLiteral (t : Text)
  | takeChar
  | peek (n : Nat)
  | moveTo (pos : Int)
  | append (t : Text)
  | restart
  | finish
  | share
  | fork
  deriving DecidableEq, Repr

/-- The sources of the patterns in the table. -/
def trialSources : List String :=
  ["\\w+", "\\d*", "\\s+", "[a-c]", "(a)(b)?", "", ".", "\\p\x7bL\x7d+", "x|y|z", "\\n", "$", "^"]

/-- The patterns of the table. -/
def trialPatterns : Except PatternError (List SearchRegex) :=
  trialSources.mapM fun source => SearchRegex.new? source.toList

/-- The pattern of a number; the numbers wrap around. -/
def trialPattern? (n : Nat) : Option Pattern :=
  match trialPatterns with
  | .ok patterns => patterns[n % trialSources.length]?.map (·.toPattern)
  | .error _ => none

/-- What an attempt promises about the scanner before and after it and about its result. A text is
    the outcome's text, a number is its length, and the cursor moves exactly as far as was passed.
    -/
def Attempt.keptPromise (before after : Scanner) : Attempt → Result → Bool
  | .look, .text r => r = after.outcome.text && after.pos = before.pos
  | .take, .text r =>
    r = after.outcome.text && after.pos = before.pos + (r.map List.length).getD 0
  | .lookThrough, .text r =>
    r = after.outcome.text && after.pos = before.pos && r.all fun m => m.isPrefixOf after.rest
  | .takeThrough, .text r =>
    r = after.outcome.text && after.pos = before.pos + (r.map List.length).getD 0 &&
      r.all fun m => m.isPrefixOf before.rest
  | .locate, .count r => r.isSome = after.outcome.isSuccess && after.pos = before.pos
  | .skip, .count r => after.pos = before.pos + r.getD 0
  | .skipThrough, .count r => after.pos = before.pos + r.getD 0
  | .measure, .count r => r = after.outcome.length? && after.pos = before.pos
  | _, _ => false

/-- What holds of a scanner over `text` at any time: the cursor is in the text, the end is where it
    should be, and the outcome has a length exactly if there is a match. -/
def Scanner.inOrder (s : Scanner) (text : Text) : Bool :=
  s.pos ≤ text.length && s.atEnd = decide (s.pos = text.length) &&
    s.outcome.isSuccess = s.outcome.length?.isSome

/-- A run: scanner number zero is the one under test, the others are its copies. `text` is the text
    as it should be. -/
structure CheckedRun where
  session : Session
  text : Text
  deriving Repr

namespace CheckedRun

/-- The start of a run. -/
def new (text : Text) : CheckedRun := ⟨Session.empty.new text, text⟩

/-- The scanner under test. -/
def scanner (r : CheckedRun) : Scanner := (r.session.scanner? 0).getD (Scanner.new [])

/-- Carries out an operation and tests its result and the scanner behind it. -/
def perform (r : CheckedRun) (a : Action) (test : Result → Scanner → Bool) :
    Option (CheckedRun × List Event) :=
  match r.session.act 0 a with
  | some (result, session, events) =>
    let r := { r with session := session }
    if test result r.scanner then some (r, events) else none
  | none => none

/-- Adds a copy and tests the session behind it. -/
def addCopy (r : CheckedRun) (session : Option Session) (test : Session → Nat → Bool) :
    Option (CheckedRun × List Event) :=
  match session with
  | some session =>
    if test session r.session.seats.length then some ({ r with session := session }, []) else none
  | none => none

/-- Carries out an operation with the tests of its own. -/
def trial (r : CheckedRun) (t : Trial) : Option (CheckedRun × List Event) :=
  let before := r.scanner
  match t with
  | .attempt how n =>
    (trialPattern? n).bind fun p =>
      r.perform (.attempt how p) fun result after => how.keptPromise before after result
  | .takeLiteral lit =>
    r.perform (.attempt .take (.literal lit)) fun result _ =>
      match result with
      | .text m => m.isSome = lit.isPrefixOf before.rest
      | _ => false
  | .takeChar =>
    r.perform .takeChar fun result _ =>
      match result with
      | .text m => m.isNone = before.atEnd
      | _ => false
  | .peek n =>
    let peeked := before.peek n
    if peeked.isPrefixOf before.rest && peeked.length ≤ n then some (r, []) else none
  | .moveTo pos =>
    r.perform (.moveTo pos) fun result after =>
      result = .position (min pos.toNat r.text.length) && after.outcome = before.outcome
  | .append more =>
    -- The text as it should be grows apart from the scanner, which has to agree.
    let text := r.text ++ more
    { r with text := text }.perform (.append more) fun _ after =>
      after.text = text && after.pos = before.pos
  | .restart => r.perform .restart fun _ after => after.pos = 0 && !after.outcome.isSuccess
  | .finish => r.perform .finish fun _ after => after.atEnd && !after.outcome.isSuccess
  | .share => r.addCopy (r.session.share 0) fun session i => session.shares i 0
  | .fork =>
    r.addCopy (r.session.fork 0) fun session i =>
      !session.shares i 0 && (session.scanner? i).map Scanner.outcome = some before.outcome

/-- Carries out an operation with all tests. -/
def step (r : CheckedRun) (t : Trial) : Option (CheckedRun × List Event) :=
  (r.trial t).filter fun (r, _) => r.scanner.inOrder r.text

/-- The tests at the end: the cursor of every copy is in its text, and a copy that still shares
    the outcome sees the same one. -/
def copiesInOrder (r : CheckedRun) : Bool :=
  (List.range r.session.seats.length).all fun i =>
    i = 0 ||
      (r.session.scanner? i).all fun s =>
        s.pos ≤ s.text.length &&
          (!r.session.shares i 0 || decide (s.outcome = r.scanner.outcome))

/-- Carries out operations and the tests at the end. -/
def finish (r : CheckedRun) : List Trial → Option (List Event)
  | [] => if r.copiesInOrder then some [] else none
  | t :: ts => do
    let (r, events) ← r.step t
    return events ++ (← finish r ts)

end CheckedRun

/-- The events of a checked run from a new scanner over `text`, or nothing if a test fails. -/
def checkedRun (text : Text) (trials : List Trial) : Option (List Event) :=
  (CheckedRun.new text).finish trials

end TextScan
