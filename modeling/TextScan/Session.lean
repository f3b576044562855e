import TextScan.Scanner

namespace TextScan

/-!
# Sessions of several scanners

The scanners of a session are numbered. Each has a cursor of its own, and keeps the outcome of
attempts in a slot. A scanner can be copied so that the copy shares its slot; an attempt of one of
them is then seen by both, until one is detached.

* `Session.scanner?` is a scanner as it stands.
* `Session.act` carries out an operation on one scanner; all that share its slot see the outcome.
* `Session.share`, `Session.fork` and `Session.detach` decide who shares.
* `Command` names the steps of a session, `Session.step` carries them out.
-/

/-- A scanner of a session: its cursor, and the number of its slot. -/
structure Seat where
  cursor : Cursor
  slot : Nat
  deriving DecidableEq, Repr

/-- The scanners of a session, and the outcomes in their slots. -/
structure Session where
  seats : List Seat
  slots : List Outcome
  deriving DecidableEq, Repr

namespace Session

/-- The session without scanners. -/
def empty : Session := ⟨[], []⟩

/-- The outcome in a slot. -/
def outcomeIn (s : Session) (slot : Nat) : Outcome := s.slots.getD slot .failure

/-- The scanner of a seat. -/
def scannerAt (s : Session) (seat : Seat) : Scanner := ⟨seat.cursor, s.outcomeIn seat.slot⟩

/-- Scanner number `i`. -/
def scanner? (s : Session) (i : Nat) : Option Scanner := s.seats[i]?.map s.scannerAt

/-- All scanners in order. -/
def scanners (s : Session) : List Scanner := s.seats.map s.scannerAt

/-- Adds a scanner at the start of a text, with a slot of its own. -/
def new (s : Session) (text : Text) : Session :=
  ⟨s.seats ++ [⟨Cursor.new text, s.slots.length⟩], s.slots ++ [.failure]⟩

/-- Carries out an operation on scanner number `i`. -/
def act (s : Session) (i : Nat) (a : Action) : Option (Result × Session × List Event) :=
  s.seats[i]?.map fun seat =>
    let e := (s.scannerAt seat).act a
    (e.result,
      ⟨s.seats.set i { seat with cursor := e.scanner.toCursor },
        s.slots.set seat.slot e.scanner.outcome⟩,
      e.events)

/-- Adds a copy of scanner number `i` that shares its slot. -/
def share (s : Session) (i : Nat) : Option Session :=
  s.seats[i]?.map fun seat => { s with seats := s.seats ++ [seat] }

/-- Gives scanner number `i` a slot of its own, which begins with what the scanner sees. -/
def detach (s : Session) (i : Nat) : Option Session :=
  s.seats[i]?.map fun seat =>
    ⟨s.seats.set i { seat with slot := s.slots.length }, s.slots ++ [s.outcomeIn seat.slot]⟩

/-- Adds a copy of scanner number `i` with a slot of its own, which begins with what the scanner
    sees. -/
def fork (s : Session) (i : Nat) : Option Session :=
  (s.share i).bind fun t => t.detach s.seats.length

/-- Whether two scanners share their slot. -/
def shares (s : Session) (i j : Nat) : Bool :=
  match s.seats[i]?, s.seats[j]? with
  | some a, some b => a.slot = b.slot
  | _, _ => false

end Session

/-- A step of a session. -/
inductive Command where
  /-- Adds a scanner. -/
  | new (text : Text)
  | act (i : Nat) (a : Action)
  | share (i : Nat)
  | fork (i : Nat)
  | detach (i : Nat)

namespace Session

/-- Carries out a step. There is no answer if a scanner that it names does not exist. -/
def step (s : Session) : Command → Option (Result × Session × List Event)
  | .new text => some (.done, s.new text, [])
  | .act i a => s.act i a
  | .share i => (s.share i).map fun t => (.done, t, [])
  | .fork i => (s.fork i).map fun t => (.done, t, [])
  | .detach i => (s.detach i).map fun t => (.done, t, [])

end Session

end TextScan
