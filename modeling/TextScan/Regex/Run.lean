import TextScan.Regex.Program

namespace TextScan.Regex

/-!
# Running a program

A run keeps the ways in which the text can be read so far, in order of preference. Between two
characters every way is followed up to the instructions that read a character or accept. A way that
arrives where a preferred one has been is dropped. A way that accepts ends the less preferred ones.

* `Look.holds` says when a test of a place succeeds.
* `Program.settle` follows the ways between two characters, `Program.advance` over a character.
* `Program.matchAt` finds the preferred match at the start of a text, `Program.find` the first match
  in it.

All answers depend only on the unread text and on the character before it.
-/

/-- Whether a test succeeds between the character `before` and the text `after`. -/
def Look.holds (before : Option Char) (after : Text) : Look → Bool
  | textStart => before.isNone
  | textEnd => after.isEmpty
  | lineStart => before.isNone || before = some '\n'
  | lineEnd => after.isEmpty || after.head? = some '\n'
  | crlfLineStart =>
    before.isNone || before = some '\n' || (before = some '\r' && after.head? != some '\n')
  | crlfLineEnd =>
    after.isEmpty || after.head? = some '\r' || (after.head? = some '\n' && before != some '\r')
  | boundary words => before.any words.contains != after.head?.any words.contains
  | notBoundary words => before.any words.contains == after.head?.any words.contains
  | wordStart words => !before.any words.contains && after.head?.any words.contains
  | wordEnd words => before.any words.contains && !after.head?.any words.contains
  | wordStartHalf words => !before.any words.contains
  | wordEndHalf words => !after.head?.any words.contains

/-- A way of reading the text: the next instruction, and for each slot what was unread when it was
    noted. -/
structure Way where
  pc : Nat
  slots : List (Option Text)
  deriving DecidableEq, Repr

/-- The result of a match: what is unread behind it, and the slots. -/
structure Match where
  rest : Text
  slots : List (Option Text)
  deriving DecidableEq, Repr

namespace Program

/-- Follows the ways up to instructions that read a character or accept, in order of preference.
    `seen` holds the instructions that have been reached at this place. Every instruction leads to
    at most two others and is followed once, which bounds the rounds. -/
def settle (p : Program) (before : Option Char) (after : Text) :
    Nat → List Nat → List Way → List Way
  | 0, _, _ => []
  | _ + 1, _, [] => []
  | fuel + 1, seen, way :: ways =>
    -- A preferred way has been here, with the same text to come.
    if seen.contains way.pc then settle p before after fuel seen ways
    else
      let seen := way.pc :: seen
      match p.code[way.pc]? with
      -- The way accepts, or it waits for a character. It stays as it is.
      | none => way :: settle p before after fuel seen ways
      | some (.one _) => way :: settle p before after fuel seen ways
      | some (.jump target) => settle p before after fuel seen ({ way with pc := target } :: ways)
      | some (.split first second) =>
        settle p before after fuel seen
          ({ way with pc := first } :: { way with pc := second } :: ways)
      | some (.look test) =>
        if test.holds before after then
          settle p before after fuel seen ({ way with pc := way.pc + 1 } :: ways)
        else settle p before after fuel seen ways
      | some (.save slot) =>
        settle p before after fuel seen
          (⟨way.pc + 1, way.slots.set slot (some after)⟩ :: ways)

/-- The settled ways that come from the given ones. -/
def settled (p : Program) (before : Option Char) (after : Text) (ways : List Way) : List Way :=
  p.settle before after (ways.length + 2 * p.code.size + 3) [] ways

/-- The ways behind the character `c`, up to the first one that accepts before it. -/
def advance (p : Program) (c : Char) : List Way → List Way
  | [] => []
  | way :: ways =>
    match p.code[way.pc]? with
    | some (.one set) =>
      if set.contains c then { way with pc := way.pc + 1 } :: advance p c ways else advance p c ways
    -- This way accepts, so the less preferred ones behind it end.
    | _ => []

/-- The first way that accepts. -/
def accepted? (p : Program) (ways : List Way) : Option Way :=
  ways.find? fun way => (p.code[way.pc]?).isNone

/-- Reads on with the given ways; `best` is the preferred one of the matches found so far. -/
def run (p : Program) (best : Option Match) (before : Option Char) :
    Text → List Way → Option Match
  | [], ways =>
    match p.accepted? (p.settled before [] ways) with
    | some way => some ⟨[], way.slots⟩
    | none => best
  | c :: r, ways =>
    let ways := p.settled before (c :: r) ways
    -- Only ways preferred to an earlier match are left, so a match here takes its place.
    let best := match p.accepted? ways with
      | some way => some ⟨c :: r, way.slots⟩
      | none => best
    match p.advance c ways with
    | [] => best
    | ways => run p best (some c) r ways

/-- The preferred match at the start of `after`, where `before` is the character before it. -/
def matchAt (p : Program) (before : Option Char) (after : Text) : Option Match :=
  p.run none before after [⟨0, List.replicate (2 * p.groups) none⟩]

/-- The first place at which a match starts, with what is unread there and the preferred match. -/
def findFrom (p : Program) (before : Option Char) : Text → Option (Text × Match)
  | [] => (p.matchAt before []).map fun m => ([], m)
  | c :: r =>
    match p.matchAt before (c :: r) with
    | some m => some (c :: r, m)
    | none => findFrom p (some c) r

/-- The first match in a text. -/
def find (p : Program) (text : Text) : Option (Text × Match) := p.findFrom none text

end Program

end TextScan.Regex
