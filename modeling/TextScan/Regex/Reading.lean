import TextScan.Regex.Reading.Class
import TextScan.Regex.Reading.Group
import TextScan.Regex.Switches

namespace TextScan.Regex

/-!
# Reading a regular expression

The source is read from left to right in one pass. What has been read of the innermost group lies in
a `Level`; the groups around it wait in a list.

* `Reader` is the state between two steps, `Reader.step` reads on by at least one character.
* `Tree.ofText` reads a whole source. It refuses it at the first fault from the left; a group that
  is not closed and too deep nesting show only at the end.
-/

/-- What has been read of a group. -/
structure Level where
  /-- The finished alternatives, last first. -/
  branches : List Tree
  /-- The place where the first alternative begins. -/
  altStart : Nat
  /-- The place where the current alternative begins. -/
  start : Nat
  /-- The parts of the current alternative, last first. -/
  items : List Tree
  deriving Repr

/-- A group that is not closed yet. -/
structure OpenGroup where
  /-- Its opening parenthesis. -/
  span : Span
  kind : GroupKind
  /-- Whether the source around the group is verbose. -/
  verbose : Bool
  /-- What has been read around the group. -/
  level : Level
  deriving Repr

namespace Level

/-- A level of which nothing has been read. -/
def new (place : Nat) : Level := ⟨[], place, place, []⟩

/-- Adds a part to the current alternative. -/
def push (l : Level) (item : Tree) : Level := { l with items := item :: l.items }

/-- The current alternative, up to the place `stop`. -/
def sequence (l : Level) (stop : Nat) : Tree :=
  match l.items with
  | [] => .empty ⟨l.start, stop⟩
  | [item] => item
  | items => .seq ⟨l.start, stop⟩ items.reverse

/-- All that has been read, up to the place `stop`. -/
def tree (l : Level) (stop : Nat) : Tree :=
  match l.branches with
  | [] => l.sequence stop
  | branches => .alt ⟨l.altStart, stop⟩ (l.sequence stop :: branches).reverse

/-- Ends the current alternative at the place `stop` and begins another one at `start`. -/
def branch (l : Level) (stop start : Nat) : Level :=
  { l with branches := l.sequence stop :: l.branches, start := start, items := [] }

/-- Takes back the last part if it can be repeated. -/
def popRepeatable? (l : Level) : Option (Tree × Level) :=
  match l.items with
  | item :: items => if item.repeatable then some (item, { l with items := items }) else none
  | [] => none

end Level

/-- The state of reading between two steps. -/
structure Reader where
  /-- Whether blanks mean nothing at this place. -/
  verbose : Bool
  /-- How many numbered groups have been opened. -/
  groups : Nat
  /-- The names of groups so far. -/
  names : Names
  /-- What has been read of the innermost group. -/
  level : Level
  /-- The open groups, innermost first. -/
  outer : List OpenGroup
  /-- What is unread. -/
  rest : Text
  deriving Repr

/-- Reads a count of a repetition. -/
def readCount (verbose : Bool) (t : Text) : Except Refusal Nat × Text :=
  let (count, rest) := readNumber verbose t
  (count.mapError fun r => if r.fault = .numberEmpty then { r with fault := .countEmpty } else r,
    rest)

/-- The bounds of a counted repetition from behind its opening brace up to its closing brace. The
    count before the comma is judged only where it is used, so a missing brace is reported first. -/
def readBounds (verbose : Bool) (start : Nat) (t : Text) :
    Except Refusal ((Nat × Option Nat) × Text) := do
  let (least, rest) := readCount verbose t
  match rest with
  | [] => refuse .countUnclosed start 0
  | c :: r =>
    if c = ',' then
      match skipBlank verbose r with
      | [] => refuse .countUnclosed start 0
      | c :: r =>
        let n ← least
        if c = '\x7d' then return ((n, none), c :: r)
        else
          let (most, rest) := readCount verbose (c :: r)
          return ((n, some (← most)), rest)
    else
      let n ← least
      return ((n, some n), rest)

namespace Reader

/-- The state before a source is read. -/
def new (verbose : Bool) (source : Text) : Reader :=
  ⟨verbose, 0, [], Level.new source.length, [], source⟩

/-- Reads a question mark behind a repetition, which makes it prefer few rounds. -/
def takeLazy (t : Text) : Bool × Text :=
  match t with
  | '?' :: r => (true, r)
  | _ => (false, t)

/-- Repeats the last part. -/
def loop (s : Reader) (item : Tree) (level : Level) (min : Nat) (max : Option Nat) (isLazy : Bool)
    (rest : Text) : Reader :=
  { s with
    level := level.push (.loop ⟨item.span.start, rest.length⟩ min max (!isLazy) item)
    rest := rest }

/-- Reads one of the repetitions `?`, `*` and `+`. -/
def stepSimpleLoop (s : Reader) (min : Nat) (max : Option Nat) : Except Refusal Reader :=
  match s.level.popRepeatable? with
  | none => refuse .repeatNothing s.rest.length s.rest.length
  | some (item, level) =>
    let (isLazy, rest) := takeLazy s.rest.tail
    .ok (s.loop item level min max isLazy rest)

/-- Reads a counted repetition from its opening brace on. -/
def stepCountedLoop (s : Reader) : Except Refusal Reader :=
  let start := s.rest.length
  match s.level.popRepeatable? with
  | none => refuse .repeatNothing start start
  | some (item, level) =>
    match next s.verbose s.rest with
    | [] => refuse .countUnclosed start 0
    | t => do
      let ((min, max), rest) ← readBounds s.verbose start t
      match rest with
      | '\x7d' :: r =>
        let (isLazy, rest) := takeLazy (skipBlank s.verbose r)
        -- The order of the bounds is judged last, behind the question mark.
        if max.all (min ≤ ·) then return s.loop item level min max isLazy rest
        else refuse .countOrder start rest.length
      | rest => refuse .countUnclosed start rest.length

/-- Opens a group, or takes in flags that stand alone. -/
def stepOpen (s : Reader) : Except Refusal Reader := do
  let (opening, rest) ← readOpening s.verbose s.names s.rest
  let enter := fun (kind : GroupKind) (verbose : Bool) =>
    { s with
      verbose := verbose
      level := Level.new rest.length
      outer := ⟨charSpan s.rest, kind, s.verbose, s.level⟩ :: s.outer
      rest := rest }
  match opening with
  | .directive flags =>
    return { s with
      verbose := flags.verbose?.getD s.verbose
      level := s.level.push (.flags ⟨s.rest.length, rest.length⟩ flags)
      rest := rest }
  | .plain flags => return enter (.plain flags) (flags.verbose?.getD s.verbose)
  | .capturing name =>
    return { enter (.capturing (s.groups + 1)) s.verbose with
      groups := s.groups + 1
      names := name.toList ++ s.names }

/-- Closes the innermost group. -/
def stepClose (s : Reader) : Except Refusal Reader :=
  match s.outer with
  | [] => refuseSpan .groupUnopened (charSpan s.rest)
  | group :: outer =>
    let rest := s.rest.tail
    -- The group becomes a part of what has been read around it.
    let body := s.level.tree s.rest.length
    .ok { s with
      verbose := group.verbose
      level := group.level.push (.group ⟨group.span.start, rest.length⟩ group.kind body)
      outer := outer
      rest := rest }

/-- Adds a part that is read already. -/
def push (s : Reader) (part : Tree × Text) : Reader :=
  { s with level := s.level.push part.1, rest := part.2 }

/-- Reads on from the character `c`, the first unread one, before `r`. -/
def step (s : Reader) (c : Char) (r : Text) : Except Refusal Reader :=
  match c with
  | '(' => s.stepOpen
  | ')' => s.stepClose
  | '|' => .ok { s with level := s.level.branch s.rest.length r.length, rest := r }
  | '[' => s.push <$> readClass s.verbose s.rest
  | '?' => s.stepSimpleLoop 0 (some 1)
  | '*' => s.stepSimpleLoop 0 none
  | '+' => s.stepSimpleLoop 1 none
  | '\x7b' => s.stepCountedLoop
  | '\\' => s.push <$> readEscape s.verbose s.rest.length r
  | '.' => .ok (s.push (.dot (charSpan s.rest), r))
  | '^' => .ok (s.push (.anchor (charSpan s.rest) .lineStart, r))
  | '$' => .ok (s.push (.anchor (charSpan s.rest) .lineEnd, r))
  | c => .ok (s.push (.literal ⟨charSpan s.rest, c, false⟩, r))

/-- The tree of all that has been read, if no group is left open. -/
def finish (s : Reader) : Except Refusal Tree :=
  match s.outer with
  | [] => .ok (s.level.tree s.rest.length)
  | group :: _ => refuseSpan .groupUnclosed group.span

/-- Reads to the end. Every step reads a character, so the number of unread characters bounds the
    steps. -/
def run : Nat → Reader → Except Refusal Tree
  | 0, s => s.finish
  | fuel + 1, s =>
    match skipBlank s.verbose s.rest with
    | [] => finish { s with rest := [] }
    | c :: r => do run fuel (← { s with rest := c :: r }.step c r)

end Reader

/-- The tree of a source, or why it is refused. -/
def Tree.ofText (verbose : Bool) (source : Text) : Except Refusal Tree := do
  let tree ← Reader.run source.length (Reader.new verbose source)
  match tree.deep? nestLimit with
  | some span => refuseSpan .nestedTooDeep span
  | none => return tree

end TextScan.Regex
