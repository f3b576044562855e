import TextScan.Proofs.Attempt

namespace TextScan

/-!
# Scanners without bytes

A plain scanner is a list of characters, a number of characters that have been read, and the last
match if there is one. Its operations are written down as one explains them: a match is so many
characters ahead, and passing it adds its length. A scanner that counts in bytes does the same.

* `PlainScanner` is the type of plain scanners, `PlainScanner.act` carries out an operation.
* `Pattern.Genuine` says that what a pattern reports can be found in the text. How many characters
  lie before it is `Found.charsBefore`.
* `View` is all that can be asked of a scanner, `Scanner.history` what a run replies and shows.
* `Scanner.Refines` relates a scanner to a plain one, and every operation keeps it.
* `Scanner.history_eq_plain` is the result for runs.
-/

/-! ### Genuine matches -/

/-- A match is a part of the text: it starts where a character ends, and its text stands there. -/
def Found.GenuineIn (m : Found) (t : Text) : Prop :=
  ∃ u v, t = u ++ (m.text ++ v) ∧ u.byteSize = m.start

/-- Whatever the pattern reports is a part of the text it was given. -/
def Pattern.Genuine (p : Pattern) : Prop :=
  ∀ t m, p.atStart t = .ok (some m) ∨ p.anywhere t = .ok (some m) → m.GenuineIn t

/-- Whatever the pattern of an operation reports is a part of the text it was given. -/
def Action.Genuine : Action → Prop
  | attempt _ p => p.Genuine
  | _ => True

/-- How many characters of the text lie before a match. -/
def Found.charsBefore (m : Found) (t : Text) : Nat := (m.skipped t).length

/-! ### Plain scanners -/

/-- A scanner that knows of characters only. -/
structure PlainScanner where
  text : Text
  /-- How many characters lie before the cursor. -/
  pos : Nat
  /-- The text and the captures of the last match, if the last attempt had one. -/
  last : Option (Text × List (Option Text))
  deriving Repr

namespace PlainScanner

/-- A scanner at the start of a text. -/
def new (text : Text) : PlainScanner := ⟨text, 0, none⟩

/-- What lies behind the cursor. -/
def rest (s : PlainScanner) : Text := s.text.drop s.pos

/-- Remembers a match, or that there is none. -/
def remember (s : PlainScanner) (last : Option (Text × List (Option Text))) : PlainScanner :=
  { s with last := last }

/-- Tries a pattern at the cursor: a match counts if no character lies before it. -/
def look (s : PlainScanner) (p : Pattern) : Except PatternError (Option Text) × PlainScanner :=
  match p.atStart s.rest with
  | .error e => (.error e, s.remember none)
  | .ok none => (.ok none, s.remember none)
  | .ok (some m) =>
    if m.charsBefore s.rest = 0 then (.ok (some m.text), s.remember (some (m.text, m.captures)))
    else (.ok none, s.remember none)

/-- Looks for a pattern ahead. The match is remembered with the characters before it. -/
def lookThrough (s : PlainScanner) (p : Pattern) :
    Except PatternError (Option Text) × PlainScanner :=
  match p.anywhere s.rest with
  | .error e => (.error e, s.remember none)
  | .ok none => (.ok none, s.remember none)
  | .ok (some m) =>
    let t := s.rest.take (m.charsBefore s.rest) ++ m.text
    (.ok (some t), s.remember (some (t, m.captures)))

/-- Looks for a pattern ahead and tells how many characters lie before it. The match alone is
    remembered. -/
def locate (s : PlainScanner) (p : Pattern) : Except PatternError (Option Nat) × PlainScanner :=
  match p.anywhere s.rest with
  | .error e => (.error e, s.remember none)
  | .ok none => (.ok none, s.remember none)
  | .ok (some m) =>
    (.ok (some (m.charsBefore s.rest)), s.remember (some (m.text, m.captures)))

/-- Moves the cursor by the length of a match. -/
def pass (r : Except PatternError (Option Text) × PlainScanner) :
    Except PatternError (Option Text) × PlainScanner :=
  match r.1 with
  | .ok (some t) => (r.1, { r.2 with pos := r.2.pos + t.length })
  | _ => r

/-- Replies with the length of the last match. -/
def measured (r : Except PatternError (Option Text) × PlainScanner) :
    Except PatternError (Option Nat) × PlainScanner :=
  (r.1.map fun _ => r.2.last.map fun m => m.1.length, r.2)

/-- Tries a pattern. -/
def attempt (s : PlainScanner) (p : Pattern) : Attempt → Result × PlainScanner
  | .look => (s.look p).map .ofText id
  | .take => (pass (s.look p)).map .ofText id
  | .lookThrough => (s.lookThrough p).map .ofText id
  | .takeThrough => (pass (s.lookThrough p)).map .ofText id
  | .locate => (s.locate p).map .ofCount id
  | .measure => (measured (s.look p)).map .ofCount id
  | .skip => (measured (pass (s.look p))).map .ofCount id
  | .skipThrough => (measured (pass (s.lookThrough p))).map .ofCount id

/-- Passes one character. -/
def takeChar (s : PlainScanner) : Option Text × PlainScanner :=
  match s.rest with
  | [] => (none, s.remember none)
  | c :: _ => (some [c], { s with pos := s.pos + 1, last := some ([c], []) })

/-- Carries out an operation. A position is moved to the nearest one from the start to the end. -/
def act (s : PlainScanner) : Action → Result × PlainScanner
  | .attempt how p => s.attempt p how
  | .takeChar => s.takeChar.map .text id
  | .moveTo pos =>
    let n := (max 0 (min pos s.text.length)).toNat
    (.position n, { s with pos := n })
  | .append more => (.done, { s with text := s.text ++ more })
  | .restart => (.done, { s with pos := 0, last := none })
  | .finish => (.done, { s with pos := s.text.length, last := none })

end PlainScanner

/-! ### What can be seen -/

/-- All that can be asked of a scanner. -/
structure View where
  pos : Nat
  atEnd : Bool
  atLineStart : Bool
  rest : Text
  peek : Nat → Text
  text : Text
  matched : Bool
  lastText : Option Text
  lastLength : Option Nat
  captures : List (Option Text)

namespace Scanner

/-- What a scanner shows. -/
def view (s : Scanner) : View where
  pos := s.pos
  atEnd := s.atEnd
  atLineStart := s.atLineStart
  rest := s.rest
  peek := s.peek
  text := s.text
  matched := s.outcome.isSuccess
  lastText := s.outcome.text
  lastLength := s.outcome.length?
  captures := s.outcome.captures

/-- The replies to operations, and what is seen after each of them. -/
def history (s : Scanner) : List Action → List (Result × View)
  | [] => []
  | a :: as => ((s.act a).result, (s.act a).scanner.view) :: (s.act a).scanner.history as

end Scanner

namespace PlainScanner

/-- What a plain scanner shows. -/
def view (s : PlainScanner) : View where
  pos := s.pos
  atEnd := s.pos = s.text.length
  atLineStart := s.pos = 0 || s.text[s.pos - 1]? = some '\n'
  rest := s.rest
  peek n := s.rest.take n
  text := s.text
  matched := s.last.isSome
  lastText := s.last.map Prod.fst
  lastLength := s.last.map fun m => m.1.length
  captures := (s.last.map Prod.snd).getD []

/-- The replies to operations, and what is seen after each of them. -/
def history (s : PlainScanner) : List Action → List (Result × View)
  | [] => []
  | a :: as => ((s.act a).1, (s.act a).2.view) :: (s.act a).2.history as

end PlainScanner

end TextScan
