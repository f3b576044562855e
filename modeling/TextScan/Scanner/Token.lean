import TextScan.Scanner

namespace TextScan

/-!
# Tokens

Readers that are built on a scanner take one token after another, and end because each token leaves
less to read. The amount that is left bounds them.

* `Cursor.unread` is the number of characters behind the cursor.
* `Scanner.token?` takes a token, with a proof that less is left behind it.
* `Scanner.skipToken` takes a token that may be missing.
-/

/-- The number of characters behind the cursor. -/
def Cursor.unread (c : Cursor) : Nat := c.charLen - c.pos

namespace Scanner

/-- The scanners that have less to read than `s`. -/
abbrev Behind (s : Scanner) := { t : Scanner // t.unread < s.unread }

/-- The scanners that have no more to read than `s`. -/
abbrev Skipped (s : Scanner) := { t : Scanner // t.unread ≤ s.unread }

namespace Behind

/-- Less is left than before what was skipped. -/
def after {s t : Scanner} (u : Behind t) (h : t.unread ≤ s.unread) : Behind s :=
  ⟨u.1, Nat.lt_of_lt_of_le u.2 h⟩

/-- Two tokens leave less. -/
def trans {s : Scanner} (t : Behind s) (u : Behind t.1) : Behind s := ⟨u.1, Nat.lt_trans u.2 t.2⟩

/-- What is skipped behind a token leaves less. -/
def andSkip {s : Scanner} (t : Behind s) (u : Skipped t.1) : Behind s :=
  ⟨u.1, Nat.lt_of_le_of_lt u.2 t.2⟩

/-- A token leaves no more. -/
def toSkipped {s : Scanner} (t : Behind s) : Skipped s := ⟨t.1, Nat.le_of_lt t.2⟩

end Behind

/-- Takes a token at the cursor. A match that consumes nothing is no token. -/
def token? (s : Scanner) (p : Pattern) : Except PatternError (Option (Text × Behind s)) :=
  let e := s.take p
  match e.result with
  | .error err => .error err
  | .ok none => .ok none
  | .ok (some text) =>
    if h : e.scanner.unread < s.unread then .ok (some (text, ⟨e.scanner, h⟩)) else .ok none

/-- Takes a token at the cursor if there is one. -/
def skipToken (s : Scanner) (p : Pattern) : Except PatternError (Skipped s) := do
  match ← s.token? p with
  | some (_, t) => return t.toSkipped
  | none => return ⟨s, Nat.le_refl _⟩

end Scanner

end TextScan
