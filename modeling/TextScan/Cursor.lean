import TextScan.Text

namespace TextScan

/-!
# Cursors

A cursor is a place in a text that can grow. The place is kept twice, in characters and in bytes, so
that neither has to be counted anew when the text before it is long.

* `Cursor.rest` is what lies behind the cursor, `Cursor.peek` a part of it.
* `Cursor.pass` moves over text that lies behind the cursor, `Cursor.moveTo` to any position.
* `Cursor.append` lets the text grow at its end.
-/

/-- A place in a text. -/
structure Cursor where
  /-- The whole text. -/
  text : Text
  /-- The number of its characters. -/
  charLen : Nat
  /-- The number of characters before the place. -/
  pos : Nat
  /-- The number of bytes before the place. -/
  byte : Nat
  deriving DecidableEq, Repr

namespace Cursor

/-- The start of a text. -/
def new (text : Text) : Cursor := ⟨text, text.length, 0, 0⟩

/-- What lies behind the place. -/
def rest (c : Cursor) : Text := (c.text.dropBytes? c.byte).getD []

/-- What lies before the place. -/
def consumed (c : Cursor) : Text := (c.text.takeBytes? c.byte).getD []

/-- At most `n` characters of what lies behind the place. -/
def peek (c : Cursor) (n : Nat) : Text := c.rest.take n

/-- Whether the place is the end of the text. -/
def atEnd (c : Cursor) : Bool := c.byte = c.text.byteSize

/-- Whether a line begins at the place. -/
def atLineStart (c : Cursor) : Bool := c.byte = 0 || c.consumed.getLast? = some '\n'

/-- Moves over a text that lies behind the place. -/
def pass (c : Cursor) (passed : Text) : Cursor :=
  { c with byte := c.byte + passed.byteSize, pos := c.pos + passed.length }

/-- Moves to a position, at least to the start and at most to the end. -/
def moveTo (c : Cursor) (pos : Int) : Cursor :=
  -- A negative position counts as zero.
  let pos := min pos.toNat c.charLen
  { c with pos := pos, byte := Text.byteSize (c.text.take pos) }

/-- Adds text at the end. -/
def append (c : Cursor) (more : Text) : Cursor :=
  { c with text := c.text ++ more, charLen := c.charLen + more.length }

/-- Moves to the start. -/
def toStart (c : Cursor) : Cursor := { c with pos := 0, byte := 0 }

/-- Moves to the end. -/
def toEnd (c : Cursor) : Cursor := { c with pos := c.charLen, byte := c.text.byteSize }

end Cursor

end TextScan
