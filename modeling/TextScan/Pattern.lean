import TextScan.Text

namespace TextScan

/-!
# Patterns

A scanner knows nothing of a pattern but its answers. It hands over a text and asks for the leftmost
match in it, or for the leftmost match provided that it starts where the text starts.

* `Found` is a match as a pattern reports it, `PatternError` the failure of a pattern to answer.
* `Pattern` holds the two answers as functions of the text.
* `Pattern.literal`, `Pattern.char` and `Pattern.anyChar` look for plain text.
* `Pattern.fixed` answers the same whatever the text is. Nothing makes its answers fit the text.
-/

/-- A match as it is reported. Whether it lies in the text at all is for the scanner to check. -/
structure Found where
  /-- The byte at which the match starts. -/
  start : Nat
  /-- The whole matched text. -/
  text : Text
  /-- The texts of the groups; nothing for a group that took no part. -/
  captures : List (Option Text)
  deriving DecidableEq, Repr

/-- The byte behind the match, in arithmetic of 64 bits. -/
def Found.stop (m : Found) : Nat := (m.start + m.text.byteSize) % Nat.pow 2 64

/-- Why a pattern gives no answer. -/
inductive PatternError where
  /-- The pattern is malformed, for the given reason. -/
  | malformed (reason : Text)
  deriving DecidableEq, Repr

/-- The wording of an error. -/
def PatternError.message : PatternError → Text
  | malformed reason => "invalid pattern: ".toList ++ reason

/-- What a pattern answers: a match, no match, or an error. -/
abbrev Answer := Except PatternError (Option Found)

/-- A pattern, by its answers. -/
structure Pattern where
  /-- The leftmost match, if it starts where the text starts. -/
  atStart : Text → Answer
  /-- The leftmost match. -/
  anywhere : Text → Answer

namespace Pattern

/-- The byte at which the first occurrence of `needle` starts. -/
def indexOf? (needle : Text) : Text → Option Nat
  | [] => if needle.isEmpty then some 0 else none
  | c :: t =>
    if needle.isPrefixOf (c :: t) then some 0 else (indexOf? needle t).map (c.utf8Size + ·)

/-- The pattern that matches a given text. -/
def literal (needle : Text) : Pattern where
  atStart text := .ok (if needle.isPrefixOf text then some ⟨0, needle, []⟩ else none)
  anywhere text := .ok ((indexOf? needle text).map fun start => ⟨start, needle, []⟩)

/-- The pattern that matches a given character. -/
def char (c : Char) : Pattern where
  atStart text := .ok (if text.head? = some c then some ⟨0, [c], []⟩ else none)
  anywhere text := .ok ((indexOf? [c] text).map fun start => ⟨start, [c], []⟩)

/-- The pattern that matches any one character, line feeds included. -/
def anyChar : Pattern where
  atStart text := .ok (text.head?.map fun c => ⟨0, [c], []⟩)
  anywhere text := .ok (text.head?.map fun c => ⟨0, [c], []⟩)

/-- The pattern with the given answers to every text. -/
def fixed (atStart anywhere : Answer) : Pattern := ⟨fun _ => atStart, fun _ => anywhere⟩

end Pattern

end TextScan
