import TextScan.Text.Quoted

namespace TextScan

/-!
# Trace events

A scanner leaves an event whenever its outcome is replaced or its cursor moves.
-/

/-- An event, with the position of the cursor at that moment. -/
inductive Event where
  /-- A new outcome, with the matched text if there is a match. -/
  | outcomeSet (pos : Nat) (matched : Option Text)
  /-- The cursor has passed a match. -/
  | passed (pos : Nat)
  /-- The cursor was moved to a position. -/
  | moved (pos : Nat)
  deriving DecidableEq, Repr

namespace Event

/-- The position of the cursor. -/
def pos : Event → Nat
  | outcomeSet p _ => p
  | passed p => p
  | moved p => p

/-- What happened, in words. -/
def message : Event → String
  | outcomeSet _ _ => "match state replaced"
  | passed _ => "cursor advanced"
  | moved _ => "cursor moved"

/-- The matched text in quotation marks, for the events that have one or might. -/
def matched? : Event → Option Text
  | outcomeSet _ m => some (Text.quotedOption m)
  | _ => none

end Event

end TextScan
