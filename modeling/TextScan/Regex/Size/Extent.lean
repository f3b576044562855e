namespace TextScan.Regex

/-!
# Counting the states of an automaton

* `Extent` counts states and the bytes they take.
* `SharedStates` finds a state again that does the same as a new one would. It remembers states in a
  table with a fixed number of places, where a later state takes the place of an earlier one.
-/

/-- How far an automaton has grown. -/
structure Extent where
  states : Nat
  bytes : Nat
  deriving DecidableEq, Repr

namespace Extent

/-- The extent of an automaton without states. -/
def zero : Extent := ⟨0, 0⟩

/-- Adds a state, which takes a fixed number of bytes and `extra` more. -/
def grow (x : Extent) (extra : Nat) : Extent := ⟨x.states + 1, x.bytes + 32 + extra⟩

/-- Adds `n` states that take nothing extra. -/
def growBy (x : Extent) (n : Nat) : Extent := ⟨x.states + n, x.bytes + 32 * n⟩

/-- Adds a choice between `n` ways. -/
def growChoice (x : Extent) (n : Nat) : Extent := x.grow (4 * n)

/-- Adds a state that reads a byte and goes on in `n` ways, depending on the byte. -/
def growFork (x : Extent) (n : Nat) : Extent := x.grow (8 * n)

end Extent

/-- An automaton in growth, and a table of states by what they do. -/
structure SharedStates where
  extent : Extent
  places : Array (Option (List Nat × Nat))

namespace SharedStates

/-- An automaton with an empty table. -/
def new (x : Extent) (places : Nat) : SharedStates := ⟨x, Array.replicate places none⟩

/-- The hash of a list of numbers: each is mixed in by an exclusive or and a multiplication. -/
def hash (key : List Nat) : UInt64 :=
  key.foldl (fun h n => (h ^^^ n.toUInt64) * 1099511628211) 14695981039346656037

/-- The number of a state that does what `key` says: one in the table or else a new one, which goes
    on in `ways` ways. -/
def share (s : SharedStates) (key : List Nat) (ways : Nat) : Nat × SharedStates :=
  let place := (hash key).toNat % s.places.size
  let found := match s.places.getD place none with
    | some (known, number) => if known = key then some number else none
    | none => none
  match found with
  | some number => (number, s)
  | none =>
    let ⟨extent, places⟩ := s
    (extent.states, ⟨extent.growFork ways, places.setIfInBounds place (some (key, extent.states))⟩)

end SharedStates

end TextScan.Regex
