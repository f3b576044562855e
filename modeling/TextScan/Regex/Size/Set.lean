import TextScan.CharSet
import TextScan.Regex.Size.Extent
import TextScan.Text.Encoding

namespace TextScan.Regex

/-!
# The size of a set of characters

An automaton reads a character of a set byte by byte. Read forwards, the encodings share their ends
and their beginnings. Read backwards, they share the states that the same bytes lead to.

* `Extent.growSet` adds the states for a set.
-/

namespace SharedStates

open Encoding (Row)

/-- The number of the state that reads what is left of some rows and goes on at `target`. Rows that
    begin with the same range of bytes share what reads it. No row is longer than `fuel`. -/
def forward (target : Nat) : Nat → List Row → SharedStates → Nat × SharedStates
  | 0, _, s => (target, s)
  | _ + 1, [] :: _, s => (target, s)
  | fuel + 1, rows, s =>
    let groups := rows.splitBy fun r r' => r.head? == r'.head?
    let (key, s) := groups.foldl
      (fun (key, s) group =>
        let (next, s) := forward target fuel (group.map List.tail) s
        let (lo, hi) := (group.head?.bind List.head?).getD (0, 0)
        (key ++ [lo, hi, next], s))
      ([], s)
    s.share key groups.length

/-- The number of the state that reads a row backwards and goes on at `target`. -/
def backward (target : Nat) (row : Row) (s : SharedStates) : Nat × SharedStates :=
  row.foldl (fun (next, s) (lo, hi) => s.share [next, lo, hi] 0) (target, s)

end SharedStates

namespace Extent

/-- Adds the states that read a character of a set. For a set of ASCII characters one fork is
    enough. -/
def growSet (back : Bool) (x : Extent) (set : CharSet) : Extent :=
  if set.isAscii then (x.grow 0).growFork set.ranges.length
  else
    let rows := set.ranges.flatMap fun (lo, hi) => Encoding.rows lo hi
    if back then
      let x := x.growChoice rows.length
      (rows.foldl (fun s row => (s.backward x.states row).2)
        (SharedStates.new (x.grow 0) 1000)).extent
    else
      ((SharedStates.new (x.grow 0) 10000).forward x.states 4 rows).2.extent

end Extent

end TextScan.Regex
