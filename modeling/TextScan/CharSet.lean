import TextScan.Text

namespace TextScan

/-!
# Sets of characters

A set is a list of ranges of code points, in order and apart from each other, so that sets with the
same ranges are equal. Surrogates are no characters, and no range begins or ends with one.

* `contains s c` decides membership.
* `union`, `inter`, `diff`, `symmDiff` and `compl` are the operations of bracketed classes.

The complement is made of the gaps between ranges. A gap reaches from the character that follows one
range to the character that precedes the next. Where only surrogates lie between two ranges, these
are U+E000 and U+D7FF, in this order; the gap then holds the two of them, although both belong to
the set.
-/

/-- A set of characters, by its ranges of code points (first, last). -/
structure CharSet where
  /-- The ranges, in increasing order, none of them touching the next. -/
  ranges : List (Nat × Nat)
  deriving DecidableEq, Repr

namespace CharSet

/-- Whether a character belongs to the set. -/
def contains (s : CharSet) (c : Char) : Bool :=
  s.ranges.any fun r => decide (r.1 ≤ c.toNat) && decide (c.toNat ≤ r.2)

/-- The set without members. -/
def empty : CharSet := ⟨[]⟩

/-- The set of the characters from `lo` through `hi`. -/
def ofRange (lo hi : Char) : CharSet := ⟨[(lo.toNat, hi.toNat)]⟩

/-- The set of one character. -/
def single (c : Char) : CharSet := ⟨[(c.toNat, c.toNat)]⟩

/-- The set of all characters. -/
def all : CharSet := ⟨[(0, 0x10FFFF)]⟩

/-- Inserts a range into ordered ranges; those that it meets or touches become one with it. -/
def insertRange (lo hi : Nat) : List (Nat × Nat) → List (Nat × Nat)
  | [] => [(lo, hi)]
  | (l, h) :: rest =>
    if hi + 1 < l then (lo, hi) :: (l, h) :: rest
    else if h + 1 < lo then (l, h) :: insertRange lo hi rest
    else insertRange (min lo l) (max hi h) rest

/-- Adds ranges to ordered ranges. -/
def insertRanges (more ranges : List (Nat × Nat)) : List (Nat × Nat) :=
  more.foldr (fun r acc => insertRange r.1 r.2 acc) ranges

/-- Adds the members of `t` to `s`. -/
def union (s t : CharSet) : CharSet := ⟨insertRanges t.ranges s.ranges⟩

/-- The code point of the character behind `n`. -/
def following (n : Nat) : Nat := if n = 0xD7FF then 0xE000 else n + 1

/-- The code point of the character before `n`. -/
def preceding (n : Nat) : Nat := if n = 0xE000 then 0xD7FF else n - 1

/-- The range with the given ends, in either order. -/
def between (m n : Nat) : Nat × Nat := (min m n, max m n)

/-- The gaps in front of and between ordered ranges and behind them, from the character `next` on.
    -/
def gaps (next : Nat) : List (Nat × Nat) → List (Nat × Nat)
  | [] => if next ≤ 0x10FFFF then [(next, 0x10FFFF)] else []
  | (lo, hi) :: rest => between next (preceding lo) :: gaps (following hi) rest

/-- The characters in the gaps of the set. -/
def compl (s : CharSet) : CharSet :=
  match s.ranges with
  | (0, hi) :: rest => ⟨insertRanges (gaps (following hi) rest) []⟩
  | ranges => ⟨insertRanges (gaps 0 ranges) []⟩

/-- The characters of both sets. -/
def inter (s t : CharSet) : CharSet :=
  ⟨s.ranges.flatMap fun (lo, hi) => t.ranges.filterMap fun (lo', hi') =>
    if max lo lo' ≤ min hi hi' then some (max lo lo', min hi hi') else none⟩

/-- What is left of a range without another range. -/
def cut (out r : Nat × Nat) : List (Nat × Nat) :=
  if out.2 < r.1 ∨ r.2 < out.1 then [r]
  else
    (if r.1 < out.1 then [(r.1, preceding out.1)] else []) ++
      (if out.2 < r.2 then [(following out.2, r.2)] else [])

/-- The characters of `s` outside `t`. -/
def diff (s t : CharSet) : CharSet :=
  ⟨t.ranges.foldl (fun ranges out => ranges.flatMap (cut out)) s.ranges⟩

/-- The characters of exactly one of the sets. -/
def symmDiff (s t : CharSet) : CharSet := (s.union t).diff (s.inter t)

/-- The set of the given ASCII characters and ranges. -/
def ofAscii (rs : List (Char × Char)) : CharSet :=
  rs.foldr (fun r s => s.union (ofRange r.1 r.2)) empty

/-- Whether every member is an ASCII character. -/
def isAscii (s : CharSet) : Bool := s.ranges.all fun r => decide (r.2 < 128)

/-- The only member, if there is exactly one. -/
def onlyMember? (s : CharSet) : Option Char :=
  match s.ranges with
  | [(lo, hi)] => if lo = hi then some (Char.ofNat lo) else none
  | _ => none

/-- Adds, for every orbit that meets the set, all code points of the orbit. -/
def closeUnder (orbits : List (List Nat)) (s : CharSet) : CharSet :=
  orbits.foldl
    (fun acc orbit =>
      if orbit.any fun n => s.ranges.any fun r => decide (r.1 ≤ n) && decide (n ≤ r.2)
      then orbit.foldl (fun acc n => ⟨insertRange n n acc.ranges⟩) acc
      else acc)
    s

end CharSet

end TextScan
