namespace TextScan.Encoding

/-!
# Ranges of characters in UTF-8

The encodings of a range of characters are described by rows. A row is a list of ranges of bytes,
and an encoding belongs to it if each of its bytes lies in the range at its place.

* `bytes` is the encoding of one character.
* `blocks` cuts a range so that the encodings of each piece make up one row.
* `rows` are the rows of a range, in increasing order. No encoding belongs to two of them.
-/

/-- Ranges of bytes, one for each place. -/
abbrev Row := List (Nat × Nat)

/-- The bytes of the character with a code point. -/
def bytes (n : Nat) : List Nat := (String.utf8EncodeChar (Char.ofNat n)).map UInt8.toNat

/-- Cuts a range of code points whose encodings have the same length. A unit is the number of code
    points that share all bytes but the last ones; the units increase. Of each unit the head and the
    tail are cut off if they do not fill it, unless the whole range lies in one unit. -/
def blocks : List Nat → Nat → Nat → List (Nat × Nat)
  | [], lo, hi => [(lo, hi)]
  | unit :: units, lo, hi =>
    if lo / unit = hi / unit then [(lo, hi)]
    else
      let first := if lo % unit = 0 then lo else (lo / unit + 1) * unit
      let head := if lo % unit = 0 then [] else [(lo, first - 1)]
      if first / unit = hi / unit then head ++ [(first, hi)]
      else
        let stop := hi / unit * unit
        if hi % unit = unit - 1 then head ++ blocks units first hi
        else head ++ blocks units first (stop - 1) ++ [(stop, hi)]

/-- The ranges of code points whose encodings have one length, with the units to cut them by. -/
def lengths : List (Nat × Nat × List Nat) :=
  [(0, 0x7F, []), (0x80, 0x7FF, [64]), (0x800, 0xD7FF, [64, 4096]), (0xE000, 0xFFFF, [64, 4096]),
    (0x10000, 0x10FFFF, [64, 4096, 262144])]

/-- The rows of the range from `lo` through `hi`. -/
def rows (lo hi : Nat) : List Row :=
  lengths.flatMap fun (first, last, units) =>
    let lo := max lo first
    let hi := min hi last
    if lo ≤ hi then (blocks units lo hi).map fun (a, b) => (bytes a).zip (bytes b) else []

end TextScan.Encoding
