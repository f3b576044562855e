import TextScan.CharSet

namespace TextScan.Unicode

/-!
# Blank characters

The property White_Space of the Unicode character database, version 17.0. Ranges are given by their
first and last code point, in order and apart from each other.
-/

/-- Characters with the property White_Space. -/
def whiteSpace : CharSet := ⟨[
  (9, 13), (32, 32), (133, 133), (160, 160), (5760, 5760), (8192, 8202), (8232, 8233), (8239, 8239),
  (8287, 8287), (12288, 12288)]⟩

end TextScan.Unicode
