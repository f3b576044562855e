import TextScan.Regex.Fault
import TextScan.Unicode.Blank

namespace TextScan.Regex

/-!
# Blanks and characters in the source of a regular expression

In verbose sources blanks mean nothing and `#` opens a comment that runs to the end of its line.

* `skipBlank` passes over blanks and comments, `next` first over one character.
* `takeSpaced` takes characters of a kind that may be spread out by blanks and comments.
* `peekPast` looks for the character that follows the next one.
-/

/-- Whether a character is a blank in a source. -/
def isBlank (c : Char) : Bool := Unicode.whiteSpace.contains c

/-- What remains after blanks and comments; `inComment` tells whether a comment is open. -/
def skipBlanks (inComment : Bool) : Text → Text
  | [] => []
  | c :: r =>
    if inComment then skipBlanks (c != '\n') r
    else if isBlank c then skipBlanks false r
    else if c = '#' then skipBlanks true r
    else c :: r

/-- What remains after blanks and comments, if the source is verbose. -/
def skipBlank (verbose : Bool) (t : Text) : Text := if verbose then skipBlanks false t else t

/-- What remains after one character and the blanks behind it. -/
def next (verbose : Bool) (t : Text) : Text := skipBlank verbose t.tail

/-- The first character that is neither a blank nor the first `#`. -/
def pastBlank? (hash : Bool) : Text → Option Char
  | [] => none
  | c :: r =>
    if isBlank c then pastBlank? hash r
    else if c = '#' && !hash then pastBlank? true r
    else some c

/-- The character behind the first one, in verbose sources behind blanks too. Only the sign of a
    comment is passed over, not its words. -/
def peekPast (verbose : Bool) (t : Text) : Option Char :=
  if verbose then (pastBlank? false t.tail).or t.tail.head? else t.tail.head?

/-- Where `takeSpaced` stands: at a character that counts, behind one, or in a comment. -/
inductive Gap where
  | none
  | blank
  | comment
  deriving DecidableEq, Repr

/-- The longest run of characters that satisfy `p`, and what follows it. In verbose sources blanks
    and comments behind a taken character are passed over. -/
def takeSpaced (p : Char → Bool) (verbose : Bool) : Gap → Text → Text × Text
  | _, [] => ([], [])
  | gap, c :: r =>
    if gap = .comment then takeSpaced p verbose (if c = '\n' then .blank else .comment) r
    else if gap = .blank && verbose && isBlank c then takeSpaced p verbose .blank r
    else if gap = .blank && verbose && c = '#' then takeSpaced p verbose .comment r
    else if p c then
      let (taken, rest) := takeSpaced p verbose .blank r
      (c :: taken, rest)
    else ([], c :: r)

/-- The span of the first character. -/
def charSpan (t : Text) : Span := ⟨t.length, t.tail.length⟩

/-- The number that digits of a base up to sixteen spell. -/
def numeral (base : Nat) (digits : Text) : Nat :=
  digits.foldl
    (fun n c =>
      base * n +
        (if c.isDigit then c.toNat - '0'.toNat
        else if 'a' ≤ c ∧ c ≤ 'f' then c.toNat - 'a'.toNat + 10
        else if 'A' ≤ c ∧ c ≤ 'F' then c.toNat - 'A'.toNat + 10
        else 0))
    0

/-- Whether a character is a hexadecimal digit. -/
def isHexDigit (c : Char) : Bool :=
  c.isDigit || ('a' ≤ c && c ≤ 'f') || ('A' ≤ c && c ≤ 'F')

/-- Reads a decimal number below 2^32. Blanks around it are passed over in every source. -/
def readNumber (verbose : Bool) (t : Text) : Except Refusal Nat × Text :=
  let t := t.dropWhile isBlank
  let (digits, rest) := takeSpaced Char.isDigit verbose .none t
  let value :=
    if digits.isEmpty then refuse .numberEmpty t.length rest.length
    else if numeral 10 digits < Nat.pow 2 32 then .ok (numeral 10 digits)
    else refuse .numberTooLarge t.length rest.length
  (value, rest.dropWhile isBlank)

end TextScan.Regex
