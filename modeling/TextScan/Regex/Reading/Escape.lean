import TextScan.Regex.Reading.Blank

namespace TextScan.Regex

/-!
# Escapes

What may follow a backslash: a character by its number, a class, a test of the place, or a character
that would otherwise have a meaning of its own.

* `readEscape` reads all of them. It answers with a tree, one of `literal`, `anchor`, `property` and
  `shorthand`.
-/

/-- The character with the given number, if there is one. -/
def scalar? (n : Nat) : Option Char :=
  if n < 0xD800 ∨ 0xDFFF < n ∧ n < 0x110000 then some (Char.ofNat n) else none

/-- Reads exactly `n` hexadecimal digits. -/
def readHexDigits (verbose : Bool) : Nat → Text → Except Refusal (Text × Text)
  | 0, t => .ok ([], t)
  | _ + 1, [] => refuse .escapeCut 0 0
  | n + 1, c :: r =>
    if isHexDigit c then do
      let (digits, rest) ← readHexDigits verbose n (skipBlank verbose r)
      return (c :: digits, rest)
    else refuseSpan .hexDigit (charSpan (c :: r))

/-- Reads a hexadecimal number in braces, from the opening brace on. -/
def readHexBraces (verbose : Bool) (start : Nat) (t : Text) : Except Refusal (Tree × Text) :=
  let first := t.tail.length
  let (digits, rest) := takeSpaced isHexDigit verbose .none (next verbose t)
  match rest with
  | [] => refuse .escapeCut t.length 0
  | c :: _ =>
    if c = '\x7d' then
      let after := next verbose rest
      if digits.isEmpty then refuse .hexEmpty t.length after.length
      else
        match scalar? (numeral 16 digits) with
        | some c => .ok (.literal ⟨⟨start, after.length⟩, c, false⟩, after)
        | none => refuse .hexNotScalar first rest.length
    else refuseSpan .hexDigit (charSpan rest)

/-- Reads a character by its number. The text begins with the letter that tells how many digits
    follow where there are no braces; `start` is the place of the backslash. -/
def readHex (verbose : Bool) (start : Nat) (t : Text) : Except Refusal (Tree × Text) :=
  match next verbose t with
  | [] => refuse .escapeCut 0 0
  | c :: r =>
    if c = '\x7b' then readHexBraces verbose start (c :: r)
    else do
      let count := if t.head? = some 'x' then 2 else if t.head? = some 'u' then 4 else 8
      let (digits, rest) ← readHexDigits verbose count (c :: r)
      match scalar? (numeral 16 digits) with
      | some char => return (.literal ⟨⟨start, rest.length⟩, char, t.head? = some 'x'⟩, rest)
      | none => refuse .hexNotScalar (c :: r).length rest.length

/-- Splits a text at the first place where `sep` stands, and drops it. -/
def splitAt? (sep : Text) : Text → Option (Text × Text)
  | [] => if sep.isEmpty then some ([], []) else none
  | c :: r =>
    if sep.isPrefixOf (c :: r) then some ([], (c :: r).drop sep.length)
    else (splitAt? sep r).map fun (a, b) => (c :: a, b)

/-- What the words in the braces of a property ask for, and whether they negate it. -/
def Query.ofWords (words : Text) : Query × Bool :=
  -- Inequality comes first, since its sign ends in the one of equality.
  match splitAt? ['!', '='] words with
  | some (name, value) => (.valued name value, true)
  | none =>
    match splitAt? [':'] words with
    | some (name, value) => (.valued name value, false)
    | none =>
      match splitAt? ['='] words with
      | some (name, value) => (.valued name value, false)
      | none => (.named words, false)

/-- Reads a property. The text begins with `p`, or with `P` for the characters without it. -/
def readProperty (verbose : Bool) (start : Nat) (t : Text) : Except Refusal (Tree × Text) :=
  let negated := t.head? = some 'P'
  match next verbose t with
  | [] => refuse .escapeCut 0 0
  | c :: r =>
    if c = '\x7b' then
      match takeSpaced (· != '\x7d') verbose .none (next verbose (c :: r)) with
      | (_, []) => refuse .escapeCut 0 0
      | (words, _ :: rest) =>
        let (query, flipped) := Query.ofWords words
        .ok (.property ⟨⟨start, rest.length⟩, negated != flipped, query⟩, rest)
    else if c = '\\' then refuseSpan .propertySpelling (charSpan (c :: r))
    else
      let rest := skipBlank verbose r
      .ok (.property ⟨⟨start, rest.length⟩, negated, .letter c⟩, rest)

/-- The tests that `\b` with a word in braces can name. -/
def boundaryNamed? (name : Text) : Option Anchor :=
  if name = "start".toList then some .wordStart
  else if name = "end".toList then some .wordEnd
  else if name = "start-half".toList then some .wordStartHalf
  else if name = "end-half".toList then some .wordEndHalf
  else none

/-- Reads the word in braces behind `\b`, from the brace on. If no letter and no hyphen follows the
    brace, this is a counted repetition and answered by nothing. -/
def readBoundaryName (verbose : Bool) (start : Nat) (t : Text) :
    Except Refusal (Option (Anchor × Text)) :=
  let named := fun c : Char => c.isAlpha || c = '-'
  match next verbose t with
  | [] => refuse .boundaryCut start 0
  | c :: r =>
    if named c then
      let (name, rest) := takeSpaced named verbose .none (c :: r)
      if rest.head? = some '\x7d' then
        match boundaryNamed? name with
        | some kind => .ok (some (kind, rest.tail))
        | none => refuse .boundaryUnknown (c :: r).length rest.length
      else refuse .boundaryUnclosed t.length rest.length
    else .ok none

/-- Reads what follows `\b`. -/
def readBoundary (verbose : Bool) (start : Nat) (r : Text) : Except Refusal (Tree × Text) := do
  let plain := (Tree.anchor ⟨start, r.length⟩ .boundary, r)
  if r.head? = some '\x7b' then
    match ← readBoundaryName verbose start r with
    | some (kind, rest) => return (.anchor ⟨start, rest.length⟩ kind, rest)
    | none => return plain
  else return plain

/-- The characters that a letter stands for behind a backslash. -/
def controlLetter? : Char → Option Char
  | 'a' => some '\x07'
  | 'f' => some '\x0c'
  | 't' => some '\t'
  | 'n' => some '\n'
  | 'r' => some '\r'
  | 'v' => some '\x0b'
  | _ => none

/-- The tests of the place that a character stands for behind a backslash, `\b` apart. -/
def anchorLetter? : Char → Option Anchor
  | 'A' => some .textStart
  | 'z' => some .textEnd
  | 'B' => some .notBoundary
  | '<' => some .wordStart
  | '>' => some .wordEnd
  | _ => none

/-- The classes that a letter stands for behind a backslash, and whether it negates them. -/
def shorthandLetter? : Char → Option (Shorthand × Bool)
  | 'd' => some (.digit, false)
  | 's' => some (.space, false)
  | 'w' => some (.word, false)
  | 'D' => some (.digit, true)
  | 'S' => some (.space, true)
  | 'W' => some (.word, true)
  | _ => none

/-- Whether a backslash before the character only takes its meaning away. Letters and digits are
    kept for escapes with a meaning, and so are the angle brackets. -/
def isQuotable (c : Char) : Bool :=
  decide (c.toNat < 128) && !c.isAlphanum && c != '<' && c != '>'

/-- Reads an escape, from the character behind the backslash on; `start` is the place of the
    backslash. -/
def readEscape (verbose : Bool) (start : Nat) : Text → Except Refusal (Tree × Text)
  | [] => refuse .escapeCut start 0
  | c :: r =>
    if c.isDigit then refuse .backreference start r.length
    else if c = 'x' ∨ c = 'u' ∨ c = 'U' then readHex verbose start (c :: r)
    else if c = 'p' ∨ c = 'P' then readProperty verbose start (c :: r)
    else if c = 'b' then readBoundary verbose start r
    else
      let span : Span := ⟨start, r.length⟩
      match shorthandLetter? c, controlLetter? c, anchorLetter? c with
      | some (kind, negated), _, _ => .ok (.shorthand span kind negated, r)
      | none, some char, _ => .ok (.literal ⟨span, char, false⟩, r)
      | none, none, some kind => .ok (.anchor span kind, r)
      | none, none, none =>
        if isQuotable c then .ok (.literal ⟨span, c, false⟩, r)
        else refuseSpan .escapeUnknown span

end TextScan.Regex
