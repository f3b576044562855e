import TextScan.Regex.Reading.Blank
import TextScan.Unicode.Alphabetic
import TextScan.Unicode.Digit

namespace TextScan.Regex

/-!
# Openings of groups

What stands between an opening parenthesis and the contents of its group: nothing, a name, or flags.
Flags may also stand alone and then hold to the end of the group around them.

* `readFlags` reads flags up to the sign behind them.
* `readName` reads a name up to the sign behind it.
* `readOpening` tells the openings apart.
-/

/-- The flag of a letter. -/
def Flag.ofLetter? : Char → Option Flag
  | 'i' => some .caseless
  | 'm' => some .multiLine
  | 's' => some .dotAll
  | 'U' => some .swapGreed
  | 'u' => some .unicode
  | 'R' => some .crlf
  | 'x' => some .verbose
  | _ => none

/-- What was read of a directive: flags, or nothing for the sign that switches off what follows. -/
abbrev FlagSigns := List (Option Flag × Span)

/-- The flags of a directive, on before the negation sign and off behind it. -/
def FlagSigns.settings (on : Bool) : FlagSigns → FlagSettings
  | [] => []
  | (none, _) :: rest => settings false rest
  | (some flag, _) :: rest => (flag, on) :: settings on rest

/-- Reads flags up to a colon or a closing parenthesis, which stays unread. -/
def readFlags (signs : FlagSigns) : Text → Except Refusal (FlagSettings × Text)
  | [] => refuse .flagCut 0 0
  | c :: r =>
    if c = ':' ∨ c = ')' then
      match signs.getLast? with
      | some (none, span) => refuseSpan .flagNegationLast span
      | _ => .ok (FlagSigns.settings true signs, c :: r)
    else
      let span := charSpan (c :: r)
      let sign := if c = '-' then some none else (Flag.ofLetter? c).map some
      match sign with
      | none => refuseSpan .flagUnknown span
      | some sign =>
        match signs.lookup sign with
        | some earlier =>
          .error ⟨if sign = none then .flagNegationTwice else .flagTwice, span, some earlier⟩
        | none => readFlags (signs ++ [(sign, span)]) r

/-- Whether the character may stand in a name; digits and some signs only behind the first place. -/
def isNameChar (first : Bool) (c : Char) : Bool :=
  if first then c = '_' || Unicode.alphabetic.contains c
  else c = '_' || c = '.' || c = '[' || c = ']' ||
    Unicode.alphabetic.contains c || Unicode.number.contains c

/-- Reads a name up to the closing angle bracket, which stays unread. -/
def readName (first : Bool) : Text → Except Refusal (Text × Text)
  | [] => refuse .nameCut 0 0
  | c :: r =>
    if c = '>' then .ok ([], c :: r)
    else if isNameChar first c then do
      let (name, rest) ← readName false r
      return (c :: name, rest)
    else refuseSpan .nameChar (charSpan (c :: r))

/-- The names given so far, with their places. -/
abbrev Names := List (Text × Span)

/-- How a group may open. -/
inductive Opening where
  /-- A numbered group, with its name if it has one. -/
  | capturing (name : Option (Text × Span))
  /-- A group with flags, which may be none. -/
  | plain (flags : FlagSettings)
  /-- Flags that stand alone. -/
  | directive (flags : FlagSettings)
  deriving Repr

/-- Whether the text begins like a test of what lies ahead or behind, and how long that beginning
    is. -/
def lookAround? (t : Text) : Option Nat :=
  match t with
  | '?' :: '=' :: _ => some 2
  | '?' :: '!' :: _ => some 2
  | '?' :: '<' :: '=' :: _ => some 3
  | '?' :: '<' :: '!' :: _ => some 3
  | _ => none

/-- What follows the opening of a name. -/
def nameOpening? (t : Text) : Option Text :=
  match t with
  | '?' :: 'P' :: '<' :: r => some r
  | '?' :: '<' :: r => some r
  | _ => none

/-- Reads a name that must be new and must not be empty, with the closing angle bracket. -/
def readNewName (names : Names) (t : Text) : Except Refusal (Text × Span × Text) := do
  let (name, rest) ← readName true t
  let span : Span := ⟨t.length, rest.length⟩
  if name.isEmpty then refuse .nameEmpty t.length t.length
  else
    match names.lookup name with
    | some earlier => .error ⟨.nameTwice, span, some earlier⟩
    | none => return (name, span, rest.tail)

/-- Reads the opening of a group, from its parenthesis on. -/
def readOpening (verbose : Bool) (names : Names) (t : Text) : Except Refusal (Opening × Text) :=
  let inner := next verbose t
  match lookAround? inner with
  | some n => refuse .lookAround t.length (inner.drop n).length
  | none =>
    match nameOpening? inner with
    | some r => do
      let (name, span, rest) ← readNewName names r
      return (.capturing (some (name, span)), rest)
    | none =>
      match inner with
      | '?' :: [] => refuseSpan .groupUnclosed (charSpan t)
      | '?' :: r => do
        let (flags, rest) ← readFlags [] r
        if rest.head? = some ':' then return (.plain flags, rest.tail)
        -- Without flags the question mark is taken for a repetition of nothing.
        else if flags.isEmpty then refuse .repeatNothing inner.length inner.length
        else return (.directive flags, rest.tail)
      | _ => .ok (.capturing none, inner)

end TextScan.Regex
