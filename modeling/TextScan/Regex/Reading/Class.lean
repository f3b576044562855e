import TextScan.Regex.Reading.Escape

namespace TextScan.Regex

/-!
# Bracketed classes

A class is read with a list of the classes that are still open, the innermost first.

* `OpenClass` is what has been read of one of them.
* `readClassItem` reads a character, an escape or a range.
* `readClass` reads a class up to its closing bracket.
-/

/-- The named class of a name between `[:` and `:]`. -/
def AsciiClass.named? (name : Text) : Option AsciiClass :=
  [("alnum", AsciiClass.alnum), ("alpha", .alpha), ("ascii", .ascii), ("blank", .blank),
    ("cntrl", .cntrl), ("digit", .digit), ("graph", .graph), ("lower", .lower), ("print", .print),
    ("punct", .punct), ("space", .space), ("upper", .upper), ("word", .word),
    ("xdigit", .xdigit)].findSome? fun (spelling, kind) =>
      if spelling.toList = name then some kind else none

/-- A named class such as `[:^digit:]` at the front of the text. Anything else, an unknown name too,
    is no named class and is read as a class within the class. -/
def asciiClass? (t : Text) : Option (ClassTree × Text) :=
  match t with
  | '[' :: ':' :: r =>
    let negated := r.head? = some '^'
    let named := if negated then r.tail else r
    match named.dropWhile (· != ':') with
    | ':' :: ']' :: rest =>
      (AsciiClass.named? (named.takeWhile (· != ':'))).map fun kind =>
        (.ascii ⟨t.length, rest.length⟩ kind negated, rest)
    | _ => none
  | _ => none

/-- What has been read of a class that is still open. -/
structure OpenClass where
  /-- The opening bracket with what belongs to it. -/
  span : Span
  negated : Bool
  /-- The left side of a pending operator. -/
  pending : Option (SetOp × ClassTree)
  /-- The place where the current union begins. -/
  start : Nat
  /-- The parts of the current union, last first. -/
  items : List ClassTree
  deriving Repr

namespace OpenClass

/-- Adds a part to the current union. -/
def push (o : OpenClass) (item : ClassTree) : OpenClass := { o with items := item :: o.items }

/-- The current union as a tree. -/
def unionTree (o : OpenClass) : ClassTree :=
  match o.items with
  | [] => .nothing ⟨o.start, o.start⟩
  | [item] => item
  | last :: items =>
    let first := items.getLast?.getD last
    .union ⟨first.span.start, last.span.stop⟩ (last :: items).reverse

/-- All that has been read between the brackets. -/
def body (o : OpenClass) : ClassTree :=
  match o.pending with
  | none => o.unionTree
  | some (op, lhs) => .combine ⟨lhs.span.start, o.unionTree.span.stop⟩ op lhs o.unionTree

/-- Takes what has been read as the left side of an operator. Operators have no ranks: the leftmost
    binds first. -/
def pushOp (o : OpenClass) (op : SetOp) (start : Nat) : OpenClass :=
  { o with pending := some (op, o.body), start := start, items := [] }

end OpenClass

/-- The hyphens at the front of a class, which stand for themselves. Answers their number of parts,
    last first, with what follows; nothing if the source ends behind a hyphen. -/
def takeHyphens (verbose : Bool) : Nat → List ClassTree → Text → Option (List ClassTree × Text)
  | 0, items, t => some (items, t)
  | fuel + 1, items, t =>
    if t.head? = some '-' then
      match next verbose t with
      | [] => none
      | t' => takeHyphens verbose fuel (.literal ⟨charSpan t, '-', false⟩ :: items) t'
    else some (items, t)

/-- Reads the opening bracket, a negation sign, and characters that stand for themselves only at
    this place: hyphens, or a closing bracket. -/
def openClass (verbose : Bool) (t : Text) : Except Refusal (OpenClass × Text) :=
  let start := t.length
  match next verbose t with
  | [] => refuse .classUnclosed start 0
  | c :: r =>
    let negated := c = '^'
    match if negated then skipBlank verbose r else c :: r with
    | [] => refuse .classUnclosed start 0
    | inner =>
      match takeHyphens verbose inner.length [] inner with
      | none => refuse .classUnclosed start start
      | some (items, rest) =>
        -- Behind a hyphen a bracket closes the class as usual.
        if items.isEmpty && rest.head? = some ']' then
          match next verbose rest with
          | [] => refuse .classUnclosed start 0
          | after =>
            .ok (⟨⟨start, after.length⟩, negated, none, inner.length,
              [.literal ⟨charSpan rest, ']', false⟩]⟩, after)
        else .ok (⟨⟨start, rest.length⟩, negated, none, inner.length, items⟩, rest)

/-- Reads one character or escape of a class. -/
def readClassChar (verbose : Bool) (t : Text) : Except Refusal (Tree × Text) :=
  match t with
  | [] => refuse .classUnclosed 0 0
  | c :: r =>
    if c = '\\' then readEscape verbose t.length r
    else .ok (.literal ⟨charSpan t, c, false⟩, r)

/-- An escape as a part of a class. -/
def classPart (t : Tree) : Except Refusal ClassTree :=
  match t with
  | .literal l => .ok (.literal l)
  | .property p => .ok (.property p)
  | .shorthand span kind negated => .ok (.shorthand span kind negated)
  | _ => refuseSpan .classEscape t.span

/-- An escape as the end of a range. -/
def rangeEnd (t : Tree) : Except Refusal Literal :=
  match t with
  | .literal l => .ok l
  | _ => refuseSpan .classRangeEnd t.span

/-- Reads a character, an escape or a range of the class that was opened at `opening`. A hyphen
    before the closing bracket or before another hyphen makes no range. -/
def readClassItem (verbose : Bool) (opening : Span) (t : Text) :
    Except Refusal (ClassTree × Text) := do
  let (first, rest) ← readClassChar verbose t
  match skipBlank verbose rest with
  | [] => refuseSpan .classUnclosed opening
  | c :: r =>
    let behind := peekPast verbose (c :: r)
    if c != '-' || behind = some ']' || behind = some '-' then
      return (← classPart first, c :: r)
    else
      match skipBlank verbose r with
      | [] => refuseSpan .classUnclosed opening
      | t' =>
        let (last, rest) ← readClassChar verbose t'
        let span : Span := ⟨first.span.start, last.span.stop⟩
        let lo ← rangeEnd first
        let hi ← rangeEnd last
        if lo.char ≤ hi.char then return (.range span lo hi, rest)
        else refuseSpan .classRangeOrder span

/-- The operator that the first two characters make. -/
def setOp? : Text → Option SetOp
  | '&' :: '&' :: _ => some .inter
  | '-' :: '-' :: _ => some .diff
  | '~' :: '~' :: _ => some .symmDiff
  | _ => none

/-- Reads on in the innermost open class until the outermost one is closed. Every round reads at
    least one character, so the number of unread characters bounds the rounds. -/
def readClassFrom (verbose : Bool) :
    Nat → OpenClass → List OpenClass → Text → Except Refusal (Tree × Text)
  | 0, here, _, _ => refuseSpan .classUnclosed here.span
  | fuel + 1, here, outer, t =>
    match skipBlank verbose t with
    | [] => refuseSpan .classUnclosed here.span
    | c :: r =>
      if c = '[' then
        match asciiClass? (c :: r) with
        | some (item, rest) => readClassFrom verbose fuel (here.push item) outer rest
        | none => do
          let (inner, rest) ← openClass verbose (c :: r)
          readClassFrom verbose fuel inner (here :: outer) rest
      else if c = ']' then
        let span : Span := ⟨here.span.start, r.length⟩
        match outer with
        | [] => .ok (.bracketed span here.negated here.body, r)
        -- A class within a class becomes a part of it.
        | next :: outer =>
          readClassFrom verbose fuel (next.push (.bracketed span here.negated here.body)) outer r
      else
        match setOp? (c :: r) with
        | some op => readClassFrom verbose fuel (here.pushOp op r.tail.length) outer r.tail
        | none => do
          let (item, rest) ← readClassItem verbose here.span (c :: r)
          readClassFrom verbose fuel (here.push item) outer rest

/-- Reads a class from its opening bracket on. -/
def readClass (verbose : Bool) (t : Text) : Except Refusal (Tree × Text) := do
  let (here, rest) ← openClass verbose t
  readClassFrom verbose rest.length here [] rest

end TextScan.Regex
