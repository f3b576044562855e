import TextScan.Regex.Expr
import TextScan.Regex.Fault
import TextScan.Regex.Switches
import TextScan.Unicode.Database

namespace TextScan.Regex

/-!
# The normal form of a written expression

The meaning of a part depends on the flags that hold where it stands. A directive changes them for
what follows, also across a bar, up to the end of the group around it. Classes and case are those of
a database of characters.

* `classSet` is the set that a bracketed class stands for.
* `Flags.anchor` is the test that an anchor stands for.
* `Expr.ofTree` is the normal form of a tree, with the flags that hold behind it.

With the flag `unicode` off only ASCII is allowed in classes, and every part that could match a
piece of a longer character is refused: the dot, a byte beyond ASCII, and each negated class.
-/

/-- The set of a named class. -/
def AsciiClass.set : AsciiClass → CharSet
  | alnum => .ofAscii [('0', '9'), ('A', 'Z'), ('a', 'z')]
  | alpha => .ofAscii [('A', 'Z'), ('a', 'z')]
  | ascii => .ofAscii [('\x00', '\x7f')]
  | blank => .ofAscii [('\t', '\t'), (' ', ' ')]
  | cntrl => .ofAscii [('\x00', '\x1f'), ('\x7f', '\x7f')]
  | digit => .ofAscii [('0', '9')]
  | graph => .ofAscii [('!', '~')]
  | lower => .ofAscii [('a', 'z')]
  | print => .ofAscii [(' ', '~')]
  | punct => .ofAscii [('!', '/'), (':', '@'), ('[', '\x60'), ('\x7b', '~')]
  | space => .ofAscii [('\t', '\r'), (' ', ' ')]
  | upper => .ofAscii [('A', 'Z')]
  | word => .ofAscii [('0', '9'), ('A', 'Z'), ('_', '_'), ('a', 'z')]
  | xdigit => .ofAscii [('0', '9'), ('A', 'F'), ('a', 'f')]

/-- The set of a class with a letter of its own, within ASCII. -/
def Shorthand.asciiSet : Shorthand → CharSet
  | digit => AsciiClass.digit.set
  | space => AsciiClass.space.set
  | word => AsciiClass.word.set

section Database

variable (db : Unicode.Database)

/-- The set of a class with a letter of its own, by the character database. -/
def Shorthand.set : Shorthand → CharSet
  | digit => db.decimalDigit
  | space => db.whiteSpace
  | word => db.wordChar

namespace Flags

/-- The set with both cases of its members, if the flags ask for it. -/
def fold (f : Flags) (s : CharSet) : CharSet :=
  if f.caseless then (if f.unicode then db.closeCase s else s.closeAsciiCase) else s

/-- The complement of a set where `negated`. Under ASCII rules a complement would hold single bytes
    of longer characters. -/
def negate (f : Flags) (span : Span) (negated : Bool) (s : CharSet) : Except Refusal CharSet :=
  if negated then (if f.unicode then .ok s.compl else refuseSpan .brokenUtf8 span) else .ok s

/-- Refuses a byte beyond ASCII. -/
def checkByte (f : Flags) (l : Literal) : Except Refusal Unit :=
  if !f.unicode && l.octet && decide (127 < l.char.toNat) then refuseSpan .brokenUtf8 l.span
  else .ok ()

/-- The character that a literal in a class stands for. -/
def classChar (f : Flags) (l : Literal) : Except Refusal Char := do
  f.checkByte l
  if !f.unicode && decide (127 < l.char.toNat) then refuseSpan .beyondAscii l.span
  else return l.char

/-- The set of a class with a letter of its own. -/
def shorthand (f : Flags) (span : Span) (kind : Shorthand) (negated : Bool) :
    Except Refusal CharSet :=
  f.negate span negated (if f.unicode then kind.set db else kind.asciiSet)

/-- The set that a query for a property stands for. -/
def query (span : Span) (q : Query) : Except Refusal CharSet :=
  let named := fun name =>
    match db.named? name with
    | some s => .ok s
    | none => refuseSpan .propertyUnknown span
  match q with
  | .letter c => named [c]
  | .named name => named name
  | .valued name value =>
    match db.valued name value with
    | .ok s => .ok s
    | .error .property => refuseSpan .propertyUnknown span
    | .error .value => refuseSpan .propertyValueUnknown span

/-- The set of a class given by a property. -/
def property (f : Flags) (p : Property) : Except Refusal CharSet := do
  if f.unicode then f.negate p.span p.negated (f.fold db (← query db p.span p.query))
  else refuseSpan .beyondAscii p.span

/-- The set that an operator makes of two sets. -/
def combine (f : Flags) (op : SetOp) (s t : CharSet) : CharSet :=
  match op with
  | .inter => (f.fold db s).inter (f.fold db t)
  | .diff => (f.fold db s).diff (f.fold db t)
  | .symmDiff => (f.fold db s).symmDiff (f.fold db t)

end Flags

mutual

/-- The set that the inside of a bracketed class stands for. -/
def classSet (f : Flags) : ClassTree → Except Refusal CharSet
  | .nothing _ => .ok CharSet.empty
  | .literal l => CharSet.single <$> f.classChar l
  | .range _ first last => do
    let lo ← f.classChar first
    let hi ← f.classChar last
    return CharSet.ofRange lo hi
  | .ascii span name negated => f.negate span negated (f.fold db name.set)
  | .property p => f.property db p
  | .shorthand span kind negated => f.shorthand db span kind negated
  | .bracketed span negated body => do f.negate span negated (f.fold db (← classSet f body))
  | .union _ items => classSets f items
  | .combine _ op lhs rhs => do
    let s ← classSet f lhs
    let t ← classSet f rhs
    return f.combine db op s t

/-- The union of the sets of several parts. -/
def classSets (f : Flags) : List ClassTree → Except Refusal CharSet
  | [] => .ok CharSet.empty
  | t :: ts => do
    let s ← classSet f t
    return s.union (← classSets f ts)

end

namespace Flags

/-- What a literal matches. -/
def literal (f : Flags) (l : Literal) : Except Refusal Expr := do
  f.checkByte l
  let s := f.fold db (CharSet.single l.char)
  return Expr.setOf (!f.unicode) s

/-- What the dot matches. -/
def dot (f : Flags) (span : Span) : Except Refusal Expr :=
  if !f.unicode then refuseSpan .brokenUtf8 span
  else if f.dotAll then .ok (.set false CharSet.all)
  else if f.crlf then .ok (.set false (CharSet.ofAscii [('\n', '\n'), ('\r', '\r')]).compl)
  else .ok (.set false (CharSet.single '\n').compl)

/-- The characters of words. -/
def words (f : Flags) : CharSet :=
  if f.unicode then db.wordChar else AsciiClass.word.set

/-- What a test of the place asks for. -/
def anchor (f : Flags) : Anchor → Look
  | .lineStart =>
    if f.multiLine then (if f.crlf then .crlfLineStart else .lineStart) else .textStart
  | .lineEnd => if f.multiLine then (if f.crlf then .crlfLineEnd else .lineEnd) else .textEnd
  | .textStart => .textStart
  | .textEnd => .textEnd
  | .boundary => .boundary (f.words db)
  | .notBoundary => .notBoundary (f.words db)
  | .wordStart => .wordStart (f.words db)
  | .wordEnd => .wordEnd (f.words db)
  | .wordStartHalf => .wordStartHalf (f.words db)
  | .wordEndHalf => .wordEndHalf (f.words db)

end Flags

namespace Expr

mutual

/-- The normal form of a tree under flags, and the flags that hold behind it. -/
def ofTree (f : Flags) : Tree → Except Refusal (Expr × Flags)
  | .empty _ => .ok (empty, f)
  | .flags _ settings => .ok (empty, f.apply settings)
  | .literal l => do return (← f.literal db l, f)
  | .dot span => do return (← f.dot span, f)
  | .anchor _ kind => .ok (look (f.anchor db kind), f)
  | .property p => do return (setOf false (← f.property db p), f)
  | .shorthand span kind negated => do
    return (setOf (!f.unicode) (← f.shorthand db span kind negated), f)
  | .bracketed span negated body => do
    -- Case is closed first: the complement then lacks both cases of each member.
    let s ← f.negate span negated (f.fold db (← classSet db f body))
    return (setOf (!f.unicode) s, f)
  | .loop _ min max greedy body => do
    let (e, f) ← ofTree f body
    return (loopOf min max (greedy != f.swapGreed) e, f)
  | .group _ (.capturing index) body => do
    -- What is set in a group ends with it.
    let (e, _) ← ofTree f body
    return (group index e, f)
  | .group _ (.plain settings) body => do
    let (e, _) ← ofTree (f.apply settings) body
    return (e, f)
  | .alt _ branches => do
    let (es, f) ← ofTrees f branches
    return (altOf es, f)
  | .seq _ items => do
    let (es, f) ← ofTrees f items
    return (seqOf es, f)

/-- The normal forms of several trees, each under the flags that hold behind the one before it. -/
def ofTrees (f : Flags) : List Tree → Except Refusal (List Expr × Flags)
  | [] => .ok ([], f)
  | t :: ts => do
    let (e, f) ← ofTree f t
    let (es, f) ← ofTrees f ts
    return (e :: es, f)

end

end Expr

end Database

end TextScan.Regex
