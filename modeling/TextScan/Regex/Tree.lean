import TextScan.CharSet

namespace TextScan.Regex

/-!
# Regular expressions as they are written

The tree of a regular expression keeps everything the notation says, with the place of each part, so
that a later refusal can point at it.

* `Span` names a part of the source by how much of the source is unread at its ends. Such places do
  not change when something is put in front of the source.
* `ClassTree` is the tree of a bracketed class.
* `Tree` is the tree of an expression.
* `Tree.deep?` finds the first part that is nested too deeply.
-/

/-- A part of the source. Both ends are given by the number of characters from there to the end of
    the source, so the start is the larger number. -/
structure Span where
  /-- How much is unread where the part begins. -/
  start : Nat
  /-- How much is unread where the part ends. -/
  stop : Nat
  deriving DecidableEq, Repr, Inhabited

/-- A single character, however it is written. -/
structure Literal where
  /-- Where it stands. -/
  span : Span
  /-- The character meant. -/
  char : Char
  /-- Whether it is written as `\x` with two digits, and so may mean a byte. -/
  octet : Bool
  deriving DecidableEq, Repr

/-- The three classes with a letter of their own. -/
inductive Shorthand where
  | digit
  | space
  | word
  deriving DecidableEq, Repr

/-- How a property of characters is asked for. -/
inductive Query where
  /-- By one letter, as in `\pL`. -/
  | letter (c : Char)
  /-- By a name in braces. -/
  | named (name : Text)
  /-- By a name and a value in braces. -/
  | valued (name value : Text)
  deriving DecidableEq, Repr

/-- A class given by a property. -/
structure Property where
  span : Span
  negated : Bool
  query : Query
  deriving DecidableEq, Repr

/-- The named classes of ASCII characters. -/
inductive AsciiClass where
  | alnum | alpha | ascii | blank | cntrl | digit | graph | lower | print | punct | space | upper
  | word | xdigit
  deriving DecidableEq, Repr

/-- The operators between two parts of a bracketed class. -/
inductive SetOp where
  | inter
  | diff
  | symmDiff
  deriving DecidableEq, Repr

/-- What stands between the brackets of a class. -/
inductive ClassTree where
  /-- Nothing, as on the left of `[&&a]`. -/
  | nothing (span : Span)
  | literal (lit : Literal)
  | range (span : Span) (first last : Literal)
  /-- A named class such as `[:alpha:]`. -/
  | ascii (span : Span) (name : AsciiClass) (negated : Bool)
  | property (p : Property)
  | shorthand (span : Span) (kind : Shorthand) (negated : Bool)
  /-- A class within the class. -/
  | bracketed (span : Span) (negated : Bool) (body : ClassTree)
  /-- Two or more parts side by side. -/
  | union (span : Span) (items : List ClassTree)
  | combine (span : Span) (op : SetOp) (lhs rhs : ClassTree)
  deriving Repr

/-- Tests of the place between two characters, as they are written. -/
inductive Anchor where
  | lineStart | lineEnd
  | textStart | textEnd
  | boundary | notBoundary
  | wordStart | wordEnd
  | wordStartHalf | wordEndHalf
  deriving DecidableEq, Repr

/-- The letters of flag directives. -/
inductive Flag where
  | caseless | multiLine | dotAll | swapGreed | unicode | crlf | verbose
  deriving DecidableEq, Repr

/-- The flags of a directive in order, each with whether it is switched on. -/
abbrev FlagSettings := List (Flag × Bool)

/-- What kind of group a pair of parentheses makes. -/
inductive GroupKind where
  /-- A group that is numbered. -/
  | capturing (index : Nat)
  /-- A group that only holds together, under flags of its own. -/
  | plain (flags : FlagSettings)
  deriving DecidableEq, Repr

/-- The tree of a regular expression. -/
inductive Tree where
  | empty (span : Span)
  /-- A directive such as `(?i)`, which holds to the end of its group. -/
  | flags (span : Span) (settings : FlagSettings)
  | literal (lit : Literal)
  | dot (span : Span)
  | anchor (span : Span) (kind : Anchor)
  | property (p : Property)
  | shorthand (span : Span) (kind : Shorthand) (negated : Bool)
  | bracketed (span : Span) (negated : Bool) (body : ClassTree)
  | loop (span : Span) (min : Nat) (max : Option Nat) (greedy : Bool) (body : Tree)
  | group (span : Span) (kind : GroupKind) (body : Tree)
  | alt (span : Span) (branches : List Tree)
  | seq (span : Span) (items : List Tree)
  deriving Repr, Inhabited

namespace ClassTree

/-- Where the part stands. -/
def span : ClassTree → Span
  | nothing s => s
  | literal l => l.span
  | range s _ _ => s
  | ascii s _ _ => s
  | property p => p.span
  | shorthand s _ _ => s
  | bracketed s _ _ => s
  | union s _ => s
  | combine s _ _ _ => s

mutual

/-- The first part, from outside to inside and left to right, that lies more than `room` levels
    deep. -/
def deep? (room : Nat) : ClassTree → Option Span
  | nothing _ => none
  | literal _ => none
  | range _ _ _ => none
  | ascii _ _ _ => none
  | property _ => none
  | shorthand _ _ _ => none
  | bracketed s _ body => if room = 0 then some s else deep? (room - 1) body
  | union s items => if room = 0 then some s else deepAmong? (room - 1) items
  | combine s _ lhs rhs =>
    if room = 0 then some s else (deep? (room - 1) lhs).or (deep? (room - 1) rhs)

/-- The first part of a list that lies too deep. -/
def deepAmong? (room : Nat) : List ClassTree → Option Span
  | [] => none
  | t :: ts => (deep? room t).or (deepAmong? room ts)

end

end ClassTree

namespace Tree

/-- Where the part stands. -/
def span : Tree → Span
  | empty s => s
  | flags s _ => s
  | literal l => l.span
  | dot s => s
  | anchor s _ => s
  | property p => p.span
  | shorthand s _ _ => s
  | bracketed s _ _ => s
  | loop s _ _ _ _ => s
  | group s _ _ => s
  | alt s _ => s
  | seq s _ => s

/-- Whether a repetition may follow: nothing and directives cannot be repeated. -/
def repeatable : Tree → Bool
  | empty _ => false
  | flags _ _ => false
  | _ => true

mutual

/-- The first part, from outside to inside and left to right, that lies more than `room` levels
    deep. Groups, repetitions, sequences, alternatives and everything nested in brackets count as
    levels. -/
def deep? (room : Nat) : Tree → Option Span
  | empty _ => none
  | flags _ _ => none
  | literal _ => none
  | dot _ => none
  | anchor _ _ => none
  | property _ => none
  | shorthand _ _ _ => none
  | bracketed s _ body => if room = 0 then some s else body.deep? (room - 1)
  | loop s _ _ _ body => if room = 0 then some s else deep? (room - 1) body
  | group s _ body => if room = 0 then some s else deep? (room - 1) body
  | alt s branches => if room = 0 then some s else deepAmong? (room - 1) branches
  | seq s items => if room = 0 then some s else deepAmong? (room - 1) items

/-- The first part of a list that lies too deep. -/
def deepAmong? (room : Nat) : List Tree → Option Span
  | [] => none
  | t :: ts => (deep? room t).or (deepAmong? room ts)

end

end Tree

end TextScan.Regex
