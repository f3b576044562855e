import TextScan.CharSet

namespace TextScan.Regex

/-!
# Normal form of regular expressions

An expression in normal form says what is matched, in which order of preference, and what is
captured. The functions that build it keep these rules: a sequence holds no sequence, no empty part
and no two literals side by side; an alternative holds no alternative; a repetition that can be said
without one is.

* `Expr` is the type of expressions.
* `Expr.seqOf`, `Expr.altOf`, `Expr.loopOf` and `Expr.setOf` build expressions.
* `Expr.minLen` and `Expr.maxLen` bound the length of what is matched.
-/

/-- Tests of the place between two characters. Where words matter, `words` are their characters. -/
inductive Look where
  | textStart | textEnd
  | lineStart | lineEnd
  /-- Lines that end with a carriage return, a line feed, or both in this order. -/
  | crlfLineStart | crlfLineEnd
  | boundary (words : CharSet) | notBoundary (words : CharSet)
  | wordStart (words : CharSet) | wordEnd (words : CharSet)
  | wordStartHalf (words : CharSet) | wordEndHalf (words : CharSet)
  deriving DecidableEq, Repr

/-- A regular expression in normal form. -/
inductive Expr where
  /-- The empty text. -/
  | empty
  | literal (chars : Text)
  /-- One character of a set. `ascii` tells sets made under ASCII rules from the others. -/
  | set (ascii : Bool) (set : CharSet)
  | look (test : Look)
  /-- At least `min` and at most `max` rounds, as many as possible if `greedy` and as few otherwise.
      -/
  | loop (min : Nat) (max : Option Nat) (greedy : Bool) (body : Expr)
  | group (index : Nat) (body : Expr)
  | seq (items : List Expr)
  /-- One of several, the earlier ones preferred. -/
  | alt (branches : List Expr)
  deriving Repr, Inhabited

namespace Expr

mutual

/-- Equality of expressions. -/
def same : Expr → Expr → Bool
  | empty, empty => true
  | literal a, literal b => a = b
  | set a s, set b t => a = b && decide (s = t)
  | look a, look b => decide (a = b)
  | loop m n g e, loop m' n' g' e' => m = m' && decide (n = n') && g = g' && same e e'
  | group i e, group j e' => i = j && same e e'
  | seq es, seq fs => sameAll es fs
  | alt es, alt fs => sameAll es fs
  | _, _ => false

/-- Equality of lists of expressions. -/
def sameAll : List Expr → List Expr → Bool
  | [], [] => true
  | e :: es, f :: fs => same e f && sameAll es fs
  | _, _ => false

end

mutual

/-- The least number of characters matched, or nothing for an expression that never matches. -/
def minLen : Expr → Option Nat
  | empty => some 0
  | literal cs => some cs.length
  | set _ s => if s.ranges.isEmpty then none else some 1
  | look _ => some 0
  | loop min _ _ e => (minLen e).map (· * min)
  | group _ e => minLen e
  | seq es => minLenSeq es
  | alt es => minLenAlt es

/-- The least number of characters that a sequence matches. -/
def minLenSeq : List Expr → Option Nat
  | [] => some 0
  | e :: es =>
    match minLen e, minLenSeq es with
    | some a, some b => some (a + b)
    | _, _ => none

/-- The least number of characters that some alternative matches, if all of them can match. -/
def minLenAlt : List Expr → Option Nat
  | [] => none
  | [e] => minLen e
  | e :: es =>
    match minLen e, minLenAlt es with
    | some a, some b => some (min a b)
    | _, _ => none

end

mutual

/-- The greatest number of characters matched, or nothing if there is no bound or no match. -/
def maxLen : Expr → Option Nat
  | empty => some 0
  | literal cs => some cs.length
  | set _ s => if s.ranges.isEmpty then none else some 1
  | look _ => some 0
  | loop _ max _ e =>
    match max, maxLen e with
    | some n, some a => some (a * n)
    | _, _ => none
  | group _ e => maxLen e
  | seq es => maxLenSeq es
  | alt es => maxLenAlt es

/-- The greatest number of characters that a sequence matches. -/
def maxLenSeq : List Expr → Option Nat
  | [] => some 0
  | e :: es =>
    match maxLen e, maxLenSeq es with
    | some a, some b => some (a + b)
    | _, _ => none

/-- The greatest number of characters that some alternative matches, if all of them have a bound. -/
def maxLenAlt : List Expr → Option Nat
  | [] => none
  | [e] => maxLen e
  | e :: es =>
    match maxLen e, maxLenAlt es with
    | some a, some b => some (max a b)
    | _, _ => none

end

mutual

/-- How many expressions it is made of. -/
def size : Expr → Nat
  | loop _ _ _ e => size e + 1
  | group _ e => size e + 1
  | seq es => sizeAll es + 1
  | alt es => sizeAll es + 1
  | _ => 1

/-- How many expressions a list is made of. -/
def sizeAll : List Expr → Nat
  | [] => 0
  | e :: es => size e + sizeAll es

end

mutual

/-- The greatest number of a group in the expression, or zero. -/
def groups : Expr → Nat
  | loop _ _ _ e => groups e
  | group i e => max i (groups e)
  | seq es => groupsAll es
  | alt es => groupsAll es
  | _ => 0

/-- The greatest number of a group in a list of expressions, or zero. -/
def groupsAll : List Expr → Nat
  | [] => 0
  | e :: es => max (groups e) (groupsAll es)

end

/-- The expression that never matches. -/
def never : Expr := set true CharSet.empty

/-- One character of a set; a set with one member is written as a literal. -/
def setOf (ascii : Bool) (s : CharSet) : Expr :=
  if s.ranges.isEmpty then never
  else
    match s.onlyMember? with
    | some c => literal [c]
    | none => set ascii s

/-- A repetition. What only matches the empty text needs no second round. -/
def loopOf (min : Nat) (max : Option Nat) (greedy : Bool) (e : Expr) : Expr :=
  let (min, max) :=
    if e.maxLen = some 0 then (Nat.min min 1, some ((max.map (Nat.min · 1)).getD 1))
    else (min, max)
  if min = 0 ∧ max = some 0 then empty
  else if min = 1 ∧ max = some 1 then e
  else loop min max greedy e

/-- The parts that an expression contributes to a sequence around it. -/
def seqParts : Expr → List Expr
  | empty => []
  | seq es => es
  | e => [e]

/-- Puts an expression before a sequence; two literals side by side become one. -/
def consMerged : Expr → List Expr → List Expr
  | literal a, literal b :: es => literal (a ++ b) :: es
  | e, es => e :: es

/-- A sequence. -/
def seqOf (es : List Expr) : Expr :=
  match (es.flatMap seqParts).foldr consMerged [] with
  | [] => empty
  | [e] => e
  | es => seq es

/-- The branches that an expression contributes to an alternative around it. -/
def altParts : Expr → List Expr
  | alt es => es
  | e => [e]

/-- The set of the branches if each of them is a literal of one character. -/
def charsOf? : List Expr → Option CharSet
  | [] => some CharSet.empty
  | literal [c] :: es => (charsOf? es).map (CharSet.union · (CharSet.single c))
  | _ => none

/-- The set of the branches if each of them is a set. -/
def setsOf? : List Expr → Option CharSet
  | [] => some CharSet.empty
  | set _ s :: es => (setsOf? es).map (CharSet.union s)
  | _ => none

/-- The longest common beginning of two sequences. -/
def commonStart : List Expr → List Expr → List Expr
  | e :: es, f :: fs => if same e f then e :: commonStart es fs else []
  | _, _ => []

/-- The items of a sequence. -/
def items? : Expr → Option (List Expr)
  | seq es => some es
  | _ => none

/-- The longest common beginning of several sequences. -/
def commonStartAll : List (List Expr) → List Expr
  | [] => []
  | [es] => es
  | es :: rest => commonStart es (commonStartAll rest)

/-- An alternative. Branches that are single characters, and branches that are sets, become one set.
    A beginning that all branches share is matched once, before the choice; the rest of the branches
    is smaller, so `fuel` bounds how often this happens. -/
def altUpTo : Nat → List Expr → Expr
  | 0, es => alt es
  | fuel + 1, es =>
    match es.flatMap altParts with
    | [] => never
    | [e] => e
    | es =>
      match charsOf? es, setsOf? es, es.mapM items? with
      | some s, _, _ => setOf false s
      | none, some s, _ => setOf false s
      | none, none, some rows =>
        -- Every branch is a sequence.
        let start := commonStartAll rows
        if start.isEmpty then alt es
        else seqOf (start ++ [altUpTo fuel (rows.map fun row => seqOf (row.drop start.length))])
      | none, none, none => alt es

/-- An alternative of the given branches. -/
def altOf (es : List Expr) : Expr := altUpTo (sizeAll es + 1) es

end Expr

end TextScan.Regex
