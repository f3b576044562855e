import TextScan.Regex.Expr
import TextScan.Regex.Size.Set
import TextScan.Regex.Size.Words

namespace TextScan.Regex

/-!
# The size of an expression

An expression is refused if an automaton for it would take too much space. The automaton reads
bytes, one state after another, and repetitions are written out. It has to fit twice: read forwards,
where it notes the places of groups, and read backwards.

* `Expr.grow` adds the states for an expression to an automaton.
* `Expr.automaton` is the extent of the whole automaton.
* `Expr.sizeBound` is a bound on that extent which needs no automaton.
* `Expr.fits` says whether an expression is small enough. Of the expressions that need no automaton,
  only short texts are told apart.
-/

namespace Expr

mutual

/-- Whether every match begins where the text begins. -/
def opensText : Expr → Bool
  | look test => test = .textStart
  | loop min _ _ e => 0 < min && opensText e
  | group _ e => opensText e
  | seq es => opensTextSeq es
  | alt es => opensTextAlt es
  | _ => false

/-- Whether every match of a sequence begins where the text begins. -/
def opensTextSeq : List Expr → Bool
  | [] => false
  | e :: es => opensText e || (maxLen e = some 0 && opensTextSeq es)

/-- Whether every match of each branch begins where the text begins. -/
def opensTextAlt : List Expr → Bool
  | [] => true
  | e :: es => opensText e && opensTextAlt es

end

mutual

/-- Whether every match ends where the text ends. -/
def closesText : Expr → Bool
  | look test => test = .textEnd
  | loop min _ _ e => 0 < min && closesText e
  | group _ e => closesText e
  | seq es => closesTextSeq es
  | alt es => closesTextAlt es
  | _ => false

/-- Whether every match of a sequence ends where the text ends. -/
def closesTextSeq : List Expr → Bool
  | [] => false
  | e :: es => closesTextSeq es || (maxLenSeq es = some 0 && closesText e)

/-- Whether every match of each branch ends where the text ends. -/
def closesTextAlt : List Expr → Bool
  | [] => true
  | e :: es => closesText e && closesTextAlt es

end

/-- The bytes of a text. -/
def encoding (cs : Text) : List Nat := cs.flatMap fun c => Encoding.bytes c.toNat

/-- The encodings of several texts if each expression is a literal. -/
def words? : List Expr → Option (List (List Nat))
  | [] => some []
  | literal cs :: es => (words? es).map (encoding cs :: ·)
  | _ => none

/-- Lets an automaton grow `n` times, or until it is larger than the limit. -/
def growTimes (step : Extent → Extent) (limit : Nat) : Nat → Extent → Extent
  | 0, x => x
  | n + 1, x => if limit < x.bytes then x else growTimes step limit n (step x)

mutual

/-- Adds the states for an expression, for reading backwards if `back`. Once the automaton is larger
    than the limit, not all of them are added. -/
def grow (back : Bool) (limit : Nat) : Expr → Extent → Extent
  | empty, x => x.grow 0
  | literal cs, x => x.growBy cs.byteSize
  | set _ s, x => x.growSet back s
  | look _, x => x.grow 0
  | loop 0 (some 1) _ e, x => (grow back limit e (x.growChoice 2)).grow 0
  | loop min (some max) _ e, x =>
    let x := if min = 0 then x.grow 0 else growTimes (grow back limit e) limit min x
    if min = max then x
    else growTimes (fun x => grow back limit e (x.growChoice 2)) limit (max - min) (x.grow 0)
  | loop 0 none _ e, x =>
    if (minLen e).any (0 < ·) then grow back limit e (x.growChoice 2)
    else (((grow back limit e x).growChoice 2).growChoice 2).grow 0
  | loop min none _ e, x => (growTimes (grow back limit e) limit min x).growChoice 2
  | group _ e, x => if back then grow back limit e x else (grow back limit e (x.grow 0)).grow 0
  | seq es, x => growSeq back limit es x
  | alt es, x =>
    match words? es with
    | some words => x.growWords (if back then words.map List.reverse else words)
    | none => growAlt back limit es x

/-- Adds the states for a sequence. -/
def growSeq (back : Bool) (limit : Nat) : List Expr → Extent → Extent
  | [], x => x
  | e :: es, x =>
    -- Read backwards, the last part comes first.
    if back then grow back limit e (growSeq back limit es x)
    else growSeq back limit es (grow back limit e x)

/-- Adds the states for an alternative: after two branches the choice, then the other branches. -/
def growAlt (back : Bool) (limit : Nat) : List Expr → Extent → Extent
  | e :: f :: es, x =>
    let x := grow back limit f (grow back limit e x)
    growEach back limit es ((x.growChoice (es.length + 2)).grow 0)
  | [e], x => grow back limit e x
  | [], x => x.grow 0

/-- Adds the states for several expressions, one after another. -/
def growEach (back : Bool) (limit : Nat) : List Expr → Extent → Extent
  | [], x => x
  | e :: es, x => growEach back limit es (grow back limit e x)

end

/-- The extent of the automaton for a whole expression. It passes over what stands before a match,
    unless matches can only be where the reading begins. -/
def automaton (back : Bool) (limit : Nat) (e : Expr) : Extent :=
  let fixed := if back then closesText e else opensText e
  let x := Extent.zero
  let x := if fixed then x.grow 0 else ((x.growChoice 2).grow 0).growFork 1
  (grow back limit (group 0 e) x).grow 0

mutual

/-- A bound on the bytes for an expression. The encodings of a range fit in 21 rows with 65 bytes in
    all, and each byte takes at most a state and a way. -/
def bytesBound : Expr → Nat
  | empty => 32
  | literal cs => 400 * cs.length
  | set _ s => 128 + 2700 * s.ranges.length
  | look _ => 32
  | loop min max _ e => 128 + (max.getD min + 1) * (bytesBound e + 48)
  | group _ e => bytesBound e + 64
  | seq es => bytesBoundAll es
  | alt es => bytesBoundAll es + 128

/-- A bound on the bytes for several expressions and a choice between them. -/
def bytesBoundAll : List Expr → Nat
  | [] => 0
  | e :: es => bytesBound e + 48 + bytesBoundAll es

end

/-- A bound on the bytes of the whole automaton, in either direction. -/
def sizeBound (e : Expr) : Nat := bytesBound e + 256

/-- Whether the expression is a short text. Such a text is looked for as it is, without an
    automaton. A choice between a few texts, such as `foo|bar` or `[a-c]`, could be looked for in
    this way too. That is left out here, so a limit too small for an automaton refuses it. -/
def isShortText : Expr → Bool
  | literal cs => cs.byteSize ≤ 100
  | _ => false

/-- Whether the automaton takes no more bytes than the limit in either direction. The bound settles
    this for all but large expressions. -/
def fits (limit : Nat) (e : Expr) : Bool :=
  isShortText e || decide (sizeBound e ≤ limit) ||
    (decide ((automaton false limit e).bytes ≤ limit) &&
      decide ((automaton true limit e).bytes ≤ limit))

end Expr

end TextScan.Regex
