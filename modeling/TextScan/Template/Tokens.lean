import TextScan.Pattern.Regex
import TextScan.Scanner.Token

namespace TextScan.Template

/-!
# Tokens of templates

A template for another reader: text with blocks in double braces and tags in braces with a percent
sign. Blocks and tags hold names and bars; a tag begins with a keyword. Blanks between tokens are
dropped, those behind an opening belong to it.

* `Token` is a token with its place in characters.
* `TokenError` lists the causes of failure.
* `Lexicon` holds the patterns, `Lexicon.inside` reads a block or a tag behind its opening, and
  `Lexicon.tokenize` a source.
-/

/-- The kinds of tokens. -/
inductive Kind where
  | text
  | blockOpen
  | blockClose
  | tagOpen
  | tagClose
  | keyword
  | ident
  | pipe
  deriving DecidableEq, Repr

/-- The name of a kind. -/
def Kind.name : Kind → String
  | text => "Text"
  | blockOpen => "Open"
  | blockClose => "Close"
  | tagOpen => "TagOpen"
  | tagClose => "TagClose"
  | keyword => "Keyword"
  | ident => "Ident"
  | pipe => "Pipe"

/-- A token, with the number of characters before it. -/
structure Token where
  kind : Kind
  start : Nat
  text : Text
  deriving DecidableEq, Repr

/-- Why a source has no tokens. -/
inductive TokenError where
  | pattern (e : PatternError)
  /-- The source ends within a block or a tag. -/
  | unterminated (pos : Nat)
  /-- A character stands where no token begins. -/
  | unexpected (found : Text) (pos : Nat)
  /-- A tag does not begin with a keyword. -/
  | noKeyword (pos : Nat)
  deriving DecidableEq, Repr

/-- The wording of an error. -/
def TokenError.message : TokenError → Text
  | pattern e => e.message
  | unterminated pos => ("unterminated block at " ++ toString pos).toList
  | unexpected found pos =>
    "unexpected ".toList ++ Text.quoted found ++ (" at " ++ toString pos).toList
  | noKeyword pos => ("expected keyword at " ++ toString pos).toList

/-- The patterns of the tokens. -/
structure Lexicon where
  blockOpen : AnchoredRegex
  tagOpen : AnchoredRegex
  blockClose : AnchoredRegex
  tagClose : AnchoredRegex
  anyOpen : AnchoredRegex
  keyword : AnchoredRegex
  ident : AnchoredRegex
  pipe : AnchoredRegex
  space : AnchoredRegex

/-- Builds the patterns of the tokens. -/
def Lexicon.new? : Except PatternError Lexicon := do
  return {
    blockOpen := ← AnchoredRegex.new? "\\\x7b\\\x7b\\s*".toList
    tagOpen := ← AnchoredRegex.new? "\\\x7b%\\s*".toList
    blockClose := ← AnchoredRegex.new? "\\\x7d\\\x7d".toList
    tagClose := ← AnchoredRegex.new? "%\\\x7d".toList
    anyOpen := ← AnchoredRegex.new? "\\\x7b[\x7b%]".toList
    keyword := ← AnchoredRegex.new? "\\w+".toList
    ident := ← AnchoredRegex.new? "[A-Za-z_][\\w.]*".toList
    pipe := ← AnchoredRegex.new? "\\|".toList
    space := ← AnchoredRegex.new? "\\s+".toList }

namespace Lexicon

open Scanner (Behind)

/-- Takes a token. -/
def token? (s : Scanner) (p : AnchoredRegex) : Except TokenError (Option (Text × s.Behind)) :=
  (s.token? p.toPattern).mapError .pattern

/-- Reads a block or a tag behind its opening, with its closing marker. -/
def inside (l : Lexicon) (close : AnchoredRegex) (closeKind : Kind) (s : Scanner) :
    Except TokenError (List Token × s.Behind) := do
  let ⟨s₁, h₁⟩ ← (s.skipToken l.space.toPattern).mapError .pattern
  match ← token? s₁ close with
  | some (text, t) => return ([⟨closeKind, s₁.pos, text⟩], t.after h₁)
  | none =>
    match ← token? s₁ l.ident with
    | some (text, ⟨t, h⟩) =>
      let (more, u) ← inside l close closeKind t
      return (⟨.ident, s₁.pos, text⟩ :: more, (Behind.trans ⟨t, h⟩ u).after h₁)
    | none =>
      match ← token? s₁ l.pipe with
      | some (text, ⟨t, h⟩) =>
        let (more, u) ← inside l close closeKind t
        return (⟨.pipe, s₁.pos, text⟩ :: more, (Behind.trans ⟨t, h⟩ u).after h₁)
      | none =>
        if s₁.atEnd then throw (.unterminated s₁.pos)
        else throw (.unexpected (s₁.peek 1) s₁.pos)
termination_by s.unread

/-- The tokens of what lies behind the cursor. Where neither a block nor a tag lies ahead, all that
    is left is text. -/
def tokensFrom (l : Lexicon) (s : Scanner) : Except TokenError (List Token) := do
  if s.atEnd then return []
  match ← token? s l.blockOpen with
  | some (text, ⟨t, _h⟩) =>
    let (more, ⟨u, _h'⟩) ← l.inside l.blockClose .blockClose t
    return ⟨.blockOpen, s.pos, text⟩ :: (more ++ (← tokensFrom l u))
  | none =>
    match ← token? s l.tagOpen with
    | some (text, ⟨t, _h⟩) =>
      match ← token? t l.keyword with
      | none => throw (.noKeyword t.pos)
      | some (word, ⟨t₁, _h₁⟩) =>
        let (more, ⟨u, _h'⟩) ← l.inside l.tagClose .tagClose t₁
        return ⟨.tagOpen, s.pos, text⟩ :: ⟨.keyword, t.pos, word⟩ ::
          (more ++ (← tokensFrom l u))
    | none =>
      match ← (s.locate l.anyOpen.toPattern).result.mapError .pattern with
      | none => return [⟨.text, s.pos, s.rest⟩]
      | some k =>
        let t := (s.moveTo (s.pos + k)).scanner
        if _h : t.unread < s.unread then return ⟨.text, s.pos, s.peek k⟩ :: (← tokensFrom l t)
        else return [⟨.text, s.pos, s.rest⟩]
termination_by s.unread

/-- The tokens of a source. -/
def tokenize (l : Lexicon) (source : Text) : Except TokenError (List Token) :=
  l.tokensFrom (Scanner.new source)

end Lexicon

/-- The tokens of a source. -/
def tokenize (source : Text) : Except TokenError (List Token) := do
  (← Lexicon.new?.mapError .pattern).tokenize source

end TextScan.Template
