import Mathlib.Data.List.Chain
import TextScan.Proofs.Template.Vocabulary
import TextScan.Template.Tokens

namespace TextScan.Template

/-!
# How tokens lie in a source

What a source with given tokens looks like, apart from any way to read it.

* `Spells` tells the texts of the tokens of each kind, `Kinds` the order of the kinds.
* `Piece` is a token with the blanks in front of it. `Follows` tells which pieces may stand side by
  side, `Placed` what the places of their tokens are.
* `Layout` says that pieces are those of a source, and `printed` is the source that they make up.
* `joinTokens` are the tokens of two sources that stand side by side.
* `eq_of_tokens_eq` says that a source and its tokens tell the pieces.
-/

/-! ### Tokens -/

/-- What a tag begins with. -/
def openTag : Text := ['{', '%']

/-- What a tag ends with. -/
def closeTag : Text := ['%', '}']

/-- Whether a character belongs to words. -/
def isWordChar (c : Char) : Bool := Unicode.wordChar.contains c

/-- Whether names may begin with a character. -/
def isIdentStart (c : Char) : Bool := c.isAlpha || c = '_'

/-- Whether a character belongs to names, behind the first one. -/
def isIdentPart (c : Char) : Bool := isWordChar c || c = '.'

/-- Neither a block nor a tag begins in the text. -/
def Plain (t : Text) : Prop := ¬ openBraces <:+: t ∧ ¬ openTag <:+: t

/-- The texts of the tokens of a kind. -/
inductive Spells : Kind → Text → Prop
  | text {t : Text} : t ≠ [] → Plain t → Spells .text t
  | blockOpen {b : Text} : Blanks b → Spells .blockOpen (openBraces ++ b)
  | blockClose : Spells .blockClose closeBraces
  | tagOpen {b : Text} : Blanks b → Spells .tagOpen (openTag ++ b)
  | tagClose : Spells .tagClose closeTag
  | keyword {t : Text} : t ≠ [] → (∀ c ∈ t, isWordChar c) → Spells .keyword t
  | ident {c : Char} {t : Text} : isIdentStart c → (∀ d ∈ t, isIdentPart d) → Spells .ident (c :: t)
  | pipe : Spells .pipe ['|']

theorem Spells.of_text {t : Text} (h : Spells .text t) : t ≠ [] ∧ Plain t := by
  cases h with
  | text hne hplain => exact ⟨hne, hplain⟩

/-! ### Tokens side by side -/

/-- The tokens of one source and then those of another one. A text at the end of the first and one
    at the start of the second become one token, which starts where the former does. -/
def joinTokens (ts us : List Token) : List Token :=
  match ts.getLast?, us with
  | some t, u :: us' =>
    if t.kind = .text ∧ u.kind = .text then ts.dropLast ++ ⟨.text, t.start, t.text ++ u.text⟩ :: us'
    else ts ++ us
  | _, _ => ts ++ us

@[simp]
theorem joinTokens_nil_left (us : List Token) : joinTokens [] us = us := rfl

@[simp]
theorem joinTokens_nil_right (ts : List Token) : joinTokens ts [] = ts := by
  unfold joinTokens
  split
  · rename_i h
    cases h
  · exact List.append_nil ts

/-- Where the second source does not begin with text, its tokens stay apart. -/
theorem joinTokens_of_head {ts us : List Token} (h : ∀ u ∈ us.head?, u.kind ≠ .text) :
    joinTokens ts us = ts ++ us := by
  unfold joinTokens
  split
  · rename_i t u us' hlast
    exact if_neg fun hkinds => h u rfl hkinds.2
  · rfl

/-- Only the last token can become one with what follows, and only if it is text. -/
theorem joinTokens_append {ts₁ ts₂ : List Token} (us : List Token)
    (h : ts₂ = [] → ∀ t ∈ ts₁.getLast?, t.kind ≠ .text) :
    joinTokens (ts₁ ++ ts₂) us = ts₁ ++ joinTokens ts₂ us := by
  cases us with
  | nil => simp
  | cons u us =>
    by_cases hne : ts₂ = []
    · subst hne
      rw [List.append_nil, joinTokens_nil_left]
      unfold joinTokens
      split
      · rename_i t u' us' hlast heq
        exact if_neg fun hkinds => h rfl t hlast hkinds.1
      · rfl
    · have hlast := List.getLast?_append_of_ne_nil ts₁ hne
      have hdrop : (ts₁ ++ ts₂).dropLast = ts₁ ++ ts₂.dropLast := List.dropLast_append_of_ne_nil hne
      simp only [joinTokens, hlast, hdrop, List.append_assoc]
      split
      · split <;> rfl
      · rfl

/-! ### The order of kinds -/

/-- Names and bars up to the closing marker. -/
inductive Body (close : Kind) : List Kind → Prop
  | close : Body close [close]
  | cons {k : Kind} {ks : List Kind} : k = .ident ∨ k = .pipe → Body close ks →
      Body close (k :: ks)

/-- The kinds of the tokens of a source. No text stands behind another one. -/
inductive Kinds : List Kind → Prop
  | nil : Kinds []
  | text {ks : List Kind} : ks.head? ≠ some .text → Kinds ks → Kinds (.text :: ks)
  | block {body ks : List Kind} : Body .blockClose body → Kinds ks →
      Kinds (.blockOpen :: (body ++ ks))
  | tag {body ks : List Kind} : Body .tagClose body → Kinds ks →
      Kinds (.tagOpen :: .keyword :: (body ++ ks))

/-! ### Pieces -/

/-- A token and the blanks in front of it. -/
structure Piece where
  gap : Text
  token : Token
  deriving DecidableEq, Repr

/-- Whether there may be blanks in front of a token of the kind. -/
def Kind.takesGap : Kind → Bool
  | ident | pipe | blockClose | tagClose => true
  | text | blockOpen | tagOpen | keyword => false

/-- A piece consists of blanks and a token of its kind. -/
structure Piece.Valid (p : Piece) : Prop where
  blanks : Blanks p.gap
  gap_eq_nil : p.token.kind.takesGap = false → p.gap = []
  spells : Spells p.token.kind p.token.text

/-- The second piece may stand behind the first one. -/
structure Follows (p q : Piece) : Prop where
  /-- Blanks behind an opening belong to it. -/
  opening : p.token.kind = .blockOpen ∨ p.token.kind = .tagOpen → q.gap = []
  /-- A name is kept apart from the word in front of it. -/
  words : p.token.kind = .ident ∨ p.token.kind = .keyword → q.token.kind = .ident → q.gap ≠ []
  /-- The last brace of a text would become part of what follows. -/
  text : p.token.kind = .text → p.token.text.getLast? ≠ some '{'

instance (p q : Piece) : Decidable (Follows p q) :=
  decidable_of_iff ((p.token.kind = .blockOpen ∨ p.token.kind = .tagOpen → q.gap = []) ∧
      (p.token.kind = .ident ∨ p.token.kind = .keyword → q.token.kind = .ident → q.gap ≠ []) ∧
      (p.token.kind = .text → p.token.text.getLast? ≠ some '{'))
    ⟨fun h => ⟨h.1, h.2.1, h.2.2⟩, fun h => ⟨h.opening, h.words, h.text⟩⟩

/-- The source that the pieces make up. -/
def printed (ps : List Piece) : Text := ps.flatMap fun p => p.gap ++ p.token.text

/-- The tokens of the pieces. -/
def tokens (ps : List Piece) : List Token := ps.map Piece.token

/-- The kinds of the tokens of the pieces. -/
def kindsOf (ps : List Piece) : List Kind := ps.map fun p => p.token.kind

/-- Where `n` characters stand before the pieces, each token tells how many stand before it. -/
def Placed : Nat → List Piece → Prop
  | _, [] => True
  | n, p :: ps => p.token.start = n + p.gap.length ∧ Placed (p.token.start + p.token.text.length) ps

/-- Pieces that lie side by side, with `n` characters before them. -/
structure Strung (n : Nat) (ps : List Piece) : Prop where
  valid : ∀ p ∈ ps, p.Valid
  follows : ps.IsChain Follows
  placed : Placed n ps

/-- The pieces of a source that begins behind `n` characters. -/
structure Layout (n : Nat) (ps : List Piece) : Prop extends Strung n ps where
  kinds : Kinds (kindsOf ps)

variable {n : Nat} {p : Piece} {ps qs : List Piece} {close : Kind}

/-! ### Rewriting -/

@[simp]
theorem printed_nil : printed [] = [] := rfl

@[simp]
theorem printed_cons : printed (p :: ps) = p.gap ++ (p.token.text ++ printed ps) :=
  List.append_assoc ..

@[simp]
theorem printed_append : printed (ps ++ qs) = printed ps ++ printed qs := List.flatMap_append ..

theorem printed_suffix (ps qs : List Piece) : printed qs <:+ printed (ps ++ qs) := by
  rw [printed_append]
  exact List.suffix_append _ _

@[simp]
theorem tokens_cons : tokens (p :: ps) = p.token :: tokens ps := rfl

@[simp]
theorem tokens_append : tokens (ps ++ qs) = tokens ps ++ tokens qs := List.map_append ..

@[simp]
theorem kindsOf_cons : kindsOf (p :: ps) = p.token.kind :: kindsOf ps := rfl

@[simp]
theorem kindsOf_append : kindsOf (ps ++ qs) = kindsOf ps ++ kindsOf qs := List.map_append ..

theorem kindsOf_eq_map (ps : List Piece) : kindsOf ps = (tokens ps).map Token.kind := by
  rw [tokens, List.map_map]
  rfl

theorem body_cons {k : Kind} {ks : List Kind} :
    Body close (k :: ks) ↔ k = close ∧ ks = [] ∨ (k = .ident ∨ k = .pipe) ∧ Body close ks := by
  constructor
  · intro h
    cases h with
    | close => exact .inl ⟨rfl, rfl⟩
    | cons hk hks => exact .inr ⟨hk, hks⟩
  · rintro (⟨rfl, rfl⟩ | ⟨hk, hks⟩)
    · exact .close
    · exact .cons hk hks

theorem placed_append :
    Placed n (ps ++ qs) ↔ Placed n ps ∧ Placed (n + (printed ps).length) qs := by
  induction ps generalizing n with
  | nil => simp [Placed]
  | cons p ps ih =>
    rw [List.cons_append, Placed, Placed, ih, and_assoc]
    refine and_congr_right fun hstart => ?_
    simp only [hstart, printed_cons, List.length_append, Nat.add_assoc]

theorem strung_nil (n : Nat) : Strung n [] :=
  ⟨fun _ h => absurd h List.not_mem_nil, .nil, trivial⟩

theorem strung_cons : Strung n (p :: ps) ↔ p.Valid ∧ p.token.start = n + p.gap.length ∧
    (∀ q ∈ ps.head?, Follows p q) ∧ Strung (p.token.start + p.token.text.length) ps := by
  constructor
  · rintro ⟨hvalid, hfollows, hstart, hplaced⟩
    rw [List.forall_mem_cons] at hvalid
    rw [List.isChain_cons] at hfollows
    exact ⟨hvalid.1, hstart, hfollows.1, hvalid.2, hfollows.2, hplaced⟩
  · rintro ⟨hp, hstart, hhead, hvalid, hfollows, hplaced⟩
    exact ⟨List.forall_mem_cons.2 ⟨hp, hvalid⟩, List.isChain_cons.2 ⟨hhead, hfollows⟩, hstart,
      hplaced⟩

theorem Strung.gap_eq_nil (h : Strung n (p :: ps)) (hp : p.token.kind.takesGap = false) :
    p.gap = [] := (h.valid p List.mem_cons_self).gap_eq_nil hp

theorem strung_append : Strung n (ps ++ qs) ↔ Strung n ps ∧
    (∀ p ∈ ps.getLast?, ∀ q ∈ qs.head?, Follows p q) ∧ Strung (n + (printed ps).length) qs := by
  constructor
  · rintro ⟨hvalid, hfollows, hplaced⟩
    rw [List.forall_mem_append] at hvalid
    rw [List.isChain_append] at hfollows
    rw [placed_append] at hplaced
    exact ⟨⟨hvalid.1, hfollows.1, hplaced.1⟩, hfollows.2.2, hvalid.2, hfollows.2.1, hplaced.2⟩
  · rintro ⟨⟨hvalid, hfollows, hplaced⟩, hlink, hvalid', hfollows', hplaced'⟩
    exact ⟨List.forall_mem_append.2 ⟨hvalid, hvalid'⟩,
      List.isChain_append.2 ⟨hfollows, hfollows', hlink⟩, placed_append.2 ⟨hplaced, hplaced'⟩⟩

/-- The first token of a source is text or an opening. -/
theorem Kinds.first {k : Kind} {ks : List Kind} (h : Kinds (k :: ks)) :
    k = .text ∨ k = .blockOpen ∨ k = .tagOpen := by
  cases h with
  | text _ _ => exact .inl rfl
  | block _ _ => exact .inr (.inl rfl)
  | tag _ _ => exact .inr (.inr rfl)

theorem Kind.takesGap_inner {k : Kind} (hk : k = .ident ∨ k = .pipe) : k.takesGap := by
  rcases hk with rfl | rfl <;> rfl

theorem Kind.takesGap_close {k : Kind} (hk : k = .blockClose ∨ k = .tagClose) : k.takesGap := by
  rcases hk with rfl | rfl <;> rfl

theorem Kind.ne_text_of_takesGap {k : Kind} (hk : k.takesGap) : k ≠ .text := by
  rintro rfl
  cases hk

/-! ### Neighbours -/

theorem follows_opening {q : Piece} (hp : p.token.kind = .blockOpen ∨ p.token.kind = .tagOpen) :
    Follows p q ↔ q.gap = [] := by
  constructor
  · exact fun h => h.opening hp
  · intro hgap
    exact ⟨fun _ => hgap, fun h => by rcases hp with hp | hp <;> simp [hp] at h,
      fun h => by rcases hp with hp | hp <;> simp [hp] at h⟩

theorem follows_word {q : Piece} (hp : p.token.kind = .ident ∨ p.token.kind = .keyword) :
    Follows p q ↔ (q.token.kind = .ident → q.gap ≠ []) := by
  constructor
  · exact fun h => h.words hp
  · intro hgap
    exact ⟨fun h => by rcases hp with hp | hp <;> simp [hp] at h, fun _ => hgap,
      fun h => by rcases hp with hp | hp <;> simp [hp] at h⟩

/-- Anything may stand behind a bar and behind a closing marker. -/
theorem follows_mark {q : Piece} (hp : p.token.kind = .pipe ∨ p.token.kind = .blockClose ∨
    p.token.kind = .tagClose) : Follows p q where
  opening h := by rcases hp with hp | hp | hp <;> simp [hp] at h
  words h := by rcases hp with hp | hp | hp <;> simp [hp] at h
  text h := by rcases hp with hp | hp | hp <;> simp [hp] at h

theorem Body.getLast? {ks : List Kind} (h : Body close ks) : ks.getLast? = some close := by
  induction h with
  | close => rfl
  | cons hk hks ih => rw [List.getLast?_cons, ih]; rfl

/-- Blanks may stand in front of all of a body. -/
theorem Body.takesGap {k : Kind} {ks : List Kind}
    (hclose : close = .blockClose ∨ close = .tagClose) (h : Body close (k :: ks)) : k.takesGap := by
  rcases body_cons.1 h with ⟨rfl, -⟩ | ⟨hk, -⟩
  · exact Kind.takesGap_close hclose
  · exact Kind.takesGap_inner hk

/-- Anything may stand behind a block or a tag. -/
theorem Body.follows (hclose : close = .blockClose ∨ close = .tagClose)
    (h : Body close (kindsOf ps)) : ∀ p ∈ ps.getLast?, ∀ q ∈ qs.head?, Follows p q := by
  intro p hp q _
  have hkind : p.token.kind = close := by
    have hlast := h.getLast?
    rw [kindsOf, List.getLast?_map, hp] at hlast
    exact Option.some.inj hlast
  rcases hclose with rfl | rfl
  · exact follows_mark (.inr (.inl hkind))
  · exact follows_mark (.inr (.inr hkind))

/-- The last token of a block or a tag is no text. -/
theorem Body.kind_ne_text (hclose : close = .blockClose ∨ close = .tagClose)
    (h : Body close (kindsOf ps)) (front : List Token) :
    ∀ t ∈ (front ++ tokens ps).getLast?, t.kind ≠ .text := by
  intro t ht
  have hlast := h.getLast?
  rw [kindsOf_eq_map] at hlast
  have hne : tokens ps ≠ [] := by
    intro hnil
    rw [hnil] at hlast
    cases hlast
  rw [List.getLast?_append_of_ne_nil _ hne] at ht
  rw [List.getLast?_map, ht] at hlast
  have hkind : t.kind = close := Option.some.inj hlast
  rw [hkind]
  exact Kind.ne_text_of_takesGap (Kind.takesGap_close hclose)

/-! ### Places -/

/-- The places of the tokens tell the blanks between them. -/
theorem eq_of_tokens_eq (hps : Placed n ps) (hqs : Placed n qs) (htokens : tokens ps = tokens qs)
    (hprinted : printed ps = printed qs) : ps = qs := by
  induction ps generalizing n qs with
  | nil =>
    cases qs with
    | nil => rfl
    | cons q qs => cases htokens
  | cons p ps ih =>
    cases qs with
    | nil => cases htokens
    | cons q qs =>
      obtain ⟨gap, token⟩ := p
      obtain ⟨gap', token'⟩ := q
      obtain ⟨rfl, htail⟩ := List.cons.inj htokens
      have hlen : gap.length = gap'.length := Nat.add_left_cancel (hps.1.symm.trans hqs.1)
      rw [printed_cons, printed_cons] at hprinted
      obtain ⟨rfl, hrest⟩ := List.append_inj hprinted hlen
      rw [ih hps.2 hqs.2 htail (List.append_cancel_left hrest)]

end TextScan.Template
