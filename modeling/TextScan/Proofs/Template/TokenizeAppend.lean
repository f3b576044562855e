import TextScan.Proofs.Movable
import TextScan.Proofs.Template.Tokenize

namespace TextScan.Template

/-!
# Sources one behind the other

What is taken apart into tokens goes on in nothing that stands behind it, except for text, and what
stands behind it does not know what stands in front.

* `Token.shift` and `TokenError.shift` move the position that a token or an error names.
* `Lexicon.Lawful.exists_readsFrom_inside` and `Lexicon.Lawful.exists_givesFrom` say that reading is
  told by what is left of the source, up to such moves.
* `Lexicon.Lawful.tokensFrom_of_text_append` reads a text in front of anything.
* `tokenize_append` is the result.
-/

/-- The token with `n` more characters in front. -/
def Token.shift (n : Nat) (t : Token) : Token := { t with start := n + t.start }

/-- The error with `n` more characters in front. -/
def TokenError.shift (n : Nat) : TokenError → TokenError
  | pattern e => pattern e
  | unterminated pos => unterminated (n + pos)
  | unexpected found pos => unexpected found (n + pos)
  | noKeyword pos => noKeyword (n + pos)

instance : Movable (List Token) where
  move n ts := ts.map (Token.shift n)
  move_move m n ts := by
    rw [List.map_map]
    exact List.map_congr_left fun t _ => congrArg (Token.mk t.kind · t.text) (Nat.add_assoc ..).symm

instance : Movable TokenError where
  move := TokenError.shift
  move_move m n e := by cases e <;> simp only [TokenError.shift, Nat.add_assoc]

/-- Tokens in front are moved with those behind them. -/
theorem move_map_front (n : Nat) (front body : List Token)
    (e : Except TokenError (List Token)) :
    move n (e.map fun ts => front ++ (body ++ ts)) =
      (move n e).map fun ts => move n front ++ (move n body ++ ts) := by
  refine move_map (fun ts => ?_) e
  show List.map _ _ = _
  rw [List.map_append, List.map_append]
  rfl

/-- Neither a block nor a tag begins where two texts meet, unless a brace meets its second
    character there. -/
theorem Plain.append {a b : Text} (ha : Plain a) (hb : Plain b)
    (hseam : ¬ (a.getLast? = some '{' ∧ (b.head? = some '{' ∨ b.head? = some '%'))) :
    Plain (a ++ b) :=
  ⟨Text.not_pair_infix_append ha.1 hb.1 fun h => hseam ⟨h.1, .inl h.2⟩,
    Text.not_pair_infix_append ha.2 hb.2 fun h => hseam ⟨h.1, .inr h.2⟩⟩

/-- A text in front does not begin a block or a tag earlier. -/
theorem not_marked_append {x u w : Text} (hw : Marked w) (hx : Plain x)
    (hu : ∀ y, y ≠ [] → y <:+ u → ¬ Marked (y ++ w))
    (hseam : ¬ (x.getLast? = some '{' ∧ ((u ++ w).head? = some '{' ∨ (u ++ w).head? = some '%'))) :
    ∀ y, y ≠ [] → y <:+ x ++ u → ¬ Marked (y ++ w) := by
  obtain ⟨hplain, hlast⟩ := (plain_and_getLast?_iff hw).2 hu
  refine (plain_and_getLast?_iff hw).1 ?_
  cases u with
  | nil =>
    obtain ⟨d, r, rfl, -⟩ := marked_iff.1 hw
    rw [List.append_nil]
    exact ⟨hx, fun h => hseam ⟨h, .inl rfl⟩⟩
  | cons c u =>
    refine ⟨hx.append hplain hseam, ?_⟩
    rwa [List.getLast?_append_of_ne_nil x (List.cons_ne_nil c u)]

namespace Lexicon.Lawful

variable {l : Lexicon} {r : AnchoredRegex} {close : Kind} {T v w : Text}

/-! ### Reading is told by what is left -/

section Inside

variable (hl : l.Lawful) (hr : r.toPattern.Cuts close.cut)
  (hclose : close = .blockClose ∨ close = .tagClose)

include hl hr hclose

/-- A name or a bar is read as it would be alone if what lies behind it is. -/
theorem exists_readsFrom_cons {b x w : Text} {k : Kind} (hk : k = .ident ∨ k = .pipe)
    (hb : Blanks b) (hx : Spells k x) (hw : w.Avoids k.goesOn)
    (hrest : ∃ e, ReadsFrom (l.inside r close) w e) :
    ∃ e, ReadsFrom (l.inside r close) (b ++ (x ++ w)) e := by
  obtain ⟨e, he⟩ := hrest
  have hxw : x ++ w <:+ b ++ (x ++ w) := List.suffix_append _ _
  have hsuffix : w <:+ b ++ (x ++ w) := (List.suffix_append _ _).trans hxw
  refine ⟨(move (posOf (b ++ (x ++ w)) w) e).map fun r =>
    (⟨k, posOf (b ++ (x ++ w)) (x ++ w), x⟩ :: r.1, r.2), fun T s hT hs => ?_⟩
  obtain ⟨t, ht, -, hstep⟩ := hl.inside_cons hT hr hclose hk hb hx hw hs
  have hread := hstep _ (he hT ht)
  rw [← posOf_trans hs.isSuffix hxw, ← posOf_trans hs.isSuffix hsuffix, ← move_move] at hread
  cases e <;> exact hread

theorem exists_readsFrom_inside {v : Text} : ∃ e, ReadsFrom (l.inside r close) v e := by
  cases ahead close v with
  | @close b x w hb hx =>
    refine ⟨.ok ([⟨close, posOf (b ++ (x ++ w)) (x ++ w), x⟩], w), fun T s hT hs => ?_⟩
    have hread := hl.inside_close hT hr hclose hb hx hs
    rwa [← posOf_trans hs.isSuffix (List.suffix_append b (x ++ w))] at hread
  | @inner k b x w hk hb hx hw =>
    exact hl.exists_readsFrom_cons hr hclose hk hb hx hw exists_readsFrom_inside
  | @none b v hb hblank hnoClose hnoIdent hnoPipe =>
    refine ⟨.error (if v.isEmpty then .unterminated (posOf (b ++ v) v)
      else .unexpected (v.take 1) (posOf (b ++ v) v)), fun T s hT hs => ?_⟩
    have hread := hl.inside_error hT hr hs (hb.dropWhile_append hblank) hnoClose hnoIdent hnoPipe
    rw [← posOf_trans hs.isSuffix (List.suffix_append b v)] at hread
    cases hempty : v.isEmpty <;> rw [hempty] at hread <;> exact hread
termination_by v.length
decreasing_by exact hx.length_lt b w

end Inside

/-- A block or a tag that is entered is read as it would be alone if what lies behind it is. -/
theorem exists_givesFrom_of_enters (hl : l.Lawful) (hr : r.toPattern.Cuts close.cut)
    (hclose : close = .blockClose ∨ close = .tagClose) (hv : v.Held) (hw : w <:+ v)
    (front : List Token) (henters : ∀ ⦃T : Text⦄ ⦃s : Scanner⦄, T.Held → s.Before T v →
      l.Enters T s r close w (move (posOf T v) front))
    (hrest : ∀ u, u <:+ v → u.length < w.length → ∃ e, GivesFrom l.tokensFrom u e) :
    ∃ e, GivesFrom l.tokensFrom v e := by
  have hwHeld := hv.of_isSuffix hw
  obtain ⟨e, he⟩ := hl.exists_readsFrom_inside hr hclose (v := w)
  cases e with
  | error err =>
    refine ⟨move (posOf v w) (.error err), fun T s hT hs => ?_⟩
    obtain ⟨t, ht, -, herror, -⟩ := henters hT hs
    rw [move_move, posOf_trans hs.isSuffix hw]
    exact herror _ (he hT ht)
  | ok e =>
    obtain ⟨body, u⟩ := e
    have hu : u <:+ v := (he.isSuffix hwHeld).trans hw
    obtain ⟨e, hgives⟩ := hrest u hu (he.length_lt hwHeld)
    refine ⟨(move (posOf v u) e).map fun ts => front ++ (move (posOf v w) body ++ ts),
      fun T s hT hs => ?_⟩
    obtain ⟨t, ht, -, -, hgo⟩ := henters hT hs
    obtain ⟨t', ht', -, hok⟩ := hgo _ _ (he hT ht)
    rw [hok, hgives hT ht', move_map_front, move_move, move_move, posOf_trans hs.isSuffix hu,
      posOf_trans hs.isSuffix hw]

/-- Where a block or a tag begins, it is read as it would be alone if what lies behind it is. -/
theorem exists_givesFrom_of_marked (hl : l.Lawful) (hv : v.Held) (hmarked : Marked v)
    (hrest : ∀ u, u <:+ v → u.length < v.length → ∃ e, GivesFrom l.tokensFrom u e) :
    ∃ e, GivesFrom l.tokensFrom v e := by
  cases hmarked.opening with
  | @block x w hx hw =>
    have hsuffix : w <:+ x ++ w := List.suffix_append x w
    refine hl.exists_givesFrom_of_enters hl.blockClose (.inl rfl) hv hsuffix
      [⟨.blockOpen, 0, x⟩] (fun T s hT hs => hl.tokensFrom_block hT hx hw hs) ?_
    exact fun u hu hlt => hrest u hu (Nat.lt_of_lt_of_le hlt hsuffix.length_le)
  | @tag x y w hx hy hw =>
    have hword : y ++ w <:+ x ++ (y ++ w) := List.suffix_append x (y ++ w)
    have hsuffix : w <:+ x ++ (y ++ w) := (List.suffix_append y w).trans hword
    refine hl.exists_givesFrom_of_enters hl.tagClose (.inr rfl) hv hsuffix
      [⟨.tagOpen, 0, x⟩, ⟨.keyword, posOf (x ++ (y ++ w)) (y ++ w), y⟩] (fun T s hT hs => ?_) ?_
    · have henters := hl.tokensFrom_tag hT hx hy hw hs
      rw [← posOf_trans hs.isSuffix hword] at henters
      exact henters
    · exact fun u hu hlt => hrest u hu (Nat.lt_of_lt_of_le hlt hsuffix.length_le)
  | @noKeyword x w hx hw hnoWord =>
    refine ⟨.error (.noKeyword (posOf (x ++ w) w)), fun T s hT hs => ?_⟩
    rw [hl.tokensFrom_noKeyword hT hx hw hs hnoWord,
      ← posOf_trans hs.isSuffix (List.suffix_append x w)]
    rfl

/-- What is left of a source is read as it would be alone. -/
theorem exists_givesFrom (hl : l.Lawful) {v : Text} (hv : v.Held) :
    ∃ e, GivesFrom l.tokensFrom v e := by
  rcases exists_marked v with hnone | ⟨u, w, rfl, hw, hu⟩
  · by_cases hempty : v = []
    · subst hempty
      exact ⟨.ok [], fun T s hT hs => tokensFrom_nil hs⟩
    · exact ⟨.ok [⟨.text, 0, v⟩], fun T s hT hs =>
        hl.tokensFrom_textEnd hT hempty (plain_iff.2 hnone) hs⟩
  · have hsuffix : w <:+ u ++ w := List.suffix_append u w
    obtain ⟨e, he⟩ := hl.exists_givesFrom_of_marked hv.right hw fun k hk hlt => by
      have hlt' := Nat.lt_of_lt_of_le hlt hsuffix.length_le
      exact exists_givesFrom hl (hv.right.of_isSuffix hk)
    by_cases hhere : u = []
    · subst hhere
      exact ⟨e, he⟩
    · refine ⟨(move (posOf (u ++ w) w) e).map (⟨.text, 0, u⟩ :: ·), fun T s hT hs => ?_⟩
      obtain ⟨t, ht, -, hstep⟩ := hl.tokensFrom_text hT hhere hw hu hs
      rw [hstep, he hT ht, ← posOf_trans hs.isSuffix hsuffix, ← move_move]
      cases e <;> rfl
termination_by v.length

/-! ### One source in front of another -/

/-- Where a block or a tag begins, the first token is no text. -/
theorem kind_ne_text_of_marked (hl : l.Lawful) (hT : T.Held) {s : Scanner} (hs : s.Before T w)
    (hw : Marked w) {ts : List Token} (hok : l.tokensFrom s = .ok ts) :
    ∀ t ∈ ts.head?, t.kind ≠ .text := by
  obtain ⟨ps, rfl, rfl, hps⟩ := hl.layout_of_tokensFrom hT hs hok
  intro t ht hkind
  apply hps.head?_ne_text hw
  rw [kindsOf_eq_map, List.head?_map, ht, Option.map_some, hkind]

/-- A text is read in front of anything, unless a brace of it begins a block or a tag there. Another
    text behind it goes on with it. -/
theorem tokensFrom_of_text_append (hl : l.Lawful) (hT : T.Held) {x b : Text}
    (hx : Spells .text x)
    (hseam : ¬ (x.getLast? = some '{' ∧ (b.head? = some '{' ∨ b.head? = some '%')))
    {e : Except TokenError (List Token)}
    (hrest : ∀ t : Scanner, t.Before T b → l.tokensFrom t = e) {s : Scanner}
    (hs : s.Before T (x ++ b)) :
    l.tokensFrom s = e.map (joinTokens [⟨.text, posOf T (x ++ b), x⟩]) := by
  obtain ⟨hne, hplain⟩ := hx.of_text
  -- A scanner behind the text tells what is read there.
  have ht : (s.moveTo (s.pos + x.length)).scanner.Before T b := hs.moveTo_append
  rw [← hrest _ ht]
  rcases exists_marked b with hnone | ⟨u, w, rfl, hw, hu⟩
  · have hplain' := plain_iff.2 hnone
    rw [hl.tokensFrom_textEnd hT (List.append_ne_nil_of_left_ne_nil hne b)
      (hplain.append hplain' hseam) hs]
    by_cases hempty : b = []
    · subst hempty
      rw [tokensFrom_nil ht, List.append_nil]
      rfl
    · rw [hl.tokensFrom_textEnd hT hempty hplain' ht]
      rfl
  · have hleast := not_marked_append hw hplain hu hseam
    obtain ⟨e', he'⟩ := hl.exists_givesFrom (ht.held hT).right
    have hfirst := hs
    rw [← List.append_assoc] at hfirst
    obtain ⟨t₁, ht₁, -, hstep⟩ :=
      hl.tokensFrom_text hT (List.append_ne_nil_of_left_ne_nil hne u) hw hleast hfirst
    rw [hstep, he' hT ht₁, List.append_assoc]
    by_cases hempty : u = []
    · -- What follows begins with a block or a tag, so the text stays as it is.
      subst hempty
      rw [List.append_nil, List.nil_append, ← he' hT ht]
      cases hread : l.tokensFrom (s.moveTo (s.pos + x.length)).scanner with
      | error err => rfl
      | ok us =>
        have hhead := hl.kind_ne_text_of_marked hT ht hw hread
        show Except.ok _ = Except.ok _
        rw [joinTokens_of_head hhead]
        rfl
    · obtain ⟨t₂, ht₂, -, hstep'⟩ := hl.tokensFrom_text hT hempty hw hu ht
      rw [hstep', he' hT ht₂]
      cases move (posOf T w) e' <;> rfl

end Lexicon.Lawful

/-- **A source is taken apart the same in front of another one.** Where `a` has the tokens `ta`, the
    sources side by side have these and the tokens of `b`, with their places moved by the length of
    `a`, and a text at the end of `a` becomes one with a text at the start of `b`. Where `b` fails,
    both fail alike, and the position is moved in the same way. Only a brace at the end of `a` would
    make a difference, if it began a block or a tag together with the start of `b`. Sources have to
    fit in a memory. -/
theorem tokenize_append {a b : Text} {ta : List Token} (hheld : (a ++ b).Held)
    (ha : tokenize a = .ok ta)
    (hseam : ¬ (a.getLast? = some '{' ∧ (b.head? = some '{' ∨ b.head? = some '%'))) :
    (∀ tb, tokenize b = .ok tb →
      tokenize (a ++ b) = .ok (joinTokens ta (tb.map (Token.shift a.length)))) ∧
      ∀ e, tokenize b = .error e → tokenize (a ++ b) = .error (e.shift a.length) := by
  obtain ⟨ps, hps, rfl, rfl⟩ := (tokenize_eq_ok hheld.left).1 ha
  obtain ⟨l, hl, htokenize⟩ := exists_lawful_tokenize
  -- What lies behind `a` is read as `b` is alone, up to the positions.
  obtain ⟨e, he⟩ := hl.exists_givesFrom hheld.right
  have hjoined : tokenize (printed ps ++ b) =
      (move (printed ps).length (tokenize b)).map (joinTokens (tokens ps)) := by
    rw [htokenize, htokenize]
    have hrest (t : Scanner) (ht : t.Before (printed ps ++ b) b) := he.eq_move hheld ht
    rw [posOf_append_right] at hrest
    refine hl.tokensFrom_of_layout_append hheld (posOf_self (printed ps ++ b) ▸ hps) hrest
      (fun x hx hsuffix t ht => ?_) (Scanner.new_before _)
    refine hl.tokensFrom_of_text_append hheld hx (fun h => hseam ⟨?_, h.2⟩) hrest ht
    obtain ⟨y, hy⟩ := hsuffix
    rw [← hy, List.getLast?_append, h.1]
    rfl
  constructor
  · intro tb hb
    rw [hjoined, hb]
    rfl
  · intro e hb
    rw [hjoined, hb]
    rfl

/-- The pieces of a source with text on both sides of a block. -/
def namePieces : List Piece := [
  ⟨[], ⟨.text, 0, ['é']⟩⟩,
  ⟨[], ⟨.blockOpen, 1, ['{', '{']⟩⟩,
  ⟨[], ⟨.ident, 3, ['x']⟩⟩,
  ⟨[], ⟨.blockClose, 4, ['}', '}']⟩⟩,
  ⟨[], ⟨.text, 6, ['y']⟩⟩]

theorem tokenize_append_namePieces :
    tokenize "é\x7b\x7bx\x7d\x7dy".toList = .ok (tokens namePieces) ∧
      tokenize "é\x7b\x7bx\x7d\x7dyz".toList =
        .ok ((tokens namePieces).dropLast ++ [⟨.text, 6, ['y', 'z']⟩]) ∧
      tokenize ['{', '%'] = .error (.noKeyword 2) ∧
      tokenize "é\x7b\x7bx\x7d\x7dy\x7b%".toList = .error (.noKeyword 9) := by
  have hplain {c : Char} : Plain [c] :=
    ⟨fun h => Nat.not_succ_le_self 1 h.length_le, fun h => Nat.not_succ_le_self 1 h.length_le⟩
  have hlayout : Layout 0 namePieces := {
    kinds := .text (by decide) (@Kinds.block [.ident, .blockClose] [.text]
      (.cons (.inl rfl) .close) (.text (by decide) .nil))
    valid := by
      simp only [namePieces, List.forall_mem_cons, List.not_mem_nil, false_imp_iff]
      exact ⟨⟨blanks_nil, fun _ => rfl, .text (List.cons_ne_nil _ _) hplain⟩,
        ⟨blanks_nil, fun _ => rfl, .blockOpen blanks_nil⟩,
        ⟨blanks_nil, fun _ => rfl, .ident (by decide) (List.forall_mem_nil _)⟩,
        ⟨blanks_nil, fun _ => rfl, .blockClose⟩,
        ⟨blanks_nil, fun _ => rfl, .text (List.cons_ne_nil _ _) hplain⟩, fun _ => trivial⟩
    follows := by decide
    placed := ⟨rfl, rfl, rfl, rfl, rfl, trivial⟩ }
  have ha : tokenize "é\x7b\x7bx\x7d\x7dy".toList = .ok (tokens namePieces) :=
    (tokenize_eq_ok (by decide)).2 ⟨namePieces, hlayout, rfl, rfl⟩
  obtain ⟨l, hl, htokenize⟩ := exists_lawful_tokenize
  have htext : tokenize ['z'] = .ok [⟨.text, 0, ['z']⟩] := by
    rw [htokenize]
    exact hl.tokensFrom_textEnd (by decide) (List.cons_ne_nil _ _) hplain (Scanner.new_before _)
  have htag : tokenize ['{', '%'] = .error (.noKeyword 2) := by
    rw [htokenize]
    exact hl.tokensFrom_noKeyword (by decide) (.tagOpen blanks_nil) (fun _ h => by cases h)
      (Scanner.new_before _) rfl
  exact ⟨ha, (tokenize_append (by decide) ha (by decide)).1 _ htext, htag,
    (tokenize_append (by decide) ha (by decide)).2 _ htag⟩

end TextScan.Template
