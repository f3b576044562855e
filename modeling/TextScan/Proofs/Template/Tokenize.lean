import TextScan.Proofs.Template.Lexing

namespace TextScan.Template

/-!
# Sources are taken apart as they are laid out

* `Layout.text`, `Layout.block` and `Layout.tag` put one part in front of what is laid out.
* `Lexicon.Lawful.readsBody` and `Lexicon.Lawful.inside_of_body` say that a block or a tag is read
  as it is laid out, `Lexicon.Lawful.layout_of_tokensFrom` and `Lexicon.Lawful.tokensFrom_of_layout`
  that a source is. `Lexicon.Lawful.tokensFrom_of_layout_append` says the latter in front of
  anything else.
* `tokenize_layout` is the result.
-/

variable {T v w x y : Text} {p : Piece} {ps qs : List Piece} {close : Kind} {n : Nat}

/-! ### Layouts within a source -/

/-- A piece in a text stands in front of others. -/
theorem strung_cons_iff (ps : List Piece) (hsuffix : p.gap ++ (p.token.text ++ v) <:+ T) :
    Strung (posOf T (p.gap ++ (p.token.text ++ v))) (p :: ps) ↔ p.Valid ∧
      p.token.start = posOf T (p.token.text ++ v) ∧ (∀ q ∈ ps.head?, Follows p q) ∧
      Strung (posOf T v) ps := by
  have htext : p.token.text ++ v <:+ T := (List.suffix_append _ _).trans hsuffix
  rw [strung_cons, posOf_append htext, posOf_append hsuffix]
  exact and_congr_right fun _ => and_congr_right fun hstart => by rw [hstart]

/-- A token of the text is put in front of pieces. -/
theorem Strung.prepend {b x : Text} {k : Kind} (hps : Strung (posOf T v) ps)
    (hsuffix : b ++ (x ++ v) <:+ T) (hb : Blanks b) (hgap : k.takesGap = false → b = [])
    (hx : Spells k x)
    (hfollows : ∀ q ∈ ps.head?, Follows ⟨b, ⟨k, posOf T (x ++ v), x⟩⟩ q) :
    Strung (posOf T (b ++ (x ++ v))) (⟨b, ⟨k, posOf T (x ++ v), x⟩⟩ :: ps) :=
  (strung_cons_iff (p := ⟨b, ⟨k, posOf T (x ++ v), x⟩⟩) ps hsuffix).2
    ⟨⟨hb, hgap, hx⟩, rfl, hfollows, hps⟩

/-- A piece in front of a body ends there, and what lies behind the body is strung by itself. -/
theorem strung_body_iff (hclose : close = .blockClose ∨ close = .tagClose)
    (hbody : Body close (kindsOf ps)) (hgap : p.gap = []) (hk : p.token.kind ≠ .text)
    (hsuffix : p.token.text ++ (printed ps ++ v) <:+ T) :
    Strung (posOf T (p.token.text ++ (printed ps ++ v))) (p :: (ps ++ qs)) ↔
      p.Valid ∧ p.token.start = posOf T (p.token.text ++ (printed ps ++ v)) ∧
      Text.Avoids p.token.kind.goesOn (printed ps ++ v) ∧
      Strung (posOf T (printed ps ++ v)) ps ∧ Strung (posOf T v) qs := by
  have hpiece : p.gap ++ (p.token.text ++ (printed ps ++ v)) <:+ T := by
    rw [hgap]
    exact hsuffix
  have hiff := strung_cons_iff (ps ++ qs) hpiece
  rw [hgap, List.nil_append] at hiff
  -- A body is not empty, so its first piece is the next one.
  have hhead : (ps ++ qs).head? = ps.head? := by
    cases ps with
    | nil => cases hbody
    | cons p ps => rfl
  rw [hiff, hhead, strung_append, ← posOf_append ((List.suffix_append _ _).trans hsuffix)]
  refine and_congr_right fun _ => and_congr_right fun _ => ?_
  constructor
  · rintro ⟨hfollows, hps, -, hqs⟩
    exact ⟨(follows_body_iff hclose hbody hk hps.valid _).1 hfollows, hps, hqs⟩
  · rintro ⟨hends, hps, hqs⟩
    exact ⟨(follows_body_iff hclose hbody hk hps.valid _).2 hends, hps, hbody.follows hclose, hqs⟩

/-- A block is put in front of what is laid out. -/
theorem Layout.block (hqs : Layout (posOf T (printed qs)) qs)
    (hbody : Body .blockClose (kindsOf ps))
    (hps : Strung (posOf T (printed ps ++ printed qs)) ps) (hx : Spells .blockOpen x)
    (hends : Text.Avoids isBlank (printed ps ++ printed qs))
    (hsuffix : x ++ (printed ps ++ printed qs) <:+ T) :
    Layout (posOf T (x ++ (printed ps ++ printed qs)))
      (⟨[], ⟨.blockOpen, posOf T (x ++ (printed ps ++ printed qs)), x⟩⟩ :: (ps ++ qs)) where
  toStrung := (strung_body_iff (p := ⟨[], ⟨.blockOpen, _, x⟩⟩) (.inl rfl) hbody rfl
    Kind.noConfusion hsuffix).2 ⟨⟨blanks_nil, fun _ => rfl, hx⟩, rfl, hends, hps, hqs.toStrung⟩
  kinds := by
    rw [kindsOf_cons, kindsOf_append]
    exact .block hbody hqs.kinds

/-- A tag is put in front of what is laid out. -/
theorem Layout.tag (hqs : Layout (posOf T (printed qs)) qs) (hbody : Body .tagClose (kindsOf ps))
    (hps : Strung (posOf T (printed ps ++ printed qs)) ps) (hx : Spells .tagOpen x)
    (hy : Spells .keyword y) (hends : Text.Avoids isWordChar (printed ps ++ printed qs))
    (hsuffix : x ++ (y ++ (printed ps ++ printed qs)) <:+ T) :
    Layout (posOf T (x ++ (y ++ (printed ps ++ printed qs))))
      (⟨[], ⟨.tagOpen, posOf T (x ++ (y ++ (printed ps ++ printed qs))), x⟩⟩ ::
        ⟨[], ⟨.keyword, posOf T (y ++ (printed ps ++ printed qs)), y⟩⟩ :: (ps ++ qs)) where
  toStrung := by
    have hword := (strung_body_iff
      (p := ⟨[], ⟨.keyword, posOf T (y ++ (printed ps ++ printed qs)), y⟩⟩) (.inr rfl) hbody rfl
      Kind.noConfusion ((List.suffix_append _ _).trans hsuffix)).2
        ⟨⟨blanks_nil, fun _ => rfl, hy⟩, rfl, hends, hps, hqs.toStrung⟩
    refine hword.prepend (b := []) hsuffix blanks_nil (fun _ => rfl) hx fun q hq => ?_
    obtain rfl := Option.some.inj hq
    exact (follows_opening (.inr rfl)).2 rfl
  kinds := by
    rw [kindsOf_cons, kindsOf_cons, kindsOf_append]
    exact .tag hbody hqs.kinds

/-- Where a block or a tag begins, the first piece is no text. -/
theorem Layout.head?_ne_text (h : Layout n ps) (hmarked : Marked (printed ps)) :
    (kindsOf ps).head? ≠ some .text := by
  cases ps with
  | nil => exact nofun
  | cons p qs =>
    intro hhead
    have hkind : p.token.kind = .text := Option.some.inj hhead
    obtain ⟨hp, -, hfollows, -⟩ := strung_cons.1 h.toStrung
    rw [printed_cons, hp.gap_eq_nil (by rw [hkind]; rfl), List.nil_append] at hmarked
    obtain ⟨hne, hplain⟩ := (hkind ▸ hp.spells).of_text
    obtain ⟨c, t, htext⟩ := List.exists_cons_of_ne_nil hne
    obtain ⟨d, r, hsplit, hd⟩ := marked_iff.1 hmarked
    rw [htext, List.cons_append] at hsplit
    obtain ⟨rfl, htail⟩ := List.cons.inj hsplit
    cases t with
    | nil =>
      -- The text would consist of the first brace of what follows.
      cases qs with
      | nil => cases htail
      | cons q qs => exact (hfollows q rfl).text hkind (by rw [htext]; rfl)
    | cons e t =>
      obtain ⟨rfl, -⟩ := List.cons.inj htail
      exact plain_iff.1 hplain _ (List.suffix_refl _) (marked_iff.2 ⟨e, t, htext, hd⟩)

/-- Where the first piece is no text, a block or a tag begins. -/
theorem Layout.marked (h : Layout n (p :: ps)) (hp : p.token.kind ≠ .text) :
    Marked (printed (p :: ps)) := by
  have hvalid := h.valid p List.mem_cons_self
  have hkind : p.token.kind = .blockOpen ∨ p.token.kind = .tagOpen :=
    h.kinds.first.resolve_left hp
  have hgap : p.gap = [] :=
    hvalid.gap_eq_nil (by rcases hkind with hkind | hkind <;> rw [hkind] <;> rfl)
  rw [printed_cons, hgap, List.nil_append]
  exact marked_of_spells hkind hvalid.spells _

/-- Text is put in front of what is laid out, if it ends where a block or a tag begins. -/
theorem Layout.text (hqs : Layout (posOf T (printed qs)) qs) (hx : x ≠ []) (hplain : Plain x)
    (hlast : qs ≠ [] → x.getLast? ≠ some '{') (hhead : (kindsOf qs).head? ≠ some .text)
    (hsuffix : x ++ printed qs <:+ T) :
    Layout (posOf T (x ++ printed qs)) (⟨[], ⟨.text, posOf T (x ++ printed qs), x⟩⟩ :: qs) where
  toStrung := by
    refine hqs.toStrung.prepend (b := []) hsuffix blanks_nil (fun _ => rfl) (.text hx hplain) ?_
    intro q hq
    have hne : qs ≠ [] := by
      rintro rfl
      cases hq
    exact {
      opening := fun h => by rcases h with h | h <;> cases h
      words := fun h => by rcases h with h | h <;> cases h
      text := fun _ => hlast hne }
  kinds := .text hhead hqs.kinds

variable {l : Lexicon} {s : Scanner} {r : AnchoredRegex} {ts : List Token}

/-! ### Bodies -/

/-- Reading a body from `v` on ends, and what it has accepted is a body. -/
def Lexicon.ReadsBody (l : Lexicon) (T : Text) (r : AnchoredRegex) (close : Kind) (s : Scanner)
    (v : Text) : Prop :=
  ∃ e, Yields T (l.inside r close s) e ∧ ∀ ts w, e = .ok (ts, w) →
    ∃ ps, v = printed ps ++ w ∧ tokens ps = ts ∧ Body close (kindsOf ps) ∧ Strung (posOf T v) ps

namespace Lexicon.Lawful

section Inside

variable (hl : l.Lawful) (hT : T.Held) (hr : r.toPattern.Cuts close.cut)
  (hclose : close = .blockClose ∨ close = .tagClose)

include hl hT hr hclose

/-- The closing marker is a body. -/
theorem readsBody_close {b : Text} (hb : Blanks b) (hx : Spells close x)
    (hs : s.Before T (b ++ (x ++ w))) : l.ReadsBody T r close s (b ++ (x ++ w)) := by
  refine ⟨_, hl.inside_close hT hr hclose hb hx hs, ?_⟩
  intro ts u hok
  obtain ⟨rfl, rfl⟩ := Prod.mk.inj (Except.ok.inj hok)
  have hgap := Kind.takesGap_close hclose
  refine ⟨[⟨b, ⟨close, posOf T (x ++ w), x⟩⟩], ?_, rfl, .close, ?_⟩
  · rw [printed_cons, printed_nil, List.append_nil, List.append_assoc]
  · exact (strung_nil _).prepend hs.isSuffix hb (fun h => absurd hgap (by rw [h]; decide)) hx nofun

/-- A name or a bar is put in front of the rest of a body. -/
theorem readsBody_cons {b : Text} {k : Kind} (hk : k = .ident ∨ k = .pipe) (hb : Blanks b)
    (hx : Spells k x) (hw : w.Avoids k.goesOn) (hs : s.Before T (b ++ (x ++ w)))
    (hrest : ∀ t : Scanner, t.Before T w → t.unread < s.unread → l.ReadsBody T r close t w) :
    l.ReadsBody T r close s (b ++ (x ++ w)) := by
  obtain ⟨t, ht, hlt, hstep⟩ := hl.inside_cons hT hr hclose hk hb hx hw hs
  obtain ⟨e, he, hsound⟩ := hrest t ht hlt
  refine ⟨_, hstep e he, ?_⟩
  intro ts u hok
  cases e with
  | error err => cases hok
  | ok e =>
    obtain ⟨ts', u'⟩ := e
    obtain ⟨rfl, rfl⟩ := Prod.mk.inj (Except.ok.inj hok)
    obtain ⟨ps, rfl, rfl, hbody, hps⟩ := hsound _ _ rfl
    have hgap := Kind.takesGap_inner hk
    refine ⟨⟨b, ⟨k, posOf T (x ++ (printed ps ++ u')), x⟩⟩ :: ps, ?_, rfl,
      body_cons.2 (.inr ⟨hk, hbody⟩), ?_⟩
    · rw [printed_cons, List.append_assoc, List.append_assoc]
    · refine hps.prepend hs.isSuffix hb (fun h => absurd hgap (by rw [h]; decide)) hx ?_
      exact (follows_body_iff hclose hbody (Kind.ne_text_of_takesGap hgap) hps.valid u').2 hw

/-- What is read of a block or a tag is its body. -/
theorem readsBody {s : Scanner} {v : Text} (hs : s.Before T v) : l.ReadsBody T r close s v := by
  cases ahead close v with
  | close hb hx => exact hl.readsBody_close hT hr hclose hb hx hs
  | inner hk hb hx hw =>
    exact hl.readsBody_cons hT hr hclose hk hb hx hw hs fun t ht _ => readsBody ht
  | none hb hblank hnoClose hnoIdent hnoPipe =>
    exact ⟨_, hl.inside_error hT hr hs (hb.dropWhile_append hblank) hnoClose hnoIdent hnoPipe,
      nofun⟩
termination_by s.unread

/-- A body is read up to its end. -/
theorem inside_of_body {s : Scanner} (hbody : Body close (kindsOf ps))
    (hps : Strung (posOf T (printed ps ++ w)) ps) (hs : s.Before T (printed ps ++ w)) :
    Yields T (l.inside r close s) (.ok (tokens ps, w)) := by
  induction ps generalizing s with
  | nil => cases hbody
  | cons q qs ih =>
    rw [printed_cons, List.append_assoc, List.append_assoc] at hps hs
    obtain ⟨hq, hstart, hfollows, hqs⟩ := (strung_cons_iff qs hs.isSuffix).1 hps
    rw [kindsOf_cons] at hbody
    rcases body_cons.1 hbody with ⟨rfl, hnil⟩ | ⟨hkind, hbody⟩
    · obtain rfl : qs = [] := List.map_eq_nil_iff.1 hnil
      have hread := hl.inside_close hT hr hclose hq.blanks hq.spells hs
      rw [← hstart] at hread
      exact hread
    · have hk := Kind.ne_text_of_takesGap (Kind.takesGap_inner hkind)
      have hends := (follows_body_iff hclose hbody hk hqs.valid w).1 hfollows
      obtain ⟨t, ht, -, hstep⟩ := hl.inside_cons hT hr hclose hkind hq.blanks hq.spells hends hs
      have hread := hstep _ (ih hbody hqs ht)
      rw [← hstart] at hread
      exact hread

end Inside

end Lexicon.Lawful

section Enters

variable {front : List Token}

/-- What is read from an opening on is a body and what lies behind it. -/
theorem Lexicon.Enters.sound (h : l.Enters T s r close w front) (hl : l.Lawful) (hT : T.Held)
    (hr : r.toPattern.Cuts close.cut) (hclose : close = .blockClose ∨ close = .tagClose)
    (hok : l.tokensFrom s = .ok ts) :
    ∃ ps u ts', w = printed ps ++ u ∧ Body close (kindsOf ps) ∧ Strung (posOf T w) ps ∧
      ts = front ++ (tokens ps ++ ts') ∧
      ∃ t : Scanner, t.Before T u ∧ t.unread < s.unread ∧ l.tokensFrom t = .ok ts' := by
  obtain ⟨t, ht, hlt, herror, hgo⟩ := h
  obtain ⟨e, he, hsound⟩ := hl.readsBody hT hr hclose ht
  cases e with
  | error err => rw [herror err he] at hok; cases hok
  | ok e =>
    obtain ⟨body, u⟩ := e
    obtain ⟨ps, hw, rfl, hbody, hps⟩ := hsound body u rfl
    obtain ⟨t', ht', hlt', hrest⟩ := hgo _ _ he
    rw [hrest] at hok
    cases hmore : l.tokensFrom t' with
    | error err => rw [hmore] at hok; cases hok
    | ok ts' =>
      rw [hmore] at hok
      obtain rfl := Except.ok.inj hok
      exact ⟨ps, u, ts', hw, hbody, hps, rfl, t', ht', Nat.lt_trans hlt' hlt, hmore⟩

/-- A body is read from an opening on, and then what lies behind it. -/
theorem Lexicon.Enters.complete (h : l.Enters T s r close (printed ps ++ w) front) (hl : l.Lawful)
    (hT : T.Held) (hr : r.toPattern.Cuts close.cut)
    (hclose : close = .blockClose ∨ close = .tagClose) (hbody : Body close (kindsOf ps))
    (hps : Strung (posOf T (printed ps ++ w)) ps) {e : Except TokenError (List Token)}
    (hrest : ∀ t : Scanner, t.Before T w → l.tokensFrom t = e) :
    l.tokensFrom s = e.map fun ts => front ++ (tokens ps ++ ts) := by
  obtain ⟨t, ht, -, -, hgo⟩ := h
  obtain ⟨t', ht', -, hok⟩ := hgo _ _ (hl.inside_of_body hT hr hclose hbody hps ht)
  rw [hok, hrest t' ht']

end Enters

/-- What is put in front of joined tokens is joined with them. -/
theorem map_joinTokens (e : Except TokenError (List Token)) (ts₁ ts₂ : List Token)
    (h : ts₂ = [] → ∀ t ∈ ts₁.getLast?, t.kind ≠ .text) :
    (e.map (joinTokens ts₂)).map (ts₁ ++ ·) = e.map (joinTokens (ts₁ ++ ts₂)) := by
  cases e with
  | error err => rfl
  | ok us => exact congrArg Except.ok (joinTokens_append us h).symm

namespace Lexicon.Lawful

/-! ### What is accepted is laid out -/

/-- Where a block or a tag begins, it is laid out if what lies behind it is. -/
theorem layout_of_marked (hl : l.Lawful) (hT : T.Held) (hs : s.Before T v) (hmarked : Marked v)
    (hok : l.tokensFrom s = .ok ts)
    (hrest : ∀ (t : Scanner) (w : Text) (ts' : List Token), t.Before T w → t.unread < s.unread →
      l.tokensFrom t = .ok ts' → ∃ ps, w = printed ps ∧ tokens ps = ts' ∧ Layout (posOf T w) ps) :
    ∃ ps, v = printed ps ∧ tokens ps = ts ∧ Layout (posOf T v) ps := by
  cases hmarked.opening with
  | block hx hw =>
    obtain ⟨ps, u, ts', rfl, hbody, hps, rfl, t, ht, hlt, hmore⟩ :=
      (hl.tokensFrom_block hT hx hw hs).sound hl hT hl.blockClose (.inl rfl) hok
    obtain ⟨qs, rfl, rfl, hqs⟩ := hrest t u ts' ht hlt hmore
    refine ⟨_, ?_, ?_, hqs.block hbody hps hx hw hs.isSuffix⟩
    · rw [printed_cons, printed_append, List.nil_append]
    · rw [tokens_cons, tokens_append]
      rfl
  | tag hx hy hw =>
    obtain ⟨ps, u, ts', rfl, hbody, hps, rfl, t, ht, hlt, hmore⟩ :=
      (hl.tokensFrom_tag hT hx hy hw hs).sound hl hT hl.tagClose (.inr rfl) hok
    obtain ⟨qs, rfl, rfl, hqs⟩ := hrest t u ts' ht hlt hmore
    refine ⟨_, ?_, ?_, hqs.tag hbody hps hx hy hw hs.isSuffix⟩
    · rw [printed_cons, printed_cons, printed_append, List.nil_append, List.nil_append]
    · rw [tokens_cons, tokens_cons, tokens_append]
      rfl
  | noKeyword hx hw hnoWord =>
    rw [hl.tokensFrom_noKeyword hT hx hw hs hnoWord] at hok
    cases hok

/-- What is read of a source is laid out. -/
theorem layout_of_tokensFrom (hl : l.Lawful) (hT : T.Held) {s : Scanner} {v : Text}
    (hs : s.Before T v) {ts : List Token} (hok : l.tokensFrom s = .ok ts) :
    ∃ ps, v = printed ps ∧ tokens ps = ts ∧ Layout (posOf T v) ps := by
  have hnil (n : Nat) : Layout n [] := ⟨strung_nil n, .nil⟩
  by_cases hempty : v = []
  · subst hempty
    rw [tokensFrom_nil hs] at hok
    exact ⟨[], rfl, Except.ok.inj hok, hnil _⟩
  rcases exists_marked v with hnone | ⟨u, w, rfl, hw, hu⟩
  · have hplain := plain_iff.2 hnone
    rw [hl.tokensFrom_textEnd hT hempty hplain hs] at hok
    have hsuffix : v ++ printed [] <:+ T := by
      rw [printed_nil, List.append_nil]
      exact hs.isSuffix
    have hlayout := (hnil (posOf T (printed []))).text hempty hplain (fun h => absurd rfl h) nofun
      hsuffix
    rw [printed_nil, List.append_nil] at hlayout
    refine ⟨_, ?_, ?_, hlayout⟩
    · rw [printed_cons, printed_nil, List.append_nil, List.nil_append]
    · exact Except.ok.inj hok
  · by_cases hhere : u = []
    · -- What lies behind the block or the tag is shorter, so it is laid out by induction.
      subst hhere
      exact hl.layout_of_marked hT hs hw hok fun t w ts' ht _ hmore =>
        layout_of_tokensFrom hl hT ht hmore
    · obtain ⟨t, ht, hlt, hstep⟩ := hl.tokensFrom_text hT hhere hw hu hs
      rw [hstep] at hok
      cases hmore : l.tokensFrom t with
      | error e => rw [hmore] at hok; cases hok
      | ok ts' =>
        rw [hmore] at hok
        obtain rfl := Except.ok.inj hok
        obtain ⟨qs, rfl, rfl, hqs⟩ := layout_of_tokensFrom hl hT ht hmore
        obtain ⟨hplain, hlast⟩ := (plain_and_getLast?_iff hw).2 hu
        refine ⟨_, ?_, rfl, hqs.text hhere hplain (fun _ => hlast) (hqs.head?_ne_text hw)
          hs.isSuffix⟩
        rw [printed_cons, List.nil_append]
termination_by s.unread

/-! ### What is laid out is accepted -/

/-- A text at the end is read as it stands there. -/
theorem tokensFrom_of_lastText {e : Except TokenError (List Token)}
    (hkind : p.token.kind = .text)
    (hstrung : Strung (posOf T (printed [p] ++ w)) [p]) (hs : s.Before T (printed [p] ++ w))
    (htext : ∀ x, Spells .text x → x <:+ printed [p] → ∀ t : Scanner, t.Before T (x ++ w) →
      l.tokensFrom t = e.map (joinTokens [⟨.text, posOf T (x ++ w), x⟩])) :
    l.tokensFrom s = e.map (joinTokens [p.token]) := by
  have hgap := hstrung.gap_eq_nil (by rw [hkind]; rfl)
  have hprinted : printed [p] = p.gap ++ p.token.text := by
    rw [printed_cons, printed_nil, List.append_nil]
  rw [hprinted, List.append_assoc] at hs hstrung
  obtain ⟨hp, hstart, -, -⟩ := (strung_cons_iff [] hs.isSuffix).1 hstrung
  rw [hgap, List.nil_append] at hs
  rw [htext _ (hkind ▸ hp.spells) (hprinted ▸ List.suffix_append _ _) s hs, ← hstart, ← hkind]

section Complete

variable (hl : l.Lawful) (hT : T.Held) {e : Except TokenError (List Token)}

include hl hT

/-- Text is read up to the block or the tag behind it. -/
theorem tokensFrom_of_text (hkind : p.token.kind = .text)
    (hstrung : Strung (posOf T (printed (p :: qs) ++ w)) (p :: qs)) (hne : qs ≠ [])
    (hhead : (kindsOf qs).head? ≠ some .text) (hkinds : Kinds (kindsOf qs))
    (hs : s.Before T (printed (p :: qs) ++ w))
    (hrest : ∀ t : Scanner, t.Before T (printed qs ++ w) → Strung (posOf T (printed qs ++ w)) qs →
      l.tokensFrom t = e) : l.tokensFrom s = e.map (p.token :: ·) := by
  have hgap := hstrung.gap_eq_nil (by rw [hkind]; rfl)
  rw [printed_cons, List.append_assoc, List.append_assoc] at hs hstrung
  obtain ⟨hp, hstart, hfollows, hqs⟩ := (strung_cons_iff qs hs.isSuffix).1 hstrung
  rw [hgap, List.nil_append] at hs
  obtain ⟨htext, hplain⟩ := (hkind ▸ hp.spells).of_text
  obtain ⟨q, qs, rfl⟩ := List.exists_cons_of_ne_nil hne
  have hmarked := (Layout.marked ⟨hqs, hkinds⟩ fun h => hhead (congrArg some h)).append w
  have hleast := (plain_and_getLast?_iff hmarked).1 ⟨hplain, (hfollows q rfl).text hkind⟩
  obtain ⟨t, ht, -, hstep⟩ := hl.tokensFrom_text hT htext hmarked hleast hs
  rw [hstep, hrest t ht hqs, ← hstart, ← hkind]

/-- A block is read with its body. -/
theorem tokensFrom_of_block (hkind : p.token.kind = .blockOpen)
    (hbody : Body .blockClose (kindsOf ps))
    (hstrung : Strung (posOf T (printed (p :: ps) ++ w)) (p :: (ps ++ qs)))
    (hs : s.Before T (printed (p :: ps) ++ w))
    (hrest : ∀ t : Scanner, t.Before T w → Strung (posOf T w) qs → l.tokensFrom t = e) :
    l.tokensFrom s = e.map (tokens (p :: ps) ++ ·) := by
  have hgap := hstrung.gap_eq_nil (by rw [hkind]; rfl)
  have hk : p.token.kind ≠ .text := by rw [hkind]; exact Kind.noConfusion
  rw [printed_cons, hgap, List.nil_append, List.append_assoc] at hs hstrung
  obtain ⟨hp, hstart, hends, hps, hqs⟩ :=
    (strung_body_iff (.inl rfl) hbody hgap hk hs.isSuffix).1 hstrung
  rw [hkind] at hends
  have henters := hl.tokensFrom_block hT (hkind ▸ hp.spells) hends hs
  rw [henters.complete hl hT hl.blockClose (.inl rfl) hbody hps fun t ht => hrest t ht hqs,
    ← hstart, ← hkind]
  rfl

/-- A tag is read with its keyword and its body. -/
theorem tokensFrom_of_tag {q : Piece} (hkind : p.token.kind = .tagOpen)
    (hkind' : q.token.kind = .keyword) (hbody : Body .tagClose (kindsOf ps))
    (hstrung : Strung (posOf T (printed (p :: q :: ps) ++ w)) (p :: q :: (ps ++ qs)))
    (hs : s.Before T (printed (p :: q :: ps) ++ w))
    (hrest : ∀ t : Scanner, t.Before T w → Strung (posOf T w) qs → l.tokensFrom t = e) :
    l.tokensFrom s = e.map (tokens (p :: q :: ps) ++ ·) := by
  have hgap := hstrung.gap_eq_nil (by rw [hkind]; rfl)
  rw [printed_cons, List.append_assoc, List.append_assoc] at hs hstrung
  obtain ⟨hp, hstart, -, hword⟩ := (strung_cons_iff _ hs.isSuffix).1 hstrung
  have hgap' := hword.gap_eq_nil (by rw [hkind']; rfl)
  have hk : q.token.kind ≠ .text := by rw [hkind']; exact Kind.noConfusion
  rw [printed_cons, hgap', List.nil_append, List.append_assoc] at hs hstart hword
  rw [hgap, List.nil_append] at hs
  obtain ⟨hq, hstart', hends, hps, hqs⟩ :=
    (strung_body_iff (.inr rfl) hbody hgap' hk ((List.suffix_append _ _).trans hs.isSuffix)).1 hword
  rw [hkind'] at hends
  have henters := hl.tokensFrom_tag hT (hkind ▸ hp.spells) (hkind' ▸ hq.spells) hends hs
  rw [henters.complete hl hT hl.tagClose (.inr rfl) hbody hps fun t ht => hrest t ht hqs,
    ← hstart, ← hstart', ← hkind, ← hkind']
  rfl

/-- What is laid out is read in front of anything, if a text at its end is. -/
theorem tokensFrom_of_layout_append (hps : Layout (posOf T (printed ps ++ w)) ps)
    (hrest : ∀ t : Scanner, t.Before T w → l.tokensFrom t = e)
    (htext : ∀ x, Spells .text x → x <:+ printed ps → ∀ t : Scanner, t.Before T (x ++ w) →
      l.tokensFrom t = e.map (joinTokens [⟨.text, posOf T (x ++ w), x⟩]))
    (hs : s.Before T (printed ps ++ w)) : l.tokensFrom s = e.map (joinTokens (tokens ps)) := by
  obtain ⟨hstrung, hkinds⟩ := hps
  generalize hks : kindsOf ps = ks at hkinds
  induction hkinds generalizing ps s with
  | nil =>
    obtain rfl : ps = [] := List.map_eq_nil_iff.1 hks
    rw [hrest s hs]
    cases e <;> rfl
  | text hhead hkinds ih =>
    obtain ⟨p, qs, rfl, hkind, rfl⟩ := List.map_eq_cons_iff.1 hks
    by_cases hne : qs = []
    · subst hne
      exact tokensFrom_of_lastText hkind hstrung hs htext
    · have hstep := hl.tokensFrom_of_text hT hkind hstrung hne hhead hkinds hs fun t ht hqs =>
        ih (fun x hx hsuffix => htext x hx (hsuffix.trans (printed_suffix [p] qs))) ht hqs rfl
      refine hstep.trans (map_joinTokens e [p.token] (tokens qs) fun hnil => ?_)
      exact absurd (List.map_eq_nil_iff.1 hnil) hne
  | block hbody hkinds ih =>
    obtain ⟨p, rest, rfl, hkind, hrest⟩ := List.map_eq_cons_iff.1 hks
    obtain ⟨ps, qs, rfl, rfl, rfl⟩ := List.map_eq_append_iff.1 hrest
    rw [← List.cons_append] at hs hstrung htext
    rw [printed_append, List.append_assoc] at hs hstrung
    have hstep := hl.tokensFrom_of_block hT hkind hbody hstrung hs fun t ht hqs =>
      ih (fun x hx hsuffix => htext x hx (hsuffix.trans (printed_suffix (p :: ps) qs))) ht hqs rfl
    rw [hstep, map_joinTokens e (tokens (p :: ps)) (tokens qs) fun _ =>
      hbody.kind_ne_text (.inl rfl) [p.token], ← tokens_append]
    rfl
  | tag hbody hkinds ih =>
    obtain ⟨p, rest, rfl, hkind, hrest⟩ := List.map_eq_cons_iff.1 hks
    obtain ⟨q, rest, rfl, hkind', hrest⟩ := List.map_eq_cons_iff.1 hrest
    obtain ⟨ps, qs, rfl, rfl, rfl⟩ := List.map_eq_append_iff.1 hrest
    rw [← List.cons_append, ← List.cons_append] at hs hstrung htext
    rw [printed_append, List.append_assoc] at hs hstrung
    have hstep := hl.tokensFrom_of_tag hT hkind hkind' hbody hstrung hs fun t ht hqs =>
      ih (fun x hx hsuffix => htext x hx (hsuffix.trans (printed_suffix (p :: q :: ps) qs))) ht hqs
        rfl
    rw [hstep, map_joinTokens e (tokens (p :: q :: ps)) (tokens qs) fun _ =>
      hbody.kind_ne_text (.inr rfl) [p.token, q.token], ← tokens_append]
    rfl

/-- What is laid out is read. -/
theorem tokensFrom_of_layout (hps : Layout (posOf T (printed ps)) ps)
    (hs : s.Before T (printed ps)) : l.tokensFrom s = .ok (tokens ps) := by
  have hnil : printed ps ++ [] = printed ps := List.append_nil _
  rw [← hnil] at hps hs
  have hread := hl.tokensFrom_of_layout_append hT hps (e := .ok []) (fun t => tokensFrom_nil)
    (fun x hx _ t ht => ?_) hs
  · rw [hread]
    exact congrArg Except.ok (joinTokens_nil_right _)
  · rw [List.append_nil] at ht ⊢
    exact hl.tokensFrom_textEnd hT hx.of_text.1 hx.of_text.2 ht

end Complete

end Lexicon.Lawful

/-! ### Sources -/

/-- Taking a source apart is that with lawful patterns, from its start. -/
theorem exists_lawful_tokenize :
    ∃ l : Lexicon, l.Lawful ∧ ∀ t, tokenize t = l.tokensFrom (Scanner.new t) := by
  obtain ⟨l, hnew, hl⟩ := Lexicon.new?_eq_ok
  refine ⟨l, hl, fun t => ?_⟩
  rw [tokenize, hnew]
  rfl

/-- A source of which all is laid out is taken apart into its tokens, and no other one is. -/
theorem tokenize_eq_ok {source : Text} {ts : List Token} (hheld : source.Held) :
    tokenize source = .ok ts ↔ ∃ ps, Layout 0 ps ∧ printed ps = source ∧ tokens ps = ts := by
  obtain ⟨l, hl, htokenize⟩ := exists_lawful_tokenize
  have hstart : posOf source source = 0 := Nat.sub_self _
  rw [htokenize]
  constructor
  · intro h
    obtain ⟨ps, hprinted, htokens, hps⟩ :=
      hl.layout_of_tokensFrom hheld (Scanner.new_before source) h
    rw [hstart] at hps
    exact ⟨ps, hps, hprinted.symm, htokens⟩
  · rintro ⟨ps, hps, rfl, rfl⟩
    rw [← hstart] at hps
    exact hl.tokensFrom_of_layout hheld hps (Scanner.new_before _)

/-- **The tokens of a source are laid out in it.** A source has given tokens exactly if it is made
    up of pieces with these tokens. A layout is read back from the source that it makes up, and it
    is the only one of that source. Sources have to fit in a memory. -/
theorem tokenize_layout :
    (∀ (source : Text) (ts : List Token), source.Held →
      (tokenize source = .ok ts ↔ ∃ ps, Layout 0 ps ∧ printed ps = source ∧ tokens ps = ts)) ∧
    ∀ ps, Layout 0 ps → (printed ps).Held → tokenize (printed ps) = .ok (tokens ps) ∧
      ∀ qs, Layout 0 qs → printed qs = printed ps → qs = ps := by
  refine ⟨fun source ts hheld => tokenize_eq_ok hheld, fun ps hps hheld => ?_⟩
  have hread : tokenize (printed ps) = .ok (tokens ps) :=
    (tokenize_eq_ok hheld).2 ⟨ps, hps, rfl, rfl⟩
  refine ⟨hread, fun qs hqs hprinted => ?_⟩
  -- Both have the tokens that are read, and these tell the blanks.
  have hread' : tokenize (printed ps) = .ok (tokens qs) :=
    (tokenize_eq_ok hheld).2 ⟨qs, hqs, hprinted, rfl⟩
  exact eq_of_tokens_eq hqs.placed hps.placed (Except.ok.inj (hread'.symm.trans hread)) hprinted

/-- The pieces of a text and of a tag with a keyword and a name. -/
def taggedPieces : List Piece := [
  ⟨[], ⟨.text, 0, ['é']⟩⟩,
  ⟨[], ⟨.tagOpen, 1, ['{', '%']⟩⟩,
  ⟨[], ⟨.keyword, 3, ['i', 'f']⟩⟩,
  ⟨[' '], ⟨.ident, 6, ['x']⟩⟩,
  ⟨[], ⟨.tagClose, 7, ['%', '}']⟩⟩]

theorem tokenize_layout_taggedPieces : Layout 0 taggedPieces ∧ (printed taggedPieces).Held ∧
    tokenize "é\x7b%if x%\x7d".toList = .ok (tokens taggedPieces) := by
  have hheld : (printed taggedPieces).Held := by decide
  have hword : ∀ c ∈ ['i', 'f'], isWordChar c :=
    List.forall_mem_cons.2 ⟨by decide, List.forall_mem_singleton.2 (by decide)⟩
  have hplain : Plain ['é'] :=
    ⟨Pattern.indexOf?_eq_none_iff.1 (by decide), Pattern.indexOf?_eq_none_iff.1 (by decide)⟩
  have hspace : Blanks [' '] := List.forall_mem_singleton.2 (by decide)
  have hlayout : Layout 0 taggedPieces := {
    kinds := .text (by decide)
      (@Kinds.tag [.ident, .tagClose] [] (.cons (.inl rfl) .close) .nil)
    valid := by
      simp only [taggedPieces, List.forall_mem_cons, List.not_mem_nil, false_imp_iff]
      exact ⟨⟨blanks_nil, fun _ => rfl, .text (List.cons_ne_nil _ _) hplain⟩,
        ⟨blanks_nil, fun _ => rfl, .tagOpen blanks_nil⟩,
        ⟨blanks_nil, fun _ => rfl, .keyword (List.cons_ne_nil _ _) hword⟩,
        ⟨hspace, by decide, .ident (by decide) (List.forall_mem_nil _)⟩,
        ⟨blanks_nil, fun _ => rfl, .tagClose⟩, fun _ => trivial⟩
    follows := by decide
    placed := ⟨rfl, rfl, rfl, rfl, rfl, trivial⟩ }
  exact ⟨hlayout, hheld, (tokenize_layout.2 taggedPieces hlayout hheld).1⟩

end TextScan.Template
