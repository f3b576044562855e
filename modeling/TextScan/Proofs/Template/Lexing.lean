import TextScan.Proofs.Template.Lexicon

namespace TextScan.Template

/-!
# The steps of taking a source apart

What is read next, in terms of what is left of the source. Every case is listed once, those that
fail included.

* `Ahead` and `Opening` list the cases within a block or a tag and where one begins. `ahead` and
  `Marked.opening` say that there are no others.
* `Lexicon.Lawful.inside_close`, `inside_cons` and `inside_error` say how they are read.
* `Lexicon.Lawful.tokensFrom_block`, `tokensFrom_tag`, `tokensFrom_noKeyword`, `tokensFrom_text` and
  `tokensFrom_textEnd` are those outside.
-/

open Scanner (Behind)

/-! ### What lies ahead -/

/-- What a block or a tag goes on with behind blanks: its closing marker, a name or a bar that
    cannot go on, or none of these. -/
inductive Ahead (close : Kind) : Text → Prop
  | close {b x w : Text} : Blanks b → Spells close x → Ahead close (b ++ (x ++ w))
  | inner {k : Kind} {b x w : Text} : k = .ident ∨ k = .pipe → Blanks b → Spells k x →
      w.Avoids k.goesOn → Ahead close (b ++ (x ++ w))
  | none {b v : Text} : Blanks b → v.Avoids isBlank → close.cut v = [] → Kind.ident.cut v = [] →
      Kind.pipe.cut v = [] → Ahead close (b ++ v)

/-- The cases are those of the reader, in its order. -/
theorem ahead (close : Kind) (v : Text) : Ahead close v := by
  obtain ⟨b, hv, hb⟩ := blanks_append_dropWhile v
  have hblank := Text.avoids_dropWhile isBlank v
  generalize v.dropWhile isBlank = v' at hv hblank
  subst hv
  by_cases hnoClose : close.cut v' = []
  · by_cases hnoIdent : Kind.ident.cut v' = []
    · by_cases hnoPipe : Kind.pipe.cut v' = []
      · exact .none hb hblank hnoClose hnoIdent hnoPipe
      · obtain ⟨x, w, rfl, hx, hw⟩ := Kind.exists_of_cut_ne_nil hnoPipe
        exact .inner (.inr rfl) hb hx hw
    · obtain ⟨x, w, rfl, hx, hw⟩ := Kind.exists_of_cut_ne_nil hnoIdent
      exact .inner (.inl rfl) hb hx hw
  · obtain ⟨x, w, rfl, hx, -⟩ := Kind.exists_of_cut_ne_nil hnoClose
    exact .close hb hx

/-- What begins with a block or a tag: a block, a tag, or a tag that lacks its keyword. -/
inductive Opening : Text → Prop
  | block {x w : Text} : Spells .blockOpen x → w.Avoids isBlank → Opening (x ++ w)
  | tag {x y w : Text} : Spells .tagOpen x → Spells .keyword y → w.Avoids isWordChar →
      Opening (x ++ (y ++ w))
  | noKeyword {x w : Text} : Spells .tagOpen x → w.Avoids isBlank → Kind.keyword.cut w = [] →
      Opening (x ++ w)

theorem Marked.opening {v : Text} (h : Marked v) : Opening v := by
  obtain ⟨k, x, w, hk, rfl, hx, hw⟩ := h.exists_opening
  rcases hk with rfl | rfl
  · exact .block hx hw
  · by_cases hnoWord : Kind.keyword.cut w = []
    · exact .noKeyword hx hw hnoWord
    · obtain ⟨y, w, rfl, hy, hw⟩ := Kind.exists_of_cut_ne_nil hnoWord
      exact .tag hx hy hw

/-- Less is left behind a token. -/
theorem Spells.length_lt {k : Kind} {x : Text} (hx : Spells k x) (b w : Text) :
    w.length < (b ++ (x ++ w)).length := by
  obtain ⟨c, r, rfl, -⟩ := Kind.exists_first hx
  simp only [List.length_append, List.length_cons]
  omega

/-- A block or a tag is entered at `s`: the tokens `front` are read, and then a body from `w` on. It
    fails if the body does, and goes on behind it otherwise. -/
def Lexicon.Enters (l : Lexicon) (T : Text) (s : Scanner) (p : AnchoredRegex) (close : Kind)
    (w : Text) (front : List Token) : Prop :=
  ∃ t : Scanner, t.Before T w ∧ t.unread < s.unread ∧
    (∀ e, Yields T (l.inside p close t) (.error e) → l.tokensFrom s = .error e) ∧
    ∀ body u, Yields T (l.inside p close t) (.ok (body, u)) →
      ∃ t' : Scanner, t'.Before T u ∧ t'.unread < t.unread ∧
        l.tokensFrom s = (l.tokensFrom t').map fun ts => front ++ (body ++ ts)

namespace Lexicon.Lawful

variable {l : Lexicon} {s : Scanner} {T v v' b x y w u : Text} {p : AnchoredRegex}
  {k close : Kind}

/-! ### Inside blocks and tags -/

theorem skipSpace (hl : l.Lawful) (hT : T.Held) (hs : s.Before T v) :
    ∃ t : s.Skipped, (s.skipToken l.space.toPattern).mapError TokenError.pattern = .ok t ∧
      t.1.Before T (v.dropWhile isBlank) := by
  obtain ⟨t, hskip, ht⟩ := hs.skipToken hT hl.space
  rw [Text.drop_length_takeWhile] at ht
  exact ⟨t, by rw [hskip]; rfl, ht⟩

section Inside

variable (hl : l.Lawful) (hT : T.Held) (hp : p.toPattern.Cuts close.cut)

include hl hT hp

/-- Reading ends with the closing marker. -/
theorem inside_close (hclose : close = .blockClose ∨ close = .tagClose) (hb : Blanks b)
    (hx : Spells close x) (hs : s.Before T (b ++ (x ++ w))) :
    Yields T (l.inside p close s) (.ok ([⟨close, posOf T (x ++ w), x⟩], w)) := by
  have hgap := Kind.takesGap_close hclose
  have hends : w.Avoids close.goesOn := by rcases hclose with rfl | rfl <;> exact fun _ _ => rfl
  obtain ⟨⟨s₁, h₁⟩, hskip, hs₁⟩ := hl.skipSpace hT hs
  rw [hb.dropWhile_append (Kind.avoids_isBlank (.inl hgap) hx w)] at hs₁
  have hpos : s₁.pos = posOf T (x ++ w) := hs₁.pos_eq
  obtain ⟨t, htoken, ht⟩ := token?_eq_some hs₁ hT hp (Kind.ne_text_of_takesGap hgap) hx hends
  rw [inside, hskip]
  simp only [bind, Except.bind, htoken, hpos]
  exact ⟨_, rfl, ht⟩

/-- A name or a bar is read, and then the rest. -/
theorem inside_cons (hclose : close = .blockClose ∨ close = .tagClose)
    (hk : k = .ident ∨ k = .pipe) (hb : Blanks b) (hx : Spells k x) (hw : w.Avoids k.goesOn)
    (hs : s.Before T (b ++ (x ++ w))) :
    ∃ t : Scanner, t.Before T w ∧ t.unread < s.unread ∧ ∀ r, Yields T (l.inside p close t) r →
      Yields T (l.inside p close s)
        (r.map fun (ts, u) => (⟨k, posOf T (x ++ w), x⟩ :: ts, u)) := by
  have hgap := Kind.takesGap_inner hk
  obtain ⟨⟨s₁, h₁⟩, hskip, hs₁⟩ := hl.skipSpace hT hs
  rw [hb.dropWhile_append (Kind.avoids_isBlank (.inl hgap) hx w)] at hs₁
  have hpos : s₁.pos = posOf T (x ++ w) := hs₁.pos_eq
  have hnoClose : token? s₁ p = .ok none := by
    obtain ⟨c, r, rfl, hc⟩ := Kind.exists_first hx
    exact token?_eq_none hs₁ hT hp (Kind.cut_cons_eq_nil (Kind.first_close_eq_false hk hc hclose))
  rcases hk with rfl | rfl
  · obtain ⟨⟨t, h⟩, htoken, ht⟩ := token?_eq_some hs₁ hT hl.ident Kind.noConfusion hx hw
    refine ⟨t, ht, Nat.lt_of_lt_of_le h h₁, ?_⟩
    intro r hr
    rw [inside, hskip]
    simp only [bind, Except.bind, hnoClose, htoken, hpos]
    exact hr.map _ (fun u => (Behind.trans ⟨t, h⟩ u).after h₁) fun _ => rfl
  · cases hx
    have hnoIdent : token? s₁ l.ident = .ok none :=
      token?_eq_none hs₁ hT hl.ident (Kind.cut_cons_eq_nil (by decide))
    obtain ⟨⟨t, h⟩, htoken, ht⟩ := token?_eq_some hs₁ hT hl.pipe Kind.noConfusion .pipe hw
    refine ⟨t, ht, Nat.lt_of_lt_of_le h h₁, ?_⟩
    intro r hr
    rw [inside, hskip]
    simp only [bind, Except.bind, hnoClose, hnoIdent, htoken, hpos]
    exact hr.map _ (fun u => (Behind.trans ⟨t, h⟩ u).after h₁) fun _ => rfl

/-- Where none of the tokens stands, reading fails. -/
theorem inside_error (hs : s.Before T v) (hv : v.dropWhile isBlank = v')
    (hnoClose : close.cut v' = []) (hnoIdent : Kind.ident.cut v' = [])
    (hnoPipe : Kind.pipe.cut v' = []) :
    Yields T (l.inside p close s) (.error (if v'.isEmpty then .unterminated (posOf T v')
      else .unexpected (v'.take 1) (posOf T v'))) := by
  obtain ⟨⟨s₁, h₁⟩, hskip, hs₁⟩ := hl.skipSpace hT hs
  rw [hv] at hs₁
  have hpos : s₁.pos = posOf T v' := hs₁.pos_eq
  have hpeek : s₁.peek 1 = v'.take 1 := by rw [Cursor.peek, hs₁.rest_eq]
  rw [inside, hskip]
  simp only [bind, Except.bind, token?_eq_none hs₁ hT hp hnoClose,
    token?_eq_none hs₁ hT hl.ident hnoIdent, token?_eq_none hs₁ hT hl.pipe hnoPipe, hs₁.atEnd_eq,
    hpos, hpeek]
  cases v'.isEmpty <;> exact rfl

end Inside

/-! ### Outside -/

theorem tokensFrom_nil (hs : s.Before T []) : l.tokensFrom s = .ok [] := by
  rw [tokensFrom, hs.atEnd_eq]
  rfl

section Outside

variable (hl : l.Lawful) (hT : T.Held)

include hl hT

/-- A block has its body right behind its opening. -/
theorem tokensFrom_block (hx : Spells .blockOpen x) (hw : w.Avoids isBlank)
    (hs : s.Before T (x ++ w)) :
    l.Enters T s l.blockClose .blockClose w [⟨.blockOpen, posOf T (x ++ w), x⟩] := by
  obtain ⟨⟨t, h⟩, htoken, ht⟩ := token?_eq_some hs hT hl.blockOpen Kind.noConfusion hx hw
  have hempty : (x ++ w).isEmpty = false := by cases hx; rfl
  have hpos : s.pos = posOf T (x ++ w) := hs.pos_eq
  refine ⟨t, ht, h, ?_, ?_⟩
  · intro e he
    simp only [Yields] at he
    rw [tokensFrom, hs.atEnd_eq, hempty]
    simp only [bind, Except.bind, htoken, he]
    rfl
  · intro body u hread
    obtain ⟨⟨t', h'⟩, hbody, ht'⟩ := hread
    refine ⟨t', ht', h', ?_⟩
    rw [tokensFrom, hs.atEnd_eq, hempty]
    simp only [bind, Except.bind, htoken, hbody, hpos]
    cases l.tokensFrom t' <;> rfl

/-- A tag has its body behind its keyword. -/
theorem tokensFrom_tag (hx : Spells .tagOpen x) (hy : Spells .keyword y) (hw : w.Avoids isWordChar)
    (hs : s.Before T (x ++ (y ++ w))) :
    l.Enters T s l.tagClose .tagClose w
      [⟨.tagOpen, posOf T (x ++ (y ++ w)), x⟩, ⟨.keyword, posOf T (y ++ w), y⟩] := by
  have hnoBlock := token?_eq_none hs hT hl.blockOpen (cut_blockOpen_eq_nil hx _)
  have hblank : Text.Avoids isBlank (y ++ w) := Kind.avoids_isBlank (.inr rfl) hy w
  obtain ⟨⟨t₀, h₀⟩, hopen, ht₀⟩ := token?_eq_some hs hT hl.tagOpen Kind.noConfusion hx hblank
  obtain ⟨⟨t, h⟩, hword, ht⟩ := token?_eq_some ht₀ hT hl.keyword Kind.noConfusion hy hw
  have hempty : (x ++ (y ++ w)).isEmpty = false := by cases hx; rfl
  have hpos : s.pos = posOf T (x ++ (y ++ w)) := hs.pos_eq
  have hpos₀ : t₀.pos = posOf T (y ++ w) := ht₀.pos_eq
  refine ⟨t, ht, Nat.lt_trans h h₀, ?_, ?_⟩
  · intro e he
    simp only [Yields] at he
    rw [tokensFrom, hs.atEnd_eq, hempty]
    simp only [bind, Except.bind, hnoBlock, hopen, hword, he]
    rfl
  · intro body u hread
    obtain ⟨⟨t', h'⟩, hbody, ht'⟩ := hread
    refine ⟨t', ht', h', ?_⟩
    rw [tokensFrom, hs.atEnd_eq, hempty]
    simp only [bind, Except.bind, hnoBlock, hopen, hword, hbody, hpos, hpos₀]
    cases l.tokensFrom t' <;> rfl

/-- A tag without a keyword is refused. -/
theorem tokensFrom_noKeyword (hx : Spells .tagOpen x) (hw : w.Avoids isBlank)
    (hs : s.Before T (x ++ w)) (hnoWord : Kind.keyword.cut w = []) :
    l.tokensFrom s = .error (.noKeyword (posOf T w)) := by
  have hnoBlock := token?_eq_none hs hT hl.blockOpen (cut_blockOpen_eq_nil hx _)
  obtain ⟨⟨t, h⟩, hopen, ht⟩ := token?_eq_some hs hT hl.tagOpen Kind.noConfusion hx hw
  have hempty : (x ++ w).isEmpty = false := by cases hx; rfl
  have hpos : t.pos = posOf T w := ht.pos_eq
  rw [tokensFrom, hs.atEnd_eq, hempty]
  simp only [bind, Except.bind, hnoBlock, hopen, token?_eq_none ht hT hl.keyword hnoWord, hpos]
  rfl

/-- Text is one token up to the block or the tag ahead. -/
theorem tokensFrom_text (hu : u ≠ []) (hw : Marked w)
    (hleast : ∀ x, x ≠ [] → x <:+ u → ¬ Marked (x ++ w)) (hs : s.Before T (u ++ w)) :
    ∃ t : Scanner, t.Before T w ∧ t.unread < s.unread ∧
      l.tokensFrom s = (l.tokensFrom t).map (⟨.text, posOf T (u ++ w), u⟩ :: ·) := by
  have hhere : ¬ Marked (u ++ w) := hleast u hu (List.suffix_refl u)
  have hnoBlock := token?_eq_none hs hT hl.blockOpen (cut_opening_eq_nil (.inl rfl) hhere)
  have hnoTag := token?_eq_none hs hT hl.tagOpen (cut_opening_eq_nil (.inr rfl) hhere)
  have hlocate : (s.locate l.anyOpen.toPattern).result.mapError TokenError.pattern =
      .ok (some u.length) := by
    have hmark : w.take 2 ++ w.drop 2 = w := List.take_append_drop 2 w
    have hanswer := hl.anyOpen_first u w hw hleast
    rw [← hmark] at hs hanswer
    rw [hs.locate_eq_some hT (by simpa using hanswer)]
    rfl
  have ht : (s.moveTo (s.pos + u.length)).scanner.Before T w := hs.moveTo_append
  have hlt : (s.moveTo (s.pos + u.length)).scanner.unread < s.unread := by
    have hlen := List.length_pos_iff.2 hu
    rw [ht.unread_eq, hs.unread_eq, List.length_append]
    omega
  have hpeek : s.peek u.length = u := by rw [Cursor.peek, hs.rest_eq, List.take_left]
  have hempty : (u ++ w).isEmpty = false :=
    List.isEmpty_eq_false_iff.2 (List.append_ne_nil_of_left_ne_nil hu w)
  have hpos : s.pos = posOf T (u ++ w) := hs.pos_eq
  refine ⟨_, ht, hlt, ?_⟩
  rw [tokensFrom, hs.atEnd_eq, hempty]
  simp only [bind, Except.bind, hnoBlock, hnoTag, hlocate, hlt, hpeek, dite_true]
  rw [← hpos]
  cases l.tokensFrom (s.moveTo (s.pos + u.length)).scanner <;> rfl

/-- Where neither a block nor a tag lies ahead, all is text. -/
theorem tokensFrom_textEnd (hv : v ≠ []) (hplain : Plain v) (hs : s.Before T v) :
    l.tokensFrom s = .ok [⟨.text, posOf T v, v⟩] := by
  have hnone := plain_iff.1 hplain
  have hhere : ¬ Marked v := hnone v (List.suffix_refl v)
  have hnoBlock := token?_eq_none hs hT hl.blockOpen (cut_opening_eq_nil (.inl rfl) hhere)
  have hnoTag := token?_eq_none hs hT hl.tagOpen (cut_opening_eq_nil (.inr rfl) hhere)
  have hlocate : (s.locate l.anyOpen.toPattern).result.mapError TokenError.pattern = .ok none := by
    rw [hs.locate_eq_none (hl.anyOpen_none v hnone)]
    rfl
  have hempty : v.isEmpty = false := List.isEmpty_eq_false_iff.2 hv
  have hpos : s.pos = posOf T v := hs.pos_eq
  rw [tokensFrom, hs.atEnd_eq, hempty]
  simp only [bind, Except.bind, hnoBlock, hnoTag, hlocate, hs.rest_eq, hpos]
  rfl

end Outside

end Lexicon.Lawful

end TextScan.Template
