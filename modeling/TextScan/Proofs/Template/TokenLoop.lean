import TextScan.Proofs.Template.RenderLoop
import TextScan.Proofs.Template.Tokenize

namespace TextScan.Template

/-!
# The loops of taking a source apart

The same for sources: reading them turn by turn, with the tokens up to there.

* `Lexicon.insideTurn` and `Lexicon.tokensTurn` are the turns: from one token of a block or a tag to
  the next, and from one block, tag or text to the next.
* `Lexicon.insideIn` and `Lexicon.tokensIn` are the readers that consist of these turns.
* `Lexicon.Advances` says that every turn moves the cursor on and that there are enough turns.
  `Lexicon.Lawful.advances` proves it.
* `loops_advance` is the result, on both readers.
-/

namespace Lexicon

/-- Reads a token of a block or a tag. -/
def insideTurn (l : Lexicon) (close : AnchoredRegex) (closeKind : Kind) (out : List Token)
    (s : Scanner) :
    Except (Option TokenError) (Turn (List Token × Scanner) (List Token × Scanner)) := do
  let (_, s) ← tried TokenError.pattern (s.skip l.space.toPattern)
  match ← tried TokenError.pattern (s.take close.toPattern) with
  | (some text, t) => return .ends (out ++ [⟨closeKind, s.pos, text⟩], t)
  | (none, t) =>
    match ← tried TokenError.pattern (t.take l.ident.toPattern) with
    | (some text, t) => return .goesOn (out ++ [⟨.ident, s.pos, text⟩], t)
    | (none, t) =>
      match ← tried TokenError.pattern (t.take l.pipe.toPattern) with
      | (some text, t) => return .goesOn (out ++ [⟨.pipe, s.pos, text⟩], t)
      | (none, t) =>
        if t.atEnd then throw (some (.unterminated s.pos))
        else throw (some (.unexpected (t.peek 1) s.pos))

/-- Reads a block or a tag behind its opening in at most `n` turns. -/
def insideIn (l : Lexicon) (close : AnchoredRegex) (closeKind : Kind) (n : Nat) (out : List Token)
    (s : Scanner) : Except (Option TokenError) (List Token × Scanner) :=
  match n with
  | 0 => throw none
  | n + 1 => do
    match ← l.insideTurn close closeKind out s with
    | .ends r => return r
    | .goesOn (out, t) => l.insideIn close closeKind n out t

/-- Reads a block, a tag, the text up to the next one, or what is left. The loop ends at the end of
    the source. -/
def tokensTurn (l : Lexicon) (n : Nat) (out : List Token) (s : Scanner) :
    Except (Option TokenError) (Turn (List Token) (List Token × Scanner)) := do
  if s.atEnd then return .ends out
  match ← tried TokenError.pattern (s.take l.blockOpen.toPattern) with
  | (some text, t) =>
    return .goesOn
      (← l.insideIn l.blockClose .blockClose n (out ++ [⟨.blockOpen, s.pos, text⟩]) t)
  | (none, t) =>
    match ← tried TokenError.pattern (t.take l.tagOpen.toPattern) with
    | (some text, t) =>
      match ← tried TokenError.pattern (t.take l.keyword.toPattern) with
      | (none, _) => throw (some (.noKeyword t.pos))
      | (some word, u) =>
        return .goesOn (← l.insideIn l.tagClose .tagClose n
          (out ++ [⟨.tagOpen, s.pos, text⟩, ⟨.keyword, t.pos, word⟩]) u)
    | (none, t) =>
      match ← tried TokenError.pattern (t.locate l.anyOpen.toPattern) with
      | (some k, t) =>
        return .goesOn (out ++ [⟨.text, s.pos, t.peek k⟩], (t.moveTo (s.pos + k)).scanner)
      | (none, t) => return .goesOn (out ++ [⟨.text, s.pos, t.rest⟩], t.finish.scanner)

/-- Takes apart what lies behind the cursor in at most `n` turns. -/
def tokensIn (l : Lexicon) (n : Nat) (out : List Token) (s : Scanner) :
    Except (Option TokenError) (List Token) :=
  match n with
  | 0 => throw none
  | n + 1 => do
    match ← l.tokensTurn n out s with
    | .ends out => return out
    | .goesOn (out, t) => l.tokensIn n out t

namespace Lawful

variable {l : Lexicon} {s s' : Scanner} {T v v' b x y w u : Text} {p : AnchoredRegex}
  {k close : Kind}

/-! ### Blocks and tags -/

theorem tried_take_spelled (hs : s.Before T (x ++ w)) (hT : T.Held) (hp : p.toPattern.Cuts k.cut)
    (hk : k ≠ .text) (hx : Spells k x) (hw : w.Avoids k.goesOn) :
    ∃ t, tried TokenError.pattern (s.take p.toPattern) = .ok (some x, t) ∧ t.Before T w := by
  have hcut := Kind.cut_append hk hx hw
  have hne : k.cut (x ++ w) ≠ [] := by
    obtain ⟨c, r, rfl, -⟩ := Kind.exists_first hx
    rw [hcut]
    exact List.cons_ne_nil c r
  obtain ⟨t, htake, ht⟩ := hs.tried_take_some TokenError.pattern hT hp hne
  rw [hcut] at htake
  rw [hcut, List.drop_left] at ht
  exact ⟨t, htake, ht⟩

section Inside

variable (hl : l.Lawful) (hT : T.Held) (hp : p.toPattern.Cuts close.cut)
  (hclose : close = .blockClose ∨ close = .tagClose)

include hl hT hp

/-- Where none of the tokens stands, the turn fails. -/
theorem insideTurn_error (hs : s.Before T v) (hv : v.dropWhile isBlank = v')
    (hnoClose : close.cut v' = []) (hnoIdent : Kind.ident.cut v' = [])
    (hnoPipe : Kind.pipe.cut v' = []) (out : List Token) :
    l.insideTurn p close out s = .error (some (if v'.isEmpty then .unterminated (posOf T v')
      else .unexpected (v'.take 1) (posOf T v'))) := by
  obtain ⟨i, s₁, hskip, hs₁⟩ := hs.tried_skipWhile TokenError.pattern hT hl.space
  rw [hv] at hs₁
  obtain ⟨s₂, htake₁, hs₂⟩ := hs₁.tried_take_none TokenError.pattern hT hp hnoClose
  obtain ⟨s₃, htake₂, hs₃⟩ := hs₂.tried_take_none TokenError.pattern hT hl.ident hnoIdent
  obtain ⟨s₄, htake₃, hs₄⟩ := hs₃.tried_take_none TokenError.pattern hT hl.pipe hnoPipe
  have hpos : s₁.pos = posOf T v' := hs₁.pos_eq
  have hpeek : s₄.peek 1 = v'.take 1 := by rw [Cursor.peek, hs₄.rest_eq]
  rw [insideTurn, hskip]
  simp only [bind, Except.bind, htake₁, htake₂, htake₃, hs₄.atEnd_eq, hpos, hpeek]
  cases v'.isEmpty <;> rfl

include hclose

/-- With the closing marker, the loop ends. -/
theorem insideTurn_ends (hb : Blanks b) (hx : Spells close x) (hs : s.Before T (b ++ (x ++ w)))
    (out : List Token) : ∃ t, t.Before T w ∧
      l.insideTurn p close out s = .ok (.ends (out ++ [⟨close, posOf T (x ++ w), x⟩], t)) := by
  have hgap := Kind.takesGap_close hclose
  have hends : w.Avoids close.goesOn := by rcases hclose with rfl | rfl <;> exact fun _ _ => rfl
  obtain ⟨i, s₁, hskip, hs₁⟩ := hs.tried_skipWhile TokenError.pattern hT hl.space
  rw [hb.dropWhile_append (Kind.avoids_isBlank (.inl hgap) hx w)] at hs₁
  have hpos : s₁.pos = posOf T (x ++ w) := hs₁.pos_eq
  obtain ⟨t, htake, ht⟩ := tried_take_spelled hs₁ hT hp (Kind.ne_text_of_takesGap hgap) hx hends
  refine ⟨t, ht, ?_⟩
  rw [insideTurn, hskip]
  simp only [bind, Except.bind, htake, hpos]
  rfl

/-- With a name or a bar, the loop goes on. -/
theorem insideTurn_goesOn (hk : k = .ident ∨ k = .pipe) (hb : Blanks b) (hx : Spells k x)
    (hw : w.Avoids k.goesOn) (hs : s.Before T (b ++ (x ++ w))) (out : List Token) :
    ∃ t, t.Before T w ∧
      l.insideTurn p close out s = .ok (.goesOn (out ++ [⟨k, posOf T (x ++ w), x⟩], t)) := by
  have hgap := Kind.takesGap_inner hk
  obtain ⟨i, s₁, hskip, hs₁⟩ := hs.tried_skipWhile TokenError.pattern hT hl.space
  rw [hb.dropWhile_append (Kind.avoids_isBlank (.inl hgap) hx w)] at hs₁
  have hpos : s₁.pos = posOf T (x ++ w) := hs₁.pos_eq
  have hnoClose : close.cut (x ++ w) = [] := by
    obtain ⟨c, r, rfl, hc⟩ := Kind.exists_first hx
    exact Kind.cut_cons_eq_nil (Kind.first_close_eq_false hk hc hclose)
  obtain ⟨s₂, htake₁, hs₂⟩ := hs₁.tried_take_none TokenError.pattern hT hp hnoClose
  rcases hk with rfl | rfl
  · obtain ⟨t, htake₂, ht⟩ := tried_take_spelled hs₂ hT hl.ident Kind.noConfusion hx hw
    refine ⟨t, ht, ?_⟩
    rw [insideTurn, hskip]
    simp only [bind, Except.bind, htake₁, htake₂, hpos]
    rfl
  · cases hx
    have hnoIdent : Kind.ident.cut (['|'] ++ w) = [] := Kind.cut_cons_eq_nil (by decide)
    obtain ⟨s₃, htake₂, hs₃⟩ := hs₂.tried_take_none TokenError.pattern hT hl.ident hnoIdent
    obtain ⟨t, htake₃, ht⟩ := tried_take_spelled hs₃ hT hl.pipe Kind.noConfusion .pipe hw
    refine ⟨t, ht, ?_⟩
    rw [insideTurn, hskip]
    simp only [bind, Except.bind, htake₁, htake₂, htake₃, hpos]
    rfl

/-- A block or a tag is read in turns as it is read, or it is cut off. -/
theorem insideIn_within (n : Nat) (out : List Token) {r : Except TokenError (List Token × Text)}
    (hs : s.Before T v) (hs' : s'.Before T v) (h : Yields T (l.inside p close s) r) :
    AnswersWithin n (v.length + 1) T (l.insideIn p close n out s')
      (r.map fun (ts, u) => (out ++ ts, u)) := by
  induction n generalizing s s' v out r with
  | zero => exact .inl ⟨rfl, Nat.succ_pos _⟩
  | succ n ih =>
    rw [insideIn]
    cases ahead close v with
    | close hb hx =>
      obtain ⟨t, ht, hturn⟩ := hl.insideTurn_ends hT hp hclose hb hx hs' out
      obtain rfl := (hl.inside_close hT hp hclose hb hx hs).unique h
      rw [hturn]
      exact .inr ⟨t, rfl, ht⟩
    | @inner k b x w hk hb hx hw =>
      obtain ⟨t, ht, -, hstep⟩ := hl.inside_cons hT hp hclose hk hb hx hw hs
      obtain ⟨t', ht', hturn⟩ := hl.insideTurn_goesOn hT hp hclose hk hb hx hw hs' out
      obtain ⟨r', hr', -⟩ := hl.readsBody hT hp hclose ht
      obtain rfl := (hstep r' hr').unique h
      have hlen := hx.length_lt b w
      rw [hturn]
      rcases ih (out ++ [⟨k, posOf T (x ++ w), x⟩]) ht ht' hr' with ⟨hcut, hlt⟩ | hanswer
      · exact .inl ⟨hcut, by omega⟩
      right
      cases r' with
      | error e => exact hanswer
      | ok r' =>
        obtain ⟨t₁, hread, ht₁⟩ := hanswer
        refine ⟨t₁, hread.trans ?_, ht₁⟩
        simp only [List.append_assoc, List.singleton_append]
    | none hb hblank hnoClose hnoIdent hnoPipe =>
      have hv := hb.dropWhile_append hblank
      rw [hl.insideTurn_error hT hp hs' hv hnoClose hnoIdent hnoPipe]
      obtain rfl := (hl.inside_error hT hp hs hv hnoClose hnoIdent hnoPipe).unique h
      exact .inr rfl

/-- A token of a block or a tag is passed in a turn. -/
theorem insideTurn_movesOn (hs : s.Before T v) {out out' : List Token} {t : Scanner}
    (h : l.insideTurn p close out s = .ok (.goesOn (out', t))) : s.MovesOn T t := by
  cases ahead close v with
  | close hb hx =>
    obtain ⟨t', -, hturn⟩ := hl.insideTurn_ends hT hp hclose hb hx hs out
    cases hturn.symm.trans h
  | @inner k b x w hk hb hx hw =>
    obtain ⟨t', ht', hturn⟩ := hl.insideTurn_goesOn hT hp hclose hk hb hx hw hs out
    exact hs.movesOn_of_goesOn ht' hturn h (hx.length_lt b w)
  | none hb hblank hnoClose hnoIdent hnoPipe =>
    cases (hl.insideTurn_error hT hp hs (hb.dropWhile_append hblank) hnoClose hnoIdent hnoPipe
      out).symm.trans h

end Inside

/-! ### Sources -/

/-- At the end, the loop ends. -/
theorem tokensTurn_ends (n : Nat) (out : List Token) (hs : s.Before T []) :
    l.tokensTurn n out s = .ok (.ends out) := by
  rw [tokensTurn, hs.atEnd_eq]
  rfl

section Outside

variable (hl : l.Lawful) (hT : T.Held)

include hl hT

/-- A block is read in a turn. -/
theorem tokensTurn_block (hx : Spells .blockOpen x) (hw : w.Avoids isBlank)
    (hs : s.Before T (x ++ w)) (n : Nat) (out : List Token) : ∃ t : Scanner, t.Before T w ∧
      l.tokensTurn n out s = (l.insideIn l.blockClose .blockClose n
        (out ++ [⟨.blockOpen, posOf T (x ++ w), x⟩]) t).map .goesOn := by
  obtain ⟨t, htake, ht⟩ := tried_take_spelled hs hT hl.blockOpen Kind.noConfusion hx hw
  have hempty : (x ++ w).isEmpty = false := by cases hx; rfl
  have hpos : s.pos = posOf T (x ++ w) := hs.pos_eq
  refine ⟨t, ht, ?_⟩
  rw [tokensTurn, hs.atEnd_eq, hempty]
  simp only [bind, Except.bind, htake, hpos]
  cases l.insideIn l.blockClose .blockClose n (out ++ [⟨.blockOpen, posOf T (x ++ w), x⟩]) t <;> rfl

/-- The opening of a tag is passed. -/
theorem tried_take_tagOpen (hx : Spells .tagOpen x) (hw : w.Avoids isBlank)
    (hs : s.Before T (x ++ w)) : ∃ s₁ t, t.Before T w ∧
      tried TokenError.pattern (s.take l.blockOpen.toPattern) = .ok (none, s₁) ∧
      tried TokenError.pattern (s₁.take l.tagOpen.toPattern) = .ok (some x, t) := by
  obtain ⟨s₁, htake₁, hs₁⟩ := hs.tried_take_none TokenError.pattern hT hl.blockOpen
    (cut_blockOpen_eq_nil hx w)
  obtain ⟨t, htake₂, ht⟩ := tried_take_spelled hs₁ hT hl.tagOpen Kind.noConfusion hx hw
  exact ⟨s₁, t, ht, htake₁, htake₂⟩

/-- A tag is read in a turn. -/
theorem tokensTurn_tag (hx : Spells .tagOpen x) (hy : Spells .keyword y) (hw : w.Avoids isWordChar)
    (hs : s.Before T (x ++ (y ++ w))) (n : Nat) (out : List Token) : ∃ t : Scanner, t.Before T w ∧
      l.tokensTurn n out s = (l.insideIn l.tagClose .tagClose n (out ++
        [⟨.tagOpen, posOf T (x ++ (y ++ w)), x⟩, ⟨.keyword, posOf T (y ++ w), y⟩]) t).map
          .goesOn := by
  obtain ⟨s₁, s₂, hs₂, htake₁, htake₂⟩ :=
    hl.tried_take_tagOpen hT hx (Kind.avoids_isBlank (.inr rfl) hy w) hs
  obtain ⟨t, htake₃, ht⟩ := tried_take_spelled hs₂ hT hl.keyword Kind.noConfusion hy hw
  have hempty : (x ++ (y ++ w)).isEmpty = false := by cases hx; rfl
  have hpos : s.pos = posOf T (x ++ (y ++ w)) := hs.pos_eq
  have hpos₂ : s₂.pos = posOf T (y ++ w) := hs₂.pos_eq
  refine ⟨t, ht, ?_⟩
  rw [tokensTurn, hs.atEnd_eq, hempty]
  simp only [bind, Except.bind, htake₁, htake₂, htake₃, hpos, hpos₂]
  generalize l.insideIn l.tagClose .tagClose n _ t = r
  cases r <;> rfl

/-- A tag without a keyword makes the turn fail. -/
theorem tokensTurn_noKeyword (hx : Spells .tagOpen x) (hw : w.Avoids isBlank)
    (hs : s.Before T (x ++ w)) (hnoWord : Kind.keyword.cut w = []) (n : Nat) (out : List Token) :
    l.tokensTurn n out s = .error (some (.noKeyword (posOf T w))) := by
  obtain ⟨s₁, s₂, hs₂, htake₁, htake₂⟩ := hl.tried_take_tagOpen hT hx hw hs
  obtain ⟨t, htake₃, -⟩ := hs₂.tried_take_none TokenError.pattern hT hl.keyword hnoWord
  have hempty : (x ++ w).isEmpty = false := by cases hx; rfl
  have hpos : s₂.pos = posOf T w := hs₂.pos_eq
  rw [tokensTurn, hs.atEnd_eq, hempty]
  simp only [bind, Except.bind, htake₁, htake₂, htake₃, hpos]
  rfl

/-- Where neither a block nor a tag begins, neither of the openings is taken. -/
theorem tried_take_unmarked (hs : s.Before T v) (hv : ¬ Marked v) : ∃ s₁ t, t.Before T v ∧
    tried TokenError.pattern (s.take l.blockOpen.toPattern) = .ok (none, s₁) ∧
    tried TokenError.pattern (s₁.take l.tagOpen.toPattern) = .ok (none, t) := by
  obtain ⟨s₁, htake₁, hs₁⟩ := hs.tried_take_none TokenError.pattern hT hl.blockOpen
    (cut_opening_eq_nil (.inl rfl) hv)
  obtain ⟨t, htake₂, ht⟩ := hs₁.tried_take_none TokenError.pattern hT hl.tagOpen
    (cut_opening_eq_nil (.inr rfl) hv)
  exact ⟨s₁, t, ht, htake₁, htake₂⟩

/-- The search tells how far away the next block or tag is. -/
theorem tried_locate_marked (hw : Marked w) (hleast : ∀ x, x ≠ [] → x <:+ u → ¬ Marked (x ++ w))
    (hs : s.Before T (u ++ w)) :
    tried TokenError.pattern (s.locate l.anyOpen.toPattern) =
      .ok (some u.length, (s.locate l.anyOpen.toPattern).scanner) := by
  have hmark : w.take 2 ++ w.drop 2 = w := List.take_append_drop 2 w
  have hanswer := hl.anyOpen_first u w hw hleast
  rw [← hmark] at hs hanswer
  rw [tried, hs.locate_eq_some hT (by simpa using hanswer)]

/-- Text is passed up to the block or the tag ahead. -/
theorem tokensTurn_text (hu : u ≠ []) (hw : Marked w)
    (hleast : ∀ x, x ≠ [] → x <:+ u → ¬ Marked (x ++ w)) (hs : s.Before T (u ++ w)) (n : Nat)
    (out : List Token) : ∃ t : Scanner, t.Before T w ∧
      l.tokensTurn n out s = .ok (.goesOn (out ++ [⟨.text, posOf T (u ++ w), u⟩], t)) := by
  obtain ⟨s₁, s₂, hs₂, htake₁, htake₂⟩ :=
    hl.tried_take_unmarked hT hs (hleast u hu (List.suffix_refl u))
  have hlocate := hl.tried_locate_marked hT hw hleast hs₂
  have hs₃ := hs₂.locate l.anyOpen.toPattern
  have hpeek : (s₂.locate l.anyOpen.toPattern).scanner.peek u.length = u := by
    rw [Cursor.peek, hs₃.rest_eq, List.take_left]
  have hempty : (u ++ w).isEmpty = false :=
    List.isEmpty_eq_false_iff.2 (List.append_ne_nil_of_left_ne_nil hu w)
  have hpos : s.pos = posOf T (u ++ w) := hs.pos_eq
  have hpos₃ : (s₂.locate l.anyOpen.toPattern).scanner.pos = posOf T (u ++ w) := hs₃.pos_eq
  refine ⟨_, hs₃.moveTo_append, ?_⟩
  rw [tokensTurn, hs.atEnd_eq, hempty]
  simp only [bind, Except.bind, htake₁, htake₂, hlocate, hpeek, hpos, hpos₃]
  rfl

/-- Where neither a block nor a tag lies ahead, all is passed. -/
theorem tokensTurn_textEnd (hv : v ≠ []) (hplain : Plain v) (hs : s.Before T v) (n : Nat)
    (out : List Token) : ∃ t : Scanner, t.Before T [] ∧
      l.tokensTurn n out s = .ok (.goesOn (out ++ [⟨.text, posOf T v, v⟩], t)) := by
  have hnone := plain_iff.1 hplain
  obtain ⟨s₁, s₂, hs₂, htake₁, htake₂⟩ :=
    hl.tried_take_unmarked hT hs (hnone v (List.suffix_refl v))
  have hlocate : tried TokenError.pattern (s₂.locate l.anyOpen.toPattern) =
      .ok (none, (s₂.locate l.anyOpen.toPattern).scanner) := by
    rw [tried, hs₂.locate_eq_none (hl.anyOpen_none v hnone)]
  have hs₃ := hs₂.locate l.anyOpen.toPattern
  have hempty : v.isEmpty = false := List.isEmpty_eq_false_iff.2 hv
  have hpos : s.pos = posOf T v := hs.pos_eq
  refine ⟨_, hs₃.finish, ?_⟩
  rw [tokensTurn, hs.atEnd_eq, hempty]
  simp only [bind, Except.bind, htake₁, htake₂, hlocate, hs₃.rest_eq, hpos]
  rfl

/-- A block or a tag that is entered is read in turns as it is, if what lies behind it is. -/
theorem tokensIn_enters_within {front : List Token} (hp : p.toPattern.Cuts close.cut)
    (hclose : close = .blockClose ∨ close = .tagClose) (henters : l.Enters T s p close w front)
    {t' : Scanner} (ht' : t'.Before T w) (n : Nat) (out : List Token)
    (hturn : l.tokensTurn n out s' = (l.insideIn p close n (out ++ front) t').map .goesOn)
    (hlen : w.length < v.length)
    (hrest : ∀ (out : List Token) (u : Text) (t t' : Scanner), u.length < w.length →
      t.Before T u → t'.Before T u → GivesWithin n (u.length + 1) (l.tokensIn n out t')
        ((l.tokensFrom t).map (out ++ ·))) :
    GivesWithin (n + 1) (v.length + 1) (l.tokensIn (n + 1) out s')
      ((l.tokensFrom s).map (out ++ ·)) := by
  obtain ⟨t, ht, -, herror, hgo⟩ := henters
  obtain ⟨r, hr, -⟩ := hl.readsBody hT hp hclose ht
  rw [tokensIn, hturn]
  rcases hl.insideIn_within hT hp hclose n (out ++ front) ht ht' hr with ⟨hcut, hlt⟩ | hanswer
  · exact .inl ⟨by rw [hcut]; rfl, by omega⟩
  cases r with
  | error e =>
    simp only [Answers, Except.map] at hanswer
    rw [hanswer, herror e hr]
    exact .inr rfl
  | ok r =>
    obtain ⟨body, u⟩ := r
    obtain ⟨t₁', hread, ht₁'⟩ := hanswer
    obtain ⟨t₁, ht₁, hlt, hok⟩ := hgo body u hr
    rw [ht₁.unread_eq, ht.unread_eq] at hlt
    simp only [← List.append_assoc front] at hok
    rw [hok, map_append_map_append, hread, ← List.append_assoc out]
    exact (hrest _ u t₁ t₁' hlt ht₁ ht₁').succ (by omega)

/-- Taking a source apart in turns gives its tokens or its error, or it is cut off. -/
theorem tokensIn_within (n : Nat) (out : List Token) (hs : s.Before T v) (hs' : s'.Before T v) :
    GivesWithin n (v.length + 1) (l.tokensIn n out s') ((l.tokensFrom s).map (out ++ ·)) := by
  induction n generalizing s s' v out with
  | zero => exact .inl ⟨rfl, Nat.succ_pos _⟩
  | succ n ih =>
    by_cases hempty : v = []
    · subst hempty
      rw [tokensIn, tokensTurn_ends n out hs', tokensFrom_nil hs]
      right
      show Except.ok out = Except.ok (out ++ [])
      rw [List.append_nil]
    rcases exists_marked v with hnone | ⟨u, w, rfl, hmarked, hu⟩
    · have hplain := plain_iff.2 hnone
      obtain ⟨t', ht', hturn⟩ := hl.tokensTurn_textEnd hT hempty hplain hs' n out
      have hend := ih (out ++ [⟨.text, posOf T v, v⟩]) ht' ht'
      have hlen := List.length_pos_iff.2 hempty
      rw [tokensFrom_nil ht', List.length_nil] at hend
      rw [tokensIn, hturn, hl.tokensFrom_textEnd hT hempty hplain hs]
      simp only [Except.map, List.append_nil] at hend ⊢
      exact hend.succ (by omega)
    by_cases hhere : u = []
    · subst hhere
      cases hmarked.opening with
      | @block x w hx hw =>
        obtain ⟨t', ht', hturn⟩ := hl.tokensTurn_block hT hx hw hs' n out
        exact hl.tokensIn_enters_within hT hl.blockClose (.inl rfl)
          (hl.tokensFrom_block hT hx hw hs) ht' n out hturn (hx.length_lt [] w)
          fun out u t t' _ ht ht' => ih out ht ht'
      | @tag x y w hx hy hw =>
        obtain ⟨t', ht', hturn⟩ := hl.tokensTurn_tag hT hx hy hw hs' n out
        exact hl.tokensIn_enters_within hT hl.tagClose (.inr rfl)
          (hl.tokensFrom_tag hT hx hy hw hs) ht' n out hturn (hy.length_lt x w)
          fun out u t t' _ ht ht' => ih out ht ht'
      | noKeyword hx hw hnoWord =>
        rw [tokensIn, hl.tokensTurn_noKeyword hT hx hw hs' hnoWord,
          hl.tokensFrom_noKeyword hT hx hw hs hnoWord]
        exact .inr rfl
    · obtain ⟨t, ht, -, hgo⟩ := hl.tokensFrom_text hT hhere hmarked hu hs
      obtain ⟨t', ht', hturn⟩ := hl.tokensTurn_text hT hhere hmarked hu hs' n out
      have hlen := List.length_pos_iff.2 hhere
      have hfront : l.tokensFrom s =
          (l.tokensFrom t).map ([⟨.text, posOf T (u ++ w), u⟩] ++ ·) := hgo
      rw [hfront, map_append_map_append, tokensIn, hturn, List.length_append]
      exact (ih _ ht ht').succ (by omega)

/-- A block or a tag that is entered is passed in a turn. -/
theorem tokensTurn_enters_movesOn (hp : p.toPattern.Cuts close.cut)
    (hclose : close = .blockClose ∨ close = .tagClose) (hs : s.Before T v) {t' : Scanner}
    (ht' : t'.Before T w) (hlen : w.length < v.length) {n : Nat} {out out' front : List Token}
    (hturn : l.tokensTurn n out s = (l.insideIn p close n (out ++ front) t').map .goesOn)
    {t : Scanner} (h : l.tokensTurn n out s = .ok (.goesOn (out', t))) : s.MovesOn T t := by
  obtain ⟨r, hr, hsound⟩ := hl.readsBody hT hp hclose ht'
  have hwithin := hl.insideIn_within hT hp hclose n (out ++ front) ht' ht' hr
  rw [hturn] at h
  obtain ⟨⟨body, t₁⟩, hread, hgo⟩ := exists_of_map_eq_ok h
  obtain ⟨-, rfl⟩ := Prod.mk.inj (Turn.goesOn.inj hgo)
  rw [hread] at hwithin
  obtain ⟨u, hu, ht₁⟩ := hwithin.exists_of_ok
  obtain ⟨⟨ts, u'⟩, rfl, heq⟩ := exists_of_map_eq_ok hu
  obtain ⟨-, rfl⟩ := Prod.mk.inj heq
  obtain ⟨ps, rfl, -⟩ := hsound ts u' rfl
  rw [List.length_append] at hlen
  exact hs.movesOn ht₁ (by omega)

/-- Every turn passes a block, a tag, the text in front of it, or what is left. -/
theorem tokensTurn_movesOn (hs : s.Before T v) (n : Nat) {out out' : List Token} {t : Scanner}
    (h : l.tokensTurn n out s = .ok (.goesOn (out', t))) : s.MovesOn T t := by
  by_cases hempty : v = []
  · subst hempty
    rw [tokensTurn_ends n out hs] at h
    cases h
  rcases exists_marked v with hnone | ⟨u, w, rfl, hmarked, hu⟩
  · obtain ⟨t', ht', hturn⟩ := hl.tokensTurn_textEnd hT hempty (plain_iff.2 hnone) hs n out
    exact hs.movesOn_of_goesOn ht' hturn h (List.length_pos_iff.2 hempty)
  by_cases hhere : u = []
  · subst hhere
    cases hmarked.opening with
    | @block x w hx hw =>
      obtain ⟨t', ht', hturn⟩ := hl.tokensTurn_block hT hx hw hs n out
      exact hl.tokensTurn_enters_movesOn hT hl.blockClose (.inl rfl) hs ht' (hx.length_lt [] w)
        hturn h
    | @tag x y w hx hy hw =>
      obtain ⟨t', ht', hturn⟩ := hl.tokensTurn_tag hT hx hy hw hs n out
      exact hl.tokensTurn_enters_movesOn hT hl.tagClose (.inr rfl) hs ht' (hy.length_lt x w) hturn h
    | noKeyword hx hw hnoWord =>
      rw [hl.tokensTurn_noKeyword hT hx hw hs hnoWord] at h
      cases h
  · obtain ⟨t', ht', hturn⟩ := hl.tokensTurn_text hT hhere hmarked hu hs n out
    refine hs.movesOn_of_goesOn ht' hturn h ?_
    rw [List.length_append]
    exact Nat.lt_add_of_pos_left (List.length_pos_iff.2 hhere)

/-- Where neither a block nor a tag begins at the cursor, the next one is some characters away. -/
theorem located_ne_zero (hs : s.Before T v) {s₁ t t' : Scanner} {k : Nat}
    (hnoBlock : tried TokenError.pattern (s.take l.blockOpen.toPattern) = .ok (none, s₁))
    (hnoTag : tried TokenError.pattern (s₁.take l.tagOpen.toPattern) = .ok (none, t))
    (hsome : tried TokenError.pattern (t.locate l.anyOpen.toPattern) = .ok (some k, t')) :
    k ≠ 0 := by
  have hhere : ¬ Marked v := by
    intro hmarked
    obtain ⟨k, x, w, hk, rfl, hx, hw⟩ := hmarked.exists_opening
    rcases hk with rfl | rfl
    · obtain ⟨t', htake, -⟩ := tried_take_spelled hs hT hl.blockOpen Kind.noConfusion hx hw
      rw [hnoBlock] at htake
      cases htake
    · obtain ⟨s₁', t', -, htake₁, htake₂⟩ := hl.tried_take_tagOpen hT hx hw hs
      obtain ⟨-, rfl⟩ := Prod.mk.inj (Except.ok.inj (hnoBlock.symm.trans htake₁))
      rw [hnoTag] at htake₂
      cases htake₂
  obtain ⟨s₁', t₁, ht₁, htake₁, htake₂⟩ := hl.tried_take_unmarked hT hs hhere
  obtain ⟨-, rfl⟩ := Prod.mk.inj (Except.ok.inj (hnoBlock.symm.trans htake₁))
  obtain ⟨-, rfl⟩ := Prod.mk.inj (Except.ok.inj (hnoTag.symm.trans htake₂))
  rcases exists_marked v with hnone | ⟨u, w, rfl, hw, hu⟩
  · rw [tried, ht₁.locate_eq_none (hl.anyOpen_none v hnone)] at hsome
    cases hsome
  · rw [hl.tried_locate_marked hT hw hu ht₁] at hsome
    obtain ⟨hk, -⟩ := Prod.mk.inj (Except.ok.inj hsome)
    obtain rfl := Option.some.inj hk
    intro hlen
    obtain rfl := List.length_eq_zero_iff.1 hlen
    exact hhere hw

end Outside

end Lawful

/-! ### Taking a source apart ends -/

/-- Taking a text apart by turns comes to an end, since each of them moves the cursor on. -/
structure Advances (l : Lexicon) (T : Text) : Prop where
  /-- A turn outside blocks and tags passes something, or it is the last one. -/
  tokens : ∀ (n : Nat) (out out' : List Token) (s t : Scanner), s.Over T →
    l.tokensTurn n out s = .ok (.goesOn (out', t)) → s.MovesOn T t
  /-- A turn in a block passes something, or it is the last one. -/
  block : ∀ (out out' : List Token) (s t : Scanner), s.Over T →
    l.insideTurn l.blockClose .blockClose out s = .ok (.goesOn (out', t)) → s.MovesOn T t
  /-- A turn in a tag passes something, or it is the last one. -/
  tag : ∀ (out out' : List Token) (s t : Scanner), s.Over T →
    l.insideTurn l.tagClose .tagClose out s = .ok (.goesOn (out', t)) → s.MovesOn T t
  /-- Text in front of a block or a tag is not empty. -/
  located : ∀ (s s₁ t t' : Scanner) (k : Nat), s.Over T →
    tried TokenError.pattern (s.take l.blockOpen.toPattern) = .ok (none, s₁) →
    tried TokenError.pattern (s₁.take l.tagOpen.toPattern) = .ok (none, t) →
    tried TokenError.pattern (t.locate l.anyOpen.toPattern) = .ok (some k, t') → k ≠ 0
  /-- With enough turns, reading is not cut off. -/
  ends : ∀ n, T.length < n →
    l.tokensIn n [] (Scanner.new T) = (l.tokenize T).mapError some

theorem Lawful.advances {l : Lexicon} {T : Text} (hl : l.Lawful) (hT : T.Held) : l.Advances T where
  tokens n _ _ _ _ := fun ⟨_, hs⟩ h => hl.tokensTurn_movesOn hT hs n h
  block _ _ _ _ := fun ⟨_, hs⟩ h => hl.insideTurn_movesOn hT hl.blockClose (.inl rfl) hs h
  tag _ _ _ _ := fun ⟨_, hs⟩ h => hl.insideTurn_movesOn hT hl.tagClose (.inr rfl) hs h
  located _ _ _ _ _ := fun ⟨_, hs⟩ hnoBlock hnoTag hsome =>
    hl.located_ne_zero hT hs hnoBlock hnoTag hsome
  ends n hn := by
    have hs := Scanner.new_before T
    rcases hl.tokensIn_within hT n [] hs hs with ⟨-, hlt⟩ | hread
    · omega
    · rw [hread, tokenize]
      cases l.tokensFrom (Scanner.new T) <;> rfl

end Lexicon

/-- **Both readers end because the cursor moves on.** The patterns are built. In every turn of the
    loops over templates, sums, sources, blocks and tags that is not the last one the cursor moves
    on, and so it does before a sum in parentheses is read; text in front of a block or a tag is not
    empty. With as many turns as the text bounds, reading is not cut off, and gives what rendering
    and taking apart give. Texts have to fit in a memory. -/
theorem loops_advance {text : Text} (hheld : text.Held) :
    (∃ V, Vocabulary.new? = .ok V ∧ ∀ env, V.Advances env text) ∧
      ∃ l, Lexicon.new? = .ok l ∧ l.Advances text := by
  obtain ⟨V, hnewV, hV⟩ := Vocabulary.new?_eq_ok
  obtain ⟨l, hnew, hl⟩ := Lexicon.new?_eq_ok
  exact ⟨⟨V, hnewV, fun env => hV.advances env hheld⟩, l, hnew, hl.advances hheld⟩

theorem loops_advance_openTag : Text.Held openTag ∧
    (∃ V, Vocabulary.new? = .ok V ∧ V.renderIn [] 5 [] (Scanner.new openTag) = .ok openTag) ∧
      ∃ l, Lexicon.new? = .ok l ∧
        l.tokensIn 3 [] (Scanner.new openTag) = .error (some (.noKeyword 2)) := by
  have hheld : Text.Held openTag := by decide
  obtain ⟨⟨V, hnewV, hV⟩, l, hnew, hl⟩ := loops_advance hheld
  obtain ⟨V', hnewV', hlawful⟩ := Vocabulary.new?_eq_ok
  obtain rfl := Except.ok.inj (hnewV.symm.trans hnewV')
  obtain ⟨l', hnew', hlawful'⟩ := Lexicon.new?_eq_ok
  obtain rfl := Except.ok.inj (hnew.symm.trans hnew')
  refine ⟨hheld, ⟨V, hnewV, ?_⟩, l, hnew, ?_⟩
  · rw [(hV []).ends 5 (by decide), Vocabulary.render,
      hlawful.renderFrom_text hheld (Scanner.new_before _) (by decide)]
    rfl
  · rw [hl.ends 3 (by decide), Lexicon.tokenize, hlawful'.tokensFrom_noKeyword hheld
      (.tagOpen blanks_nil) (fun _ h => by cases h) (Scanner.new_before _) rfl]
    rfl

end TextScan.Template
