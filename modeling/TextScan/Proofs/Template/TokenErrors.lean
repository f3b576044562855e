import TextScan.Proofs.Failure
import TextScan.Proofs.Template.Tokenize

namespace TextScan.Template

/-!
# Where sources break off

A source that is not taken apart breaks off at the place that its error names. What lies before that
place is taken apart the same in front of anything else, so the missing token completes the source,
and nothing that comes later makes up for it.

* `Lacks` says what is left of a source where a token is missing, `Completes` what may stand there
  instead.
* `Lexicon.ReachesInside` and `Lexicon.Reaches` say that reading comes to such a place, whatever is
  there. `Lexicon.Lawful.exists_stops` says that every block and every tag is read up to one.
* `Lexicon.BreaksOff` says where a source breaks off. By `Lexicon.Lawful.exists_breaksOff` it does
  whenever it is not taken apart.
* `tokenize_error_final` is the result.
-/

/-! ### What is missing -/

/-- What is left of a source where a token of the kind is missing, with the error. In a block or a
    tag it is the closing marker, although a name or a bar would be right there as well. -/
inductive Lacks (T w : Text) : Kind → TokenError → Prop
  | unterminated {k : Kind} : k = .blockClose ∨ k = .tagClose → w = [] →
      Lacks T w k (.unterminated (posOf T w))
  | unexpected {k : Kind} {c : Char} {u : Text} : k = .blockClose ∨ k = .tagClose → w = c :: u →
      isBlank c = false → isIdentStart c = false → c ≠ '|' → k.cut w = [] →
      Lacks T w k (.unexpected [c] (posOf T w))
  | noKeyword : Text.Avoids isBlank w → Text.Avoids isWordChar w →
      Lacks T w .keyword (.noKeyword (posOf T w))

/-- What completes a source that lacks a token of the kind. A tag that lacks its keyword lacks its
    closing marker as well. -/
inductive Completes : Kind → Text → Prop
  | block : Completes .blockClose closeBraces
  | tag : Completes .tagClose closeTag
  | keyword {y : Text} : Spells .keyword y → Completes .keyword (y ++ closeTag)

variable {T v w x y b : Text} {c : Option Char} {k close : Kind} {f : Char → Bool}
  {e : TokenError}

theorem keyword_ne_close : ¬ (Kind.keyword = .blockClose ∨ Kind.keyword = .tagClose) := by decide

theorem identAt_eq_nil_iff {c : Char} {u : Text} :
    identAt (c :: u) = [] ↔ isIdentStart c = false := by
  rw [identAt_cons]
  cases isIdentStart c <;> simp

theorem cut_pipe_eq_nil_iff {c : Char} {u : Text} : Kind.pipe.cut (c :: u) = [] ↔ c ≠ '|' := by
  show markAt ['|'] (c :: u) = [] ↔ _
  by_cases hc : c = '|' <;> simp [markAt, hc]
  exact fun h => hc h.symm

/-- Where a closing marker is missing, there is no token of a block or a tag at all. -/
theorem lacks_iff (hclose : close = .blockClose ∨ close = .tagClose) :
    Lacks T w close e ↔ Text.Avoids isBlank w ∧ close.cut w = [] ∧ Kind.ident.cut w = [] ∧
      Kind.pipe.cut w = [] ∧
      e = if w.isEmpty then .unterminated (posOf T w) else .unexpected (w.take 1) (posOf T w) := by
  constructor
  · intro h
    cases h with
    | unterminated _ hw =>
      subst hw
      refine ⟨nofun, ?_, rfl, rfl, rfl⟩
      rcases hclose with rfl | rfl <;> rfl
    | unexpected _ hw hblank hident hpipe hcut =>
      subst hw
      exact ⟨Text.avoids_cons.2 hblank, hcut, identAt_eq_nil_iff.2 hident,
        cut_pipe_eq_nil_iff.2 hpipe, rfl⟩
    | noKeyword => exact absurd hclose keyword_ne_close
  · rintro ⟨hblank, hcut, hident, hpipe, rfl⟩
    cases w with
    | nil => exact .unterminated hclose rfl
    | cons c u =>
      exact .unexpected hclose rfl (Text.avoids_cons.1 hblank) (identAt_eq_nil_iff.1 hident)
        (cut_pipe_eq_nil_iff.1 hpipe) hcut

/-- No token goes on with a closing marker. -/
theorem avoids_goesOn_close (hclose : close = .blockClose ∨ close = .tagClose)
    (hf : f '}' = false ∧ f '%' = false) (hx : Spells close x) (u : Text) :
    Text.Avoids f (x ++ u) := by
  rcases hclose with rfl | rfl <;> cases hx
  · exact Text.avoids_cons.2 hf.1
  · exact Text.avoids_cons.2 hf.2

theorem Kind.goesOn_close (k : Kind) : k.goesOn '}' = false ∧ k.goesOn '%' = false := by
  cases k <;> decide +kernel

/-! ### Blocks and tags -/

/-- Reading a block or a tag stops at `w`: the closing marker is there or is missing. If it is
    missing, `w` begins with the character `c`. -/
inductive Stops (c : Option Char) (T w : Text) (close : Kind) :
    Except TokenError (List Token × Text) → Prop
  | lacks {e : TokenError} : w.head? = c → Lacks T w close e → Stops c T w close (.error e)
  | closes {x u : Text} : w = x ++ u → Spells close x →
      Stops c T w close (.ok ([⟨close, posOf T w, x⟩], u))

/-- Reading a block or a tag comes behind `y`, whatever it stops at. -/
def Lexicon.ReachesInside (l : Lexicon) (p : AnchoredRegex) (close : Kind) (y : Text)
    (c : Option Char) : Prop :=
  ∀ ⦃T w : Text⦄ ⦃s : Scanner⦄ ⦃r : Except TokenError (List Token × Text)⦄, T.Held →
    s.Before T (y ++ w) → Stops c T w close r →
    ∃ ts, Yields T (l.inside p close s) (r.map fun (us, u) => (ts ++ us, u))

namespace Lexicon.Lawful

variable {l : Lexicon} {p : AnchoredRegex}

section Inside

variable (hl : l.Lawful) (hp : p.toPattern.Cuts close.cut)
  (hclose : close = .blockClose ∨ close = .tagClose)

include hl hp hclose

theorem reachesInside_blanks (hb : Blanks b) : l.ReachesInside p close b c := by
  intro T w s r hT hs hstops
  refine ⟨[], ?_⟩
  cases hstops with
  | lacks _ hlacks =>
    obtain ⟨hblank, hnoClose, hnoIdent, hnoPipe, rfl⟩ := (lacks_iff hclose).1 hlacks
    exact hl.inside_error hT hp hs (hb.dropWhile_append hblank) hnoClose hnoIdent hnoPipe
  | closes hw hx =>
    subst hw
    exact hl.inside_close hT hp hclose hb hx hs

/-- A name or a bar is read in front, if it cannot go on. -/
theorem reachesInside_cons (hk : k = .ident ∨ k = .pipe) (hb : Blanks b) (hx : Spells k x)
    (hends : Text.Avoids k.goesOn (y ++ w)) (h : l.ReachesInside p close y w.head?) :
    l.ReachesInside p close (b ++ (x ++ y)) w.head? := by
  intro T w' s r hT hs hstops
  have hmeets : w'.head? = w.head? ∨ Text.Avoids k.goesOn w' := by
    cases hstops with
    | lacks hhead _ => exact .inl hhead
    | closes hw hx =>
      subst hw
      exact .inr (avoids_goesOn_close hclose k.goesOn_close hx _)
  rw [List.append_assoc, List.append_assoc] at hs
  obtain ⟨t, ht, -, hstep⟩ := hl.inside_cons hT hp hclose hk hb hx (hends.replace hmeets) hs
  obtain ⟨ts, hts⟩ := h hT ht hstops
  have hread := hstep _ hts
  refine ⟨⟨k, posOf T (x ++ (y ++ w')), x⟩ :: ts, ?_⟩
  cases r <;> exact hread

/-- Every block and every tag is read up to a place at which reading stops. -/
theorem exists_stops (T v : Text) : ∃ y w r, v = y ++ w ∧ Stops w.head? T w close r ∧
    l.ReachesInside p close y w.head? := by
  cases ahead close v with
  | @close b x w hb hx =>
    exact ⟨b, x ++ w, _, rfl, .closes rfl hx, hl.reachesInside_blanks hp hclose hb⟩
  | @inner k b x u hk hb hx hu =>
    obtain ⟨y, w, r, rfl, hstops, hreaches⟩ := exists_stops T u
    refine ⟨b ++ (x ++ y), w, r, ?_, hstops, hl.reachesInside_cons hp hclose hk hb hx hu hreaches⟩
    rw [List.append_assoc, List.append_assoc]
  | @none b w hb hblank hnoClose hnoIdent hnoPipe =>
    exact ⟨b, w, _, rfl,
      .lacks rfl ((lacks_iff hclose).2 ⟨hblank, hnoClose, hnoIdent, hnoPipe, rfl⟩),
      hl.reachesInside_blanks hp hclose hb⟩
termination_by v.length
decreasing_by exact hx.length_lt b u

end Inside

end Lexicon.Lawful

/-! ### Sources -/

/-- What stands at `w` makes the result `r`: a token of the kind is missing, or it completes the
    source. If it is missing, `w` begins with the character `c`. -/
inductive Resolves (c : Option Char) (T w : Text) : Kind → Except TokenError (List Token) → Prop
  | lacks {k : Kind} {e : TokenError} : w.head? = c → Lacks T w k e → Resolves c T w k (.error e)
  | close {k : Kind} : k = .blockClose ∨ k = .tagClose → Spells k w →
      Resolves c T w k (.ok [⟨k, posOf T w, w⟩])
  | keyword {y : Text} : Spells .keyword y → w = y ++ closeTag →
      Resolves c T w .keyword
        (.ok [⟨.keyword, posOf T w, y⟩, ⟨.tagClose, posOf T closeTag, closeTag⟩])

/-- What completes a source makes it one that is taken apart. -/
theorem Completes.resolves (h : Completes k w) (c : Option Char) (T : Text) :
    ∃ ts, Resolves c T w k (.ok ts) := by
  cases h with
  | block => exact ⟨_, .close (.inl rfl) .blockClose⟩
  | tag => exact ⟨_, .close (.inr rfl) .tagClose⟩
  | keyword hy => exact ⟨_, .keyword hy rfl⟩

/-- Taking a source apart comes behind `y`, whatever is there. -/
def Lexicon.Reaches (l : Lexicon) (y : Text) (c : Option Char) (k : Kind) : Prop :=
  ∀ ⦃T w : Text⦄ ⦃s : Scanner⦄ ⦃r : Except TokenError (List Token)⦄, T.Held → s.Before T (y ++ w) →
    Resolves c T w k r → ∃ ts, l.tokensFrom s = r.map (ts ++ ·)

/-- A source breaks off between `y` and `w`, where a token of the kind is missing. -/
structure Lexicon.BreaksOff (l : Lexicon) (T y w : Text) (k : Kind) (e : TokenError) : Prop where
  lacks : Lacks T w k e
  reaches : l.Reaches y w.head? k

/-- Text in front of a block or a tag is read up to it. -/
theorem Lexicon.BreaksOff.behind_text {l : Lexicon} {u : Text} (h : l.BreaksOff T y w k e)
    (hl : l.Lawful) (hy : Marked y) (hu : u ≠ []) (hplain : Plain u)
    (hlast : u.getLast? ≠ some '{') : l.BreaksOff T (u ++ y) w k e where
  lacks := h.lacks
  reaches T' w' s r hT hs hr := by
    rw [List.append_assoc] at hs
    have hmarked := hy.append w'
    have hleast := (plain_and_getLast?_iff hmarked).1 ⟨hplain, hlast⟩
    obtain ⟨t, ht, -, hstep⟩ := hl.tokensFrom_text hT hu hmarked hleast hs
    obtain ⟨ts, hread⟩ := h.reaches hT ht hr
    refine ⟨⟨.text, posOf T' (u ++ (y ++ w')), u⟩ :: ts, ?_⟩
    rw [hstep, hread]
    cases r <;> rfl

/-- A block or a tag begins with `z`, wherever no character of the kind `f` lies behind it. -/
def Lexicon.Begins (l : Lexicon) (p : AnchoredRegex) (close : Kind) (f : Char → Bool) (z : Text) :
    Prop :=
  ∀ ⦃T w : Text⦄ ⦃s : Scanner⦄, T.Held → s.Before T (z ++ w) → w.Avoids f →
    ∃ front, l.Enters T s p close w front

namespace Lexicon.Lawful

variable {l : Lexicon} {p : AnchoredRegex} {s : Scanner} {z u : Text} {front : List Token}

/-- A block or a tag that is read to the end is followed by what lies behind it. -/
theorem tokensFrom_of_closed (henters : l.Enters T s p close (y ++ (x ++ u)) front) (hT : T.Held)
    (hreaches : l.ReachesInside p close y c) (hx : Spells close x) :
    ∃ ts, ∃ t : Scanner, t.Before T u ∧ t.unread < s.unread ∧
      l.tokensFrom s = (l.tokensFrom t).map (ts ++ ·) := by
  obtain ⟨t, ht, hlt, -, hgo⟩ := henters
  obtain ⟨ts, hread⟩ := hreaches hT ht (.closes rfl hx)
  obtain ⟨t', ht', hlt', hok⟩ := hgo _ _ hread
  simp only [← List.append_assoc front] at hok
  exact ⟨_, t', ht', Nat.lt_trans hlt' hlt, hok⟩

/-- A block or a tag in which only the closing marker is missing is read up to that place. -/
theorem tokensFrom_of_unclosed (henters : l.Enters T s p close (y ++ w) front) (hT : T.Held)
    (hclose : close = .blockClose ∨ close = .tagClose) (hreaches : l.ReachesInside p close y c)
    {r : Except TokenError (List Token)} (hr : Resolves c T w close r) :
    ∃ ts, l.tokensFrom s = r.map (ts ++ ·) := by
  obtain ⟨t, ht, -, herror, hgo⟩ := henters
  cases hr with
  | lacks hhead hlacks =>
    obtain ⟨ts, hread⟩ := hreaches hT ht (.lacks hhead hlacks)
    exact ⟨[], herror _ hread⟩
  | close _ hw =>
    obtain ⟨ts, hread⟩ := hreaches hT ht (.closes (List.append_nil w).symm hw)
    obtain ⟨t', ht', -, hok⟩ := hgo _ _ hread
    refine ⟨front ++ ts, ?_⟩
    rw [hok, tokensFrom_nil ht']
    simp only [Except.map, List.append_assoc, List.append_nil]
  | keyword => exact absurd hclose keyword_ne_close

/-- Where a block or a tag begins, it breaks off, or what lies behind it does. -/
theorem breaksOff_of_begins (hl : l.Lawful) (hT : T.Held) (hp : p.toPattern.Cuts close.cut)
    (hclose : close = .blockClose ∨ close = .tagClose) (hf : f '}' = false ∧ f '%' = false)
    (hz : l.Begins p close f z) (hs : s.Before T (z ++ w)) (hends : w.Avoids f)
    (herror : l.tokensFrom s = .error e)
    (hrest : ∀ (t : Scanner) (u : Text), t.Before T u → t.unread < s.unread →
      l.tokensFrom t = .error e → ∃ y w' k, u = y ++ w' ∧ l.BreaksOff T y w' k e) :
    ∃ y w' k, w = y ++ w' ∧ l.BreaksOff T (z ++ y) w' k e := by
  obtain ⟨y, w', r, rfl, hstops, hreaches⟩ := hl.exists_stops hp hclose T w
  obtain ⟨front, henters⟩ := hz hT hs hends
  cases hstops with
  | lacks _ hlacks =>
    obtain ⟨ts, hread⟩ := tokensFrom_of_unclosed henters hT hclose hreaches (.lacks rfl hlacks)
    obtain rfl := Except.error.inj (herror.symm.trans hread)
    refine ⟨y, w', close, rfl, hlacks, fun T' w'' s' r' hT' hs' hr => ?_⟩
    have hmeets : w''.head? = w'.head? ∨ w''.Avoids f := by
      cases hr with
      | lacks hhead _ => exact .inl hhead
      | close _ hw => exact .inr (by simpa using avoids_goesOn_close hclose hf hw [])
      | keyword => exact absurd hclose keyword_ne_close
    rw [List.append_assoc] at hs'
    obtain ⟨front', henters'⟩ := hz hT' hs' (hends.replace hmeets)
    exact tokensFrom_of_unclosed henters' hT' hclose hreaches hr
  | @closes x u hw hx =>
    subst hw
    obtain ⟨ts, t, ht, hlt, hgo⟩ := tokensFrom_of_closed henters hT hreaches hx
    obtain ⟨y', w', k, rfl, hlacks, hreaches'⟩ :=
      hrest t u ht hlt (eq_error_of_map_eq_error (hgo ▸ herror))
    refine ⟨y ++ (x ++ y'), w', k, by simp only [List.append_assoc], hlacks,
      fun T' w'' s' r' hT' hs' hr => ?_⟩
    simp only [List.append_assoc] at hs'
    -- The closing marker stands before what is different.
    have hends' := hends.replace (.inr (avoids_goesOn_close hclose hf hx (y' ++ w'')))
    obtain ⟨front', henters'⟩ := hz hT' hs' hends'
    obtain ⟨ts, t', ht', -, hgo'⟩ := tokensFrom_of_closed henters' hT' hreaches hx
    obtain ⟨us, hread⟩ := hreaches' hT' ht' hr
    refine ⟨ts ++ us, ?_⟩
    rw [hgo', hread]
    cases r' <;> simp only [Except.map, List.append_assoc]

/-- A tag whose keyword is missing is read up to that place. -/
theorem reaches_keyword (hl : l.Lawful) (hx : Spells .tagOpen x) : l.Reaches x c .keyword := by
  intro T w s r hT hs hr
  cases hr with
  | lacks _ hlacks =>
    cases hlacks with
    | unterminated h | unexpected h => exact absurd h keyword_ne_close
    | noKeyword hblank hword =>
      exact ⟨[], hl.tokensFrom_noKeyword hT hx hblank hs (Text.takeWhile_eq_nil_iff.2 hword)⟩
  | close h => exact absurd h keyword_ne_close
  | @keyword y hy hw =>
    subst hw
    have hends : Text.Avoids isWordChar closeTag := Text.avoids_cons.2 (by decide +kernel)
    obtain ⟨t, ht, -, -, hgo⟩ := hl.tokensFrom_tag hT hx hy hends hs
    have hread : Yields T (l.inside l.tagClose .tagClose t)
        (.ok ([⟨.tagClose, posOf T closeTag, closeTag⟩], [])) :=
      hl.inside_close hT hl.tagClose (.inr rfl) blanks_nil .tagClose ht
    obtain ⟨t', ht', -, hok⟩ := hgo _ _ hread
    refine ⟨[⟨.tagOpen, posOf T (x ++ (y ++ closeTag)), x⟩], ?_⟩
    rw [hok, tokensFrom_nil ht']
    rfl

/-- Where a block or a tag begins, it breaks off, or what lies behind it does. The opening is read
    in any case. -/
theorem breaksOff_of_marked (hl : l.Lawful) (hT : T.Held) (hs : s.Before T v) (hmarked : Marked v)
    (herror : l.tokensFrom s = .error e)
    (hrest : ∀ (t : Scanner) (u : Text), t.Before T u → t.unread < s.unread →
      l.tokensFrom t = .error e → ∃ y w k, u = y ++ w ∧ l.BreaksOff T y w k e) :
    ∃ y w k, v = y ++ w ∧ Marked y ∧ l.BreaksOff T y w k e := by
  cases hmarked.opening with
  | @block x w hx hw =>
    have hbegins : l.Begins l.blockClose .blockClose isBlank x := fun T w s hT hs hw =>
      ⟨_, hl.tokensFrom_block hT hx hw hs⟩
    obtain ⟨y, w', k, rfl, hbreaks⟩ := hl.breaksOff_of_begins hT hl.blockClose (.inl rfl)
      (Kind.goesOn_close .blockOpen) hbegins hs hw herror hrest
    exact ⟨x ++ y, w', k, (List.append_assoc ..).symm, marked_of_spells (.inl rfl) hx y, hbreaks⟩
  | @tag x y w hx hy hw =>
    have hbegins : l.Begins l.tagClose .tagClose isWordChar (x ++ y) := fun T w s hT hs hw =>
      ⟨_, hl.tokensFrom_tag hT hx hy hw (List.append_assoc x y w ▸ hs)⟩
    rw [← List.append_assoc] at hs ⊢
    obtain ⟨y', w', k, rfl, hbreaks⟩ := hl.breaksOff_of_begins hT hl.tagClose (.inr rfl)
      (Kind.goesOn_close .keyword) hbegins hs hw herror hrest
    refine ⟨x ++ y ++ y', w', k, (List.append_assoc ..).symm, ?_, hbreaks⟩
    rw [List.append_assoc]
    exact marked_of_spells (.inr rfl) hx _
  | @noKeyword x w hx hw hnoWord =>
    obtain rfl := Except.error.inj
      ((hl.tokensFrom_noKeyword hT hx hw hs hnoWord).symm.trans herror)
    have hmark : Marked x := by simpa using marked_of_spells (.inr rfl) hx []
    exact ⟨x, w, .keyword, rfl, hmark, .noKeyword hw (Text.takeWhile_eq_nil_iff.1 hnoWord),
      hl.reaches_keyword hx⟩

/-- Whatever is not taken apart breaks off. -/
theorem exists_breaksOff (hl : l.Lawful) (hT : T.Held) {s : Scanner} {v : Text}
    (hs : s.Before T v) (herror : l.tokensFrom s = .error e) :
    ∃ y w k, v = y ++ w ∧ l.BreaksOff T y w k e := by
  by_cases hempty : v = []
  · subst hempty
    rw [tokensFrom_nil hs] at herror
    cases herror
  rcases exists_marked v with hnone | ⟨u, w, rfl, hw, hu⟩
  · rw [hl.tokensFrom_textEnd hT hempty (plain_iff.2 hnone) hs] at herror
    cases herror
  · by_cases hhere : u = []
    · subst hhere
      obtain ⟨y, w', k, hsplit, -, hbreaks⟩ := hl.breaksOff_of_marked hT hs hw herror
        fun t u ht hlt herror => exists_breaksOff hl hT ht herror
      exact ⟨y, w', k, hsplit, hbreaks⟩
    · obtain ⟨t, ht, hlt, hstep⟩ := hl.tokensFrom_text hT hhere hw hu hs
      obtain ⟨y, w', k, rfl, hmarked, hbreaks⟩ :=
        hl.breaksOff_of_marked hT ht hw (eq_error_of_map_eq_error (hstep ▸ herror))
          fun t' u' ht' hlt' herror => exists_breaksOff hl hT ht' herror
      obtain ⟨hplain, hlast⟩ := (plain_and_getLast?_iff hw).2 hu
      exact ⟨u ++ y, w', k, (List.append_assoc ..).symm,
        hbreaks.behind_text hl hmarked hhere hplain hlast⟩
termination_by s.unread

end Lexicon.Lawful

/-! ### How much an error depends on -/

/-- The position that an error names. -/
def TokenError.pos? : TokenError → Option Nat
  | pattern _ => none
  | unterminated pos | unexpected _ pos | noKeyword pos => some pos

/-- The number of characters behind its position that an error depends on, if nothing else can make
    up for it. Closing markers have two characters. -/
def TokenError.depth? : TokenError → Option Nat
  | pattern _ | unterminated _ => none
  | unexpected _ _ => some 2
  | noKeyword _ => some 1

theorem Lacks.pos?_eq (h : Lacks T w k e) : e.pos? = some (posOf T w) := by
  cases h <;> rfl

theorem markAt_congr {m w' : Text} (h : w'.take m.length = w.take m.length) :
    markAt m w' = markAt m w := by
  have hbegins (v : Text) : m.isPrefixOf v ↔ m = v.take m.length := by
    rw [List.isPrefixOf_iff_prefix, List.prefix_iff_eq_take]
  simp only [markAt, hbegins, h]

/-- The characters that an error depends on make for the same error. -/
theorem Lacks.of_take {T' w' : Text} {n : Nat} (h : Lacks T w k e) (hn : e.depth? = some n)
    (htake : w'.take n = w.take n) (hpos : posOf T' w' = posOf T w) :
    Lacks T' w' k e ∧ w'.head? = w.head? := by
  have hhead : w'.head? = w.head? := by
    have hne : n ≠ 0 := by
      rintro rfl
      cases e <;> cases hn
    have hhead := congrArg List.head? htake
    rwa [List.head?_take, List.head?_take, if_neg hne, if_neg hne] at hhead
  refine ⟨?_, hhead⟩
  cases h with
  | unterminated => cases hn
  | unexpected hk hw hblank hident hpipe hcut =>
    obtain rfl : 2 = n := Option.some.inj hn
    subst hw
    obtain ⟨u', rfl⟩ := List.head?_eq_some_iff.1 hhead
    rw [← hpos]
    refine .unexpected hk rfl hblank hident hpipe ?_
    rcases hk with rfl | rfl
    · exact (markAt_congr (m := closeBraces) htake).trans hcut
    · exact (markAt_congr (m := closeTag) htake).trans hcut
  | noKeyword hblank hword =>
    rw [← hpos]
    exact .noKeyword (fun c hc => hblank c (hhead ▸ hc)) fun c hc => hword c (hhead ▸ hc)

/-- Only the end of a source leaves a block or a tag without an end. -/
theorem Lacks.eq_nil {n : Nat} (h : Lacks T w k e) (he : e = .unterminated n) : w = [] := by
  cases h with
  | unterminated _ hw => exact hw
  | unexpected | noKeyword => cases he

/-- **Sources break off where nothing makes up for what is missing.** A source that is not taken
    apart fails with an error that names a place in it, where a token is missing. What stands before
    that place is taken apart once it is completed: by the closing marker of the block or the tag
    that is open, or by a keyword and that marker where a keyword is missing. A source is left open
    only at its end. Any other error is final: all sources that are the same up to the place and in
    the characters that count there, two or one, have the same error. Sources have to fit in a
    memory. -/
theorem tokenize_error_final {source : Text} {e : TokenError} (hheld : source.Held)
    (h : tokenize source = .error e) :
    ∃ k missing, e.pos? = some k ∧ k ≤ source.length ∧ Lacks source (source.drop k) missing e ∧
      (∀ m, Completes missing m → Text.Held (source.take k ++ m) →
        ∃ ts, tokenize (source.take k ++ m) = .ok ts) ∧
      (e = .unterminated k → k = source.length) ∧
      ∀ n, e.depth? = some n → ∀ other : Text, other.Held →
        other.take (k + n) = source.take (k + n) → tokenize other = .error e := by
  obtain ⟨l, hl, htokenize⟩ := exists_lawful_tokenize
  rw [htokenize] at h
  obtain ⟨y, w, missing, rfl, hlacks, hreaches⟩ :=
    hl.exists_breaksOff hheld (Scanner.new_before source) h
  have hpos := hlacks.pos?_eq
  rw [posOf_append_right] at hpos
  refine ⟨y.length, missing, hpos, ?_, ?_, fun m hm hfits => ?_, fun heq => ?_,
    fun n hn other hother htake => ?_⟩
  · rw [List.length_append]
    exact Nat.le_add_right _ _
  · rwa [List.drop_left]
  · rw [List.take_left] at hfits ⊢
    obtain ⟨ts, hresolves⟩ := hm.resolves w.head? (y ++ m)
    obtain ⟨front, hread⟩ := hreaches hfits (Scanner.new_before _) hresolves
    rw [htokenize, hread]
    exact ⟨_, rfl⟩
  · rw [hlacks.eq_nil heq, List.append_nil]
  · -- The other source has the same beginning, and behind it the characters that count.
    rw [List.take_length_add_append] at htake
    have hbegins : y <+: other :=
      (List.prefix_append y (w.take n)).trans (htake ▸ List.take_prefix _ other)
    obtain ⟨w', rfl⟩ := hbegins
    rw [List.take_length_add_append, List.append_cancel_left_eq] at htake
    have hsame : posOf (y ++ w') w' = posOf (y ++ w) w := by
      rw [posOf_append_right, posOf_append_right]
    obtain ⟨hlacks', hhead⟩ := hlacks.of_take hn htake hsame
    obtain ⟨front, hread⟩ := hreaches hother (Scanner.new_before _) (.lacks hhead hlacks')
    rw [htokenize]
    exact hread

/-- A block with half a closing marker. -/
def halfClosed : Text := "\x7b\x7b \x7dx".toList

theorem tokenize_error_final_halfClosed :
    halfClosed.Held ∧ tokenize halfClosed = .error (.unexpected ['}'] 3) ∧
      ∀ other : Text, other.Held → other.take 5 = halfClosed →
        tokenize other = .error (.unexpected ['}'] 3) := by
  have hheld : halfClosed.Held := by decide
  have hfails : tokenize halfClosed = .error (.unexpected ['}'] 3) := by
    obtain ⟨l, hl, htokenize⟩ := exists_lawful_tokenize
    have hspace : Blanks [' '] := List.forall_mem_singleton.2 (by decide)
    obtain ⟨t, ht, -, herror, -⟩ := hl.tokensFrom_block (w := ['}', 'x']) hheld (.blockOpen hspace)
      (Text.avoids_cons.2 (by decide)) (Scanner.new_before _)
    rw [htokenize]
    exact herror _ (hl.inside_error hheld hl.blockClose ht rfl rfl rfl rfl)
  obtain ⟨k, missing, hpos, -, -, -, -, hfinal⟩ := tokenize_error_final hheld hfails
  obtain rfl : 3 = k := Option.some.inj hpos
  exact ⟨hheld, hfails, hfinal 2 rfl⟩

end TextScan.Template
