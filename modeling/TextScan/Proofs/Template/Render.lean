import TextScan.Proofs.Template.Sum

namespace TextScan.Template

/-!
# Templates are rendered as they are written

* `Vocabulary.Lawful.renderFrom_text`, `renderFrom_textBlock` and `renderFrom_block` are the steps
  of rendering, by what is left of the template.
* `renders_of_renderFrom` and `renderFrom_of_renders` say that rendering follows the grammar.
* `render_eq_ok_iff` is the result.
-/

namespace Vocabulary.Lawful

variable {V : Vocabulary} {env : Env} {s : Scanner} {T v u w : Text}

/-! ### Steps -/

/-- Where no block lies ahead, all is text. -/
theorem renderFrom_text (hV : V.Lawful) (hT : T.Held) (hs : s.Before T v)
    (hnot : ¬ openBraces <:+: v) : V.renderFrom env s = .ok v := by
  have htoken := token?_literal_eq_none (List.cons_ne_nil _ _) hV.blockOpen hs hT
    fun hbegins => hnot hbegins.isInfix
  have hlocate : (s.locate V.blockOpen.toPattern).result.mapError RenderError.pattern =
      .ok none := by
    rw [hV.blockOpen, hs.locate_literal_of_not_infix hnot]
    rfl
  rw [renderFrom, hs.atEnd_eq]
  cases v with
  | nil => rfl
  | cons c v =>
    simp only [bind, Except.bind, htoken, hlocate, hs.rest_eq]
    rfl

/-- Text is copied up to the block ahead. -/
theorem renderFrom_textBlock (env : Env) (hV : V.Lawful) (hT : T.Held) (hs : s.Before T v)
    (hfirst : openBraces.FirstIn v u w) (hu : u ≠ []) :
    ∃ t : Scanner, t.Before T (openBraces ++ w) ∧ t.unread < s.unread ∧
      V.renderFrom env s = (V.renderFrom env t).map (u ++ ·) := by
  have hv := hfirst.eq_append
  have hulen := List.length_pos_iff.2 hu
  have ht : (s.moveTo (s.pos + u.length)).scanner.Before T (openBraces ++ w) :=
    (hv ▸ hs).moveTo_append
  have hlt : (s.moveTo (s.pos + u.length)).scanner.unread < s.unread := by
    rw [ht.unread_eq, hs.unread_eq, hv]
    simp only [List.length_append]
    omega
  -- The braces would be found at the cursor, before `u` has been passed.
  have hnot : ¬ openBraces <+: v := by
    rintro ⟨w', hw'⟩
    have hle := hfirst.least [] w' hw'.symm
    rw [List.length_nil] at hle
    omega
  have htoken := token?_literal_eq_none (List.cons_ne_nil _ _) hV.blockOpen hs hT hnot
  have hlocate : (s.locate V.blockOpen.toPattern).result.mapError RenderError.pattern =
      .ok (some u.length) := by
    rw [hV.blockOpen, hs.locate_literal_of_firstIn hT hfirst]
    rfl
  have hpeek : s.peek u.length = u := by rw [Cursor.peek, hs.rest_eq, hv, List.take_left]
  have hempty : v.isEmpty = false := by
    rw [hv, List.isEmpty_eq_false_iff]
    exact List.append_ne_nil_of_left_ne_nil hu _
  refine ⟨_, ht, hlt, ?_⟩
  rw [renderFrom, hs.atEnd_eq, hempty]
  simp only [bind, Except.bind, htoken, hlocate, hlt, hpeek, dite_true]
  cases V.renderFrom env (s.moveTo (s.pos + u.length)).scanner <;> rfl

/-- A block is replaced by its value, if there is one and the block is closed. -/
theorem renderFrom_block (env : Env) (hV : V.Lawful) (hT : T.Held)
    (hs : s.Before T (openBraces ++ u)) :
    ∃ t : Scanner, t.Before T u ∧ t.unread < s.unread ∧
      (∀ e, Yields T (V.sum env t) (.error e) → V.renderFrom env s = .error e) ∧
      ∀ n w, Yields T (V.sum env t) (.ok (n, w)) →
        (¬ closeBraces <+: w.dropWhile isBlank → V.renderFrom env s =
          .error (.expected .blockClose (posOf T (w.dropWhile isBlank)))) ∧
        ∀ k, w.dropWhile isBlank = closeBraces ++ k →
          ∃ t' : Scanner, t'.Before T k ∧ t'.unread < t.unread ∧
            V.renderFrom env s = (V.renderFrom env t').map (Text.decimal n ++ ·) := by
  obtain ⟨⟨t, h⟩, htoken, ht⟩ :=
    token?_literal_eq_some (List.cons_ne_nil _ _) hV.blockOpen hs hT
  have hempty : (openBraces ++ u).isEmpty = false := rfl
  refine ⟨t, ht, h, ?_, ?_⟩
  · intro e he
    simp only [Yields] at he
    rw [renderFrom, hs.atEnd_eq, hempty]
    simp only [bind, Except.bind, htoken, he]
    rfl
  · intro n w hread
    obtain ⟨⟨t₁, h₁⟩, hsum, ht₁⟩ := hread
    obtain ⟨⟨t₂, h₂⟩, hskip, ht₂⟩ := hV.skipSpace ht₁ hT
    constructor
    · intro hnot
      have hpos : t₂.pos = posOf T (w.dropWhile isBlank) := ht₂.pos_eq
      have hnoClose := token?_literal_eq_none (List.cons_ne_nil _ _) hV.blockClose ht₂ hT hnot
      rw [renderFrom, hs.atEnd_eq, hempty]
      simp only [bind, Except.bind, htoken, hsum, hskip, hnoClose, hpos]
      rfl
    · intro k hk
      rw [hk] at ht₂
      obtain ⟨⟨t₃, h₃⟩, hclose, ht₃⟩ :=
        token?_literal_eq_some (List.cons_ne_nil _ _) hV.blockClose ht₂ hT
      refine ⟨t₃, ht₃, Nat.lt_of_lt_of_le h₃ (Nat.le_trans h₂ (Nat.le_of_lt h₁)), ?_⟩
      rw [renderFrom, hs.atEnd_eq, hempty]
      simp only [bind, Except.bind, htoken, hsum, hskip, hclose]
      cases V.renderFrom env t₃ <;> rfl

end Vocabulary.Lawful

/-! ### Where a block begins -/

/-- Text without double braces, nor with the first brace of a block, ends where the block begins. -/
theorem firstIn_openBraces {t : Text} (h : ¬ openBraces <:+: t ++ ['{']) (w : Text) :
    openBraces.FirstIn (t ++ (openBraces ++ w)) t w where
  eq_append := rfl
  least u' v' hsplit := by
    -- An earlier place would end within the text and the first brace.
    rcases Nat.lt_or_ge u'.length t.length with hlt | hle
    · have hbraces : t ++ (openBraces ++ w) = (t ++ ['{']) ++ '{' :: w := by
        simp only [openBraces, List.append_assoc, List.cons_append, List.nil_append]
      have hbegins : u' ++ openBraces <+: t ++ ['{'] := by
        refine List.prefix_of_prefix_length_le ⟨v', ?_⟩ ⟨'{' :: w, rfl⟩ ?_
        · rw [List.append_assoc, ← hsplit, hbraces]
        · rw [List.length_append, List.length_append]
          exact Nat.succ_le_succ hlt
      obtain ⟨z, hz⟩ := hbegins
      exact absurd ⟨u', z, hz⟩ h
    · exact hle

theorem not_infix_of_firstIn {v t w : Text} (h : openBraces.FirstIn v t w) :
    ¬ openBraces <:+: t ++ ['{'] := by
  rintro ⟨u', z, hz⟩
  have hsplit : v = u' ++ (openBraces ++ (z ++ '{' :: w)) := by
    have hbraces : v = (t ++ ['{']) ++ '{' :: w := by
      rw [h.eq_append]
      simp only [openBraces, List.append_assoc, List.cons_append, List.nil_append]
    rw [hbraces, ← hz]
    simp only [List.append_assoc]
  have hle := h.least u' _ hsplit
  have hlen := congrArg List.length hz
  simp only [List.length_append, openBraces, List.length_cons, List.length_nil] at hlen
  omega

theorem Block.openBraces_prefix {env : Env} {b : Text} {n : Int} (h : Block env b n) :
    openBraces <+: b := by
  cases h
  exact List.prefix_append _ _

/-- Where a template begins with a block, text may be put in front of it. -/
theorem Renders.prepend {env : Env} {w out u : Text} (h : Renders env (openBraces ++ w) out)
    (hu : ¬ openBraces <:+: u ++ ['{']) : Renders env (u ++ (openBraces ++ w)) (u ++ out) := by
  generalize hv : openBraces ++ w = v at h
  cases h with
  | text hnot => exact absurd (hv ▸ List.prefix_append _ w).isInfix hnot
  | @block t b rest out n ht hb hrest =>
    -- No text stands in front of the block, since it would begin with a brace.
    have hempty : t = [] := by
      cases t with
      | nil => rfl
      | cons c t =>
        obtain ⟨rfl, htail⟩ := List.cons.inj hv
        cases t with
        | nil => exact absurd ⟨[], [], rfl⟩ ht
        | cons d t =>
          obtain ⟨rfl, -⟩ := List.cons.inj htail
          exact absurd ⟨[], t ++ ['{'], rfl⟩ ht
    subst hempty
    show Renders env (u ++ (b ++ rest)) (u ++ ((toString n).toList ++ out))
    exact .block hu hb hrest

/-! ### Rendering follows the grammar -/

namespace Vocabulary.Lawful

variable {V : Vocabulary} {env : Env} {T : Text}

/-- Where a template that is rendered begins with braces, these begin a block. -/
theorem block_of_renderFrom (hV : V.Lawful) (hT : T.Held) {s : Scanner} {u out : Text}
    (hs : s.Before T (openBraces ++ u)) (h : V.renderFrom env s = .ok out) :
    ∃ b n k out', openBraces ++ u = b ++ k ∧ Block env b n ∧ out = (toString n).toList ++ out' ∧
      ∃ t : Scanner, t.Before T k ∧ t.unread < s.unread ∧ V.renderFrom env t = .ok out' := by
  obtain ⟨t, ht, hlt, herror, hblock⟩ := hV.renderFrom_block env hT hs
  obtain ⟨r, hr, hsound⟩ := hV.sum_sound hT ht
  cases r with
  | error e => rw [herror e hr] at h; cases h
  | ok r =>
    obtain ⟨n, w⟩ := r
    obtain ⟨x, b₁, rfl, hb₁, hx⟩ := hsound n w rfl
    obtain ⟨hopen, hclosed⟩ := hblock n w hr
    obtain ⟨b₂, hw, hb₂⟩ := blanks_append_dropWhile w
    by_cases hclose : closeBraces <+: w.dropWhile isBlank
    · obtain ⟨k, hk⟩ := hclose
      obtain ⟨t', ht', hlt', hrest⟩ := hclosed k hk.symm
      rw [hrest] at h
      cases hout : V.renderFrom env t' with
      | error e => rw [hout] at h; cases h
      | ok out' =>
        rw [hout] at h
        obtain rfl := Except.ok.inj h
        refine ⟨_, n, k, out', ?_, .mk hx (hb₁.append hb₂), ?_, t', ht',
          Nat.lt_trans hlt' hlt, hout⟩
        · rw [hw, ← hk]
          simp only [List.append_assoc]
        · rw [Text.decimal_eq_toString]
    · rw [hopen hclose] at h; cases h

/-- What is rendered is derived. -/
theorem renders_of_renderFrom (hV : V.Lawful) (hT : T.Held) {s : Scanner} {v out : Text}
    (hs : s.Before T v) (h : V.renderFrom env s = .ok out) : Renders env v out := by
  by_cases hinfix : openBraces <:+: v
  · obtain ⟨u, w, hfirst⟩ := Pattern.exists_firstIn hinfix
    have hu := not_infix_of_firstIn hfirst
    obtain rfl := hfirst.eq_append
    by_cases hempty : u = []
    · subst hempty
      -- What lies behind the block is shorter, so it is derived by induction.
      obtain ⟨b, n, k, out', hsplit, hb, rfl, t, ht, hlt, hrest⟩ := hV.block_of_renderFrom hT hs h
      rw [hsplit]
      exact .block hu hb (renders_of_renderFrom hV hT ht hrest)
    · -- What is rendered behind the text begins with a block.
      obtain ⟨t, ht, hlt, hrest⟩ := hV.renderFrom_textBlock env hT hs hfirst hempty
      rw [hrest] at h
      cases hout : V.renderFrom env t with
      | error e => rw [hout] at h; cases h
      | ok out' =>
        rw [hout] at h
        obtain rfl := Except.ok.inj h
        exact (renders_of_renderFrom hV hT ht hout).prepend hu
  · rw [hV.renderFrom_text hT hs hinfix] at h
    obtain rfl := Except.ok.inj h
    exact .text hinfix
termination_by s.unread

/-- Text in front of the first braces is copied. It may be missing. -/
theorem renderFrom_of_firstIn (hV : V.Lawful) (hT : T.Held) {s : Scanner} {v u w : Text}
    (hs : s.Before T v) (hfirst : openBraces.FirstIn v u w) {e : Except RenderError Text}
    (hrest : ∀ t : Scanner, t.Before T (openBraces ++ w) → V.renderFrom env t = e) :
    V.renderFrom env s = e.map (u ++ ·) := by
  by_cases hempty : u = []
  · subst hempty
    rw [hfirst.eq_append] at hs
    rw [hrest s hs]
    cases e <;> rfl
  · obtain ⟨t, ht, -, hgo⟩ := hV.renderFrom_textBlock env hT hs hfirst hempty
    rw [hgo, hrest t ht]

/-- A block at the cursor is rendered with what lies behind it. -/
theorem renderFrom_of_block (hV : V.Lawful) (hT : T.Held) {b rest : Text} {n : Int}
    (hb : Block env b n) {e : Except RenderError Text}
    (hrest : ∀ t : Scanner, t.Before T rest → V.renderFrom env t = e)
    {s : Scanner} (hs : s.Before T (b ++ rest)) :
    V.renderFrom env s = e.map ((toString n).toList ++ ·) := by
  cases hb with
  | @mk x b' _ hx hb' =>
    have htext : openBraces ++ (x ++ (b' ++ closeBraces)) ++ rest =
        openBraces ++ (x ++ (b' ++ (closeBraces ++ rest))) := by
      simp only [List.append_assoc]
    rw [htext] at hs
    have hclose : Text.Avoids isBlank (closeBraces ++ rest) := Text.avoids_cons.2 (by decide)
    have hends : Delimited (closeBraces ++ rest) := delimited_cons (by decide) (by decide)
    obtain ⟨t₁, ht₁, -, -, hread⟩ := hV.renderFrom_block env hT hs
    -- The sum leaves the closing braces, since no operator is there.
    have hsum : Yields T (V.sum env t₁) (.ok (n, closeBraces ++ rest)) := by
      apply hV.reads_of_means hT hx _ _ (hb'.delimited hends) _ t₁ ht₁
      intro t₂ ht₂
      exact hV.sumFrom_end hT ht₂ (hb'.dropWhile_append hclose) rfl n
    obtain ⟨t₂, ht₂, -, hgo⟩ := (hread _ _ hsum).2 rest (blanks_nil.dropWhile_append hclose)
    rw [hgo, hrest t₂ ht₂, Text.decimal_eq_toString]

/-- Text with a block behind it is rendered with what lies behind the block. -/
theorem renderFrom_of_textBlock (hV : V.Lawful) (hT : T.Held) {t b rest : Text} {n : Int}
    (ht : ¬ openBraces <:+: t ++ ['{']) (hb : Block env b n) {e : Except RenderError Text}
    (hrest : ∀ t : Scanner, t.Before T rest → V.renderFrom env t = e)
    {s : Scanner} (hs : s.Before T (t ++ (b ++ rest))) :
    V.renderFrom env s = e.map fun out => t ++ ((toString n).toList ++ out) := by
  obtain ⟨w, hw⟩ := hb.openBraces_prefix
  have hsplit : b ++ rest = openBraces ++ (w ++ rest) := by rw [← hw, List.append_assoc]
  have hfirst := firstIn_openBraces ht (w ++ rest)
  rw [← hsplit] at hfirst
  have hblock (t' : Scanner) (ht' : t'.Before T (openBraces ++ (w ++ rest))) :
      V.renderFrom env t' = e.map ((toString n).toList ++ ·) :=
    hV.renderFrom_of_block hT hb hrest (hsplit ▸ ht')
  rw [hV.renderFrom_of_firstIn hT hs hfirst hblock]
  cases e <;> rfl

/-- What is derived is rendered. -/
theorem renderFrom_of_renders (hV : V.Lawful) (hT : T.Held) {v out : Text}
    (h : Renders env v out) {s : Scanner} (hs : s.Before T v) : V.renderFrom env s = .ok out := by
  induction h generalizing s with
  | text hnot => exact hV.renderFrom_text hT hs hnot
  | block ht hb hrest ih => exact hV.renderFrom_of_textBlock hT ht hb (fun _ => ih) hs

end Vocabulary.Lawful

/-- Rendering is that with lawful patterns, from the start of the template. -/
theorem exists_lawful_render :
    ∃ V : Vocabulary, V.Lawful ∧ ∀ env t, render env t = V.renderFrom env (Scanner.new t) := by
  obtain ⟨V, hnew, hV⟩ := Vocabulary.new?_eq_ok
  refine ⟨V, hV, fun env t => ?_⟩
  rw [render, hnew]
  rfl

/-- **Rendering accepts the grammar and computes its meaning.** A template is rendered as a text
    exactly if the grammar derives that text for it. The template has to fit in a memory. -/
theorem render_eq_ok_iff (env : Env) {template out : Text} (hheld : template.Held) :
    render env template = .ok out ↔ Renders env template out := by
  obtain ⟨V, hnew, hV⟩ := Vocabulary.new?_eq_ok
  have hrender : render env template = V.renderFrom env (Scanner.new template) := by
    rw [render, hnew]
    rfl
  rw [hrender]
  exact ⟨hV.renders_of_renderFrom hheld (Scanner.new_before template),
    fun h => hV.renderFrom_of_renders hheld h (Scanner.new_before template)⟩

/-- A template with text around a block, blanks, a name and a number in parentheses. A brace stands
    right behind the block. -/
def mixedTemplate : Text := "é\x7b\x7b x -(-1) \x7d\x7d\x7b".toList

theorem render_eq_ok_iff_mixedTemplate :
    mixedTemplate.Held ∧ render [(['x'], 41)] mixedTemplate = .ok "é42\x7b".toList := by
  have hheld : mixedTemplate.Held := by decide
  have hspace : Blanks [' '] := List.forall_mem_singleton.2 (by decide)
  have hname : Means [(['x'], 41)] .operand [' ', 'x'] 41 :=
    .name hspace (List.cons_ne_nil 'x' []) (List.forall_mem_singleton.2 (by decide)) rfl
  have hnumber : Means [(['x'], 41)] .operand ['-', '1'] (-1) :=
    .number blanks_nil (.negative (List.cons_ne_nil '1' [])
      (List.forall_mem_singleton.2 (by decide)) (by decide))
  have hparens : Means [(['x'], 41)] .operand ['(', '-', '1', ')'] (-1) :=
    .parens blanks_nil (.single hnumber) blanks_nil
  have hblock := Block.mk (.minus (.single hname) hspace hparens) hspace
  have htext : ¬ openBraces <:+: ['é'] ++ ['{'] := Pattern.indexOf?_eq_none_iff.1 (by decide)
  have hrest : Renders [(['x'], 41)] ['{'] ['{'] :=
    .text (Pattern.indexOf?_eq_none_iff.1 (by decide))
  exact ⟨hheld, (render_eq_ok_iff _ hheld).2 (.block htext hblock hrest)⟩

end TextScan.Template
