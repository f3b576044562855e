import TextScan.Proofs.Failure
import TextScan.Proofs.Template.Render

namespace TextScan.Template

/-!
# Where templates break off

A template that is not rendered breaks off at the place that its error names. What lies before that
place begins a template that is rendered: it lacks the expected token, and then only what closes the
parentheses and the block that are open.

* `Expectation.Token` are the tokens that would have been right, `Expectation.ending` is what is
  closed behind them.
* `Refuses` says what stands in the place that an error names.
* `Stuck` says that the readers of operands and sums break off there. By
  `Vocabulary.Lawful.operand_stuck` and `Vocabulary.Lawful.sum_stuck` they do whenever they fail.
* `BreaksOff` says the same of templates, `Vocabulary.Lawful.renderFrom_breaksOff` that they do
  whenever they are not rendered.
* `render_error_viable` is the result.
-/

/-! ### What is missing -/

/-- The tokens that would be right. Where an operand or a smaller number is expected, any number
    is. -/
def Expectation.Token : Expectation → Text → Prop
  | blockClose, x => x = closeBraces
  | parenthesis, x => x = [')']
  | smallNumber, x | operand, x => ∃ n, Numeral x n

/-- How many parentheses such a token closes. -/
def Expectation.closes : Expectation → Nat
  | parenthesis => 1
  | blockClose | smallNumber | operand => 0

/-- What closes another `d` parentheses and the block behind such a token. The closing braces
    themselves leave nothing open. -/
def Expectation.ending : Expectation → Nat → Text
  | blockClose, _ => []
  | parenthesis, d | smallNumber, d | operand, d => List.replicate d ')' ++ closeBraces

theorem Expectation.ending_of_ne {what : Expectation} (h : what ≠ .blockClose) (d : Nat) :
    what.ending d = List.replicate d ')' ++ closeBraces := by
  cases what with
  | blockClose => exact absurd rfl h
  | parenthesis | smallNumber | operand => rfl

/-- What is left of a text where reading fails, with what would have been right there and the
    error. -/
inductive Refuses (env : Env) (T w : Text) : Expectation → RenderError → Prop
  | number : numberAt w ≠ [] → parseInt64? (numberAt w) = none →
      Refuses env T w .smallNumber (.expected .smallNumber (posOf T w))
  | name : nameAt w ≠ [] → env.lookup (nameAt w) = none →
      Refuses env T w .operand (.unknown (nameAt w) (posOf T w))
  | operand : numberAt w = [] → nameAt w = [] → w.head? ≠ some '(' →
      Refuses env T w .operand (.expected .operand (posOf T w))
  | parenthesis : w.head? ≠ some ')' →
      Refuses env T w .parenthesis (.expected .parenthesis (posOf T w))
  | blockClose : ¬ closeBraces <+: w →
      Refuses env T w .blockClose (.expected .blockClose (posOf T w))

/-- An error names what would have been right, or a name without a value. -/
theorem Refuses.error_cases {env : Env} {T w : Text} {what : Expectation} {e : RenderError}
    (h : Refuses env T w what e) : e = .expected what (posOf T w) ∨
      what = .operand ∧ ∃ name, e = .unknown name (posOf T w) := by
  cases h with
  | name => exact .inr ⟨rfl, _, rfl⟩
  | number | operand | parenthesis | blockClose => exact .inl rfl

/-! ### Parentheses -/

/-- A part of a block in which `d` parentheses are open at the end. -/
structure Opens (x : Text) (d : Nat) : Prop where
  brace_not_mem : '{' ∉ x
  count_eq : x.count '(' = x.count ')' + d

namespace Opens

variable {x y : Text} {d d' : Nat}

theorem append (hx : Opens x d) (hy : Opens y d') : Opens (x ++ y) (d + d') where
  brace_not_mem h := (List.mem_append.1 h).elim hx.brace_not_mem hy.brace_not_mem
  count_eq := by
    rw [List.count_append, List.count_append, hx.count_eq, hy.count_eq]
    omega

/-- Characters that are neither parentheses nor braces open none. -/
theorem of_forall (h : ∀ c ∈ x, c ≠ '{' ∧ c ≠ '(' ∧ c ≠ ')') : Opens x 0 where
  brace_not_mem hmem := (h _ hmem).1 rfl
  count_eq := by
    rw [List.count_eq_zero_of_not_mem fun hmem => (h _ hmem).2.1 rfl,
      List.count_eq_zero_of_not_mem fun hmem => (h _ hmem).2.2 rfl]

theorem sign {c : Char} (hc : c = '+' ∨ c = '-') : Opens [c] 0 := by
  refine of_forall (List.forall_mem_singleton.2 ?_)
  rcases hc with rfl | rfl <;> decide

theorem of_set {p : Char → Bool} (hp : p '{' = false ∧ p '(' = false ∧ p ')' = false)
    (h : ∀ c ∈ x, p c) : Opens x 0 := by
  refine of_forall fun c hc => ⟨?_, ?_, ?_⟩ <;> rintro rfl
  · exact absurd (h _ hc) (by rw [hp.1]; decide)
  · exact absurd (h _ hc) (by rw [hp.2.1]; decide)
  · exact absurd (h _ hc) (by rw [hp.2.2]; decide)

end Opens

theorem Blanks.opens {b : Text} (h : Blanks b) : Opens b 0 := .of_set (by decide) h

theorem Numeral.opens {x : Text} {n : Int} (h : Numeral x n) : Opens x 0 := by
  cases h with
  | plain hne hdigits hfits => exact .of_set (by decide) hdigits
  | negative hne hdigits hfits =>
    exact (Opens.sign (.inr rfl)).append (.of_set (by decide) hdigits)

/-- Operands and sums leave no parenthesis open. -/
theorem Means.opens {env : Env} {c : Category} {x : Text} {n : Int} (h : Means env c x n) :
    Opens x 0 := by
  induction h with
  | number hb hx => exact hb.opens.append hx.opens
  | name hb hne hx hlookup => exact hb.opens.append (.of_set (by decide) hx)
  | parens hb hx hb' ih =>
    have hb := hb.opens
    have hb' := hb'.opens
    constructor
    · simp [hb.brace_not_mem, ih.brace_not_mem, hb'.brace_not_mem]
    · simp [hb.count_eq, ih.count_eq, hb'.count_eq]
      omega
  | single hx ih => exact ih
  | plus hx hb hy ihx ihy =>
    exact ihx.append (hb.opens.append ((Opens.sign (.inl rfl)).append ihy))
  | minus hx hb hy ihx ihy =>
    exact ihx.append (hb.opens.append ((Opens.sign (.inr rfl)).append ihy))

/-! ### Within a block -/

/-- Reading `v` breaks off with the error `e`. With a token that would be right and as many
    parentheses as are still open, the part before is as `ok` says. -/
def Stuck (env : Env) (T v : Text) (e : RenderError) (ok : Text → Prop) : Prop :=
  ∃ y w what d, v = y ++ w ∧ Refuses env T w what e ∧ what ≠ .blockClose ∧
    Opens y (what.closes + d) ∧ ∀ x, what.Token x → ok (y ++ (x ++ List.replicate d ')'))

section Stuck

variable {env : Env} {T u v w b : Text} {e : RenderError} {ok ok' : Text → Prop}

/-- Reading breaks off where only the missing token would close a parenthesis. -/
theorem Stuck.here {what : Expectation} (h : Refuses env T w what e) (hwhat : what ≠ .blockClose)
    (hopens : Opens u what.closes) (hok : ∀ x, what.Token x → ok (u ++ x)) :
    Stuck env T (u ++ w) e ok := by
  refine ⟨u, w, what, 0, rfl, h, hwhat, hopens, fun x hx => ?_⟩
  rw [List.replicate_zero, List.append_nil]
  exact hok x hx

/-- What has been read before stands in front. -/
theorem Stuck.behind (h : Stuck env T v e ok) (hu : Opens u 0) (hok : ∀ z, ok z → ok' (u ++ z)) :
    Stuck env T (u ++ v) e ok' := by
  obtain ⟨y, w, what, d, rfl, hw, hwhat, hopens, hy⟩ := h
  refine ⟨u ++ y, w, what, d, (List.append_assoc u y w).symm, hw, hwhat, ?_, fun x hx => ?_⟩
  · rw [← Nat.zero_add (what.closes + d)]
    exact hu.append hopens
  · rw [List.append_assoc]
    exact hok _ (hy x hx)

/-- One more parenthesis is open. -/
theorem Stuck.enclosed (h : Stuck env T v e ok) (hu : Opens u 1)
    (hok : ∀ z, ok z → ok' (u ++ (z ++ [')']))) : Stuck env T (u ++ v) e ok' := by
  obtain ⟨y, w, what, d, rfl, hw, hwhat, hopens, hy⟩ := h
  refine ⟨u ++ y, w, what, d + 1, (List.append_assoc u y w).symm, hw, hwhat, ?_, fun x hx => ?_⟩
  · rw [← Nat.add_assoc, Nat.add_comm _ 1]
    exact hu.append hopens
  · have htext : u ++ y ++ (x ++ List.replicate (d + 1) ')') =
        u ++ (y ++ (x ++ List.replicate d ')') ++ [')']) := by
      simp only [List.replicate_succ', List.append_assoc]
    rw [htext]
    exact hok _ (hy x hx)

/-- An operand breaks off behind blanks. -/
theorem stuck_operand {what : Expectation} (h : Refuses env T w what e) (hb : Blanks b)
    (hwhat : what = .smallNumber ∨ what = .operand) :
    Stuck env T (b ++ w) e fun z => ∃ n, Means env .operand z n := by
  rcases hwhat with rfl | rfl
  · exact .here h (by decide) hb.opens fun x ⟨n, hx⟩ => ⟨n, .number hb hx⟩
  · exact .here h (by decide) hb.opens fun x ⟨n, hx⟩ => ⟨n, .number hb hx⟩

/-- Parentheses fail with the sum in them, or because they are not closed. -/
theorem closeParens_eq_error {r : Except RenderError (Int × Text)}
    (h : closeParens T r = .error e) : r = .error e ∨
      ∃ n w, r = .ok (n, w) ∧ (w.dropWhile isBlank).head? ≠ some ')' ∧
        e = .expected .parenthesis (posOf T (w.dropWhile isBlank)) := by
  cases r with
  | error err => exact .inl h
  | ok r =>
    obtain ⟨n, w⟩ := r
    simp only [closeParens, Except.bind] at h
    split at h
    · cases h
    · rename_i hhead
      exact .inr ⟨n, w, rfl, hhead, (Except.error.inj h).symm⟩

/-- A parenthesis that is opened breaks off with the sum in it, or behind that. -/
theorem stuck_parens {r : Except RenderError (Int × Text)} (hb : Blanks b)
    (h : closeParens T r = .error e)
    (hsum : r = .error e → Stuck env T u e fun z => ∃ n, Means env .sum z n)
    (hsound : ∀ n w, r = .ok (n, w) →
      ∃ x b', u = x ++ (b' ++ w) ∧ Blanks b' ∧ Means env .sum x n) :
    Stuck env T (b ++ '(' :: u) e fun z => ∃ n, Means env .operand z n := by
  have hfront (z : Text) : b ++ '(' :: z = b ++ ['('] ++ z := by
    rw [List.append_assoc, List.singleton_append]
  have hparen : Opens ['('] 1 := ⟨by decide, by decide⟩
  have hopens : Opens (b ++ ['(']) 1 := hb.opens.append hparen
  rw [hfront]
  rcases closeParens_eq_error h with hr | ⟨n, w, hr, hhead, rfl⟩
  · refine (hsum hr).enclosed hopens fun z ⟨n, hz⟩ => ⟨n, ?_⟩
    rw [← hfront]
    exact .parens hb hz blanks_nil
  · -- The sum leaves the blanks in front of the missing parenthesis, in two parts.
    obtain ⟨x, b₁, rfl, hb₁, hx⟩ := hsound n w hr
    obtain ⟨b₂, hw, hb₂⟩ := blanks_append_dropWhile w
    have hsplit : b ++ ['('] ++ (x ++ (b₁ ++ w)) =
        b ++ ['('] ++ (x ++ (b₁ ++ b₂)) ++ w.dropWhile isBlank := by
      rw [List.append_assoc _ _ (w.dropWhile isBlank), List.append_assoc x, List.append_assoc b₁,
        ← hw]
    rw [hsplit]
    refine .here (.parenthesis hhead) (by decide)
      (hopens.append (hx.opens.append (hb₁.append hb₂).opens)) fun z hz => ⟨n, ?_⟩
    obtain rfl : z = [')'] := hz
    rw [List.append_assoc, ← hfront, List.append_assoc x]
    exact .parens hb hx (hb₁.append hb₂)

end Stuck

namespace Vocabulary.Lawful

variable {V : Vocabulary} {env : Env} {T : Text}

mutual

theorem operand_stuck (hV : V.Lawful) (hT : T.Held) {s : Scanner} {v : Text} {e : RenderError}
    (hs : s.Before T v) (h : Yields T (V.operand env s) (.error e)) :
    Stuck env T v e fun z => ∃ n, Means env .operand z n := by
  obtain ⟨b, hv, hb⟩ := blanks_append_dropWhile v
  generalize hv' : v.dropWhile isBlank = v' at hv
  -- The cases are those of the reader, in its order.
  by_cases hnumber : numberAt v' = []
  · by_cases hname : nameAt v' = []
    · by_cases hparen : v'.head? = some '('
      · obtain ⟨u, rfl⟩ := List.head?_eq_some_iff.1 hparen
        obtain ⟨t, ht, hlt, hstep⟩ := hV.operand_parens env hT hs hv'
        obtain ⟨r, hr, hsound⟩ := hV.sum_sound hT ht
        rw [hv]
        exact stuck_parens hb ((hstep r hr).unique h)
          (fun herror => sum_stuck hV hT ht (herror ▸ hr)) hsound
      · have hread := (hV.operand_none env hT hs hv' hnumber hname hparen).unique h
        obtain rfl := Except.error.inj hread
        rw [hv]
        exact stuck_operand (.operand hnumber hname hparen) hb (.inr rfl)
    · have hread := (hV.operand_name env hT hs hv' hnumber hname).unique h
      cases hlookup : env.lookup (nameAt v') with
      | some n => rw [hlookup] at hread; cases hread
      | none =>
        rw [hlookup] at hread
        obtain rfl := Except.error.inj hread
        rw [hv]
        exact stuck_operand (.name hname hlookup) hb (.inr rfl)
  · have hread := (hV.operand_number env hT hs hv' hnumber).unique h
    cases hparse : parseInt64? (numberAt v') with
    | some n => rw [hparse] at hread; cases hread
    | none =>
      rw [hparse] at hread
      obtain rfl := Except.error.inj hread
      rw [hv]
      exact stuck_operand (.number hnumber hparse) hb (.inl rfl)
termination_by 2 * s.unread

theorem sum_stuck (hV : V.Lawful) (hT : T.Held) {s : Scanner} {v : Text} {e : RenderError}
    (hs : s.Before T v) (h : Yields T (V.sum env s) (.error e)) :
    Stuck env T v e fun z => ∃ n, Means env .sum z n := by
  obtain ⟨r, hr, hsound⟩ := hV.operand_sound hT hs
  cases r with
  | error err =>
    obtain rfl := Except.error.inj ((sum_of_error hr).unique h)
    exact (operand_stuck hV hT hs hr).behind blanks_nil.opens fun z ⟨n, hz⟩ => ⟨n, .single hz⟩
  | ok r =>
    obtain ⟨m, u⟩ := r
    obtain ⟨x, rfl, hx⟩ := hsound m u rfl
    obtain ⟨t, ht, hlt, hstep⟩ := sum_of_operand hr
    obtain ⟨r, hread, -⟩ := hV.sumFrom_sound hT ht (.single hx)
    obtain rfl := (hstep r hread).unique h
    exact (sumFrom_stuck hV hT ht (.single hx) hread).behind hx.opens fun z hz => hz
termination_by 2 * s.unread + 1

theorem sumFrom_stuck (hV : V.Lawful) (hT : T.Held) {s : Scanner} {v : Text} {e : RenderError}
    (hs : s.Before T v) {x : Text} {acc : Int} (hx : Means env .sum x acc)
    (h : Yields T (V.sumFrom env acc s) (.error e)) :
    Stuck env T v e fun z => ∃ n, Means env .sum (x ++ z) n := by
  obtain ⟨b, hv, hb⟩ := blanks_append_dropWhile v
  generalize hv' : v.dropWhile isBlank = v' at hv
  by_cases hoperator : operatorAt v' = []
  · cases (hV.sumFrom_end hT hs hv' hoperator acc).unique h
  · obtain ⟨c, u, rfl, hc⟩ := operatorAt_ne_nil hoperator
    obtain ⟨t, ht, hlt, herror, hstep⟩ := hV.sumFrom_operator env hT hs hv' hc acc
    have hmeans {y : Text} {m : Int} (hy : Means env .operand y m) :
        Means env .sum (x ++ (b ++ c :: y)) (if c = '+' then acc + m else acc - m) := by
      rcases hc with rfl | rfl
      · exact .plus hx hb hy
      · exact .minus hx hb hy
    have hfront (z : Text) : b ++ c :: z = b ++ [c] ++ z := by
      rw [List.append_assoc, List.singleton_append]
    have hopens : Opens (b ++ [c]) 0 := hb.opens.append (.sign hc)
    obtain ⟨r, hr, hsound⟩ := hV.operand_sound hT ht
    rw [hv, hfront]
    cases r with
    | error err =>
      obtain rfl := Except.error.inj ((herror err hr).unique h)
      refine (operand_stuck hV hT ht hr).behind hopens fun z hz => ?_
      obtain ⟨m, hz⟩ := hz
      rw [← hfront]
      exact ⟨_, hmeans hz⟩
    | ok r =>
      obtain ⟨m, u'⟩ := r
      obtain ⟨y, rfl, hy⟩ := hsound m u' rfl
      obtain ⟨t', ht', hlt', hrest⟩ := hstep m u' hr
      obtain ⟨r, hread, -⟩ := hV.sumFrom_sound hT ht' (hmeans hy)
      obtain rfl := (hrest r hread).unique h
      rw [← List.append_assoc]
      refine (sumFrom_stuck hV hT ht' (hmeans hy) hread).behind (hopens.append hy.opens)
        fun z hz => ?_
      rwa [List.append_assoc, ← hfront, ← List.cons_append, ← List.append_assoc b,
        ← List.append_assoc x]
termination_by 2 * s.unread

end

end Vocabulary.Lawful

/-! ### Templates -/

/-- Rendering `v` breaks off in a block with the error `e`. With a token that would be right there
    and what closes all that is open, the part before is rendered. -/
def BreaksOff (env : Env) (T v : Text) (e : RenderError) : Prop :=
  ∃ front x w what d, v = front ++ (openBraces ++ (x ++ w)) ∧ Refuses env T w what e ∧
    Opens x (what.closes + d) ∧ ∀ y, what.Token y →
      ∃ out, Renders env (front ++ (openBraces ++ (x ++ (y ++ what.ending d)))) out

section BreaksOff

variable {V : Vocabulary} {env : Env} {s : Scanner} {T t u v w : Text} {e : RenderError}

/-- Text and a block stand in front. -/
theorem BreaksOff.behind_block (h : BreaksOff env T v e) {b : Text} {n : Int}
    (ht : ¬ openBraces <:+: t ++ ['{']) (hb : Block env b n) :
    BreaksOff env T (t ++ (b ++ v)) e := by
  obtain ⟨front, x, w, what, d, rfl, hw, hopens, hx⟩ := h
  refine ⟨t ++ (b ++ front), x, w, what, d, ?_, hw, hopens, fun y hy => ?_⟩
  · simp only [List.append_assoc]
  · obtain ⟨out, hout⟩ := hx y hy
    have hrenders := Renders.block ht hb hout
    rw [← List.append_assoc b, ← List.append_assoc t] at hrenders
    exact ⟨_, hrenders⟩

/-- Text stands in front of a block that is not ended. -/
theorem breaksOff_block {what : Expectation} {x : Text} {d : Nat}
    (ht : ¬ openBraces <:+: t ++ ['{']) (hw : Refuses env T w what e)
    (hopens : Opens x (what.closes + d))
    (hx : ∀ y, what.Token y → ∃ n, Block env (openBraces ++ (x ++ (y ++ what.ending d))) n) :
    BreaksOff env T (t ++ (openBraces ++ (x ++ w))) e := by
  refine ⟨t, x, w, what, d, rfl, hw, hopens, fun y hy => ?_⟩
  obtain ⟨n, hn⟩ := hx y hy
  have hempty : Renders env [] [] := .text (by decide)
  have hrenders := Renders.block ht hn hempty
  rw [List.append_nil] at hrenders
  exact ⟨_, hrenders⟩

end BreaksOff

namespace Vocabulary.Lawful

variable {V : Vocabulary} {env : Env} {T : Text}

/-- A block that stands behind text breaks off, or what lies behind the block does. -/
theorem block_breaksOff (hV : V.Lawful) (hT : T.Held) {s : Scanner} {t u : Text} {e : RenderError}
    (ht : ¬ openBraces <:+: t ++ ['{']) (hs : s.Before T (openBraces ++ u))
    (h : V.renderFrom env s = .error e)
    (hrest : ∀ (s' : Scanner) (k : Text), s'.Before T k → s'.unread < s.unread →
      V.renderFrom env s' = .error e → BreaksOff env T k e) :
    BreaksOff env T (t ++ (openBraces ++ u)) e := by
  obtain ⟨s₁, hs₁, hlt, herror, hblock⟩ := hV.renderFrom_block env hT hs
  obtain ⟨r, hr, hsound⟩ := hV.sum_sound hT hs₁
  cases r with
  | error err =>
    rw [herror err hr] at h
    obtain rfl := Except.error.inj h
    obtain ⟨y, w, what, d, rfl, hw, hwhat, hopens, hy⟩ := hV.sum_stuck hT hs₁ hr
    refine breaksOff_block ht hw hopens fun z hz => ?_
    obtain ⟨n, hn⟩ := hy z hz
    have hclosed := Block.mk hn blanks_nil
    rw [List.nil_append, List.append_assoc, List.append_assoc,
      ← Expectation.ending_of_ne hwhat] at hclosed
    exact ⟨n, hclosed⟩
  | ok r =>
    obtain ⟨n, w⟩ := r
    obtain ⟨x, b₁, rfl, hb₁, hx⟩ := hsound n w rfl
    obtain ⟨b₂, hw, hb₂⟩ := blanks_append_dropWhile w
    obtain ⟨hopen, hclosed⟩ := hblock n w hr
    have hblanks := hb₁.append hb₂
    have hsplit : x ++ (b₁ ++ w) = x ++ (b₁ ++ b₂) ++ w.dropWhile isBlank := by
      rw [List.append_assoc x, List.append_assoc b₁, ← hw]
    rw [hsplit]
    by_cases hclose : closeBraces <+: w.dropWhile isBlank
    · obtain ⟨k, hk⟩ := hclose
      obtain ⟨s₂, hs₂, hlt₂, hgo⟩ := hclosed k hk.symm
      -- The block is rendered, so the error is that of what lies behind it.
      have hfails : V.renderFrom env s₂ = .error e := eq_error_of_map_eq_error (hgo ▸ h)
      have hbreaks := (hrest s₂ k hs₂ (Nat.lt_trans hlt₂ hlt) hfails).behind_block ht
        (.mk hx hblanks)
      rw [← hk]
      simpa only [List.append_assoc] using hbreaks
    · rw [hopen hclose] at h
      obtain rfl := Except.error.inj h
      refine breaksOff_block (d := 0) ht (.blockClose hclose) (hx.opens.append hblanks.opens)
        fun z hz => ⟨n, ?_⟩
      obtain rfl : z = closeBraces := hz
      have hend := Block.mk hx hblanks
      rwa [← List.append_assoc x] at hend

/-- Whatever is not rendered breaks off. -/
theorem renderFrom_breaksOff (hV : V.Lawful) (hT : T.Held) {s : Scanner} {v : Text}
    {e : RenderError} (hs : s.Before T v) (h : V.renderFrom env s = .error e) :
    BreaksOff env T v e := by
  by_cases hinfix : openBraces <:+: v
  · obtain ⟨t, u, hfirst⟩ := Pattern.exists_firstIn hinfix
    have ht := not_infix_of_firstIn hfirst
    obtain rfl := hfirst.eq_append
    by_cases hempty : t = []
    · subst hempty
      exact hV.block_breaksOff hT ht hs h fun s' k hs' hlt hfails =>
        renderFrom_breaksOff hV hT hs' hfails
    · obtain ⟨s₁, hs₁, hlt, hgo⟩ := hV.renderFrom_textBlock env hT hs hfirst hempty
      have hfails : V.renderFrom env s₁ = .error e := eq_error_of_map_eq_error (hgo ▸ h)
      exact hV.block_breaksOff hT ht hs₁ hfails fun s' k hs' hlt' hfails =>
        renderFrom_breaksOff hV hT hs' hfails
  · rw [hV.renderFrom_text hT hs hinfix] at h
    cases h
termination_by s.unread

end Vocabulary.Lawful

/-- **Templates break off where nothing right stands.** A template that is not rendered fails with
    an error that names a place in it, where the token that would be right does not stand. Before
    that place a block has been begun. With any token that would be right there, and with what
    closes the parentheses that are open and the block, what stands before the place is rendered.
    Templates have to fit in a memory. -/
theorem render_error_viable (env : Env) {template : Text} {e : RenderError}
    (hheld : template.Held) (h : render env template = .error e) :
    ∃ what k, (e = .expected what k ∨ what = .operand ∧ ∃ name, e = .unknown name k) ∧
      k ≤ template.length ∧ Refuses env template (template.drop k) what e ∧
      ∃ front x d, template.take k = front ++ (openBraces ++ x) ∧ Opens x (what.closes + d) ∧
        ∀ y, what.Token y → Text.Held (template.take k ++ (y ++ what.ending d)) →
          ∃ out, render env (template.take k ++ (y ++ what.ending d)) = .ok out := by
  obtain ⟨V, hV, hrender⟩ := exists_lawful_render
  rw [hrender] at h
  obtain ⟨front, x, w, what, d, hsplit, hw, hopens, hcomplete⟩ :=
    hV.renderFrom_breaksOff hheld (Scanner.new_before template) h
  generalize hread : front ++ (openBraces ++ x) = read
  obtain rfl : template = read ++ w := by
    rw [hsplit, ← hread, List.append_assoc, List.append_assoc]
  have herror := hw.error_cases
  rw [posOf_append_right] at herror
  refine ⟨what, read.length, herror, ?_, ?_, front, x, d, ?_, hopens, fun y hy hfits => ?_⟩
  · rw [List.length_append]
    exact Nat.le_add_right _ _
  · rwa [List.drop_left]
  · rw [List.take_left, hread]
  · rw [List.take_left] at hfits ⊢
    obtain ⟨out, hout⟩ := hcomplete y hy
    rw [← List.append_assoc openBraces, ← List.append_assoc front, hread] at hout
    rw [hrender]
    exact ⟨out, hV.renderFrom_of_renders hfits hout (Scanner.new_before _)⟩

/-- A template that ends in a parenthesis, with a digit that is not read. -/
def openSum : Text := "é\x7b\x7b (٣".toList

theorem render_error_viable_openSum :
    openSum.Held ∧ render [] openSum = .error (.expected .smallNumber 5) ∧
      ∃ d ≤ 1, ∃ out, render [] (openSum.take 5 ++ (['0'] ++ Expectation.smallNumber.ending d)) =
        .ok out := by
  have hheld : openSum.Held := by decide
  obtain ⟨V, hV, hrender⟩ := exists_lawful_render
  have hblock (s : Scanner) (hs : s.Before openSum (openBraces ++ " (٣".toList)) :
      V.renderFrom [] s = .error (.expected .smallNumber 5) := by
    obtain ⟨t, ht, -, herror, -⟩ := hV.renderFrom_block [] hheld hs
    obtain ⟨t', ht', -, hparens⟩ := hV.operand_parens [] hheld ht rfl
    have hnumber := hV.operand_number [] hheld ht' rfl (by decide)
    exact herror _ (Vocabulary.Lawful.sum_of_error
      (hparens (.error _) (Vocabulary.Lawful.sum_of_error hnumber)))
  have hbrace : ¬ openBraces <:+: ['é'] ++ ['{'] := by decide
  have hfails : render [] openSum = .error (.expected .smallNumber 5) := by
    rw [hrender, hV.renderFrom_of_firstIn hheld (Scanner.new_before _)
      (firstIn_openBraces hbrace _) hblock]
    rfl
  obtain ⟨what, k, herror, -, -, front, x, d, htake, hopens, hcomplete⟩ :=
    render_error_viable [] hheld hfails
  obtain ⟨rfl, rfl⟩ : what = .smallNumber ∧ k = 5 := by
    rcases herror with herror | ⟨-, name, herror⟩ <;> cases herror
    exact ⟨rfl, rfl⟩
  -- Only one parenthesis has been read.
  have hd : d ≤ 1 := by
    have hcount : List.count '(' (openSum.take 5) = 1 := by decide
    have hopen := hopens.count_eq
    rw [htake, List.count_append, List.count_append] at hcount
    omega
  have hzero : Numeral ['0'] 0 :=
    .plain (by decide) (List.forall_mem_singleton.2 (by decide)) (by decide)
  have hfits : Text.Held (openSum.take 5 ++ (['0'] ++ Expectation.smallNumber.ending d)) := by
    rcases Nat.le_one_iff_eq_zero_or_eq_one.1 hd with rfl | rfl <;> decide
  exact ⟨hheld, hfails, d, hd, hcomplete ['0'] ⟨0, hzero⟩ hfits⟩

end TextScan.Template
