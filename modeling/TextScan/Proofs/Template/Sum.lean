import TextScan.Proofs.Template.Reading

namespace TextScan.Template

/-!
# Sums are read as they are written

The readers of operands and sums accept what the grammar derives and give the value that it has
there, and they accept nothing else.

* `Vocabulary.Lawful.operand_sound` and `Vocabulary.Lawful.sum_sound` say that a reader always ends,
  and that what it has accepted is derived.
* `Vocabulary.Lawful.reads_of_means` says that what is derived is accepted, whatever lies behind it,
  unless that would make a token longer.
-/

variable {V : Vocabulary} {env : Env} {T : Text}

theorem operatorAt_ne_nil {v : Text} (h : operatorAt v ≠ []) :
    ∃ c u, v = c :: u ∧ (c = '+' ∨ c = '-') := by
  cases v with
  | nil => exact absurd rfl h
  | cons c u =>
    refine ⟨c, u, rfl, contains_operators.1 ?_⟩
    by_cases hc : operators.contains c = true
    · exact hc
    · exact absurd (by simp [operatorAt, hc]) h

theorem closeParens_eq_ok {r : Except RenderError (Int × Text)} {n : Int} {w : Text}
    (h : closeParens T r = .ok (n, w)) :
    ∃ w', r = .ok (n, w') ∧ w'.dropWhile isBlank = ')' :: w := by
  cases r with
  | error e => cases h
  | ok r =>
    obtain ⟨m, w'⟩ := r
    simp only [closeParens, Except.bind] at h
    split at h
    · rename_i hhead
      obtain ⟨rfl, rfl⟩ := Prod.mk.inj (Except.ok.inj h)
      obtain ⟨u, hu⟩ := List.head?_eq_some_iff.1 hhead
      exact ⟨w', rfl, by rw [hu, List.tail_cons]⟩
    · cases h

/-! ### What is accepted is derived -/

namespace Vocabulary.Lawful

mutual

theorem operand_sound (hV : V.Lawful) (hT : T.Held) {s : Scanner} {v : Text} (hs : s.Before T v) :
    ∃ r, Yields T (V.operand env s) r ∧
      ∀ n w, r = .ok (n, w) → ∃ x, v = x ++ w ∧ Means env .operand x n := by
  obtain ⟨b, hv, hb⟩ := blanks_append_dropWhile v
  generalize hv' : v.dropWhile isBlank = v' at hv
  -- The cases are those of the reader, in its order.
  by_cases hnumber : numberAt v' = []
  · by_cases hname : nameAt v' = []
    · by_cases hparen : v'.head? = some '('
      · obtain ⟨u, rfl⟩ := List.head?_eq_some_iff.1 hparen
        obtain ⟨t, ht, hlt, hstep⟩ := hV.operand_parens env hT hs hv'
        obtain ⟨r, hr, hsound⟩ := sum_sound hV hT ht
        refine ⟨closeParens T r, hstep r hr, ?_⟩
        intro n w hok
        -- The sum leaves the blanks in front of the parenthesis behind it, in two parts.
        obtain ⟨w₁, rfl, hw⟩ := closeParens_eq_ok hok
        obtain ⟨x, b₁, rfl, hb₁, hx⟩ := hsound n w₁ rfl
        obtain ⟨b₂, hw₁, hb₂⟩ := blanks_append_dropWhile w₁
        refine ⟨b ++ '(' :: (x ++ ((b₁ ++ b₂) ++ [')'])), ?_, .parens hb hx (hb₁.append hb₂)⟩
        rw [hv, hw₁, hw]
        simp only [List.append_assoc, List.cons_append, List.nil_append]
      · exact ⟨_, hV.operand_none env hT hs hv' hnumber hname hparen, fun n w h => by cases h⟩
    · refine ⟨_, hV.operand_name env hT hs hv' hnumber hname, ?_⟩
      intro n w hok
      cases hlookup : env.lookup (nameAt v') with
      | none => rw [hlookup] at hok; cases hok
      | some m =>
        rw [hlookup] at hok
        obtain ⟨rfl, rfl⟩ := Prod.mk.inj (Except.ok.inj hok)
        have hsplit : nameAt v' ++ v'.drop (nameAt v').length = v' :=
          List.prefix_iff_eq_append.1 (List.takeWhile_prefix _)
        refine ⟨b ++ nameAt v', by rw [List.append_assoc, hsplit, hv], ?_⟩
        exact .name hb hname (List.all_eq_true.1 List.all_takeWhile) hlookup
  · refine ⟨_, hV.operand_number env hT hs hv' hnumber, ?_⟩
    intro n w hok
    cases hparse : parseInt64? (numberAt v') with
    | none => rw [hparse] at hok; cases hok
    | some m =>
      rw [hparse] at hok
      obtain ⟨rfl, rfl⟩ := Prod.mk.inj (Except.ok.inj hok)
      have hsplit : numberAt v' ++ v'.drop (numberAt v').length = v' :=
        List.prefix_iff_eq_append.1 (Regex.Program.signedPrefix_isPrefix _ _ _)
      exact ⟨b ++ numberAt v', by rw [List.append_assoc, hsplit, hv],
        .number hb (parseInt64?_eq_some_iff.1 hparse)⟩
termination_by 2 * s.unread

theorem sum_sound (hV : V.Lawful) (hT : T.Held) {s : Scanner} {v : Text} (hs : s.Before T v) :
    ∃ r, Yields T (V.sum env s) r ∧
      ∀ n w, r = .ok (n, w) → ∃ x b, v = x ++ (b ++ w) ∧ Blanks b ∧ Means env .sum x n := by
  obtain ⟨r, hr, hsound⟩ := operand_sound hV hT hs
  cases r with
  | error e => exact ⟨_, sum_of_error hr, fun n w h => by cases h⟩
  | ok r =>
    obtain ⟨m, u⟩ := r
    obtain ⟨x, rfl, hx⟩ := hsound m u rfl
    obtain ⟨t, ht, hlt, hstep⟩ := sum_of_operand hr
    -- One operand is a sum, from which the rest goes on.
    obtain ⟨r, hr, hsound⟩ := sumFrom_sound hV hT ht (.single hx)
    refine ⟨r, hstep r hr, ?_⟩
    intro n w hok
    obtain ⟨y, b, rfl, hb, hy⟩ := hsound n w hok
    exact ⟨x ++ y, b, by rw [List.append_assoc], hb, hy⟩
termination_by 2 * s.unread + 1

theorem sumFrom_sound (hV : V.Lawful) (hT : T.Held) {s : Scanner} {v : Text} (hs : s.Before T v)
    {x : Text} {acc : Int} (hx : Means env .sum x acc) :
    ∃ r, Yields T (V.sumFrom env acc s) r ∧
      ∀ n w, r = .ok (n, w) → ∃ y b, v = y ++ (b ++ w) ∧ Blanks b ∧ Means env .sum (x ++ y) n := by
  obtain ⟨b, hv, hb⟩ := blanks_append_dropWhile v
  generalize hv' : v.dropWhile isBlank = v' at hv
  by_cases hoperator : operatorAt v' = []
  · refine ⟨_, hV.sumFrom_end hT hs hv' hoperator acc, ?_⟩
    intro n w hok
    obtain ⟨rfl, rfl⟩ := Prod.mk.inj (Except.ok.inj hok)
    exact ⟨[], b, hv, hb, by rwa [List.append_nil]⟩
  · obtain ⟨c, u, rfl, hc⟩ := operatorAt_ne_nil hoperator
    obtain ⟨t, ht, hlt, herror, hstep⟩ := hV.sumFrom_operator env hT hs hv' hc acc
    obtain ⟨r, hr, hsound⟩ := operand_sound hV hT ht
    cases r with
    | error e => exact ⟨_, herror e hr, fun n w h => by cases h⟩
    | ok r =>
      obtain ⟨m, u'⟩ := r
      obtain ⟨y, rfl, hy⟩ := hsound m u' rfl
      obtain ⟨t', ht', hlt', hrest⟩ := hstep m u' hr
      -- What has been read so far is a sum of its own, from which the rest goes on.
      have hmeans : Means env .sum (x ++ (b ++ c :: y)) (if c = '+' then acc + m else acc - m) := by
        rcases hc with rfl | rfl
        · exact .plus hx hb hy
        · exact .minus hx hb hy
      obtain ⟨r, hr, hsound⟩ := sumFrom_sound hV hT ht' hmeans
      refine ⟨r, hrest r hr, ?_⟩
      intro n w hok
      obtain ⟨z, b', rfl, hb', hz⟩ := hsound n w hok
      refine ⟨b ++ c :: y ++ z, b', ?_, hb', ?_⟩
      · rw [hv]; simp
      · rwa [← List.append_assoc]
termination_by 2 * s.unread

end

end Vocabulary.Lawful

/-! ### What is derived is accepted -/

/-- A text behind which a number and a name end. -/
structure Delimited (w : Text) : Prop where
  avoids_digit : w.Avoids Unicode.decimalDigit.contains
  avoids_nameChar : w.Avoids isNameChar

theorem delimited_cons {c : Char} {w : Text} (hdigit : Unicode.decimalDigit.contains c = false)
    (hname : isNameChar c = false) : Delimited (c :: w) :=
  ⟨Text.avoids_cons.2 hdigit, Text.avoids_cons.2 hname⟩

/-- Blanks end numbers and names, and do so too where there are none. -/
theorem Blanks.delimited {b w : Text} (hb : Blanks b) (hw : Delimited w) : Delimited (b ++ w) := by
  cases b with
  | nil => exact hw
  | cons c b =>
    have hc := hb c List.mem_cons_self
    exact delimited_cons (digit_eq_false_of_isBlank hc) (isNameChar_eq_false_of_isBlank hc)

theorem Numeral.avoids_isBlank {x : Text} {n : Int} (hx : Numeral x n) (w : Text) :
    (x ++ w).Avoids isBlank := by
  cases hx with
  | @plain ds hne hdigits hfits =>
    -- A number begins with a digit or with its sign.
    obtain ⟨d, r, rfl⟩ := List.exists_cons_of_ne_nil hne
    exact Text.avoids_cons.2 (isBlank_eq_false_of_isDigit (hdigits d List.mem_cons_self))
  | negative hne hdigits hfits => exact Text.avoids_cons.2 (by decide)

theorem Numeral.ne_nil {x : Text} {n : Int} (hx : Numeral x n) : x ≠ [] := by
  cases hx with
  | plain hne hdigits hfits => exact hne
  | negative hne hdigits hfits => exact List.cons_ne_nil _ _

/-- What is read of a part. An operand is read up to its end. Of a sum it is said how reading goes
    on: as the rest of a longer sum would be, with what the part adds up to. -/
def ReadsAs (V : Vocabulary) (env : Env) (T : Text) : Category → Text → Int → Prop
  | .operand, x, n => ∀ w, Delimited w → ∀ s : Scanner, s.Before T (x ++ w) →
      Yields T (V.operand env s) (.ok (n, w))
  | .sum, x, n => ∀ w r, Delimited w →
      (∀ t : Scanner, t.Before T w → Yields T (V.sumFrom env n t) r) →
      ∀ s : Scanner, s.Before T (x ++ w) → Yields T (V.sum env s) r

namespace Vocabulary.Lawful

/-- Parentheses are read with the sum in them. -/
theorem reads_parens (hV : V.Lawful) (hT : T.Held) {b x b' : Text} {n : Int} (hb : Blanks b)
    (hx : ReadsAs V env T .sum x n) (hb' : Blanks b') :
    ReadsAs V env T .operand (b ++ '(' :: (x ++ (b' ++ [')']))) n := by
  intro w _ s hs
  have htext : b ++ '(' :: (x ++ (b' ++ [')'])) ++ w = b ++ '(' :: (x ++ (b' ++ ')' :: w)) := by
    simp only [List.append_assoc, List.cons_append, List.nil_append]
  rw [htext] at hs
  have hopen : Text.Avoids isBlank ('(' :: (x ++ (b' ++ ')' :: w))) :=
    Text.avoids_cons.2 (by decide)
  have hclose : Text.Avoids isBlank (')' :: w) := Text.avoids_cons.2 (by decide)
  obtain ⟨t, ht, -, hstep⟩ := hV.operand_parens env hT hs (hb.dropWhile_append hopen)
  -- No operator follows, so the sum ends before the parenthesis.
  have hsum : Yields T (V.sum env t) (.ok (n, ')' :: w)) := by
    refine hx _ _ (hb'.delimited (delimited_cons (by decide) (by decide))) ?_ t ht
    intro t₁ ht₁
    exact hV.sumFrom_end hT ht₁ (hb'.dropWhile_append hclose) rfl n
  have hclosed : closeParens T (.ok (n, ')' :: w)) = .ok (n, w) := by
    have hskip : (')' :: w).dropWhile isBlank = ')' :: w := blanks_nil.dropWhile_append hclose
    simp only [closeParens, Except.bind, hskip, List.head?_cons, if_true, List.tail_cons]
  exact hclosed ▸ hstep _ hsum

/-- An operator is read with the sum before it and the operand behind it. -/
theorem reads_operator (hV : V.Lawful) (hT : T.Held) {x b y : Text} {m n : Int} {c : Char}
    (hx : ReadsAs V env T .sum x m) (hb : Blanks b) (hc : c = '+' ∨ c = '-')
    (hy : ReadsAs V env T .operand y n) :
    ReadsAs V env T .sum (x ++ (b ++ c :: y)) (if c = '+' then m + n else m - n) := by
  intro w r hw hrest s hs
  have htext : x ++ (b ++ c :: y) ++ w = x ++ (b ++ c :: (y ++ w)) := by
    simp only [List.append_assoc, List.cons_append]
  rw [htext] at hs
  have hends : Delimited (c :: (y ++ w)) := by
    rcases hc with rfl | rfl <;> exact delimited_cons (by decide) (by decide)
  have havoids : Text.Avoids isBlank (c :: (y ++ w)) := by
    rcases hc with rfl | rfl <;> exact Text.avoids_cons.2 (by decide)
  refine hx _ r (hb.delimited hends) ?_ s hs
  intro t ht
  obtain ⟨t₁, ht₁, -, -, hstep⟩ :=
    hV.sumFrom_operator env hT ht (hb.dropWhile_append havoids) hc m
  obtain ⟨t₂, ht₂, -, hgo⟩ := hstep n w (hy w hw t₁ ht₁)
  exact hgo r (hrest t₂ ht₂)

/-- **Whatever is derived is read**, with the value that it has. -/
theorem reads_of_means (hV : V.Lawful) (hT : T.Held) {c : Category} {x : Text} {n : Int}
    (h : Means env c x n) : ReadsAs V env T c x n := by
  induction h with
  | @number b x n hb hx =>
    intro w hw s hs
    rw [List.append_assoc] at hs
    have hat := numberAt_append hx hw.avoids_digit
    have hread := hV.operand_number env hT hs (hb.dropWhile_append (hx.avoids_isBlank w))
      (by rw [hat]; exact hx.ne_nil)
    rwa [hat, parseInt64?_eq_some_iff.2 hx, List.drop_left] at hread
  | @name b x n hb hne hx hlookup =>
    intro w hw s hs
    rw [List.append_assoc] at hs
    obtain ⟨c, r, rfl⟩ := List.exists_cons_of_ne_nil hne
    have hc := hx c List.mem_cons_self
    have hat : nameAt (c :: r ++ w) = c :: r := hw.avoids_nameChar.takeWhile_append hx
    -- The reader looks for a number first, but a name does not begin like one.
    have hsign : c ≠ '-' := by rintro rfl; exact absurd hc (by decide)
    have hread := hV.operand_name env hT hs
      (hb.dropWhile_append (Text.avoids_cons.2 (isBlank_eq_false_of_isNameChar hc)))
      (numberAt_eq_nil hsign (digit_eq_false_of_isNameChar hc)) (by rw [hat]; exact hne)
    rwa [hat, hlookup, List.drop_left] at hread
  | parens hb hx hb' ih => exact hV.reads_parens hT hb ih hb'
  | @single x n hx ih =>
    intro w r hw hrest s hs
    obtain ⟨t, ht, -, hstep⟩ := sum_of_operand (ih w hw s hs)
    exact hstep r (hrest t ht)
  | plus hx hb hy ihx ihy => exact hV.reads_operator hT ihx hb (.inl rfl) ihy
  | minus hx hb hy ihx ihy => exact hV.reads_operator hT ihx hb (.inr rfl) ihy

end Vocabulary.Lawful

end TextScan.Template
