import TextScan.Proofs.Template.Vocabulary

namespace TextScan.Template

/-!
# The steps of reading a block

What the readers of operands and sums do next, in terms of what is left of the text. Every case is
listed once, those that fail included.

* `Vocabulary.Lawful.operand_number`, `operand_name`, `operand_parens` and `operand_none` are the
  cases of an operand, by the first token behind the blanks.
* `Vocabulary.Lawful.sum_of_operand` and `Vocabulary.Lawful.sumFrom_operator` go on with what lies
  behind an operand.
-/

/-- What reading a closing parenthesis makes of a result. -/
def closeParens (T : Text) (r : Except RenderError (Int × Text)) :
    Except RenderError (Int × Text) :=
  r.bind fun (n, w) =>
    let w' := w.dropWhile isBlank
    if w'.head? = some ')' then .ok (n, w'.tail) else .error (.expected .parenthesis (posOf T w'))

namespace Vocabulary.Lawful

variable {V : Vocabulary} {env : Env} {s : Scanner} {T v v' : Text}

/-! ### Operands -/

/-- A number counts if it is in range. -/
theorem operand_number (env : Env) (hV : V.Lawful) (hT : T.Held) (hs : s.Before T v)
    (hv : v.dropWhile isBlank = v') (hnumber : numberAt v' ≠ []) :
    Yields T (V.operand env s)
      (match parseInt64? (numberAt v') with
        | some n => .ok (n, v'.drop (numberAt v').length)
        | none => .error (.expected .smallNumber (posOf T v'))) := by
  obtain ⟨⟨s₁, h₁⟩, hskip, hs₁⟩ := hV.skipSpace hs hT
  rw [hv] at hs₁
  have hpos : s₁.pos = posOf T v' := hs₁.pos_eq
  obtain ⟨t, htoken, ht⟩ := token?_eq_some hs₁ hT hV.number hnumber
  rw [operand, hskip]
  simp only [bind, Except.bind, htoken, hpos]
  cases parseInt64? (numberAt v') with
  | some n => exact ⟨_, rfl, ht⟩
  | none => exact rfl

/-- A name counts if it has a value. -/
theorem operand_name (env : Env) (hV : V.Lawful) (hT : T.Held) (hs : s.Before T v)
    (hv : v.dropWhile isBlank = v') (hnumber : numberAt v' = []) (hname : nameAt v' ≠ []) :
    Yields T (V.operand env s)
      (match env.lookup (nameAt v') with
        | some n => .ok (n, v'.drop (nameAt v').length)
        | none => .error (.unknown (nameAt v') (posOf T v'))) := by
  obtain ⟨⟨s₁, h₁⟩, hskip, hs₁⟩ := hV.skipSpace hs hT
  rw [hv] at hs₁
  have hpos : s₁.pos = posOf T v' := hs₁.pos_eq
  have hnoNumber := token?_eq_none hs₁ hT hV.number hnumber
  obtain ⟨t, htoken, ht⟩ := token?_eq_some hs₁ hT hV.name hname
  rw [operand, hskip]
  simp only [bind, Except.bind, hnoNumber, htoken, hpos]
  cases env.lookup (nameAt v') with
  | some n => exact ⟨_, rfl, ht⟩
  | none => exact rfl

/-- Anything else but an opening parenthesis is refused. -/
theorem operand_none (env : Env) (hV : V.Lawful) (hT : T.Held) (hs : s.Before T v)
    (hv : v.dropWhile isBlank = v') (hnumber : numberAt v' = []) (hname : nameAt v' = [])
    (hparen : v'.head? ≠ some '(') :
    Yields T (V.operand env s) (.error (.expected .operand (posOf T v'))) := by
  obtain ⟨⟨s₁, h₁⟩, hskip, hs₁⟩ := hV.skipSpace hs hT
  rw [hv] at hs₁
  have hpos : s₁.pos = posOf T v' := hs₁.pos_eq
  have hnoNumber := token?_eq_none hs₁ hT hV.number hnumber
  have hnoName := token?_eq_none hs₁ hT hV.name hname
  have hnoParen := token?_char_eq_none hs₁ hT hparen
  rw [operand, hskip]
  simp only [bind, Except.bind, hnoNumber, hnoName, hnoParen, hpos]
  exact rfl

/-- A sum in parentheses counts if it is closed. -/
theorem operand_parens (env : Env) (hV : V.Lawful) (hT : T.Held) (hs : s.Before T v) {u : Text}
    (hv : v.dropWhile isBlank = '(' :: u) :
    ∃ t : Scanner, t.Before T u ∧ t.unread < s.unread ∧
      ∀ r, Yields T (V.sum env t) r → Yields T (V.operand env s) (closeParens T r) := by
  obtain ⟨⟨s₁, h₁⟩, hskip, hs₁⟩ := hV.skipSpace hs hT
  rw [hv] at hs₁
  -- Neither a number nor a name begins with a parenthesis.
  have hnoNumber := token?_eq_none hs₁ hT hV.number rfl
  have hnoName := token?_eq_none hs₁ hT hV.name rfl
  obtain ⟨⟨t, h⟩, htoken, ht⟩ := token?_char_eq_some hs₁ hT
  refine ⟨t, ht, Nat.lt_of_lt_of_le h h₁, ?_⟩
  intro r hr
  rw [operand, hskip]
  simp only [bind, Except.bind, hnoNumber, hnoName, htoken]
  cases r with
  | error e =>
    simp only [Yields] at hr
    rw [hr]
    exact rfl
  | ok r =>
    obtain ⟨n, w⟩ := r
    obtain ⟨t₁, hsum, ht₁⟩ := hr
    obtain ⟨⟨t₂, h₂⟩, hskip₂, ht₂⟩ := hV.skipSpace ht₁ hT
    have hpos : t₂.pos = posOf T (w.dropWhile isBlank) := ht₂.pos_eq
    simp only [hsum, hskip₂, hpos, closeParens, Except.bind]
    -- Behind the sum and the blanks, the other parenthesis is there or it is not.
    by_cases hhead : (w.dropWhile isBlank).head? = some ')'
    · obtain ⟨k, hk⟩ := List.head?_eq_some_iff.1 hhead
      rw [hk] at ht₂
      obtain ⟨t₃, htoken₂, ht₃⟩ := token?_char_eq_some ht₂ hT
      rw [if_pos hhead, htoken₂, hk]
      exact ⟨_, rfl, ht₃⟩
    · rw [if_neg hhead, token?_char_eq_none ht₂ hT hhead]
      exact rfl

/-! ### Sums -/

theorem sum_of_error {e : RenderError} (h : Yields T (V.operand env s) (.error e)) :
    Yields T (V.sum env s) (.error e) := by
  rw [sum, h]
  exact rfl

/-- A sum begins with an operand. -/
theorem sum_of_operand {n : Int} {w : Text} (h : Yields T (V.operand env s) (.ok (n, w))) :
    ∃ t : Scanner, t.Before T w ∧ t.unread < s.unread ∧
      ∀ r, Yields T (V.sumFrom env n t) r → Yields T (V.sum env s) r := by
  obtain ⟨⟨t, hlt⟩, hoperand, ht⟩ := h
  refine ⟨t, ht, hlt, ?_⟩
  intro r hr
  rw [sum, hoperand]
  cases r with
  | error e =>
    simp only [Yields] at hr
    simp only [bind, Except.bind, hr]
    exact rfl
  | ok r =>
    obtain ⟨t₁, hsum, ht₁⟩ := hr
    simp only [bind, Except.bind, hsum]
    exact ⟨_, rfl, ht₁⟩

/-- Without another operator the sum ends, behind the blanks. -/
theorem sumFrom_end (hV : V.Lawful) (hT : T.Held) (hs : s.Before T v)
    (hv : v.dropWhile isBlank = v') (hoperator : operatorAt v' = []) (acc : Int) :
    Yields T (V.sumFrom env acc s) (.ok (acc, v')) := by
  obtain ⟨⟨s₁, h₁⟩, hskip, hs₁⟩ := hV.skipSpace hs hT
  rw [hv] at hs₁
  have hnoOperator := token?_eq_none hs₁ hT hV.operator hoperator
  rw [sumFrom, hskip]
  simp only [bind, Except.bind, hnoOperator]
  exact ⟨_, rfl, hs₁⟩

/-- Behind an operator stands an operand, and the sum goes on with both. -/
theorem sumFrom_operator (env : Env) (hV : V.Lawful) (hT : T.Held) (hs : s.Before T v)
    {c : Char} {u : Text} (hv : v.dropWhile isBlank = c :: u) (hc : c = '+' ∨ c = '-') (acc : Int) :
    ∃ t : Scanner, t.Before T u ∧ t.unread < s.unread ∧
      (∀ e, Yields T (V.operand env t) (.error e) → Yields T (V.sumFrom env acc s) (.error e)) ∧
      ∀ n w, Yields T (V.operand env t) (.ok (n, w)) →
        ∃ t' : Scanner, t'.Before T w ∧ t'.unread < t.unread ∧
          ∀ r, Yields T (V.sumFrom env (if c = '+' then acc + n else acc - n) t') r →
            Yields T (V.sumFrom env acc s) r := by
  have hoperator : operatorAt (c :: u) = [c] := by
    rw [operatorAt, List.take_succ_cons, List.take_zero,
      List.filter_cons_of_pos (contains_operators.2 hc), List.filter_nil]
  obtain ⟨⟨s₁, h₁⟩, hskip, hs₁⟩ := hV.skipSpace hs hT
  rw [hv] at hs₁
  have hsome : operatorAt (c :: u) ≠ [] := by
    rw [hoperator]
    exact List.cons_ne_nil c []
  obtain ⟨⟨t, h⟩, htoken, ht⟩ := token?_eq_some hs₁ hT hV.operator hsome
  have hsign : ([c] = ['+']) = (c = '+') := by simp
  rw [hoperator] at htoken ht
  refine ⟨t, ht, Nat.lt_of_lt_of_le h h₁, ?_, ?_⟩
  · intro e he
    simp only [Yields] at he
    rw [sumFrom, hskip]
    simp only [bind, Except.bind, htoken, he]
    exact rfl
  · intro n w hread
    obtain ⟨⟨t', hlt⟩, hoperand, ht'⟩ := hread
    refine ⟨t', ht', hlt, ?_⟩
    intro r hr
    rw [sumFrom, hskip]
    simp only [bind, Except.bind, htoken, hoperand, hsign]
    cases r with
    | error e =>
      simp only [Yields] at hr
      rw [hr]
      exact rfl
    | ok r =>
      obtain ⟨t₁, hsum, ht₁⟩ := hr
      rw [hsum]
      exact ⟨_, rfl, ht₁⟩

end Vocabulary.Lawful

end TextScan.Template
