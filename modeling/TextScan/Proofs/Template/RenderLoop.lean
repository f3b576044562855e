import TextScan.Proofs.Failure
import TextScan.Proofs.Loop
import TextScan.Proofs.Template.RenderAppend

namespace TextScan.Template

/-!
# The loops of rendering

Rendering, turn by turn and cut off after a number of turns. It takes no notice of whether the
cursor moves.

* `Vocabulary.operandHead`, `Vocabulary.sumTurn` and `Vocabulary.renderTurn` are the turns: up to
  the sum in parentheses, from one operator to the next, and from one block to the next.
* `Vocabulary.sumIn` and `Vocabulary.renderIn` are the readers that consist of these turns.
* `Vocabulary.Advances` says that every turn moves the cursor on and that there are enough turns.
  `Vocabulary.Lawful.advances` proves it.
-/

namespace Vocabulary

/-- Reads a number or a name. Where a parenthesis is opened, a sum is to be read behind it. -/
def operandHead (V : Vocabulary) (env : Env) (s : Scanner) :
    Except (Option RenderError) (Turn (Int × Scanner) Scanner) := do
  let (_, s) ← tried RenderError.pattern (s.skip V.space.toPattern)
  match ← tried RenderError.pattern (s.take V.number.toPattern) with
  | (some digits, t) =>
    match parseInt64? digits with
    | some n => return .ends (n, t)
    | none => throw (some (.expected .smallNumber s.pos))
  | (none, t) =>
    match ← tried RenderError.pattern (t.take V.name.toPattern) with
    | (some name, t) =>
      match env.lookup name with
      | some n => return .ends (n, t)
      | none => throw (some (.unknown name s.pos))
    | (none, t) =>
      match ← tried RenderError.pattern (t.take (.char '(')) with
      | (some _, t) => return .goesOn t
      | (none, t) => throw (some (.expected .operand t.pos))

/-- Closes a parenthesis behind a sum. -/
def operandTail (V : Vocabulary) (n : Int) (s : Scanner) :
    Except (Option RenderError) (Int × Scanner) := do
  let (_, s) ← tried RenderError.pattern (s.skip V.space.toPattern)
  match ← tried RenderError.pattern (s.take (.char ')')) with
  | (some _, t) => return (n, t)
  | (none, t) => throw (some (.expected .parenthesis t.pos))

/-- Reads an operator and the operand behind it. -/
def sumTurn (V : Vocabulary) (operand : Scanner → Except (Option RenderError) (Int × Scanner))
    (acc : Int) (s : Scanner) :
    Except (Option RenderError) (Turn (Int × Scanner) (Int × Scanner)) := do
  let (_, s) ← tried RenderError.pattern (s.skip V.space.toPattern)
  match ← tried RenderError.pattern (s.look V.operator.toPattern) with
  | (none, s) => return .ends (acc, s)
  | (some _, s) =>
    let (sign, t) ← tried RenderError.pattern (s.take V.operator.toPattern)
    let (n, t) ← operand t
    return .goesOn (if sign = some ['+'] then acc + n else acc - n, t)

mutual

/-- Reads an operand in at most `n` turns. -/
def operandIn (V : Vocabulary) (env : Env) (n : Nat) (s : Scanner) :
    Except (Option RenderError) (Int × Scanner) :=
  match n with
  | 0 => throw none
  | n + 1 => do
    match ← V.operandHead env s with
    | .ends r => return r
    | .goesOn t =>
      let (m, t) ← sumIn V env n t
      V.operandTail m t

/-- Reads a sum in at most `n` turns. -/
def sumIn (V : Vocabulary) (env : Env) (n : Nat) (s : Scanner) :
    Except (Option RenderError) (Int × Scanner) :=
  match n with
  | 0 => throw none
  | n + 1 => do
    let (m, t) ← operandIn V env n s
    sumFromIn V env n m t

/-- Reads the rest of a sum in at most `n` turns. -/
def sumFromIn (V : Vocabulary) (env : Env) (n : Nat) (acc : Int) (s : Scanner) :
    Except (Option RenderError) (Int × Scanner) :=
  match n with
  | 0 => throw none
  | n + 1 => do
    match ← V.sumTurn (operandIn V env n) acc s with
    | .ends r => return r
    | .goesOn (acc, t) => sumFromIn V env n acc t

end

/-- Closes a block behind a sum and renders it. -/
def blockTail (V : Vocabulary) (out : Text) (n : Int) (s : Scanner) :
    Except (Option RenderError) (Turn Text (Text × Scanner)) := do
  let (_, s) ← tried RenderError.pattern (s.skip V.space.toPattern)
  match ← tried RenderError.pattern (s.take V.blockClose.toPattern) with
  | (some _, t) => return .goesOn (out ++ Text.decimal n, t)
  | (none, t) => throw (some (.expected .blockClose t.pos))

/-- Renders a block, the text up to the next one, or what is left. The loop ends at the end of the
    template. -/
def renderTurn (V : Vocabulary) (env : Env) (n : Nat) (out : Text) (s : Scanner) :
    Except (Option RenderError) (Turn Text (Text × Scanner)) := do
  if s.atEnd then return .ends out
  match ← tried RenderError.pattern (s.take V.blockOpen.toPattern) with
  | (some _, t) =>
    let (m, t) ← V.sumIn env n t
    V.blockTail out m t
  | (none, t) =>
    match ← tried RenderError.pattern (t.locate V.blockOpen.toPattern) with
    | (some k, t) => return .goesOn (out ++ t.peek k, (t.moveTo (t.pos + k)).scanner)
    | (none, t) => return .goesOn (out ++ t.rest, t.finish.scanner)

/-- Renders what lies behind the cursor in at most `n` turns. -/
def renderIn (V : Vocabulary) (env : Env) (n : Nat) (out : Text) (s : Scanner) :
    Except (Option RenderError) Text :=
  match n with
  | 0 => throw none
  | n + 1 => do
    match ← V.renderTurn env n out s with
    | .ends out => return out
    | .goesOn (out, t) => V.renderIn env n out t

/-! ### Operands and sums -/

namespace Lawful

variable {V : Vocabulary} {env : Env} {s s' : Scanner} {T v v' u w : Text}

/-- Where no parenthesis is opened, the turn ends with the operand. -/
theorem operandHead_ends (hV : V.Lawful) (hT : T.Held) (hs : s.Before T v) (hs' : s'.Before T v)
    (hparen : (v.dropWhile isBlank).head? ≠ some '(') {r : Except RenderError (Int × Text)}
    (h : Yields T (V.operand env s) r) :
    ∃ x, V.operandHead env s' = x.map .ends ∧ Answers T x r := by
  generalize hv : v.dropWhile isBlank = v' at hparen
  obtain ⟨k, s₁, hskip, hs₁⟩ := hs'.tried_skipWhile RenderError.pattern hT hV.space
  rw [hv] at hs₁
  have hpos : s₁.pos = posOf T v' := hs₁.pos_eq
  by_cases hnumber : numberAt v' = []
  · obtain ⟨s₂, hnoNumber, hs₂⟩ := hs₁.tried_take_none RenderError.pattern hT hV.number hnumber
    by_cases hname : nameAt v' = []
    · obtain ⟨s₃, hnoName, hs₃⟩ := hs₂.tried_take_none RenderError.pattern hT hV.name hname
      obtain ⟨s₄, hnoParen, hs₄⟩ := hs₃.tried_take_none RenderError.pattern hT
        (Pattern.char_cuts '(') (if_neg hparen)
      have hpos' : s₄.pos = posOf T v' := hs₄.pos_eq
      obtain rfl := (hV.operand_none env hT hs hv hnumber hname hparen).unique h
      refine ⟨.error (some (.expected .operand (posOf T v'))), ?_, rfl⟩
      rw [operandHead, hskip]
      simp only [bind, Except.bind, hnoNumber, hnoName, hnoParen, hpos']
      rfl
    · obtain ⟨t, htoken, ht⟩ := hs₂.tried_take_some RenderError.pattern hT hV.name hname
      obtain rfl := (hV.operand_name env hT hs hv hnumber hname).unique h
      rw [operandHead, hskip]
      simp only [bind, Except.bind, hnoNumber, htoken, hpos]
      cases env.lookup (nameAt v') with
      | some n => exact ⟨.ok (n, t), rfl, t, rfl, ht⟩
      | none => exact ⟨.error (some (.unknown (nameAt v') (posOf T v'))), rfl, rfl⟩
  · obtain ⟨t, htoken, ht⟩ := hs₁.tried_take_some RenderError.pattern hT hV.number hnumber
    obtain rfl := (hV.operand_number env hT hs hv hnumber).unique h
    rw [operandHead, hskip]
    simp only [bind, Except.bind, htoken, hpos]
    cases parseInt64? (numberAt v') with
    | some n => exact ⟨.ok (n, t), rfl, t, rfl, ht⟩
    | none => exact ⟨.error (some (.expected .smallNumber (posOf T v'))), rfl, rfl⟩

/-- A parenthesis is passed before the sum in it is read. -/
theorem operandHead_parens (env : Env) (hV : V.Lawful) (hT : T.Held) (hs : s.Before T v)
    (hv : v.dropWhile isBlank = '(' :: u) :
    ∃ t, V.operandHead env s = .ok (.goesOn t) ∧ t.Before T u := by
  obtain ⟨k, s₁, hskip, hs₁⟩ := hs.tried_skipWhile RenderError.pattern hT hV.space
  rw [hv] at hs₁
  obtain ⟨s₂, hnoNumber, hs₂⟩ := hs₁.tried_take_none RenderError.pattern hT hV.number rfl
  obtain ⟨s₃, hnoName, hs₃⟩ := hs₂.tried_take_none RenderError.pattern hT hV.name rfl
  obtain ⟨t, hparen, ht⟩ := hs₃.tried_take_some RenderError.pattern hT (Pattern.char_cuts '(')
    (List.cons_ne_nil _ _)
  refine ⟨t, ?_, ht⟩
  rw [operandHead, hskip]
  simp only [bind, Except.bind, hnoNumber, hnoName, hparen]
  rfl

/-- A parenthesis is closed if it can be. -/
theorem operandTail_answers (hV : V.Lawful) (hT : T.Held) (hs : s.Before T w) (n : Int) :
    Answers T (V.operandTail n s) (closeParens T (.ok (n, w))) := by
  obtain ⟨k, s₁, hskip, hs₁⟩ := hs.tried_skipWhile RenderError.pattern hT hV.space
  rw [operandTail, hskip]
  simp only [bind, Except.bind, closeParens]
  generalize w.dropWhile isBlank = w' at hs₁ ⊢
  by_cases hparen : w'.head? = some ')'
  · obtain ⟨u, rfl⟩ := List.head?_eq_some_iff.1 hparen
    obtain ⟨t, hclose, ht⟩ := hs₁.tried_take_some RenderError.pattern hT (Pattern.char_cuts ')')
      (List.cons_ne_nil _ _)
    rw [hclose]
    exact ⟨t, rfl, ht⟩
  · obtain ⟨t, hnoClose, ht⟩ := hs₁.tried_take_none RenderError.pattern hT (Pattern.char_cuts ')')
      (if_neg hparen)
    have hpos : t.pos = posOf T w' := ht.pos_eq
    rw [hnoClose, if_neg hparen, ← hpos]
    exact rfl

/-- Where no operator stands, the loop ends. -/
theorem sumTurn_ends (hV : V.Lawful) (hT : T.Held) (hs : s.Before T v)
    (hnone : operatorAt (v.dropWhile isBlank) = [])
    (operand : Scanner → Except (Option RenderError) (Int × Scanner)) (acc : Int) :
    ∃ t, V.sumTurn operand acc s = .ok (.ends (acc, t)) ∧ t.Before T (v.dropWhile isBlank) := by
  obtain ⟨k, s₁, hskip, hs₁⟩ := hs.tried_skipWhile RenderError.pattern hT hV.space
  obtain ⟨t, hlook, ht⟩ := hs₁.tried_look RenderError.pattern hT hV.operator
  rw [if_pos hnone] at hlook
  refine ⟨t, ?_, ht⟩
  rw [sumTurn, hskip]
  simp only [bind, Except.bind, hlook]
  rfl

/-- Behind an operator, the loop goes on with the operand there. -/
theorem sumTurn_operator (hV : V.Lawful) (hT : T.Held) (hs : s.Before T v) {c : Char}
    (hv : v.dropWhile isBlank = c :: u) (hc : c = '+' ∨ c = '-')
    (operand : Scanner → Except (Option RenderError) (Int × Scanner)) (acc : Int) :
    ∃ t, t.Before T u ∧ V.sumTurn operand acc s = (operand t).map fun (n, t) =>
      .goesOn (if c = '+' then acc + n else acc - n, t) := by
  obtain ⟨k, s₁, hskip, hs₁⟩ := hs.tried_skipWhile RenderError.pattern hT hV.space
  rw [hv] at hs₁
  have hoperator : operatorAt (c :: u) = [c] := by
    rw [operatorAt, List.take_succ_cons, List.take_zero,
      List.filter_cons_of_pos (contains_operators.2 hc), List.filter_nil]
  have hsome : operatorAt (c :: u) ≠ [] := by
    rw [hoperator]
    exact List.cons_ne_nil c []
  obtain ⟨s₂, hlook, hs₂⟩ := hs₁.tried_look RenderError.pattern hT hV.operator
  obtain ⟨t, htake, ht⟩ := hs₂.tried_take_some RenderError.pattern hT hV.operator hsome
  rw [if_neg hsome, hoperator] at hlook
  rw [hoperator] at htake ht
  have hsign : (some [c] = some ['+']) = (c = '+') := by simp
  refine ⟨t, ht, ?_⟩
  rw [sumTurn, hskip]
  simp only [bind, Except.bind, hlook, htake, hsign]
  cases operand t <;> rfl

mutual

theorem operandIn_within (hV : V.Lawful) (hT : T.Held) (n : Nat) {s s' : Scanner} {v : Text}
    {r : Except RenderError (Int × Text)} (hs : s.Before T v) (hs' : s'.Before T v)
    (h : Yields T (V.operand env s) r) :
    AnswersWithin n (2 * v.length + 1) T (V.operandIn env n s') r := by
  cases n with
  | zero => exact .inl ⟨rfl, Nat.succ_pos _⟩
  | succ n =>
    by_cases hparen : (v.dropWhile isBlank).head? = some '('
    · obtain ⟨u, hv⟩ := List.head?_eq_some_iff.1 hparen
      have hlen := Text.length_lt_of_dropWhile_eq_cons hv
      obtain ⟨t, ht, -, hstep⟩ := hV.operand_parens env hT hs hv
      obtain ⟨t', hhead, ht'⟩ := hV.operandHead_parens env hT hs' hv
      obtain ⟨r', hr', -⟩ := hV.sum_sound hT ht
      obtain rfl := (hstep r' hr').unique h
      have hread : V.operandIn env (n + 1) s' =
          (V.sumIn env n t').bind fun (m, t) => V.operandTail m t := by
        rw [operandIn, hhead]
        rfl
      rw [hread]
      rcases sumIn_within hV hT n ht ht' hr' with ⟨hcut, hlt⟩ | hanswer
      · exact .inl ⟨by rw [hcut]; rfl, by omega⟩
      · right
        cases r' with
        | error e =>
          simp only [Answers] at hanswer
          rw [hanswer]
          exact rfl
        | ok r' =>
          obtain ⟨t₁, hsum, ht₁⟩ := hanswer
          rw [hsum]
          exact hV.operandTail_answers hT ht₁ _
    · obtain ⟨x, hhead, hanswer⟩ := hV.operandHead_ends hT hs hs' hparen h
      right
      rw [operandIn, hhead]
      cases x <;> exact hanswer
termination_by n

theorem sumIn_within (hV : V.Lawful) (hT : T.Held) (n : Nat) {s s' : Scanner} {v : Text}
    {r : Except RenderError (Int × Text)} (hs : s.Before T v) (hs' : s'.Before T v)
    (h : Yields T (V.sum env s) r) :
    AnswersWithin n (2 * v.length + 2) T (V.sumIn env n s') r := by
  cases n with
  | zero => exact .inl ⟨rfl, Nat.succ_pos _⟩
  | succ n =>
    obtain ⟨r', hr', hsound⟩ := hV.operand_sound hT hs
    rw [sumIn]
    rcases operandIn_within hV hT n hs hs' hr' with ⟨hcut, hlt⟩ | hanswer
    · exact .inl ⟨by rw [hcut]; rfl, by omega⟩
    · cases r' with
      | error e =>
        obtain rfl := (sum_of_error hr').unique h
        simp only [Answers] at hanswer
        rw [hanswer]
        exact .inr rfl
      | ok r' =>
        obtain ⟨m, u⟩ := r'
        obtain ⟨t', hoperand, ht'⟩ := hanswer
        obtain ⟨x, rfl, -⟩ := hsound m u rfl
        obtain ⟨t, ht, -, hstep⟩ := sum_of_operand hr'
        obtain ⟨r', hrest⟩ := hV.exists_readsFrom_sumFrom env (ht.held hT) m
        obtain rfl := (hstep _ (hrest hT ht)).unique h
        rw [hoperand]
        rcases sumFromIn_within hV hT n ht ht' (hrest hT ht) with ⟨hcut, hlt⟩ | hanswer
        · rw [List.length_append]
          exact .inl ⟨hcut, by omega⟩
        · exact .inr hanswer
termination_by n

theorem sumFromIn_within (hV : V.Lawful) (hT : T.Held) (n : Nat) {s s' : Scanner} {v : Text}
    {acc : Int} {r : Except RenderError (Int × Text)} (hs : s.Before T v) (hs' : s'.Before T v)
    (h : Yields T (V.sumFrom env acc s) r) :
    AnswersWithin n (2 * v.length + 1) T (V.sumFromIn env n acc s') r := by
  cases n with
  | zero => exact .inl ⟨rfl, Nat.succ_pos _⟩
  | succ n =>
    rw [sumFromIn]
    by_cases hoperator : operatorAt (v.dropWhile isBlank) = []
    · obtain ⟨t, hturn, ht⟩ := hV.sumTurn_ends hT hs' hoperator (V.operandIn env n) acc
      obtain rfl := (hV.sumFrom_end hT hs rfl hoperator acc).unique h
      rw [hturn]
      exact .inr ⟨t, rfl, ht⟩
    · obtain ⟨c, u, hv, hc⟩ := operatorAt_ne_nil hoperator
      have hlen := Text.length_lt_of_dropWhile_eq_cons hv
      obtain ⟨t', ht', hturn⟩ := hV.sumTurn_operator hT hs' hv hc (V.operandIn env n) acc
      obtain ⟨t, ht, -, herror, hstep⟩ := hV.sumFrom_operator env hT hs hv hc acc
      obtain ⟨r', hr', hsound⟩ := hV.operand_sound hT ht
      rw [hturn]
      rcases operandIn_within hV hT n ht ht' hr' with ⟨hcut, hlt⟩ | hanswer
      · exact .inl ⟨by rw [hcut]; rfl, by omega⟩
      · cases r' with
        | error e =>
          obtain rfl := (herror e hr').unique h
          simp only [Answers] at hanswer
          rw [hanswer]
          exact .inr rfl
        | ok r' =>
          obtain ⟨m, w⟩ := r'
          obtain ⟨t₁', hoperand, ht₁'⟩ := hanswer
          obtain ⟨x, rfl, -⟩ := hsound m w rfl
          obtain ⟨t₁, ht₁, -, hgo⟩ := hstep m w hr'
          obtain ⟨r', hrest⟩ := hV.exists_readsFrom_sumFrom env (ht₁.held hT)
            (if c = '+' then acc + m else acc - m)
          obtain rfl := (hgo _ (hrest hT ht₁)).unique h
          rw [List.length_append] at hlen
          rw [hoperand]
          rcases sumFromIn_within hV hT n ht₁ ht₁' (hrest hT ht₁) with ⟨hcut, hlt⟩ | hanswer
          · exact .inl ⟨hcut, by omega⟩
          · exact .inr hanswer
termination_by n

end

/-! ### Templates -/

/-- At the end, the loop ends. -/
theorem renderTurn_ends (n : Nat) (out : Text) (hs : s.Before T []) :
    V.renderTurn env n out s = .ok (.ends out) := by
  rw [renderTurn, hs.atEnd_eq]
  rfl

/-- Where no block lies ahead, all is passed. -/
theorem renderTurn_text (env : Env) (hV : V.Lawful) (hT : T.Held) (n : Nat) (out : Text)
    (hs : s.Before T v) (hv : v ≠ []) (hnot : ¬ openBraces <:+: v) :
    ∃ t, V.renderTurn env n out s = .ok (.goesOn (out ++ v, t)) ∧ t.Before T [] := by
  obtain ⟨s₁, htake, hs₁⟩ := hs.tried_take_literal_none RenderError.pattern (List.cons_ne_nil _ _)
    hV.blockOpen hT fun hbegins => hnot hbegins.isInfix
  have hlocate : tried RenderError.pattern (s₁.locate V.blockOpen.toPattern) =
      .ok (none, (s₁.locate V.blockOpen.toPattern).scanner) := by
    rw [tried, hV.blockOpen, hs₁.locate_literal_of_not_infix hnot]
  have hs₂ := hs₁.locate V.blockOpen.toPattern
  have hempty : v.isEmpty = false := List.isEmpty_eq_false_iff.2 hv
  refine ⟨_, ?_, hs₂.finish⟩
  rw [renderTurn, hs.atEnd_eq, hempty]
  simp only [bind, Except.bind, htake, hlocate, hs₂.rest_eq]
  rfl

/-- Text is passed up to the block ahead. -/
theorem renderTurn_textBlock (env : Env) (hV : V.Lawful) (hT : T.Held) (n : Nat) (out : Text)
    (hs : s.Before T v) (hfirst : openBraces.FirstIn v u w) (hu : u ≠ []) :
    ∃ t, V.renderTurn env n out s = .ok (.goesOn (out ++ u, t)) ∧
      t.Before T (openBraces ++ w) := by
  have hnot : ¬ openBraces <+: v := by
    rintro ⟨w', hw'⟩
    exact hu (List.length_eq_zero_iff.1 (Nat.le_zero.1 (hfirst.least [] w' hw'.symm)))
  obtain ⟨s₁, htake, hs₁⟩ := hs.tried_take_literal_none RenderError.pattern (List.cons_ne_nil _ _)
    hV.blockOpen hT hnot
  have hlocate : tried RenderError.pattern (s₁.locate V.blockOpen.toPattern) =
      .ok (some u.length, (s₁.locate V.blockOpen.toPattern).scanner) := by
    rw [tried, hV.blockOpen, hs₁.locate_literal_of_firstIn hT hfirst]
  have hs₂ := hs₁.locate V.blockOpen.toPattern
  obtain rfl := hfirst.eq_append
  have hpeek : (s₁.locate V.blockOpen.toPattern).scanner.peek u.length = u := by
    rw [Cursor.peek, hs₂.rest_eq, List.take_left]
  have hempty : (u ++ (openBraces ++ w)).isEmpty = false :=
    List.isEmpty_eq_false_iff.2 (List.append_ne_nil_of_left_ne_nil hu _)
  refine ⟨_, ?_, hs₂.moveTo_append⟩
  rw [renderTurn, hs.atEnd_eq, hempty]
  simp only [bind, Except.bind, htake, hlocate, hpeek]
  rfl

/-- A block is closed if it can be. -/
theorem blockTail_eq (hV : V.Lawful) (hT : T.Held) (hs : s.Before T w) (out : Text) (n : Int) :
    (¬ closeBraces <+: w.dropWhile isBlank → V.blockTail out n s =
      .error (some (.expected .blockClose (posOf T (w.dropWhile isBlank))))) ∧
      ∀ k, w.dropWhile isBlank = closeBraces ++ k →
        ∃ t, V.blockTail out n s = .ok (.goesOn (out ++ Text.decimal n, t)) ∧ t.Before T k := by
  obtain ⟨k, s₁, hskip, hs₁⟩ := hs.tried_skipWhile RenderError.pattern hT hV.space
  rw [blockTail, hskip]
  simp only [bind, Except.bind]
  constructor
  · intro hnot
    obtain ⟨t, hnoClose, ht⟩ := hs₁.tried_take_literal_none RenderError.pattern
      (List.cons_ne_nil _ _) hV.blockClose hT hnot
    have hpos : t.pos = posOf T (w.dropWhile isBlank) := ht.pos_eq
    rw [hnoClose, ← hpos]
    rfl
  · intro k hk
    rw [hk] at hs₁
    obtain ⟨t, hclose, ht⟩ := hs₁.tried_take_literal_some RenderError.pattern
      (List.cons_ne_nil _ _) hV.blockClose hT
    exact ⟨t, by rw [hclose]; rfl, ht⟩

/-- A block is rendered with the sum in it. -/
theorem renderTurn_block (env : Env) (hV : V.Lawful) (hT : T.Held) (n : Nat) (out : Text)
    (hs : s.Before T (openBraces ++ u)) : ∃ t : Scanner, t.Before T u ∧
      V.renderTurn env n out s = (V.sumIn env n t).bind fun (m, t) => V.blockTail out m t := by
  obtain ⟨t, hopen, ht⟩ := hs.tried_take_literal_some RenderError.pattern (List.cons_ne_nil _ _)
    hV.blockOpen hT
  have hempty : (openBraces ++ u).isEmpty = false := rfl
  refine ⟨t, ht, ?_⟩
  rw [renderTurn, hs.atEnd_eq, hempty]
  simp only [bind, Except.bind, hopen]
  cases V.sumIn env n t <;> rfl

/-- A block is rendered in turns as it is rendered, if what lies behind it is. -/
theorem renderIn_block_within (hV : V.Lawful) (hT : T.Held) (n : Nat) (out : Text)
    (hs : s.Before T (openBraces ++ u)) (hs' : s'.Before T (openBraces ++ u))
    (hrest : ∀ (out k : Text) (t t' : Scanner), k.length < u.length → t.Before T k →
      t'.Before T k → GivesWithin n (2 * k.length + 1) (V.renderIn env n out t')
        ((V.renderFrom env t).map (out ++ ·))) :
    GivesWithin (n + 1) (2 * (openBraces ++ u).length + 1) (V.renderIn env (n + 1) out s')
      ((V.renderFrom env s).map (out ++ ·)) := by
  obtain ⟨t, ht, -, herror, hblock⟩ := hV.renderFrom_block env hT hs
  obtain ⟨t', ht', hturn⟩ := hV.renderTurn_block env hT n out hs'
  obtain ⟨r, hr, -⟩ := hV.sum_sound hT ht
  have hlen : (openBraces ++ u).length = u.length + 2 := rfl
  rw [renderIn, hturn]
  rcases hV.sumIn_within hT n ht ht' hr with ⟨hcut, hlt⟩ | hanswer
  · exact .inl ⟨by rw [hcut]; rfl, by omega⟩
  cases r with
  | error e =>
    simp only [Answers] at hanswer
    rw [hanswer, herror e hr]
    exact .inr rfl
  | ok r =>
    obtain ⟨m, w⟩ := r
    obtain ⟨t₁, hsum, ht₁⟩ := hanswer
    obtain ⟨hopen, hclosed⟩ := hblock m w hr
    obtain ⟨hnoTail, htail⟩ := hV.blockTail_eq hT ht₁ out m
    simp only [hsum, Except.bind]
    by_cases hclose : closeBraces <+: w.dropWhile isBlank
    · obtain ⟨k, hk⟩ := hclose
      obtain ⟨t₂, ht₂, hlt, hgo⟩ := hclosed k hk.symm
      obtain ⟨t₂', hturn', ht₂'⟩ := htail k hk.symm
      rw [ht₂.unread_eq, ht.unread_eq] at hlt
      rw [hgo, map_append_map_append, hturn']
      exact (hrest _ k t₂ t₂' hlt ht₂ ht₂').succ (by omega)
    · rw [hopen hclose, hnoTail hclose]
      exact .inr rfl

/-- Rendering in turns gives the text or the error of rendering, or it is cut off. -/
theorem renderIn_within (hV : V.Lawful) (hT : T.Held) (n : Nat) (out : Text)
    (hs : s.Before T v) (hs' : s'.Before T v) :
    GivesWithin n (2 * v.length + 1) (V.renderIn env n out s')
      ((V.renderFrom env s).map (out ++ ·)) := by
  induction n generalizing s s' v out with
  | zero => exact .inl ⟨rfl, Nat.succ_pos _⟩
  | succ n ih =>
    by_cases hempty : v = []
    · subst hempty
      rw [renderIn, renderTurn_ends n out hs', hV.renderFrom_text hT hs (by decide)]
      right
      show Except.ok out = Except.ok (out ++ [])
      rw [List.append_nil]
    by_cases hinfix : openBraces <:+: v
    · obtain ⟨u, w, hfirst⟩ := Pattern.exists_firstIn hinfix
      by_cases hu : u = []
      · subst hu
        obtain rfl := hfirst.eq_append
        exact hV.renderIn_block_within hT n out hs hs' fun out k t t' _ ht ht' => ih out ht ht'
      · obtain ⟨t, ht, -, hgo⟩ := hV.renderFrom_textBlock env hT hs hfirst hu
        obtain ⟨t', hturn, ht'⟩ := hV.renderTurn_textBlock env hT n out hs' hfirst hu
        have hlen := List.length_pos_iff.2 hu
        rw [hgo, map_append_map_append, renderIn, hturn, hfirst.eq_append, List.length_append]
        exact (ih (out ++ u) ht ht').succ (by omega)
    · obtain ⟨t', hturn, ht'⟩ := hV.renderTurn_text env hT n out hs' hempty hinfix
      have hlen := List.length_pos_iff.2 hempty
      have hread : GivesWithin (n + 1) (2 * v.length + 1) (V.renderIn env n (out ++ v) t')
          (.ok (out ++ v ++ [])) := by
        have hend := ih (out ++ v) ht' ht'
        rw [hV.renderFrom_text hT ht' (by decide), List.length_nil] at hend
        exact hend.succ (by omega)
      rw [renderIn, hturn, hV.renderFrom_text hT hs hinfix]
      rwa [List.append_nil] at hread

/-! ### Every turn moves on -/

/-- A parenthesis is behind the cursor before the sum in it is read. -/
theorem operandHead_movesOn (hV : V.Lawful) (hT : T.Held) (hs : s.Before T v) {t : Scanner}
    (h : V.operandHead env s = .ok (.goesOn t)) : s.MovesOn T t := by
  by_cases hparen : (v.dropWhile isBlank).head? = some '('
  · obtain ⟨u, hv⟩ := List.head?_eq_some_iff.1 hparen
    have hlen := Text.length_lt_of_dropWhile_eq_cons hv
    obtain ⟨t', hhead, ht'⟩ := hV.operandHead_parens env hT hs hv
    obtain rfl := Turn.goesOn.inj (Except.ok.inj (hhead.symm.trans h))
    exact hs.movesOn ht' hlen
  · obtain ⟨r, hr, -⟩ := hV.operand_sound hT hs
    obtain ⟨x, hhead, -⟩ := hV.operandHead_ends hT hs hs hparen hr
    rw [hhead] at h
    cases x <;> cases h

/-- An operator and the operand behind it are passed in a turn. -/
theorem sumTurn_movesOn (hV : V.Lawful) (hT : T.Held) (hs : s.Before T v) (n : Nat)
    {acc acc' : Int} {t : Scanner}
    (h : V.sumTurn (V.operandIn env n) acc s = .ok (.goesOn (acc', t))) : s.MovesOn T t := by
  by_cases hoperator : operatorAt (v.dropWhile isBlank) = []
  · obtain ⟨t', hturn, -⟩ := hV.sumTurn_ends hT hs hoperator (V.operandIn env n) acc
    rw [hturn] at h
    cases h
  · obtain ⟨c, u, hv, hc⟩ := operatorAt_ne_nil hoperator
    have hlen := Text.length_lt_of_dropWhile_eq_cons hv
    obtain ⟨t', ht', hturn⟩ := hV.sumTurn_operator hT hs hv hc (V.operandIn env n) acc
    obtain ⟨r, hr, hsound⟩ := hV.operand_sound hT ht'
    have hwithin := hV.operandIn_within hT n ht' ht' hr
    rw [hturn] at h
    obtain ⟨⟨m, t₁⟩, hoperand, hgo⟩ := exists_of_map_eq_ok h
    obtain ⟨-, rfl⟩ := Prod.mk.inj (Turn.goesOn.inj hgo)
    rw [hoperand] at hwithin
    obtain ⟨w, rfl, ht₁⟩ := hwithin.exists_of_ok
    obtain ⟨x, rfl, -⟩ := hsound m w rfl
    rw [List.length_append] at hlen
    exact hs.movesOn ht₁ (by omega)

/-- A block is passed in a turn. -/
theorem renderTurn_block_movesOn (hV : V.Lawful) (hT : T.Held) (hs : s.Before T (openBraces ++ u))
    (n : Nat) {out out' : Text} {t : Scanner}
    (h : V.renderTurn env n out s = .ok (.goesOn (out', t))) : s.MovesOn T t := by
  obtain ⟨t', ht', hturn⟩ := hV.renderTurn_block env hT n out hs
  obtain ⟨r, hr, hsound⟩ := hV.sum_sound hT ht'
  have hwithin := hV.sumIn_within hT n ht' ht' hr
  rw [hturn] at h
  obtain ⟨⟨m, t₁⟩, hsum, hgo⟩ := exists_of_bind_eq_ok h
  rw [hsum] at hwithin
  obtain ⟨w, rfl, ht₁⟩ := hwithin.exists_of_ok
  obtain ⟨x, b, rfl, -, -⟩ := hsound m w rfl
  obtain ⟨hnoTail, htail⟩ := hV.blockTail_eq hT ht₁ out m
  by_cases hclose : closeBraces <+: w.dropWhile isBlank
  · obtain ⟨k, hk⟩ := hclose
    obtain ⟨t₂, hturn', ht₂⟩ := htail k hk.symm
    have hlen := (List.dropWhile_suffix isBlank (l := w)).length_le
    rw [← hk] at hlen
    refine hs.movesOn_of_goesOn ht₂ hturn' hgo ?_
    simp only [List.length_append] at hlen ⊢
    have hbraces : closeBraces.length = 2 := rfl
    omega
  · cases (hnoTail hclose).symm.trans hgo

/-- Every turn of rendering passes a block, the text in front of it, or what is left. -/
theorem renderTurn_movesOn (hV : V.Lawful) (hT : T.Held) (hs : s.Before T v) (n : Nat)
    {out out' : Text} {t : Scanner} (h : V.renderTurn env n out s = .ok (.goesOn (out', t))) :
    s.MovesOn T t := by
  by_cases hempty : v = []
  · subst hempty
    rw [renderTurn_ends n out hs] at h
    cases h
  by_cases hinfix : openBraces <:+: v
  · obtain ⟨u, w, hfirst⟩ := Pattern.exists_firstIn hinfix
    by_cases hu : u = []
    · subst hu
      obtain rfl := hfirst.eq_append
      exact hV.renderTurn_block_movesOn hT hs n h
    · obtain ⟨t', hturn, ht'⟩ := hV.renderTurn_textBlock env hT n out hs hfirst hu
      refine hs.movesOn_of_goesOn ht' hturn h ?_
      have hlen := List.length_pos_iff.2 hu
      rw [hfirst.eq_append]
      simp only [List.length_append]
      omega
  · obtain ⟨t', hturn, ht'⟩ := hV.renderTurn_text env hT n out hs hempty hinfix
    exact hs.movesOn_of_goesOn ht' hturn h (List.length_pos_iff.2 hempty)

/-- Where no block begins at the cursor, the next one is some characters away. -/
theorem located_ne_zero (hV : V.Lawful) (hT : T.Held) (hs : s.Before T v) {t t' : Scanner} {k : Nat}
    (hnone : tried RenderError.pattern (s.take V.blockOpen.toPattern) = .ok (none, t))
    (hsome : tried RenderError.pattern (t.locate V.blockOpen.toPattern) = .ok (some k, t')) :
    k ≠ 0 := by
  have hnot : ¬ openBraces <+: v := by
    rintro ⟨w, rfl⟩
    obtain ⟨t', htake, -⟩ := hs.tried_take_literal_some RenderError.pattern (List.cons_ne_nil _ _)
      hV.blockOpen hT
    rw [hnone] at htake
    cases htake
  obtain ⟨s₁, htake, hs₁⟩ := hs.tried_take_literal_none RenderError.pattern (List.cons_ne_nil _ _)
    hV.blockOpen hT hnot
  obtain ⟨-, rfl⟩ := Prod.mk.inj (Except.ok.inj (hnone.symm.trans htake))
  rw [tried, hV.blockOpen] at hsome
  by_cases hinfix : openBraces <:+: v
  · obtain ⟨u, w, hfirst⟩ := Pattern.exists_firstIn hinfix
    rw [hs₁.locate_literal_of_firstIn hT hfirst] at hsome
    obtain ⟨hk, -⟩ := Prod.mk.inj (Except.ok.inj hsome)
    obtain rfl := Option.some.inj hk
    rintro hu
    obtain rfl := List.length_eq_zero_iff.1 hu
    exact hnot ⟨w, hfirst.eq_append.symm⟩
  · rw [hs₁.locate_literal_of_not_infix hinfix] at hsome
    cases hsome

end Lawful

/-! ### Rendering ends -/

/-- Rendering a text by turns comes to an end, since each of them moves the cursor on. -/
structure Advances (V : Vocabulary) (env : Env) (T : Text) : Prop where
  /-- A turn of rendering passes something, or it is the last one. -/
  render : ∀ (n : Nat) (out out' : Text) (s t : Scanner), s.Over T →
    V.renderTurn env n out s = .ok (.goesOn (out', t)) → s.MovesOn T t
  /-- A turn of a sum passes something, or it is the last one. -/
  sum : ∀ (n : Nat) (acc acc' : Int) (s t : Scanner), s.Over T →
    V.sumTurn (V.operandIn env n) acc s = .ok (.goesOn (acc', t)) → s.MovesOn T t
  /-- A sum within an operand is read behind something. -/
  operand : ∀ s t : Scanner, s.Over T → V.operandHead env s = .ok (.goesOn t) → s.MovesOn T t
  /-- Text in front of a block is not empty. -/
  located : ∀ (s t t' : Scanner) (k : Nat), s.Over T →
    tried RenderError.pattern (s.take V.blockOpen.toPattern) = .ok (none, t) →
    tried RenderError.pattern (t.locate V.blockOpen.toPattern) = .ok (some k, t') → k ≠ 0
  /-- With enough turns, rendering is not cut off. -/
  ends : ∀ n, 2 * T.length < n →
    V.renderIn env n [] (Scanner.new T) = (V.render env T).mapError some

theorem Lawful.advances {V : Vocabulary} {T : Text} (hV : V.Lawful) (env : Env) (hT : T.Held) :
    V.Advances env T where
  render n _ _ _ _ := fun ⟨_, hs⟩ h => hV.renderTurn_movesOn hT hs n h
  sum n _ _ _ _ := fun ⟨_, hs⟩ h => hV.sumTurn_movesOn hT hs n h
  operand _ _ := fun ⟨_, hs⟩ h => hV.operandHead_movesOn hT hs h
  located _ _ _ _ := fun ⟨_, hs⟩ hnone hsome => hV.located_ne_zero hT hs hnone hsome
  ends n hn := by
    have hs := Scanner.new_before T
    have hwithin : GivesWithin n _ (V.renderIn env n [] (Scanner.new T)) _ :=
      hV.renderIn_within hT n [] hs hs
    rcases hwithin with ⟨-, hlt⟩ | hread
    · omega
    · rw [hread, render]
      cases V.renderFrom env (Scanner.new T) <;> rfl

end Vocabulary

end TextScan.Template
