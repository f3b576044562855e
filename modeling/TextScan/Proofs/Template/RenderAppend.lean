import TextScan.Proofs.Movable
import TextScan.Proofs.Template.Render

namespace TextScan.Template

/-!
# Templates one behind the other

Nothing in a template that is rendered reaches into what stands behind it, and what stands behind it
does not know what stands in front. Only a brace at the end could meet another one.

* `RenderError.shift` moves the position that an error names.
* `Vocabulary.Lawful.exists_readsFrom_operand`, `exists_readsFrom_sum` and `exists_givesFrom` say
  that rendering is told by what is left of the template, up to such moves.
* `Vocabulary.Lawful.renderFrom_of_renders_append` renders what is derived in front of anything.
* `render_append` is the result.
-/

/-- The error with `n` more characters in front. -/
def RenderError.shift (n : Nat) : RenderError → RenderError
  | pattern e => pattern e
  | expected what pos => expected what (n + pos)
  | unknown name pos => unknown name (n + pos)

instance : Movable RenderError where
  move := RenderError.shift
  move_move m n e := by cases e <;> simp only [RenderError.shift, Nat.add_assoc]

/-- A closing parenthesis is read in a longer text as in the text that is left of it. -/
theorem closeParens_move {T v : Text} {r : Except RenderError (Int × Text)} (hv : v <:+ T)
    (hr : ∀ n w, r = .ok (n, w) → w <:+ v) :
    closeParens T (move (posOf T v) r) = move (posOf T v) (closeParens v r) := by
  cases r with
  | error e => rfl
  | ok r =>
    obtain ⟨n, w⟩ := r
    have hpos := posOf_trans hv ((List.dropWhile_suffix isBlank).trans (hr n w rfl))
    show closeParens T (.ok (n, w)) = move (posOf T v) (closeParens v (.ok (n, w)))
    simp only [closeParens, Except.bind]
    split
    · rfl
    · rw [← hpos]
      rfl

namespace Vocabulary.Lawful

variable {V : Vocabulary} {env : Env} {T : Text}

/-! ### Reading is told by what is left -/

mutual

theorem exists_readsFrom_operand (env : Env) (hV : V.Lawful) {v : Text} (hv : v.Held) :
    ∃ r, ReadsFrom (V.operand env) v r := by
  obtain ⟨b, hsplit, -⟩ := blanks_append_dropWhile v
  generalize hv' : v.dropWhile isBlank = v' at hsplit
  have hsuffix : v' <:+ v := ⟨b, hsplit.symm⟩
  -- The cases are those of the reader, in its order.
  by_cases hnumber : numberAt v' = []
  · by_cases hname : nameAt v' = []
    · by_cases hparen : v'.head? = some '('
      · obtain ⟨u, rfl⟩ := List.head?_eq_some_iff.1 hparen
        have hu : u <:+ v := (List.suffix_cons _ u).trans hsuffix
        have huHeld : Text.Held u := hv.of_isSuffix hu
        have hlt : u.length < v.length := hsuffix.length_le
        obtain ⟨r, hr⟩ := exists_readsFrom_sum env hV huHeld
        refine ⟨move (posOf v u) (closeParens u r), fun T s hT hs => ?_⟩
        obtain ⟨t, ht, -, hstep⟩ := hV.operand_parens env hT hs hv'
        have hread := hstep _ (hr hT ht)
        rw [closeParens_move ht.isSuffix fun n w h => (h ▸ hr).isSuffix huHeld] at hread
        rwa [move_move, posOf_trans hs.isSuffix hu]
      · refine ⟨.error (.expected .operand (posOf v v')), fun T s hT hs => ?_⟩
        have hread := hV.operand_none env hT hs hv' hnumber hname hparen
        rwa [← posOf_trans hs.isSuffix hsuffix] at hread
    · cases hlookup : env.lookup (nameAt v') with
      | some n =>
        refine ⟨.ok (n, v'.drop (nameAt v').length), fun T s hT hs => ?_⟩
        have hread := hV.operand_name env hT hs hv' hnumber hname
        rwa [hlookup] at hread
      | none =>
        refine ⟨.error (.unknown (nameAt v') (posOf v v')), fun T s hT hs => ?_⟩
        have hread := hV.operand_name env hT hs hv' hnumber hname
        rwa [hlookup, ← posOf_trans hs.isSuffix hsuffix] at hread
  · cases hparse : parseInt64? (numberAt v') with
    | some n =>
      refine ⟨.ok (n, v'.drop (numberAt v').length), fun T s hT hs => ?_⟩
      have hread := hV.operand_number env hT hs hv' hnumber
      rwa [hparse] at hread
    | none =>
      refine ⟨.error (.expected .smallNumber (posOf v v')), fun T s hT hs => ?_⟩
      have hread := hV.operand_number env hT hs hv' hnumber
      rwa [hparse, ← posOf_trans hs.isSuffix hsuffix] at hread
termination_by 2 * v.length

theorem exists_readsFrom_sum (env : Env) (hV : V.Lawful) {v : Text} (hv : v.Held) :
    ∃ r, ReadsFrom (V.sum env) v r := by
  obtain ⟨r, hr⟩ := exists_readsFrom_operand env hV hv
  cases r with
  | error e => exact ⟨.error e, fun T s hT hs => sum_of_error (hr hT hs)⟩
  | ok r =>
    obtain ⟨n, w⟩ := r
    have hw := hr.isSuffix hv
    have hlt := hr.length_lt hv
    obtain ⟨r, hfrom⟩ := exists_readsFrom_sumFrom env hV (hv.of_isSuffix hw) n
    refine ⟨move (posOf v w) r, fun T s hT hs => ?_⟩
    obtain ⟨t, ht, -, hstep⟩ := sum_of_operand (hr hT hs)
    rw [move_move, posOf_trans hs.isSuffix hw]
    exact hstep _ (hfrom hT ht)
termination_by 2 * v.length + 1

theorem exists_readsFrom_sumFrom (env : Env) (hV : V.Lawful) {v : Text} (hv : v.Held)
    (acc : Int) :
    ∃ r, ReadsFrom (V.sumFrom env acc) v r := by
  obtain ⟨b, hsplit, -⟩ := blanks_append_dropWhile v
  generalize hv' : v.dropWhile isBlank = v' at hsplit
  have hsuffix : v' <:+ v := ⟨b, hsplit.symm⟩
  by_cases hoperator : operatorAt v' = []
  · exact ⟨.ok (acc, v'), fun T s hT hs => hV.sumFrom_end hT hs hv' hoperator acc⟩
  · obtain ⟨c, u, rfl, hc⟩ := operatorAt_ne_nil hoperator
    have hu : u <:+ v := (List.suffix_cons c u).trans hsuffix
    have huHeld : Text.Held u := hv.of_isSuffix hu
    have hlt : u.length < v.length := hsuffix.length_le
    obtain ⟨r, hr⟩ := exists_readsFrom_operand env hV huHeld
    cases r with
    | error e =>
      refine ⟨move (posOf v u) (.error e), fun T s hT hs => ?_⟩
      obtain ⟨t, ht, -, herror, -⟩ := hV.sumFrom_operator env hT hs hv' hc acc
      rw [move_move, posOf_trans hs.isSuffix hu]
      exact herror _ (hr hT ht)
    | ok r =>
      obtain ⟨n, w⟩ := r
      have hw := hr.isSuffix huHeld
      have hlt' := hr.length_lt huHeld
      obtain ⟨r, hfrom⟩ := exists_readsFrom_sumFrom env hV (huHeld.of_isSuffix hw)
        (if c = '+' then acc + n else acc - n)
      refine ⟨move (posOf v w) r, fun T s hT hs => ?_⟩
      obtain ⟨t, ht, -, -, hstep⟩ := hV.sumFrom_operator env hT hs hv' hc acc
      obtain ⟨t', ht', -, hgo⟩ := hstep n w (hr hT ht)
      rw [move_move, posOf_trans hs.isSuffix (hw.trans hu)]
      exact hgo _ (hfrom hT ht')
termination_by 2 * v.length

end

/-- Text in front names no positions. -/
theorem move_map_append (n : Nat) (x : Text) (r : Except RenderError Text) :
    move n (r.map (x ++ ·)) = (move n r).map (x ++ ·) := by
  refine move_map (fun y => ?_) r
  rfl

/-- A block is rendered as it would be alone if what lies behind it is. -/
theorem exists_givesFrom_block (env : Env) (hV : V.Lawful) {u : Text} (hv : (openBraces ++ u).Held)
    (hrest : ∀ k, k <:+ openBraces ++ u → k.length < (openBraces ++ u).length →
      ∃ r, GivesFrom (V.renderFrom env) k r) :
    ∃ r, GivesFrom (V.renderFrom env) (openBraces ++ u) r := by
  have hu : u <:+ openBraces ++ u := List.suffix_append _ u
  obtain ⟨r, hr⟩ := hV.exists_readsFrom_sum env hv.right
  cases r with
  | error e =>
    refine ⟨move (posOf (openBraces ++ u) u) (.error e), fun T s hT hs => ?_⟩
    obtain ⟨t, ht, -, herror, -⟩ := hV.renderFrom_block env hT hs
    rw [move_move, posOf_trans hs.isSuffix hu]
    exact herror _ (hr hT ht)
  | ok r =>
    obtain ⟨n, w⟩ := r
    have hw : w.dropWhile isBlank <:+ openBraces ++ u :=
      (List.dropWhile_suffix isBlank).trans ((hr.isSuffix hv.right).trans hu)
    by_cases hclose : closeBraces <+: w.dropWhile isBlank
    · obtain ⟨k, hk⟩ := hclose
      have hsuffix : k <:+ openBraces ++ u := (hk ▸ List.suffix_append _ k).trans hw
      have hlt : k.length < (openBraces ++ u).length := by
        have hle := hw.length_le
        rw [← hk, List.length_append] at hle
        exact Nat.lt_of_lt_of_le (Nat.lt_add_of_pos_left (by decide)) hle
      obtain ⟨r, hgives⟩ := hrest k hsuffix hlt
      refine ⟨(move (posOf (openBraces ++ u) k) r).map (Text.decimal n ++ ·), fun T s hT hs => ?_⟩
      obtain ⟨t, ht, -, -, hblock⟩ := hV.renderFrom_block env hT hs
      obtain ⟨t', ht', -, hgo⟩ := (hblock n w (hr hT ht)).2 k hk.symm
      rw [hgo, hgives hT ht', move_map_append, move_move, posOf_trans hs.isSuffix hsuffix]
    · refine ⟨.error (.expected .blockClose (posOf (openBraces ++ u) (w.dropWhile isBlank))),
        fun T s hT hs => ?_⟩
      obtain ⟨t, ht, -, -, hblock⟩ := hV.renderFrom_block env hT hs
      rw [(hblock n w (hr hT ht)).1 hclose, ← posOf_trans hs.isSuffix hw]
      rfl

/-- What lies behind a block is rendered as it would be alone. -/
theorem exists_givesFrom (env : Env) (hV : V.Lawful) {v : Text} (hv : v.Held) :
    ∃ r, GivesFrom (V.renderFrom env) v r := by
  by_cases hinfix : openBraces <:+: v
  · obtain ⟨u, w, hfirst⟩ := Pattern.exists_firstIn hinfix
    have hw : openBraces ++ w <:+ v := ⟨u, hfirst.eq_append.symm⟩
    obtain ⟨r, hr⟩ := hV.exists_givesFrom_block env (hv.of_isSuffix hw) fun k hk hlt => by
      have hlt' := Nat.lt_of_lt_of_le hlt hw.length_le
      exact exists_givesFrom env hV (hv.of_isSuffix (hk.trans hw))
    refine ⟨(move (posOf v (openBraces ++ w)) r).map (u ++ ·), fun T s hT hs => ?_⟩
    rw [hV.renderFrom_of_firstIn hT hs hfirst fun t ht => hr hT ht, move_map_append, move_move,
      posOf_trans hs.isSuffix hw]
  · exact ⟨.ok v, fun T s hT hs => hV.renderFrom_text hT hs hinfix⟩
termination_by v.length

/-! ### One template in front of another -/

/-- Text is copied in front of anything, unless a brace of it becomes one of double braces. -/
theorem renderFrom_of_text_append (hV : V.Lawful) (hT : T.Held) {a b : Text}
    (ha : ¬ openBraces <:+: a) (hseam : ¬ (a.getLast? = some '{' ∧ b.head? = some '{'))
    {e : Except RenderError Text} (hrest : ∀ t : Scanner, t.Before T b → V.renderFrom env t = e)
    {s : Scanner} (hs : s.Before T (a ++ b)) : V.renderFrom env s = e.map (a ++ ·) := by
  -- A scanner behind the text tells what is rendered there.
  have ht : (s.moveTo (s.pos + a.length)).scanner.Before T b := hs.moveTo_append
  rw [← hrest _ ht]
  by_cases hinfix : openBraces <:+: b
  · obtain ⟨u, w, hfirst⟩ := Pattern.exists_firstIn hinfix
    obtain rfl := hfirst.eq_append
    have hhead : (u ++ ['{']).head? = (u ++ (openBraces ++ w)).head? := by cases u <;> rfl
    have hau : ¬ openBraces <:+: a ++ u ++ ['{'] := by
      rw [List.append_assoc]
      exact Text.not_pair_infix_append ha (not_infix_of_firstIn hfirst) (hhead ▸ hseam)
    obtain ⟨r, hr⟩ := hV.exists_givesFrom env (ht.held hT).right
    have hblock (t : Scanner) (h : t.Before T (openBraces ++ w)) := hr hT h
    rw [← List.append_assoc] at hs
    rw [hV.renderFrom_of_firstIn hT hs (firstIn_openBraces hau w) hblock,
      hV.renderFrom_of_firstIn hT ht hfirst hblock]
    cases move (posOf T (openBraces ++ w)) r with
    | error err => rfl
    | ok y => exact congrArg Except.ok (List.append_assoc a u y)
  · rw [hV.renderFrom_text hT hs (Text.not_pair_infix_append ha hinfix hseam),
      hV.renderFrom_text hT ht hinfix]
    rfl

/-- What is derived is rendered in front of anything. -/
theorem renderFrom_of_renders_append (hV : V.Lawful) (hT : T.Held) {a b x : Text}
    (h : Renders env a x) (hseam : ¬ (a.getLast? = some '{' ∧ b.head? = some '{'))
    {e : Except RenderError Text} (hrest : ∀ t : Scanner, t.Before T b → V.renderFrom env t = e)
    {s : Scanner} (hs : s.Before T (a ++ b)) : V.renderFrom env s = e.map (x ++ ·) := by
  induction h generalizing s with
  | text hnot => exact hV.renderFrom_of_text_append hT hnot hseam hrest hs
  | @block t blk rest out n ht hb _ ih =>
    have hseam' : ¬ (rest.getLast? = some '{' ∧ b.head? = some '{') := by
      rintro ⟨hlast, hhead⟩
      refine hseam ⟨?_, hhead⟩
      rw [List.getLast?_append, List.getLast?_append, hlast]
      rfl
    rw [List.append_assoc, List.append_assoc] at hs
    rw [hV.renderFrom_of_textBlock hT ht hb (fun _ => ih hseam') hs]
    cases e with
    | error err => rfl
    | ok y =>
      show Except.ok _ = Except.ok _
      simp only [List.append_assoc]

end Vocabulary.Lawful

/-- **A template is rendered the same in front of another one.** Where `a` is rendered as `x`, the
    templates side by side are rendered as `x` and what `b` is rendered as. Where `b` fails, both
    fail alike, and the position is moved by the length of `a`. Only a brace at the end of `a` and
    one at the start of `b` would make a difference. Templates have to fit in a memory. -/
theorem render_append (env : Env) {a b x : Text} (hheld : (a ++ b).Held)
    (ha : render env a = .ok x) (hseam : ¬ (a.getLast? = some '{' ∧ b.head? = some '{')) :
    (∀ y, render env b = .ok y → render env (a ++ b) = .ok (x ++ y)) ∧
      ∀ e, render env b = .error e → render env (a ++ b) = .error (e.shift a.length) := by
  obtain ⟨V, hV, hrender⟩ := exists_lawful_render
  have hderived : Renders env a x := by
    rw [hrender] at ha
    exact hV.renders_of_renderFrom hheld.left (Scanner.new_before a) ha
  -- What lies behind `a` is rendered as `b` is alone, up to the positions.
  obtain ⟨r, hr⟩ := hV.exists_givesFrom env hheld.right
  have hjoined : render env (a ++ b) = (move a.length (render env b)).map (x ++ ·) := by
    rw [hrender, hrender]
    refine hV.renderFrom_of_renders_append hheld hderived hseam (fun t ht => ?_)
      (Scanner.new_before (a ++ b))
    rw [hr.eq_move hheld ht, posOf_append_right]
  constructor
  · intro y hb
    rw [hjoined, hb]
    rfl
  · intro e hb
    rw [hjoined, hb]
    rfl

/-- A template that ends with a brace. -/
def braceTemplate : Text := "é\x7b\x7b x \x7d\x7d\x7b".toList

/-- A template whose block has no operand. -/
def openTemplate : Text := "日\x7b\x7b".toList

theorem render_append_braceTemplate :
    (braceTemplate ++ openTemplate).Held ∧
      render [(['x'], 41)] braceTemplate = .ok "é41\x7b".toList ∧
      render [(['x'], 41)] (braceTemplate ++ ['日']) = .ok "é41\x7b日".toList ∧
      render [(['x'], 41)] openTemplate = .error (.expected .operand 3) ∧
      render [(['x'], 41)] (braceTemplate ++ openTemplate) = .error (.expected .operand 12) := by
  have hheld : (braceTemplate ++ openTemplate).Held := by decide
  have hspace : Blanks [' '] := List.forall_mem_singleton.2 (by decide)
  have hname : Means [(['x'], 41)] .operand [' ', 'x'] 41 :=
    .name hspace (List.cons_ne_nil 'x' []) (List.forall_mem_singleton.2 (by decide)) rfl
  have hbrace {c : Char} (hc : c ≠ '{') : ¬ openBraces <:+: [c] ++ ['{'] :=
    Text.not_pair_infix_append (fun h => Nat.not_succ_le_self 1 h.length_le)
      (fun h => Nat.not_succ_le_self 1 h.length_le) fun h => hc (Option.some.inj h.1)
  have hrenders : Renders [(['x'], 41)] braceTemplate "é41\x7b".toList :=
    .block (hbrace (by decide)) (.mk (.single hname) hspace)
      (.text fun h => Nat.not_succ_le_self 1 h.length_le)
  obtain ⟨V, hV, hrender⟩ := exists_lawful_render
  have hfront : render [(['x'], 41)] braceTemplate = .ok "é41\x7b".toList := by
    rw [hrender]
    exact hV.renderFrom_of_renders hheld.left hrenders (Scanner.new_before _)
  have hblock (t : Scanner) (ht : t.Before openTemplate (openBraces ++ [])) :
      V.renderFrom [(['x'], 41)] t = .error (.expected .operand 3) := by
    obtain ⟨t', ht', -, herror, -⟩ := hV.renderFrom_block _ hheld.right ht
    exact herror _ (Vocabulary.Lawful.sum_of_error
      (hV.operand_none _ hheld.right ht' rfl rfl rfl nofun))
  have hopen : render [(['x'], 41)] openTemplate = .error (.expected .operand 3) := by
    rw [hrender, hV.renderFrom_of_firstIn hheld.right (Scanner.new_before _)
      (firstIn_openBraces (hbrace (by decide)) []) hblock]
    rfl
  have htext : render [(['x'], 41)] ['日'] = .ok ['日'] := by
    rw [hrender]
    exact hV.renderFrom_text (by decide) (Scanner.new_before _)
      fun h => Nat.not_succ_le_self 1 h.length_le
  exact ⟨hheld, hfront, (render_append _ (by decide) hfront (by decide)).1 _ htext, hopen,
    (render_append _ hheld hfront (by decide)).2 _ hopen⟩

end TextScan.Template
