import TextScan.Proofs.Template.RenderErrors

namespace TextScan.Template

/-!
# Which numbers are refused

The numbers of a template are cut off by the decimal digits of all scripts, but only ASCII digits
are read. A number is therefore refused for two reasons, with one error for both: it does not fit in
64 bits, or it is written in other digits.

* `digitValue` is the value of a digit of any script, `Denotes` tells the integers that numbers
  stand for, whatever their size.
* `exists_denotes` says that what is cut off as a number stands for an integer.
* `numeral_iff` says which numbers are read. It is the only place where digits of other scripts
  and sizes come in.
* `render_smallNumber` is the result.
-/

/-! ### Digits of all scripts -/

/-- The value of a decimal digit. The digits of a script lie side by side from zero to nine, and
    those of several scripts or styles may follow each other. -/
def digitValue (c : Char) : Nat :=
  match Unicode.decimalDigit.ranges.find? fun r =>
    decide (r.1 ≤ c.toNat) && decide (c.toNat ≤ r.2) with
  | some r => (c.toNat - r.1) % 10
  | none => 0

/-- The integer that decimal digits stand for. -/
def digitsValue (ds : Text) : Nat := ds.foldl (fun n d => 10 * n + digitValue d) 0

/-- A text stands for an integer: decimal digits, at least one, and perhaps a minus sign right
    before them. -/
inductive Denotes : Text → Int → Prop
  | plain {ds : Text} : ds ≠ [] → (∀ d ∈ ds, Unicode.decimalDigit.contains d) →
      Denotes ds (digitsValue ds)
  | negative {ds : Text} : ds ≠ [] → (∀ d ∈ ds, Unicode.decimalDigit.contains d) →
      Denotes ('-' :: ds) (-digitsValue ds)

theorem digitValue_of_isDigit {c : Char} (h : c.isDigit) : digitValue c = c.toNat - '0'.toNat := by
  simp only [Char.isDigit, Bool.and_eq_true, decide_eq_true_eq] at h
  have hrange : '0'.toNat ≤ c.toNat ∧ c.toNat ≤ '9'.toNat := h
  -- ASCII digits are the first range.
  have hfind : Unicode.decimalDigit.ranges.find? (fun r =>
      decide (r.1 ≤ c.toNat) && decide (c.toNat ≤ r.2)) = some (48, 57) :=
    List.find?_cons_of_pos (by simpa using hrange)
  simp only [digitValue, hfind]
  exact Nat.mod_eq_of_lt (Nat.lt_succ_of_le (Nat.sub_le_sub_right hrange.2 48))

/-- ASCII digits stand for what they are read as. -/
theorem digitsValue_of_isDigit {ds : Text} (h : ∀ d ∈ ds, d.isDigit) :
    digitsValue ds = Nat.ofDigitChars 10 ds 0 := by
  have hfold (k : Nat) :
      ds.foldl (fun n d => 10 * n + digitValue d) k = Nat.ofDigitChars 10 ds k := by
    induction ds generalizing k with
    | nil => rfl
    | cons d ds ih =>
      rw [List.foldl_cons, ih fun c hc => h c (List.mem_cons_of_mem d hc), Nat.ofDigitChars_cons,
        digitValue_of_isDigit (h d List.mem_cons_self)]
  exact hfold 0

/-- **Numbers that are read.** They are those that fit in 64 bits, in ASCII digits. -/
theorem numeral_iff {x : Text} {n : Int} :
    Numeral x n ↔ Denotes x n ∧ (∀ c ∈ x, c = '-' ∨ c.isDigit) ∧ FitsInt64 n := by
  constructor
  · intro h
    cases h with
    | plain hne hdigits hfits =>
      rw [← digitsValue_of_isDigit hdigits] at hfits ⊢
      exact ⟨.plain hne fun d hd => digit_of_isDigit (hdigits d hd),
        fun c hc => .inr (hdigits c hc), hfits⟩
    | negative hne hdigits hfits =>
      rw [← digitsValue_of_isDigit hdigits] at hfits ⊢
      exact ⟨.negative hne fun d hd => digit_of_isDigit (hdigits d hd),
        List.forall_mem_cons.2 ⟨.inl rfl, fun c hc => .inr (hdigits c hc)⟩, hfits⟩
  · rintro ⟨h, hascii, hfits⟩
    -- A sign is no digit, so the digits are ASCII digits.
    have hdigits {ds : Text} (h : ∀ d ∈ ds, Unicode.decimalDigit.contains d)
        (hascii : ∀ c ∈ ds, c = '-' ∨ c.isDigit) : ∀ d ∈ ds, d.isDigit := by
      refine fun d hd => (hascii d hd).resolve_left ?_
      rintro rfl
      exact absurd (h _ hd) (by decide)
    cases h with
    | plain hne hds =>
      have hds := hdigits hds hascii
      rw [digitsValue_of_isDigit hds] at hfits ⊢
      exact .plain hne hds hfits
    | negative hne hds =>
      have hds := hdigits hds (List.forall_mem_cons.1 hascii).2
      rw [digitsValue_of_isDigit hds] at hfits ⊢
      exact .negative hne hds hfits

/-! ### Numbers in a template -/

/-- What is cut off as a number stands for an integer, and no digit lies behind it. -/
theorem exists_denotes {w : Text} (h : numberAt w ≠ []) :
    ∃ n w', w = numberAt w ++ w' ∧ Denotes (numberAt w) n ∧
      w'.Avoids Unicode.decimalDigit.contains := by
  have hall (v : Text) : ∀ d ∈ v.takeWhile Unicode.decimalDigit.contains,
      Unicode.decimalDigit.contains d := List.all_eq_true.1 List.all_takeWhile
  cases w with
  | nil => exact absurd rfl h
  | cons c r =>
    rw [numberAt, Regex.Program.signedPrefix] at h ⊢
    by_cases hsign : c = '-'
    · subst hsign
      rw [if_pos rfl] at h ⊢
      -- A sign counts only in front of digits.
      by_cases hempty : r.takeWhile Unicode.decimalDigit.contains = []
      · exact absurd (if_pos hempty) h
      · rw [if_neg hempty]
        refine ⟨_, _, ?_, .negative hempty (hall r), Text.avoids_dropWhile _ r⟩
        rw [List.cons_append, List.takeWhile_append_dropWhile]
    · rw [if_neg hsign] at h ⊢
      exact ⟨_, _, List.takeWhile_append_dropWhile.symm, .plain h (hall _),
        Text.avoids_dropWhile _ _⟩

/-- **Numbers are refused for their size or their script.** Where a template is not rendered because
    of the size of a number, a number stands in the place of the error, up to its last digit. If it
    is written in ASCII digits, it does not fit in 64 bits. Templates have to fit in a memory. -/
theorem render_smallNumber (env : Env) {template : Text} {k : Nat} (hheld : template.Held)
    (h : render env template = .error (.expected .smallNumber k)) :
    ∃ (x w : Text) (n : Int), template.drop k = x ++ w ∧ Denotes x n ∧
      w.Avoids Unicode.decimalDigit.contains ∧
      ((∀ c ∈ x, c = '-' ∨ c.isDigit) → ¬ FitsInt64 n) := by
  obtain ⟨V, hV, hrender⟩ := exists_lawful_render
  rw [hrender] at h
  obtain ⟨front, x, w, what, d, hsplit, hw, -, -⟩ :=
    hV.renderFrom_breaksOff hheld (Scanner.new_before template) h
  cases hw with
  | number hnumber hparse =>
    obtain ⟨n, w', hcut, hdenotes, havoids⟩ := exists_denotes hnumber
    have hdrop : template.drop (posOf template w) = w := by
      rw [hsplit, ← List.append_assoc, ← List.append_assoc, posOf_append_right, List.drop_left]
    refine ⟨_, w', n, hdrop.trans hcut, hdenotes, havoids, fun hascii hfits => ?_⟩
    have hread := parseInt64?_eq_some_iff.2 (numeral_iff.2 ⟨hdenotes, hascii, hfits⟩)
    rw [hparse] at hread
    cases hread

/-- A number at the start of a block is refused in its place if it is not read. -/
theorem render_block_number (env : Env) {u : Text} (hheld : (openBraces ++ u).Held)
    (hnumber : numberAt (u.dropWhile isBlank) ≠ [])
    (hparse : parseInt64? (numberAt (u.dropWhile isBlank)) = none) :
    render env (openBraces ++ u) =
      .error (.expected .smallNumber (posOf (openBraces ++ u) (u.dropWhile isBlank))) := by
  obtain ⟨V, hV, hrender⟩ := exists_lawful_render
  rw [hrender]
  obtain ⟨t, ht, -, herror, -⟩ := hV.renderFrom_block env hheld (Scanner.new_before _)
  have hread := hV.operand_number env hheld ht rfl hnumber
  rw [hparse] at hread
  exact herror _ (Vocabulary.Lawful.sum_of_error hread)

/-- A block with the integer before the least one of 64 bits. -/
def tooSmall : Text := "\x7b\x7b-9223372036854775809\x7d\x7d".toList

theorem render_smallNumber_tooSmall :
    tooSmall.Held ∧ render [] tooSmall = .error (.expected .smallNumber 2) ∧
      ∃ (x w : Text) (n : Int), tooSmall.drop 2 = x ++ w ∧ Denotes x n ∧
        w.Avoids Unicode.decimalDigit.contains ∧
        ((∀ c ∈ x, c = '-' ∨ c.isDigit) → ¬ FitsInt64 n) := by
  have hheld : tooSmall.Held := by decide
  have hfails : render [] tooSmall = .error (.expected .smallNumber 2) :=
    render_block_number [] (u := "-9223372036854775809\x7d\x7d".toList) hheld (by decide)
      (by decide)
  exact ⟨hheld, hfails, render_smallNumber [] hheld hfails⟩

/-- A block with a digit three that is no ASCII digit. -/
def arabicThree : Text := "\x7b\x7b ٣ \x7d\x7d".toList

/-- The size is no reason to refuse it. -/
theorem render_arabicThree :
    render [] arabicThree = .error (.expected .smallNumber 3) ∧
      ∃ x w : Text, arabicThree.drop 3 = x ++ w ∧ Denotes x 3 ∧
        w.Avoids Unicode.decimalDigit.contains ∧ FitsInt64 3 := by
  constructor
  · exact render_block_number [] (u := " ٣ \x7d\x7d".toList) (by decide) (by decide) (by decide)
  · exact ⟨['٣'], " \x7d\x7d".toList, rfl,
      .plain (List.cons_ne_nil _ _) (List.forall_mem_singleton.2 (by decide)),
      Text.avoids_cons.2 (by decide), by decide⟩

end TextScan.Template
