import TextScan.Proofs.Cursor
import TextScan.Template.Render

namespace TextScan.Template

/-!
# What templates mean

The grammar of templates with the values of its parts, apart from any way to read them.

* `Numeral` are the numbers that can be written, `Means` the values of operands and sums, `Block`
  those of blocks.
* `Renders` says what a template is rendered as: text stays, and a block becomes the decimal form of
  its value. Text in front of a block ends before the first double brace.
* `parseInt64?_eq_some_iff` says that numbers are read as they are written.
* `Text.decimal_eq_toString` says that values are written in the usual way.
-/

/-! ### Characters -/

/-- Whether a character separates tokens. -/
def isBlank (c : Char) : Bool := Unicode.whiteSpace.contains c

/-- Whether a character belongs to names. -/
def isNameChar (c : Char) : Bool := c.isLower || c = '_'

/-- A text of characters that separate tokens. It may be empty. -/
def Blanks (t : Text) : Prop := ∀ c ∈ t, isBlank c

/-- What a block begins with. -/
def openBraces : Text := ['{', '{']

/-- What a block ends with. -/
def closeBraces : Text := ['}', '}']

/-! ### The grammar -/

/-- Whether an integer is one of 64 bits with its sign. -/
def FitsInt64 (n : Int) : Prop := -Nat.pow 2 63 ≤ n ∧ n < Nat.pow 2 63

instance (n : Int) : Decidable (FitsInt64 n) := inferInstanceAs (Decidable (_ ∧ _))

/-- A text stands for a number: ASCII digits, at least one, and perhaps a minus sign right before
    them. -/
inductive Numeral : Text → Int → Prop
  | plain {ds : Text} : ds ≠ [] → (∀ d ∈ ds, d.isDigit) → FitsInt64 (Nat.ofDigitChars 10 ds 0) →
      Numeral ds (Nat.ofDigitChars 10 ds 0)
  | negative {ds : Text} : ds ≠ [] → (∀ d ∈ ds, d.isDigit) →
      FitsInt64 (-Nat.ofDigitChars 10 ds 0) → Numeral ('-' :: ds) (-Nat.ofDigitChars 10 ds 0)

/-- The parts of a block that have values. -/
inductive Category where
  | operand
  | sum

/-- A text is an operand or a sum, and has a value. Blanks may stand before every token. A sum is
    taken from the left, and there is no bound on its value. -/
inductive Means (env : Env) : Category → Text → Int → Prop
  | number {b x : Text} {n : Int} : Blanks b → Numeral x n → Means env .operand (b ++ x) n
  | name {b x : Text} {n : Int} : Blanks b → x ≠ [] → (∀ c ∈ x, isNameChar c) →
      env.lookup x = some n → Means env .operand (b ++ x) n
  | parens {b x b' : Text} {n : Int} : Blanks b → Means env .sum x n → Blanks b' →
      Means env .operand (b ++ '(' :: (x ++ (b' ++ [')']))) n
  | single {x : Text} {n : Int} : Means env .operand x n → Means env .sum x n
  | plus {x b y : Text} {m n : Int} : Means env .sum x m → Blanks b → Means env .operand y n →
      Means env .sum (x ++ (b ++ '+' :: y)) (m + n)
  | minus {x b y : Text} {m n : Int} : Means env .sum x m → Blanks b → Means env .operand y n →
      Means env .sum (x ++ (b ++ '-' :: y)) (m - n)

/-- A text is a sum in double braces. -/
inductive Block (env : Env) : Text → Int → Prop
  | mk {x b : Text} {n : Int} : Means env .sum x n → Blanks b →
      Block env (openBraces ++ (x ++ (b ++ closeBraces))) n

/-- A template is rendered as a text. In text there are no double braces, and together with the
    first brace of the block behind it there are none either. Text may be missing. -/
inductive Renders (env : Env) : Text → Text → Prop
  | text {t : Text} : ¬ openBraces <:+: t → Renders env t t
  | block {t b rest out : Text} {n : Int} : ¬ openBraces <:+: t ++ ['{'] → Block env b n →
      Renders env rest out → Renders env (t ++ (b ++ rest)) (t ++ ((toString n).toList ++ out))

/-! ### Numbers -/

theorem ne_minus_of_isDigit {c : Char} (h : c.isDigit) : c ≠ '-' := by
  rintro rfl
  exact absurd h (by decide)

theorem le_toNat_of_isDigit {c : Char} (h : c.isDigit) : '0'.toNat ≤ c.toNat := by
  simp only [Char.isDigit, Bool.and_eq_true, decide_eq_true_eq] at h
  exact h.1

/-- Digits are read from the left, as integers. -/
theorem foldl_digits {ds : Text} (hdigits : ∀ d ∈ ds, d.isDigit) (k : Nat) :
    ds.foldl (fun (n : Int) c => 10 * n + ((c.toNat : Int) - ('0'.toNat : Int))) k =
      Nat.ofDigitChars 10 ds k := by
  induction ds generalizing k with
  | nil => rfl
  | cons d ds ih =>
    have hd : '0'.toNat ≤ d.toNat := le_toNat_of_isDigit (hdigits d List.mem_cons_self)
    -- A digit is not less than zero, so it is the same difference among naturals.
    have hstep : 10 * (k : Int) + ((d.toNat : Int) - ('0'.toNat : Int)) =
        ((10 * k + (d.toNat - '0'.toNat) : Nat) : Int) := by omega
    -- The digits behind this one are read on from the new number.
    rw [List.foldl_cons, hstep, ih fun c hc => hdigits c (List.mem_cons_of_mem d hc),
      Nat.ofDigitChars_cons]

theorem parseInt64?_plain {ds : Text} (hne : ds ≠ []) (hdigits : ∀ d ∈ ds, d.isDigit) :
    parseInt64? ds = if FitsInt64 (Nat.ofDigitChars 10 ds 0) then
      some (Nat.ofDigitChars 10 ds 0 : Int) else none := by
  have hhead : ds.head? ≠ some '-' := by
    intro h
    exact ne_minus_of_isDigit (hdigits _ (List.mem_of_head? h)) rfl
  have hall : ds.all Char.isDigit = true := List.all_eq_true.2 hdigits
  have hempty : ds.isEmpty = false := by simpa using hne
  simp only [parseInt64?, hhead, if_false, hempty, hall]
  exact congrArg (fun n : Int => if FitsInt64 n then some n else none) (foldl_digits hdigits 0)

theorem parseInt64?_negative {ds : Text} (hne : ds ≠ []) (hdigits : ∀ d ∈ ds, d.isDigit) :
    parseInt64? ('-' :: ds) = if FitsInt64 (-Nat.ofDigitChars 10 ds 0) then
      some (-Nat.ofDigitChars 10 ds 0 : Int) else none := by
  have hall : ds.all Char.isDigit = true := List.all_eq_true.2 hdigits
  have hempty : ds.isEmpty = false := by simpa using hne
  simp only [parseInt64?, List.head?_cons, if_true, List.tail_cons, hempty, hall]
  exact congrArg (fun n : Int => if FitsInt64 (-n) then some (-n) else none)
    (foldl_digits hdigits 0)

/-- A text that is not refused consists of digits and perhaps a sign. -/
theorem digits_of_parseInt64? {t : Text} {n : Int} (h : parseInt64? t = some n) :
    ∃ ds : Text, ds ≠ [] ∧ (∀ d ∈ ds, d.isDigit) ∧ (t = ds ∨ t = '-' :: ds) := by
  have hdigits {ds : Text} {α : Type} {o : Option α} {a : α}
      (h : (if ds.isEmpty || !ds.all Char.isDigit then none else o) = some a) :
      ds ≠ [] ∧ ∀ d ∈ ds, d.isDigit := by
    rw [Option.ite_none_left_eq_some] at h
    simpa [List.all_eq_true] using h.1
  -- A sign is looked for at the start only. The digits are what is left without it.
  unfold parseInt64? at h
  by_cases hhead : t.head? = some '-'
  · obtain ⟨ds, rfl⟩ := List.head?_eq_some_iff.1 hhead
    simp only [hhead, if_true, List.tail_cons] at h
    exact ⟨ds, (hdigits h).1, (hdigits h).2, .inr rfl⟩
  · simp only [hhead, if_false] at h
    exact ⟨t, (hdigits h).1, (hdigits h).2, .inl rfl⟩

/-- A number is read as what it stands for, and anything else is refused. -/
theorem parseInt64?_eq_some_iff {t : Text} {n : Int} : parseInt64? t = some n ↔ Numeral t n := by
  constructor
  · intro h
    obtain ⟨ds, hne, hdigits, rfl | rfl⟩ := digits_of_parseInt64? h
    · rw [parseInt64?_plain hne hdigits, Option.ite_none_right_eq_some, Option.some.injEq] at h
      obtain ⟨hfits, rfl⟩ := h
      exact .plain hne hdigits hfits
    · rw [parseInt64?_negative hne hdigits, Option.ite_none_right_eq_some, Option.some.injEq] at h
      obtain ⟨hfits, rfl⟩ := h
      exact .negative hne hdigits hfits
  · intro h
    cases h with
    | plain hne hdigits hfits => rw [parseInt64?_plain hne hdigits, if_pos hfits]
    | negative hne hdigits hfits => rw [parseInt64?_negative hne hdigits, if_pos hfits]

end TextScan.Template

/-- The decimal form of an integer is the usual one. -/
theorem TextScan.Text.decimal_eq_toString (n : Int) : decimal n = (toString n).toList := by
  cases n with
  | ofNat n =>
    show Nat.toDigits 10 n = (Nat.repr n).toList
    rw [Nat.repr_eq_ofList_toDigits, String.toList_ofList]
  | negSucc n =>
    show '-' :: Nat.toDigits 10 (n + 1) = ("-" ++ Nat.repr (n + 1)).toList
    simp only [Nat.repr_eq_ofList_toDigits, String.toList_append, String.toList_ofList]
    rfl
