import TextScan.Proofs.Regex.Shape
import TextScan.Proofs.Template.Grammar

namespace TextScan

/-!
# The tokens of a block

* `CharSet.apart` tells by their ranges that two sets of characters have none in common. The lemmas
  on classes, such as `digit_eq_false_of_isBlank`, follow from it.
* `Vocabulary.Lawful` says what each pattern cuts off a text. `Vocabulary.new?_eq_ok` says that the
  patterns are built and are lawful.
* `Vocabulary.Lawful.skipSpace` and `Vocabulary.token?_eq_some` say what a scanner does with
  them.
-/

/-- Whether no range of one set meets a range of the other. -/
def CharSet.apart (s t : CharSet) : Bool :=
  s.ranges.all fun r => t.ranges.all fun r' => decide (r.2 < r'.1) || decide (r'.2 < r.1)

theorem CharSet.contains_eq_false_of_apart {s t : CharSet} (h : s.apart t) {c : Char}
    (hc : s.contains c) : t.contains c = false := by
  rw [contains, List.any_eq_true] at hc
  obtain ⟨r, hr, hin⟩ := hc
  rw [contains, List.any_eq_false]
  intro r' hr' hin'
  -- A character of both would lie in two ranges of which one ends before the other begins.
  have hapart := List.all_eq_true.1 (List.all_eq_true.1 h r hr) r' hr'
  simp only [Bool.and_eq_true, Bool.or_eq_true, decide_eq_true_eq] at hin hin' hapart
  omega

namespace Template

/-! ### Blanks -/

/-- Blanks in front are set apart. -/
theorem blanks_append_dropWhile (v : Text) : ∃ b, v = b ++ v.dropWhile isBlank ∧ Blanks b :=
  ⟨v.takeWhile isBlank, List.takeWhile_append_dropWhile.symm,
    List.all_eq_true.1 List.all_takeWhile⟩

theorem Blanks.append {b b' : Text} (h : Blanks b) (h' : Blanks b') : Blanks (b ++ b') := by
  intro c hc
  rcases List.mem_append.1 hc with hc | hc
  · exact h c hc
  · exact h' c hc

theorem blanks_nil : Blanks [] := fun _ h => absurd h List.not_mem_nil

theorem Blanks.dropWhile_append {b w : Text} (hb : Blanks b) (hw : w.Avoids isBlank) :
    (b ++ w).dropWhile isBlank = w := hw.dropWhile_append hb

/-! ### Classes of characters -/

/-- The characters of names as ranges. -/
def nameChars : CharSet := ⟨[(95, 95), (97, 122)]⟩

theorem contains_nameChars (c : Char) : nameChars.contains c = isNameChar c := by
  have hlower : c.isLower = (decide (97 ≤ c.toNat) && decide (c.toNat ≤ 122)) := rfl
  rw [Bool.eq_iff_iff]
  simp only [nameChars, CharSet.contains, isNameChar, hlower, List.any_cons, List.any_nil,
    Bool.or_false, Bool.or_eq_true, Bool.and_eq_true, decide_eq_true_eq, ← Char.toNat_inj]
  show _ ↔ (97 ≤ c.toNat ∧ c.toNat ≤ 122) ∨ c.toNat = 95
  omega

/-- The operators as ranges. -/
def operators : CharSet := ⟨[(43, 43), (45, 45)]⟩

theorem contains_operators {c : Char} : operators.contains c ↔ c = '+' ∨ c = '-' := by
  simp only [operators, CharSet.contains, List.any_cons, List.any_nil, Bool.or_false,
    Bool.or_eq_true, Bool.and_eq_true, decide_eq_true_eq, ← Char.toNat_inj]
  show _ ↔ c.toNat = 43 ∨ c.toNat = 45
  omega

theorem digit_eq_false_of_isBlank {c : Char} (h : isBlank c) :
    Unicode.decimalDigit.contains c = false :=
  CharSet.contains_eq_false_of_apart (by decide) h

theorem isNameChar_eq_false_of_isBlank {c : Char} (h : isBlank c) : isNameChar c = false :=
  contains_nameChars c ▸ CharSet.contains_eq_false_of_apart (by decide) h

theorem digit_eq_false_of_isNameChar {c : Char} (h : isNameChar c) :
    Unicode.decimalDigit.contains c = false :=
  CharSet.contains_eq_false_of_apart (by decide) (contains_nameChars c ▸ h : nameChars.contains c)

/-- ASCII digits are digits. -/
theorem digit_of_isDigit {c : Char} (h : c.isDigit) : Unicode.decimalDigit.contains c := by
  simp only [Char.isDigit, Bool.and_eq_true, decide_eq_true_eq] at h
  rw [CharSet.contains, List.any_eq_true]
  refine ⟨(48, 57), by decide, ?_⟩
  rw [Bool.and_eq_true, decide_eq_true_eq, decide_eq_true_eq]
  exact h

theorem isBlank_eq_false_of_isDigit {c : Char} (h : c.isDigit) : isBlank c = false := by
  rw [Bool.eq_false_iff]
  intro hblank
  exact absurd (digit_of_isDigit h) (by rw [digit_eq_false_of_isBlank hblank]; decide)

theorem isBlank_eq_false_of_isNameChar {c : Char} (h : isNameChar c) : isBlank c = false := by
  rw [Bool.eq_false_iff]
  intro hblank
  exact absurd h (by rw [isNameChar_eq_false_of_isBlank hblank]; decide)

/-! ### Patterns -/

/-- The number that a text begins with. -/
def numberAt (v : Text) : Text := Regex.Program.signedPrefix '-' Unicode.decimalDigit v

/-- The name that a text begins with. -/
def nameAt (v : Text) : Text := v.takeWhile isNameChar

/-- The operator that a text begins with. -/
def operatorAt (v : Text) : Text := (v.take 1).filter operators.contains

/-- A number that stands before something else than a digit is the number that the text begins
    with. -/
theorem numberAt_append {x w : Text} {n : Int} (hx : Numeral x n)
    (hw : w.Avoids Unicode.decimalDigit.contains) : numberAt (x ++ w) = x := by
  have hdigits {ds : Text} (h : ∀ d ∈ ds, d.isDigit) :
      (ds ++ w).takeWhile Unicode.decimalDigit.contains = ds :=
    hw.takeWhile_append fun d hd => digit_of_isDigit (h d hd)
  cases hx with
  | @plain ds hne hds hfits =>
    -- A digit is no sign, so there is none to be looked for.
    obtain ⟨d, r, rfl⟩ := List.exists_cons_of_ne_nil hne
    have hd : d ≠ '-' := ne_minus_of_isDigit (hds d List.mem_cons_self)
    rw [numberAt, List.cons_append, Regex.Program.signedPrefix, if_neg hd, ← List.cons_append,
      hdigits hds]
  | @negative ds hne hds hfits =>
    rw [numberAt, List.cons_append, Regex.Program.signedPrefix, if_pos rfl, hdigits hds, if_neg hne]

/-- Where neither a sign nor a digit stands, there is no number. -/
theorem numberAt_eq_nil {c : Char} {w : Text} (hsign : c ≠ '-')
    (hdigit : Unicode.decimalDigit.contains c = false) : numberAt (c :: w) = [] := by
  rw [numberAt, Regex.Program.signedPrefix, if_neg hsign,
    List.takeWhile_cons_of_neg (by rw [hdigit]; decide)]

/-- Each pattern cuts off the token that it is meant for. -/
structure Vocabulary.Lawful (V : Vocabulary) : Prop where
  blockOpen : V.blockOpen.toPattern = .literal openBraces
  blockClose : V.blockClose.toPattern = .literal closeBraces
  space : V.space.toPattern.Cuts (List.takeWhile isBlank)
  number : V.number.toPattern.Cuts numberAt
  name : V.name.toPattern.Cuts nameAt
  operator : V.operator.toPattern.Cuts operatorAt

open Regex.Program in
/-- The patterns are built, and they are lawful. -/
theorem Vocabulary.new?_eq_ok : ∃ V, Vocabulary.new? = .ok V ∧ V.Lawful := by
  have hopen : AnchoredRegex.new? "\\\x7b\\\x7b".toList =
      .ok ⟨"\\\x7b\\\x7b".toList, spelling openBraces⟩ := rfl
  have hclose : AnchoredRegex.new? "\\\x7d\\\x7d".toList =
      .ok ⟨"\\\x7d\\\x7d".toList, spelling closeBraces⟩ := rfl
  have hspace : AnchoredRegex.new? "\\s+".toList =
      .ok ⟨"\\s+".toList, many Unicode.whiteSpace⟩ := rfl
  have hnumber : AnchoredRegex.new? "-?\\d+".toList =
      .ok ⟨"-?\\d+".toList, signed '-' Unicode.decimalDigit⟩ := rfl
  have hname : AnchoredRegex.new? "[a-z_]+".toList =
      .ok ⟨"[a-z_]+".toList, many nameChars⟩ := rfl
  have hoperator : AnchoredRegex.new? "[+-]".toList =
      .ok ⟨"[+-]".toList, member operators⟩ := rfl
  have hnameChars : nameChars.contains = isNameChar := funext contains_nameChars
  refine ⟨_, by rw [Vocabulary.new?, hopen, hclose, hspace, hnumber, hname, hoperator]; rfl, ?_⟩
  exact {
    blockOpen := AnchoredRegex.toPattern_spelling rfl
    blockClose := AnchoredRegex.toPattern_spelling rfl
    space := AnchoredRegex.cuts_many rfl
    number := AnchoredRegex.cuts_signed rfl (by decide)
    name := by
      show Pattern.Cuts _ fun v => v.takeWhile isNameChar
      rw [← hnameChars]
      exact AnchoredRegex.cuts_many rfl
    operator := AnchoredRegex.cuts_member rfl }

/-! ### Taking tokens -/

namespace Vocabulary

variable {V : Vocabulary} {s : Scanner} {T v : Text} {p : Pattern} {f : Text → Text}

theorem token?_eq_none (hs : s.Before T v) (hT : T.Held) (hp : p.Cuts f) (hfv : f v = []) :
    token? s p = .ok none := by
  rw [token?, hs.token?_eq_none hT hp hfv]
  rfl

theorem token?_eq_some (hs : s.Before T v) (hT : T.Held) (hp : p.Cuts f) (hfv : f v ≠ []) :
    ∃ t : s.Behind, token? s p = .ok (some (f v, t)) ∧ t.1.Before T (v.drop (f v).length) := by
  obtain ⟨t, htoken, ht⟩ := hs.token?_eq_some hT hp hfv
  refine ⟨t, ?_, ht⟩
  rw [token?, htoken]
  rfl

section Literal

variable {needle : Text} (hne : needle ≠ []) (hp : p = .literal needle)

include hne hp

/-- A given text is not taken where another one stands. -/
theorem token?_literal_eq_none (hs : s.Before T v) (hT : T.Held) (hnot : ¬ needle <+: v) :
    token? s p = .ok none := by
  subst hp
  apply token?_eq_none hs hT (Pattern.literal_cuts hne)
  exact if_neg fun hbegins => hnot (List.isPrefixOf_iff_prefix.1 hbegins)

/-- A given text is taken where it stands. -/
theorem token?_literal_eq_some {u : Text} (hs : s.Before T (needle ++ u)) (hT : T.Held) :
    ∃ t : s.Behind, token? s p = .ok (some (needle, t)) ∧ t.1.Before T u := by
  subst hp
  have hcut : (if needle.isPrefixOf (needle ++ u) then needle else []) = needle :=
    if_pos (List.isPrefixOf_iff_prefix.2 (List.prefix_append _ _))
  have h := token?_eq_some hs hT (Pattern.literal_cuts hne)
  simp only [hcut, List.drop_left] at h
  exact h hne

end Literal

theorem token?_char_eq_none {c : Char} (hs : s.Before T v) (hT : T.Held) (h : v.head? ≠ some c) :
    token? s (.char c) = .ok none := token?_eq_none hs hT (Pattern.char_cuts c) (if_neg h)

theorem token?_char_eq_some {c : Char} {u : Text} (hs : s.Before T (c :: u)) (hT : T.Held) :
    ∃ t : s.Behind, token? s (.char c) = .ok (some ([c], t)) ∧ t.1.Before T u :=
  token?_literal_eq_some (List.cons_ne_nil c []) (Pattern.char_eq_literal c) hs hT

theorem Lawful.skipSpace (hV : V.Lawful) (hs : s.Before T v) (hT : T.Held) :
    ∃ t : s.Skipped, V.skipSpace s = .ok t ∧ t.1.Before T (v.dropWhile isBlank) := by
  obtain ⟨t, hskip, ht⟩ := hs.skipToken hT hV.space
  rw [Text.drop_length_takeWhile] at ht
  exact ⟨t, by rw [Vocabulary.skipSpace, hskip]; rfl, ht⟩

end Vocabulary

end Template

end TextScan
