import Mathlib.Data.List.TakeWhile
import TextScan.Proofs.Json.Notation
import TextScan.Proofs.Outcome

namespace TextScan

/-!
# Reading JSON texts

A reader for JSON texts, which first cuts a text into tokens and then puts values together. It reads
every text of a value as that value, so no text is one of two values. In particular what is written
for an outcome is read as that outcome, and no other outcome is written so.

* `Json.readChar` reads a character of a string, `Json.readToken` a token, `Json.readTokens` a text.
* `Json.readValue` reads a value from its tokens, `Json.read?` from a text.
* `Json.readTokens_of_layout` and `Json.readValue_tokens` say that the two parts of the reader are
  complete. `Json.HasText.read?_eq` puts them together.
* `Outcome.ofJson_of_hasText` is the result for outcomes.
-/

namespace Json

open Regex (isHexDigit numeral scalar?)

/-! ### Characters and tokens -/

/-- Reads a number of four hexadecimal digits. -/
def readUnit (t : Text) : Option (Nat × Text) :=
  let digits := t.take 4
  if digits.length = 4 ∧ digits.all isHexDigit then some (numeral 16 digits, t.drop 4) else none

/-- Reads a character by its number, from behind the letter. -/
def readNumbered (t : Text) : Option (Char × Text) := do
  let (n, r) ← readUnit t
  match scalar? n with
  | some c => return (c, r)
  | none =>
    -- The number is a surrogate. It has to be a high one, and a low one has to follow.
    if r.take 2 = ['\\', 'u'] then
      let (m, r) ← readUnit (r.drop 2)
      if n < 0xDC00 ∧ 0xDC00 ≤ m ∧ m < 0xE000 then
        return (Char.ofNat (0x10000 + (n - 0xD800) * 0x400 + (m - 0xDC00)), r)
      else none
    else none

/-- Reads a character of a string. -/
def readChar : Text → Option (Char × Text)
  | [] => none
  | c :: r =>
    if c = '\\' then
      match r with
      | [] => none
      | x :: r => if x = 'u' then readNumbered r else (letters.lookup x).map (·, r)
    else if c = '"' ∨ c.toNat < 32 then none
    else some (c, r)

/-- Reads the characters of a string of less than the given length, and the quotation mark. -/
def readChars : Nat → Text → Option (Text × Text)
  | 0, _ => none
  | n + 1, t =>
    if t.head? = some '"' then some ([], t.tail)
    else do
      let (c, r) ← readChar t
      let (cs, r) ← readChars n r
      return (c :: cs, r)

/-- The fraction of given parts, if they are the parts of one. -/
def fraction? (negative : Bool) (whole : Nat) (digits : Text) : Option Fraction :=
  if h : digits.isFractional then some ⟨negative, whole, digits, h⟩ else none

/-- Reads what follows the whole part of the number that begins the text `t`: a point and more
    digits, or nothing. The number has to be written the way that numbers are. -/
def readFraction (t : Text) (negative : Bool) (whole : Nat) (r : Text) : Option (Token × Text) :=
  if r.head? = some '.' then
    let rest := r.tail.dropWhile Char.isDigit
    (fraction? negative whole (r.tail.takeWhile Char.isDigit)).bind fun f =>
      if f.decimal ++ rest = t then some (.float f, rest) else none
  else
    let n : Int := if negative then -whole else whole
    if Text.decimal n ++ r = t then some (.int n, r) else none

/-- Reads a number. -/
def readNumber (t : Text) : Option (Token × Text) :=
  let negative : Bool := t.head? = some '-'
  let unsigned := if negative then t.tail else t
  readFraction t negative (Nat.ofDigitChars 10 (unsigned.takeWhile Char.isDigit) 0)
    (unsigned.dropWhile Char.isDigit)

/-- The signs that hold values together. -/
def marks : List Mark := [.arrOpen, .arrClose, .objOpen, .objClose, .comma, .colon]

/-- The words that are values. -/
def words : List (Text × Token) :=
  [("null".toList, .null), ("true".toList, .bool true), ("false".toList, .bool false)]

/-- Reads a token, in front of which there are no blanks. -/
def readToken : Text → Option (Token × Text)
  | [] => none
  | c :: r =>
    match marks.find? fun m => m.char = c with
    | some m => some (.mark m, r)
    | none =>
      if c = '"' then (readChars (r.length + 1) r).map fun (t, r) => (.str t, r)
      else
        match words.find? fun w => w.1.isPrefixOf (c :: r) with
        | some (w, tok) => some (tok, (c :: r).drop w.length)
        | none => readNumber (c :: r)

/-- Reads a text of at most so many tokens. -/
def readTokens : Nat → Text → Option (List Token)
  | 0, t => if t.all isBlank then some [] else none
  | n + 1, t =>
    let u := t.dropWhile isBlank
    if u.isEmpty then some []
    else do
      let (tok, rest) ← readToken u
      return tok :: (← readTokens n rest)

/-! ### Values -/

mutual

/-- Reads a value of at most so many tokens. -/
def readValue : Nat → List Token → Option (Json × List Token)
  | 0, _ => none
  | _ + 1, .null :: ts => some (null, ts)
  | _ + 1, .bool b :: ts => some (bool b, ts)
  | _ + 1, .int n :: ts => some (int n, ts)
  | _ + 1, .float f :: ts => some (float f, ts)
  | _ + 1, .str t :: ts => some (str t, ts)
  | n + 1, .mark .arrOpen :: ts =>
    if ts.head? = some (.mark .arrClose) then some (arr [], ts.tail)
    else (readItems n ts).map fun (vs, ts) => (arr vs, ts)
  | n + 1, .mark .objOpen :: ts =>
    if ts.head? = some (.mark .objClose) then some (obj [], ts.tail)
    else (readFields n ts).map fun (fs, ts) => (obj fs, ts)
  | _ + 1, _ => none

/-- Reads the items of an array, at least one, and its end. -/
def readItems : Nat → List Token → Option (List Json × List Token)
  | 0, _ => none
  | n + 1, ts => do
    let (v, ts) ← readValue n ts
    match ts with
    | .mark .comma :: ts => (readItems n ts).map fun (vs, ts) => (v :: vs, ts)
    | .mark .arrClose :: ts => some ([v], ts)
    | _ => none

/-- Reads the fields of an object, at least one, and its end. -/
def readFields : Nat → List Token → Option (List (Text × Json) × List Token)
  | 0, _ => none
  | n + 1, .str k :: .mark .colon :: ts => do
    let (v, ts) ← readValue n ts
    match ts with
    | .mark .comma :: ts => (readFields n ts).map fun (fs, ts) => ((k, v) :: fs, ts)
    | .mark .objClose :: ts => some ([(k, v)], ts)
    | _ => none
  | _ + 1, _ => none

end

/-- Reads the value of a text. -/
def read? (t : Text) : Option Json :=
  (readTokens t.length t).bind fun ts =>
    match readValue ts.length ts with
    | some (v, []) => some v
    | _ => none

/-! ### Every spelling is read -/

variable {c : Char} {s t u rest : Text} {tok : Token} {ts : List Token}

theorem readUnit_append {ds : Text} (h : FourDigits ds) (r : Text) :
    readUnit (ds ++ r) = some (numeral 16 ds, r) := by
  rw [readUnit, List.take_left' h.1, List.drop_left' h.1]
  exact if_pos ⟨h.1, List.all_eq_true.2 h.2⟩

theorem scalar?_toNat (c : Char) : scalar? c.toNat = some c := by
  rw [scalar?, Char.ofNat_toNat]
  exact if_pos c.valid

/-- However a character is spelled, it is read. -/
theorem CharSpelling.readChar_append (h : CharSpelling c s) (r : Text) :
    readChar (s ++ r) = some (c, r) := by
  cases h with
  | plain hlow hquote hslash => simp [readChar, hquote, hslash, Nat.not_lt.2 hlow]
  | letter hx =>
    simp only [letters, List.mem_cons, Prod.mk.injEq, List.not_mem_nil, or_false] at hx
    rcases hx with ⟨rfl, rfl⟩ | ⟨rfl, rfl⟩ | ⟨rfl, rfl⟩ | ⟨rfl, rfl⟩ | ⟨rfl, rfl⟩ | ⟨rfl, rfl⟩ |
      ⟨rfl, rfl⟩ | ⟨rfl, rfl⟩ <;> rfl
  | @number _ ds hds hvalue =>
    show readNumbered (ds ++ r) = _
    simp only [readNumbered, readUnit_append hds, Option.bind_eq_bind, Option.bind_some, hvalue,
      scalar?_toNat]
    rfl
  | @pair _ ds es hds hes hlo hhi hlo' hhi' hvalue =>
    show readNumbered (ds ++ '\\' :: 'u' :: es ++ r) = _
    -- A surrogate is the number of no character, so the reader goes on with the second part.
    have hnone : scalar? (numeral 16 ds) = none := if_neg (by omega)
    have hpair : numeral 16 ds < 0xDC00 ∧ 0xDC00 ≤ numeral 16 es ∧ numeral 16 es < 0xE000 :=
      ⟨hhi, hlo', hhi'⟩
    have htake : ('\\' :: 'u' :: es ++ r).take 2 = ['\\', 'u'] := rfl
    have hdrop : ('\\' :: 'u' :: es ++ r).drop 2 = es ++ r := rfl
    simp only [readNumbered, List.append_assoc, readUnit_append hds, Option.bind_eq_bind,
      Option.bind_some, hnone, htake, if_true, hdrop, readUnit_append hes, if_pos hpair, ← hvalue,
      Char.ofNat_toNat]
    rfl

/-- No spelling of a character begins with a quotation mark. -/
theorem CharSpelling.head_ne (h : CharSpelling c s) : ∃ d r, s = d :: r ∧ d ≠ '"' := by
  cases h with
  | plain _ hquote => exact ⟨c, [], rfl, hquote⟩
  | letter | number | pair => exact ⟨'\\', _, rfl, by decide⟩

/-- A string is read up to its quotation mark. -/
theorem readChars_append {pieces : List Text} (h : List.Forall₂ CharSpelling t pieces) {n : Nat}
    (hn : t.length < n) : readChars n (pieces.flatten ++ '"' :: rest) = some (t, rest) := by
  induction h generalizing n with
  | nil =>
    obtain ⟨n, rfl⟩ := Nat.exists_eq_succ_of_ne_zero (Nat.ne_of_gt hn)
    rfl
  | @cons c s t pieces hc hpieces ih =>
    obtain ⟨n, rfl⟩ := Nat.exists_eq_succ_of_ne_zero (Nat.ne_of_gt (Nat.zero_lt_of_lt hn))
    obtain ⟨d, r, hs, hd⟩ := hc.head_ne
    have hhead : ((s :: pieces).flatten ++ '"' :: rest).head? ≠ some '"' := by
      rw [hs]
      exact fun h => hd (Option.some.inj h)
    have hothers := ih (Nat.lt_of_succ_lt_succ hn)
    rw [readChars, if_neg hhead, List.flatten_cons, List.append_assoc, hc.readChar_append]
    simp only [Option.bind_eq_bind, Option.bind_some, hothers]
    rfl

theorem length_le_flatten {pieces : List Text} (h : List.Forall₂ CharSpelling t pieces) :
    t.length ≤ pieces.flatten.length := by
  induction h with
  | nil => exact Nat.le_refl _
  | cons hc _ ih =>
    obtain ⟨d, r, rfl, -⟩ := hc.head_ne
    simp only [List.flatten_cons, List.length_append, List.length_cons]
    omega

theorem fraction?_parts (f : Fraction) : fraction? f.negative f.whole f.digits = some f :=
  dif_pos f.isFractional

/-- Sign and whole part are read up to the end of the digits. -/
theorem readNumber_append (negative : Bool) (k : Nat) {w : Text} (hw : w.Avoids Char.isDigit) :
    readNumber (Text.sign negative ++ (Nat.toDigits 10 k ++ w)) =
      readFraction (Text.sign negative ++ (Nat.toDigits 10 k ++ w)) negative k w := by
  have hdigits : ∀ d ∈ Nat.toDigits 10 k, d.isDigit := fun d hd =>
    Nat.isDigit_of_mem_toDigits (by decide) (by decide) hd
  have htake := hw.takeWhile_append hdigits
  have hdrop := hw.dropWhile_append hdigits
  cases negative with
  | false =>
    have hhead : (Nat.toDigits 10 k ++ w).head? ≠ some '-' := by
      intro h
      rw [List.head?_append_of_ne_nil _ Nat.toDigits_ne_nil] at h
      exact absurd (hdigits _ (List.mem_of_head? h)) (by decide)
    show readNumber (Nat.toDigits 10 k ++ w) = readFraction (Nat.toDigits 10 k ++ w) false k w
    simp only [readNumber, hhead, decide_false, Bool.false_eq_true, if_false, htake, hdrop,
      Nat.ofDigitChars_ten_toDigits]
  | true =>
    show readNumber ('-' :: (Nat.toDigits 10 k ++ w)) = _
    simp only [readNumber, List.head?_cons, decide_true, if_true, List.tail_cons, htake, hdrop,
      Nat.ofDigitChars_ten_toDigits]
    rfl

/-- An integer is a number of digits with a sign. -/
theorem exists_decimal_eq (n : Int) : ∃ negative k,
    Text.decimal n = Text.sign negative ++ Nat.toDigits 10 k ∧
      n = if negative then -(k : Int) else k := by
  cases n with
  | ofNat k => exact ⟨false, k, rfl, rfl⟩
  | negSucc k => exact ⟨true, k + 1, rfl, rfl⟩

/-- An integer is read up to the end of its digits. -/
theorem readNumber_int (n : Int) (hrest : rest.Avoids isNumeric) :
    readNumber (Text.decimal n ++ rest) = some (.int n, rest) := by
  obtain ⟨negative, k, hdecimal, hn⟩ := exists_decimal_eq n
  have hdigit : rest.Avoids Char.isDigit := fun c hc => (Bool.or_eq_false_iff.1 (hrest c hc)).1
  have hpoint : rest.head? ≠ some '.' := fun h => absurd (hrest '.' h) (by decide)
  have hsplit : Text.decimal n ++ rest = Text.sign negative ++ (Nat.toDigits 10 k ++ rest) := by
    rw [hdecimal, List.append_assoc]
  have hread := readNumber_append negative k hdigit
  rw [← hsplit, readFraction, if_neg hpoint, ← hn] at hread
  exact hread.trans (if_pos rfl)

/-- A fraction is read up to the end of its digits behind the point. -/
theorem readNumber_float (f : Fraction) (hrest : rest.Avoids isNumeric) :
    readNumber (f.decimal ++ rest) = some (.float f, rest) := by
  have hdigit : rest.Avoids Char.isDigit := fun c hc => (Bool.or_eq_false_iff.1 (hrest c hc)).1
  have hdigits : ∀ d ∈ f.digits, d.isDigit :=
    List.all_eq_true.1 (Bool.and_eq_true_iff.1 f.isFractional).1
  have hpoint : Text.Avoids Char.isDigit ('.' :: (f.digits ++ rest)) := Text.avoids_cons.2 rfl
  have hsplit : f.decimal ++ rest =
      Text.sign f.negative ++ (Nat.toDigits 10 f.whole ++ '.' :: (f.digits ++ rest)) := by
    simp [Fraction.decimal]
  have hread := readNumber_append f.negative f.whole hpoint
  rw [← hsplit, readFraction, if_pos (List.head?_cons ..), List.tail_cons,
    hdigit.takeWhile_append hdigits, hdigit.dropWhile_append hdigits, fraction?_parts,
    Option.bind_some] at hread
  exact hread.trans (if_pos rfl)

/-- A number begins with a digit or with a sign. -/
theorem exists_signed_eq_cons (negative : Bool) (k : Nat) (w : Text) :
    ∃ c r, Text.sign negative ++ (Nat.toDigits 10 k ++ w) = c :: r ∧
      (c.isDigit = true ∨ c = '-') := by
  cases negative with
  | false =>
    obtain ⟨c, r, hcr⟩ := List.exists_cons_of_ne_nil (Nat.toDigits_ne_nil (b := 10) (n := k))
    have hc : c ∈ Nat.toDigits 10 k := hcr ▸ List.mem_cons_self
    exact ⟨c, r ++ w, congrArg (· ++ w) hcr,
      .inl (Nat.isDigit_of_mem_toDigits (by decide) (by decide) hc)⟩
  | true => exact ⟨'-', _, rfl, .inr rfl⟩

/-- Nothing but numbers begins with a digit or with a sign. -/
theorem readToken_of_digit {r : Text} (h : c.isDigit = true ∨ c = '-') :
    isBlank c = false ∧ readToken (c :: r) = readNumber (c :: r) := by
  have hne (d : Char) (hd : ¬ (d.isDigit = true ∨ d = '-')) : d ≠ c := by
    rintro rfl
    exact hd h
  have hmarks : marks.find? (fun m => m.char = c) = none := by
    refine List.find?_eq_none.2 fun m _ => ?_
    rw [decide_eq_true_eq]
    cases m <;> exact hne _ (by decide)
  have hwords : words.find? (fun w => w.1.isPrefixOf (c :: r)) = none := by
    refine List.find?_eq_none.2 fun w hw hbegins => ?_
    obtain ⟨v, hv⟩ := List.isPrefixOf_iff_prefix.1 hbegins
    simp only [words, List.mem_cons, List.not_mem_nil, or_false] at hw
    rcases hw with rfl | rfl | rfl <;> exact hne _ (by decide) (List.cons.inj hv).1
  have hquote : c ≠ '"' := (hne _ (by decide)).symm
  constructor
  · simp only [isBlank, Bool.or_eq_false_iff, decide_eq_false_iff_not]
    exact ⟨⟨⟨(hne _ (by decide)).symm, (hne _ (by decide)).symm⟩, (hne _ (by decide)).symm⟩,
      (hne _ (by decide)).symm⟩
  · simp only [readToken, hmarks, if_neg hquote, hwords]

/-- However a token is spelled, it is read, and no blank begins its spelling. -/
theorem Token.Spelling.readToken_append (h : tok.Spelling s)
    (hrest : tok.isNumber → rest.Avoids isNumeric) :
    s.Avoids isBlank ∧ s ≠ [] ∧ readToken (s ++ rest) = some (tok, rest) := by
  have hnumber {s : Text} {tok : Token} {c : Char} {r : Text} (hcr : s = c :: r)
      (hc : c.isDigit = true ∨ c = '-') (hread : readNumber (s ++ rest) = some (tok, rest)) :
      s.Avoids isBlank ∧ s ≠ [] ∧ readToken (s ++ rest) = some (tok, rest) := by
    subst hcr
    obtain ⟨hblank, htoken⟩ := readToken_of_digit hc (r := r ++ rest)
    exact ⟨Text.avoids_cons.2 hblank, List.cons_ne_nil _ _, htoken.trans hread⟩
  cases h with
  | mark m => cases m <;> exact ⟨Text.avoids_cons.2 rfl, List.cons_ne_nil _ _, rfl⟩
  | null => exact ⟨Text.avoids_cons.2 rfl, List.cons_ne_nil _ _, rfl⟩
  | bool b => cases b <;> exact ⟨Text.avoids_cons.2 rfl, List.cons_ne_nil _ _, rfl⟩
  | int n =>
    obtain ⟨negative, k, hdecimal, -⟩ := exists_decimal_eq n
    obtain ⟨c, r, hcr, hc⟩ := exists_signed_eq_cons negative k []
    rw [List.append_nil, ← hdecimal] at hcr
    exact hnumber hcr hc (readNumber_int n (hrest rfl))
  | float f =>
    obtain ⟨c, r, hcr, hc⟩ := exists_signed_eq_cons f.negative f.whole ('.' :: f.digits)
    exact hnumber hcr hc (readNumber_float f (hrest rfl))
  | @str t pieces hpieces =>
    refine ⟨Text.avoids_cons.2 rfl, List.cons_ne_nil _ _, ?_⟩
    have hassoc : pieces.flatten ++ ['"'] ++ rest = pieces.flatten ++ '"' :: rest :=
      List.append_assoc ..
    have hlength : t.length < (pieces.flatten ++ '"' :: rest).length + 1 := by
      have hpieces := length_le_flatten hpieces
      rw [List.length_append]
      omega
    show (readChars ((pieces.flatten ++ ['"'] ++ rest).length + 1)
      (pieces.flatten ++ ['"'] ++ rest)).map _ = _
    rw [hassoc, readChars_append hpieces hlength]
    rfl

/-- A text of tokens is read as those tokens. -/
theorem readTokens_of_layout (h : Layout ts t) {n : Nat} (hn : ts.length ≤ n) :
    readTokens n t = some ts := by
  induction h generalizing n with
  | @nil blanks hblanks =>
    cases n with
    | zero => exact if_pos (List.all_eq_true.2 hblanks)
    | succ n => exact if_pos (List.isEmpty_iff.2 (List.dropWhile_eq_nil_iff.2 hblanks))
  | @cons tok ts blanks s rest hblanks hs hrest _ ih =>
    obtain ⟨n, rfl⟩ := Nat.exists_eq_succ_of_ne_zero (Nat.ne_of_gt (Nat.lt_of_lt_of_le
      (Nat.succ_pos _) hn))
    obtain ⟨havoids, hne, hread⟩ := hs.readToken_append hrest
    have hothers := ih (Nat.le_of_succ_le_succ hn)
    have hdrop : (blanks ++ (s ++ rest)).dropWhile isBlank = s ++ rest := by
      refine Text.Avoids.dropWhile_append (fun c hc => havoids c ?_) hblanks
      rwa [List.head?_append_of_ne_nil _ hne] at hc
    have hempty : (s ++ rest).isEmpty = false := by simp [hne]
    simp only [readTokens, hdrop, hempty, hread, Bool.false_eq_true, if_false,
      Option.bind_eq_bind, Option.bind_some, hothers]
    rfl

theorem Layout.length_le (h : Layout ts t) : ts.length ≤ t.length := by
  induction h with
  | nil => exact Nat.zero_le _
  | cons _ hs hrest _ ih =>
    have hpos := List.length_pos_of_ne_nil (hs.readToken_append hrest).2.1
    simp only [List.length_cons, List.length_append]
    omega

/-! ### Every value is read -/

/-- A value does not begin with the end of an array or of an object. -/
theorem head?_tokens (v : Json) (ts : List Token) :
    (v.tokens ++ ts).head? ≠ some (.mark .arrClose) := by
  cases v <;> simp [tokens]

theorem exists_fieldTokens_eq_cons (f : Text × Json) (fs : List (Text × Json)) :
    ∃ ts, fieldTokens (f :: fs) = .str f.1 :: .mark .colon :: ts := by
  obtain ⟨k, v⟩ := f
  cases fs <;> exact ⟨_, rfl⟩

mutual

/-- A value is read from its tokens. -/
theorem readValue_tokens : ∀ (v : Json) (ts : List Token) {n : Nat}, v.tokens.length ≤ n →
    readValue n (v.tokens ++ ts) = some (v, ts)
  | null, _, n + 1, _ => rfl
  | bool b, _, n + 1, _ => rfl
  | int k, _, n + 1, _ => rfl
  | float f, _, n + 1, _ => rfl
  | str t, _, n + 1, _ => rfl
  | arr [], _, n + 1, _ => rfl
  | arr (v :: vs), ts, n + 1, hn => by
    rw [tokens, List.length_cons, List.length_append, List.length_singleton] at hn
    have hitems := readItems_tokens (v :: vs) ts (List.cons_ne_nil v vs)
      (Nat.le_of_succ_le_succ hn)
    have hhead : (itemTokens (v :: vs) ++ .mark .arrClose :: ts).head? ≠
        some (.mark .arrClose) := by
      cases vs with
      | nil => exact head?_tokens v _
      | cons w vs =>
        show ((v.tokens ++ .mark .comma :: itemTokens (w :: vs)) ++ _).head? ≠ _
        rw [List.append_assoc]
        exact head?_tokens v _
    rw [tokens, List.cons_append, List.append_assoc, List.singleton_append, readValue,
      if_neg hhead, hitems]
    rfl
  | obj [], _, n + 1, _ => rfl
  | obj (f :: fs), ts, n + 1, hn => by
    rw [tokens, List.length_cons, List.length_append, List.length_singleton] at hn
    have hfields := readFields_tokens (f :: fs) ts (List.cons_ne_nil f fs)
      (Nat.le_of_succ_le_succ hn)
    have hhead : (fieldTokens (f :: fs) ++ .mark .objClose :: ts).head? ≠
        some (.mark .objClose) := by
      obtain ⟨us, hus⟩ := exists_fieldTokens_eq_cons f fs
      rw [hus]
      exact fun h => by cases h
    rw [tokens, List.cons_append, List.append_assoc, List.singleton_append, readValue,
      if_neg hhead, hfields]
    rfl

theorem readItems_tokens : ∀ (vs : List Json) (ts : List Token) {n : Nat}, vs ≠ [] →
    (itemTokens vs).length < n →
    readItems n (itemTokens vs ++ .mark .arrClose :: ts) = some (vs, ts)
  | [v], ts, n + 1, _, hn => by
    have hvalue := readValue_tokens v (.mark .arrClose :: ts) (Nat.le_of_lt_succ hn)
    rw [itemTokens, readItems, hvalue]
    rfl
  | v :: w :: vs, ts, n + 1, _, hn => by
    have htokens : itemTokens (v :: w :: vs) =
        v.tokens ++ .mark .comma :: itemTokens (w :: vs) := rfl
    rw [htokens, List.length_append, List.length_cons] at hn
    have hvalue := readValue_tokens v
      (.mark .comma :: (itemTokens (w :: vs) ++ .mark .arrClose :: ts)) (n := n) (by omega)
    have hothers := readItems_tokens (w :: vs) ts (n := n) (List.cons_ne_nil w vs) (by omega)
    rw [htokens, List.append_assoc, List.cons_append, readItems, hvalue]
    simp only [Option.bind_eq_bind, Option.bind_some, hothers]
    rfl

theorem readFields_tokens : ∀ (fs : List (Text × Json)) (ts : List Token) {n : Nat}, fs ≠ [] →
    (fieldTokens fs).length < n →
    readFields n (fieldTokens fs ++ .mark .objClose :: ts) = some (fs, ts)
  | [(k, v)], ts, n + 1, _, hn => by
    rw [fieldTokens, List.length_cons, List.length_cons] at hn
    have hvalue := readValue_tokens v (.mark .objClose :: ts) (n := n) (by omega)
    rw [fieldTokens, List.cons_append, List.cons_append, readFields, hvalue]
    rfl
  | (k, v) :: f :: fs, ts, n + 1, _, hn => by
    have htokens : fieldTokens ((k, v) :: f :: fs) =
        .str k :: .mark .colon :: (v.tokens ++ .mark .comma :: fieldTokens (f :: fs)) := rfl
    rw [htokens, List.length_cons, List.length_cons, List.length_append, List.length_cons] at hn
    have hvalue := readValue_tokens v
      (.mark .comma :: (fieldTokens (f :: fs) ++ .mark .objClose :: ts)) (n := n) (by omega)
    have hothers := readFields_tokens (f :: fs) ts (n := n) (List.cons_ne_nil f fs) (by omega)
    rw [htokens, List.cons_append, List.cons_append, List.append_assoc, List.cons_append,
      readFields, hvalue]
    simp only [Option.bind_eq_bind, Option.bind_some, hothers]
    rfl

end

/-- **Every text of a value is read as that value.** -/
theorem HasText.read?_eq {v : Json} (h : v.HasText t) : read? t = some v := by
  have hvalue := readValue_tokens v [] (Nat.le_refl _)
  rw [List.append_nil] at hvalue
  rw [read?, readTokens_of_layout h h.length_le, Option.bind_some, hvalue]

end Json

/-! ### Outcomes -/

namespace Outcome

/-- The fields may come in the other order. -/
theorem ofJson_swapped (o : Outcome) :
    ofJson (.obj [("captures".toList, .arr (o.captures.map .ofOption)),
      ("text".toList, .ofOption o.text)]) = .ok o := by
  have htext : [("captures".toList, Json.arr (o.captures.map .ofOption)),
      ("text".toList, .ofOption o.text)].lookup "text".toList =
        some (Json.ofOption o.text) := rfl
  have hcaptures : [("captures".toList, Json.arr (o.captures.map .ofOption)),
      ("text".toList, .ofOption o.text)].lookup "captures".toList =
        some (Json.arr (o.captures.map .ofOption)) := rfl
  rw [ofJson, htext, hcaptures]
  simp only [Option.mapM_some, Json.toCaptures_ofOptions, Json.toOptionText_ofOption]
  rfl

/-- An array of the two values is read too. -/
theorem ofJson_pair (o : Outcome) :
    ofJson (.arr [.ofOption o.text, .arr (o.captures.map .ofOption)]) = .ok o := by
  rw [ofJson, Json.toOptionText_ofOption]
  show (Json.toCaptures _ >>= _) = _
  rw [Json.toCaptures_ofOptions]
  rfl

/-- **Outcomes are read as they are written.** The text that is written for an outcome is read as a
    value that is read as this outcome, and whatever value has that text, it is read so. It makes
    no difference if the two fields of the value are in the other order, or if there is an array in
    their place. No other outcome is written as that text. -/
theorem ofJson_of_hasText (o : Outcome) :
    ((Json.read? o.toJson.write).map ofJson = some (.ok o) ∧
      ∀ v : Json, v.HasText o.toJson.write → ofJson v = .ok o) ∧
    ofJson (.obj [("captures".toList, .arr (o.captures.map .ofOption)),
      ("text".toList, .ofOption o.text)]) = .ok o ∧
    ofJson (.arr [.ofOption o.text, .arr (o.captures.map .ofOption)]) = .ok o ∧
    ∀ o' : Outcome, o'.toJson.write = o.toJson.write → o' = o := by
  have hread (o : Outcome) : Json.read? o.toJson.write = some o.toJson :=
    (Json.hasText_write _).read?_eq
  refine ⟨⟨?_, fun v hv => ?_⟩, o.ofJson_swapped, o.ofJson_pair, fun o' h => ?_⟩
  · rw [hread, Option.map_some, ofJson_toJson]
  · obtain rfl := Option.some.inj (hv.read?_eq.symm.trans (hread o))
    exact o.ofJson_toJson
  · -- One text is read as one value, and this as one outcome.
    have hvalue := Option.some.inj ((hread o').symm.trans (h ▸ hread o))
    exact Except.ok.inj (o'.ofJson_toJson.symm.trans (hvalue ▸ o.ofJson_toJson))

/-- An outcome whose text is the word for none, with captures that are missing, empty, the same word
    again, and made of characters that do not stand for themselves. -/
def wordOutcome : Outcome :=
  .success "null".toList [none, some [], some "null".toList, some "\"\\\n\x01日😀".toList]

theorem ofJson_of_hasText_wordOutcome :
    wordOutcome.toJson.write = ("\x7b\"text\":\"null\",\"captures\":" ++
      "[null,\"\",\"null\",\"\\\"\\\\\\n\\u0001日😀\"]\x7d").toList ∧
    wordOutcome.toJson.HasText wordOutcome.toJson.write ∧
    ofJson wordOutcome.toJson = .ok wordOutcome ∧
    (success [] wordOutcome.captures).toJson.write ≠ wordOutcome.toJson.write := by
  have htext := wordOutcome.toJson.hasText_write
  obtain ⟨⟨-, hread⟩, -, -, hsame⟩ := ofJson_of_hasText wordOutcome
  exact ⟨by decide, htext, hread _ htext, fun h => absurd (hsame _ h) (by decide)⟩

end Outcome

end TextScan
