import Mathlib.Data.List.Forall2
import TextScan.Json
import TextScan.Proofs.Text
import TextScan.Regex.Reading.Escape

namespace TextScan.Json

open Regex (isHexDigit numeral)

/-!
# JSON texts

What a JSON text is, apart from any way to read one. A value is a list of tokens. A text of the
value spells its tokens one behind another, with blanks around them. Most characters of a string can
be spelled in several ways, those below the blank cannot stand for themselves.

* `Token` is the type of tokens, `Json.tokens` lists those of a value.
* `CharSpelling` and `Token.Spelling` are the spellings of a character within a string and of a
  token. `Layout` puts blanks around tokens.
* `Json.HasText` says that a text is one of a value. By `Json.hasText_write`, what is written for a
  value is.

Of numbers only one spelling is considered, which has neither zeros that could be left out nor an
exponent.
-/

/-- The signs that hold values together. -/
inductive Mark where
  | arrOpen | arrClose | objOpen | objClose | comma | colon
  deriving DecidableEq, Repr

/-- The character of a sign. -/
def Mark.char : Mark → Char
  | arrOpen => '['
  | arrClose => ']'
  | objOpen => '\x7b'
  | objClose => '\x7d'
  | comma => ','
  | colon => ':'

/-- A token of a JSON text. -/
inductive Token where
  | mark (m : Mark)
  | null
  | bool (b : Bool)
  | int (n : Int)
  | float (f : Fraction)
  | str (t : Text)
  deriving DecidableEq, Repr

mutual

/-- The tokens of a value. -/
def tokens : Json → List Token
  | null => [.null]
  | bool b => [.bool b]
  | int n => [.int n]
  | float f => [.float f]
  | str t => [.str t]
  | arr items => .mark .arrOpen :: (itemTokens items ++ [.mark .arrClose])
  | obj fields => .mark .objOpen :: (fieldTokens fields ++ [.mark .objClose])

/-- The tokens of the items of an array. -/
def itemTokens : List Json → List Token
  | [] => []
  | [v] => tokens v
  | v :: vs => tokens v ++ .mark .comma :: itemTokens vs

/-- The tokens of the fields of an object. -/
def fieldTokens : List (Text × Json) → List Token
  | [] => []
  | [(k, v)] => .str k :: .mark .colon :: tokens v
  | (k, v) :: fs => .str k :: .mark .colon :: (tokens v ++ .mark .comma :: fieldTokens fs)

end

/-! ### Spellings -/

/-- The letters behind a backslash, with the characters that they stand for. -/
def letters : List (Char × Char) :=
  [('"', '"'), ('\\', '\\'), ('/', '/'), ('b', '\x08'), ('f', '\x0c'), ('n', '\n'), ('r', '\r'),
    ('t', '\t')]

/-- Four hexadecimal digits. -/
def FourDigits (ds : Text) : Prop := ds.length = 4 ∧ ∀ d ∈ ds, isHexDigit d

/-- The spellings of a character within a string. Characters whose numbers have more than four
    digits are numbered by a pair, of which the first part is a high surrogate and the second a low
    one. -/
inductive CharSpelling : Char → Text → Prop
  | plain {c : Char} : 32 ≤ c.toNat → c ≠ '"' → c ≠ '\\' → CharSpelling c [c]
  | letter {x c : Char} : (x, c) ∈ letters → CharSpelling c ['\\', x]
  | number {c : Char} {ds : Text} : FourDigits ds → numeral 16 ds = c.toNat →
      CharSpelling c ('\\' :: 'u' :: ds)
  | pair {c : Char} {ds es : Text} : FourDigits ds → FourDigits es →
      0xD800 ≤ numeral 16 ds → numeral 16 ds < 0xDC00 →
      0xDC00 ≤ numeral 16 es → numeral 16 es < 0xE000 →
      c.toNat = 0x10000 + (numeral 16 ds - 0xD800) * 0x400 + (numeral 16 es - 0xDC00) →
      CharSpelling c ('\\' :: 'u' :: (ds ++ '\\' :: 'u' :: es))

/-- The spellings of a token. -/
inductive Token.Spelling : Token → Text → Prop
  | mark (m : Mark) : Spelling (.mark m) [m.char]
  | null : Spelling .null "null".toList
  | bool (b : Bool) : Spelling (.bool b) (if b then "true" else "false").toList
  | int (n : Int) : Spelling (.int n) (Text.decimal n)
  | float (f : Fraction) : Spelling (.float f) f.decimal
  | str {t : Text} {pieces : List Text} : List.Forall₂ CharSpelling t pieces →
      Spelling (.str t) ('"' :: (pieces.flatten ++ ['"']))

/-- Whether a token is a number. -/
def Token.isNumber : Token → Bool
  | int _ | float _ => true
  | _ => false

/-- Whether a number may go on with a character. -/
def isNumeric (c : Char) : Bool := c.isDigit || c = '.'

/-- Whether a character may stand between tokens. -/
def isBlank (c : Char) : Bool := c = ' ' || c = '\t' || c = '\n' || c = '\r'

/-- A text spells tokens, with blanks around them. A number ends where neither a
    digit nor a point follows. -/
inductive Layout : List Token → Text → Prop
  | nil {blanks : Text} : (∀ c ∈ blanks, isBlank c) → Layout [] blanks
  | cons {tok : Token} {ts : List Token} {blanks s rest : Text} : (∀ c ∈ blanks, isBlank c) →
      tok.Spelling s → (tok.isNumber → rest.Avoids isNumeric) → Layout ts rest →
      Layout (tok :: ts) (blanks ++ (s ++ rest))

/-- The text is a JSON text of the value. -/
def HasText (v : Json) (t : Text) : Prop := Layout v.tokens t

/-! ### What is written -/

/-- The hexadecimal digits of a number below sixteen are read as that number. -/
theorem numeral_digitChar : ∀ m < 16, ∀ n < 16, isHexDigit (Nat.digitChar n) ∧
    numeral 16 ['0', '0', Nat.digitChar m, Nat.digitChar n] = 16 * m + n := by decide

theorem writeChar_spelling (c : Char) : CharSpelling c (writeChar c) := by
  unfold writeChar
  by_cases hquote : c = '"'
  · rw [if_pos hquote]
    exact .letter (by simp [letters, hquote])
  rw [if_neg hquote]
  by_cases hslash : c = '\\'
  · rw [if_pos hslash]
    exact .letter (by simp [letters, hslash])
  rw [if_neg hslash]
  -- The other characters with a letter of their own.
  iterate 5
    split
    · exact .letter (by simp [letters, *])
  split
  · rename_i hlow
    have hm : c.toNat / 16 < 16 := by omega
    have hn : c.toNat % 16 < 16 := Nat.mod_lt _ (by decide)
    obtain ⟨hlast, hvalue⟩ := numeral_digitChar _ hm _ hn
    refine .number ⟨rfl, ?_⟩ (by rw [hvalue]; omega)
    simp only [List.mem_cons, List.not_mem_nil, or_false, forall_eq_or_imp, forall_eq]
    exact ⟨rfl, rfl, (numeral_digitChar _ hm _ hm).1, hlast⟩
  · rename_i hlow
    exact .plain (by omega) hquote hslash

theorem writeString_spelling (t : Text) : (Token.str t).Spelling (writeString t) := by
  have hpieces : List.Forall₂ CharSpelling t (t.map writeChar) := by
    rw [List.forall₂_map_right_iff, List.forall₂_same]
    exact fun c _ => writeChar_spelling c
  rw [writeString, List.flatMap_def]
  exact .str hpieces

namespace Layout

variable {tok : Token} {ts : List Token} {s rest : Text}

/-- A token without blanks before it. -/
theorem token (hs : tok.Spelling s) (hrest : tok.isNumber → rest.Avoids isNumeric)
    (h : Layout ts rest) : Layout (tok :: ts) (s ++ rest) :=
  show Layout (tok :: ts) ([] ++ (s ++ rest)) from
    .cons (fun _ hc => absurd hc List.not_mem_nil) hs hrest h

theorem mark (m : Mark) (h : Layout ts rest) : Layout (.mark m :: ts) (m.char :: rest) :=
  token (.mark m) (fun hnumber => by cases hnumber) h

theorem str (t : Text) (h : Layout ts rest) : Layout (.str t :: ts) (writeString t ++ rest) :=
  token (writeString_spelling t) (fun hnumber => by cases hnumber) h

end Layout

theorem avoids_mark (m : Mark) (t : Text) : Text.Avoids isNumeric (m.char :: t) :=
  Text.avoids_cons.2 (by cases m <;> rfl)

mutual

/-- What is written for a value, in front of a text, spells the tokens of the value first. -/
theorem write_layout : ∀ (v : Json) {ts : List Token} {rest : Text}, rest.Avoids isNumeric →
    Layout ts rest → Layout (v.tokens ++ ts) (v.write ++ rest)
  | null, _, _, _, h => .token .null (fun hnumber => by cases hnumber) h
  | bool b, _, _, _, h => .token (.bool b) (fun hnumber => by cases hnumber) h
  | int n, _, _, hrest, h => .token (.int n) (fun _ => hrest) h
  | float f, _, _, hrest, h => .token (.float f) (fun _ => hrest) h
  | str t, _, _, _, h => .str t h
  | arr items, ts, rest, hrest, h => by
    rw [tokens, write, List.cons_append, List.cons_append, List.append_assoc, List.append_assoc]
    exact .mark .arrOpen (writeItems_layout items (avoids_mark .arrClose rest)
      (.mark .arrClose h))
  | obj fields, ts, rest, hrest, h => by
    rw [tokens, write, List.cons_append, List.cons_append, List.append_assoc, List.append_assoc]
    exact .mark .objOpen (writeFields_layout fields (avoids_mark .objClose rest)
      (.mark .objClose h))

theorem writeItems_layout : ∀ (vs : List Json) {ts : List Token} {rest : Text},
    rest.Avoids isNumeric → Layout ts rest →
      Layout (itemTokens vs ++ ts) (writeItems vs ++ rest)
  | [], _, _, _, h => h
  | [v], _, _, hrest, h => write_layout v hrest h
  | v :: w :: vs, ts, rest, hrest, h => by
    have hothers := writeItems_layout (w :: vs) hrest h
    show Layout (v.tokens ++ .mark .comma :: itemTokens (w :: vs) ++ ts)
      (v.write ++ ',' :: writeItems (w :: vs) ++ rest)
    rw [List.append_assoc, List.append_assoc]
    exact write_layout v (avoids_mark .comma _) (.mark .comma hothers)

theorem writeFields_layout : ∀ (fs : List (Text × Json)) {ts : List Token} {rest : Text},
    rest.Avoids isNumeric → Layout ts rest →
      Layout (fieldTokens fs ++ ts) (writeFields fs ++ rest)
  | [], _, _, _, h => h
  | [(k, v)], ts, rest, hrest, h => by
    rw [fieldTokens, writeFields, List.append_assoc]
    exact .str k (.mark .colon (write_layout v hrest h))
  | (k, v) :: f :: fs, ts, rest, hrest, h => by
    have hothers := writeFields_layout (f :: fs) hrest h
    have hvalue : Layout (v.tokens ++ .mark .comma :: fieldTokens (f :: fs) ++ ts)
        (v.write ++ ',' :: writeFields (f :: fs) ++ rest) := by
      rw [List.append_assoc, List.append_assoc]
      exact write_layout v (avoids_mark .comma _) (.mark .comma hothers)
    show Layout
      (.str k :: .mark .colon :: (v.tokens ++ .mark .comma :: fieldTokens (f :: fs) ++ ts))
      (writeString k ++ ':' :: (v.write ++ ',' :: writeFields (f :: fs)) ++ rest)
    rw [List.append_assoc (writeString k)]
    exact .str k (.mark .colon hvalue)

end

/-- **What is written for a value is a JSON text of it.** -/
theorem hasText_write (v : Json) : v.HasText v.write := by
  have h : Layout (v.tokens ++ []) (v.write ++ []) :=
    write_layout v (fun _ hc => by cases hc) (.nil fun _ hc => absurd hc List.not_mem_nil)
  rwa [List.append_nil, List.append_nil] at h

end TextScan.Json
