import TextScan.Proofs.Template.Layout

namespace TextScan.Template

/-!
# Tokens that cannot go on

Every token but text is told from its beginning, and it is as long as it can be.

* `Kind.goesOn` are the characters by which a token goes on, `Kind.first` those that it begins with.
* `Kind.cut` is the token of a kind that a text begins with. By `Kind.cut_append` and
  `Kind.exists_of_cut_ne_nil`, it is a text of the kind that cannot go on.
* `follows_iff` says that pieces may stand side by side exactly if the first token cannot go on in
  the second piece. By `follows_body_iff`, the same holds of all that a block or a tag goes on with.
-/

/-! ### Classes of characters -/

/-- The characters that names begin with, as ranges. -/
def identStarts : CharSet := ⟨[(65, 90), (95, 95), (97, 122)]⟩

/-- The characters of names as ranges. -/
def identParts : CharSet := ⟨(46, 46) :: Unicode.wordChar.ranges⟩

/-- The characters at which names end: blanks, bars and the beginnings of closing markers. -/
def delimiters : CharSet := ⟨(37, 37) :: (124, 125) :: Unicode.whiteSpace.ranges⟩

theorem contains_identStarts (c : Char) : identStarts.contains c = isIdentStart c := by
  have halpha : c.isAlpha = (decide (65 ≤ c.toNat ∧ c.toNat ≤ 90) ||
    (decide (97 ≤ c.toNat) && decide (c.toNat ≤ 122))) := rfl
  rw [Bool.eq_iff_iff]
  simp only [identStarts, CharSet.contains, isIdentStart, halpha, List.any_cons, List.any_nil,
    Bool.or_false, Bool.or_eq_true, Bool.and_eq_true, decide_eq_true_eq, ← Char.toNat_inj]
  show _ ↔ (_ ∨ _) ∨ c.toNat = 95
  omega

theorem contains_identParts (c : Char) : identParts.contains c = isIdentPart c := by
  have hdot : (decide (46 ≤ c.toNat) && decide (c.toNat ≤ 46)) = decide (c = '.') := by
    rw [Bool.eq_iff_iff]
    simp only [Bool.and_eq_true, decide_eq_true_eq, ← Char.toNat_inj]
    show _ ↔ c.toNat = 46
    omega
  show (_ && _ || isWordChar c) = _
  rw [hdot, Bool.or_comm]
  rfl

theorem isIdentPart_eq_false_of_delimiter {c : Char} (h : delimiters.contains c) :
    isIdentPart c = false :=
  contains_identParts c ▸ CharSet.contains_eq_false_of_apart (by decide +kernel) h

theorem isIdentPart_eq_false_of_isBlank {c : Char} (h : isBlank c) : isIdentPart c = false := by
  apply isIdentPart_eq_false_of_delimiter
  simp only [delimiters, CharSet.contains, List.any_cons, Bool.or_eq_true]
  exact .inr (.inr h)

theorem isIdentPart_of_isWordChar {c : Char} (h : isWordChar c) : isIdentPart c := by
  rw [isIdentPart, h]
  rfl

theorem isWordChar_eq_false {c : Char} (h : isIdentPart c = false) : isWordChar c = false := by
  rw [Bool.eq_false_iff] at h ⊢
  exact fun hword => h (isIdentPart_of_isWordChar hword)

theorem isWordChar_of_isIdentStart {c : Char} (h : isIdentStart c) : isWordChar c := by
  rw [← contains_identStarts, identStarts, CharSet.contains, List.any_eq_true] at h
  obtain ⟨r, hr, hc⟩ := h
  have hranges : [(65, 90), (95, 95), (97, 122)] ⊆ Unicode.wordChar.ranges := by decide
  exact List.any_eq_true.2 ⟨r, hranges hr, hc⟩

theorem isBlank_eq_false_of_isWordChar {c : Char} (h : isWordChar c) : isBlank c = false := by
  rw [Bool.eq_false_iff]
  intro hblank
  exact absurd h (by rw [isWordChar_eq_false (isIdentPart_eq_false_of_isBlank hblank)]; decide)

/-! ### The longest token of a kind -/

/-- The characters by which a token of the kind goes on. -/
def Kind.goesOn : Kind → Char → Bool
  | blockOpen | tagOpen => isBlank
  | keyword => isWordChar
  | ident => isIdentPart
  | text | blockClose | tagClose | pipe => fun _ => false

/-- The characters that a token of the kind begins with. -/
def Kind.first : Kind → Char → Bool
  | text => fun _ => true
  | blockOpen | tagOpen => (· = '{')
  | blockClose => (· = '}')
  | tagClose => (· = '%')
  | keyword => isWordChar
  | ident => isIdentStart
  | pipe => (· = '|')

/-- A given text, if the text `v` begins with it. -/
def markAt (m v : Text) : Text := if m.isPrefixOf v then m else []

/-- A given text with the blanks behind it, if the text `v` begins with it. -/
def openAt (m v : Text) : Text :=
  Regex.Program.headedPrefix (m.map CharSet.single) Unicode.whiteSpace v

/-- The name that a text begins with. It may hold dots. -/
def identAt (v : Text) : Text := Regex.Program.headedPrefix [identStarts] identParts v

/-- The token of the kind that a text begins with. Text is not told from its beginning. -/
def Kind.cut : Kind → Text → Text
  | text => fun _ => []
  | blockOpen => openAt openBraces
  | blockClose => markAt closeBraces
  | tagOpen => openAt openTag
  | tagClose => markAt closeTag
  | keyword => List.takeWhile isWordChar
  | ident => identAt
  | pipe => markAt ['|']

theorem markAt_append (m w : Text) : markAt m (m ++ w) = m :=
  if_pos (List.isPrefixOf_iff_prefix.2 (List.prefix_append _ _))

theorem exists_of_ite_ne_nil {m v x : Text} (h : (if m.isPrefixOf v then x else []) ≠ []) :
    ∃ w, v = m ++ w := by
  split at h
  · rename_i hbegins
    obtain ⟨w, hw⟩ := List.isPrefixOf_iff_prefix.1 hbegins
    exact ⟨w, hw.symm⟩
  · exact absurd rfl h

theorem openAt_append (m w : Text) : openAt m (m ++ w) = m ++ w.takeWhile isBlank := by
  have hbegins : Regex.Program.begins (m.map CharSet.single) (m ++ w) := by
    rw [Regex.Program.begins_single]
    exact List.isPrefixOf_iff_prefix.2 (List.prefix_append _ _)
  rw [openAt, Regex.Program.headedPrefix, if_pos hbegins, List.length_map, List.take_left,
    List.drop_left]
  rfl

theorem identAt_cons (c : Char) (v : Text) :
    identAt (c :: v) = if isIdentStart c then c :: v.takeWhile isIdentPart else [] := by
  have hparts : identParts.contains = isIdentPart := funext contains_identParts
  show (if identStarts.contains c && true then [c] ++ v.takeWhile identParts.contains else []) = _
  rw [Bool.and_true, contains_identStarts, hparts]
  rfl

namespace Kind

variable {k k' : Kind} {c : Char} {v w x : Text}

theorem exists_first (hx : Spells k x) : ∃ c r, x = c :: r ∧ k.first c := by
  cases hx with
  | text hne _ =>
    obtain ⟨c, r, rfl⟩ := List.exists_cons_of_ne_nil hne
    exact ⟨c, r, rfl, rfl⟩
  | keyword hne hword =>
    obtain ⟨c, r, rfl⟩ := List.exists_cons_of_ne_nil hne
    exact ⟨c, r, rfl, hword c List.mem_cons_self⟩
  | ident hstart _ => exact ⟨_, _, rfl, hstart⟩
  | blockOpen _ => exact ⟨_, _, rfl, rfl⟩
  | blockClose => exact ⟨_, _, rfl, rfl⟩
  | tagOpen _ => exact ⟨_, _, rfl, rfl⟩
  | tagClose => exact ⟨_, _, rfl, rfl⟩
  | pipe => exact ⟨_, _, rfl, rfl⟩

/-- A token that cannot go on is the one that the text begins with. -/
theorem cut_append (hk : k ≠ .text) (hx : Spells k x) (hw : w.Avoids k.goesOn) :
    k.cut (x ++ w) = x := by
  cases hx with
  | text _ _ => exact absurd rfl hk
  | @blockOpen b hb =>
    rw [List.append_assoc]
    exact (openAt_append _ _).trans (congrArg _ (hw.takeWhile_append hb))
  | @tagOpen b hb =>
    rw [List.append_assoc]
    exact (openAt_append _ _).trans (congrArg _ (hw.takeWhile_append hb))
  | blockClose => exact markAt_append _ _
  | tagClose => exact markAt_append _ _
  | pipe => exact markAt_append _ _
  | keyword _ hword => exact hw.takeWhile_append hword
  | @ident c t hstart hpart =>
    have htake : (t ++ w).takeWhile isIdentPart = t := hw.takeWhile_append hpart
    rw [List.cons_append]
    exact (identAt_cons _ _).trans (by rw [if_pos hstart, htake])

/-- What a text begins with is a token that cannot go on. -/
theorem exists_of_cut_ne_nil (h : k.cut v ≠ []) :
    ∃ x w, v = x ++ w ∧ Spells k x ∧ w.Avoids k.goesOn := by
  have hmark {m : Text} (h : markAt m v ≠ []) (hm : Spells k m)
      (hgoesOn : k.goesOn = fun _ => false) :
      ∃ x w, v = x ++ w ∧ Spells k x ∧ w.Avoids k.goesOn := by
    obtain ⟨w, rfl⟩ := exists_of_ite_ne_nil h
    exact ⟨m, w, rfl, hm, fun c _ => by rw [hgoesOn]⟩
  have hopen {m : Text} (h : openAt m v ≠ []) (hm : ∀ b, Blanks b → Spells k (m ++ b))
      (hgoesOn : k.goesOn = isBlank) : ∃ x w, v = x ++ w ∧ Spells k x ∧ w.Avoids k.goesOn := by
    rw [openAt, Regex.Program.headedPrefix, Regex.Program.begins_single] at h
    obtain ⟨u, rfl⟩ := exists_of_ite_ne_nil h
    obtain ⟨b, hu, hb⟩ := blanks_append_dropWhile u
    refine ⟨m ++ b, u.dropWhile isBlank, by rw [List.append_assoc, ← hu], hm b hb, ?_⟩
    rw [hgoesOn]
    exact Text.avoids_dropWhile _ _
  cases k with
  | text => exact absurd rfl h
  | blockOpen => exact hopen h (fun _ => .blockOpen) rfl
  | tagOpen => exact hopen h (fun _ => .tagOpen) rfl
  | blockClose => exact hmark h .blockClose rfl
  | tagClose => exact hmark h .tagClose rfl
  | pipe => exact hmark h .pipe rfl
  | keyword =>
    refine ⟨v.takeWhile isWordChar, v.dropWhile isWordChar, List.takeWhile_append_dropWhile.symm,
      .keyword h (List.all_eq_true.1 List.all_takeWhile), Text.avoids_dropWhile _ _⟩
  | ident =>
    cases v with
    | nil => exact absurd rfl h
    | cons c v =>
      by_cases hstart : isIdentStart c
      · refine ⟨c :: v.takeWhile isIdentPart, v.dropWhile isIdentPart, ?_,
          .ident hstart (List.all_eq_true.1 List.all_takeWhile), Text.avoids_dropWhile _ _⟩
        rw [List.cons_append, List.takeWhile_append_dropWhile]
      · exact absurd ((identAt_cons c v).trans (if_neg hstart)) h

/-- A text that does not begin like a token of the kind has none at its beginning. -/
theorem cut_cons_eq_nil (hfirst : k.first c = false) : k.cut (c :: v) = [] := by
  by_contra h
  obtain ⟨x, w, hv, hx, -⟩ := exists_of_cut_ne_nil h
  obtain ⟨d, r, rfl, hd⟩ := exists_first hx
  obtain ⟨rfl, -⟩ := List.cons.inj hv
  rw [hfirst] at hd
  cases hd

/-- In a block or a tag, a token other than a name begins with a delimiter. -/
theorem eq_ident_or_delimiter (hk : k.takesGap) (hc : k.first c) :
    k = .ident ∨ delimiters.contains c := by
  have hmark {d : Char} (hd : delimiters.contains d) (hc : decide (c = d) = true) :
      delimiters.contains c := of_decide_eq_true hc ▸ hd
  cases k with
  | ident => exact .inl rfl
  | pipe => exact .inr (hmark (by decide) hc)
  | blockClose => exact .inr (hmark (by decide) hc)
  | tagClose => exact .inr (hmark (by decide) hc)
  | text | blockOpen | tagOpen | keyword => cases hk

/-- In a block or a tag, a name begins with a character of words, and no other token does. -/
theorem first_iff_ident {f : Char → Bool} (hk : k.takesGap) (hc : k.first c)
    (hstart : ∀ d, isIdentStart d → f d) (hpart : ∀ d, f d → isIdentPart d) :
    f c = true ↔ k = .ident := by
  constructor
  · intro hfc
    refine (eq_ident_or_delimiter hk hc).resolve_right fun hdelimiter => ?_
    have hc := hpart c hfc
    rw [isIdentPart_eq_false_of_delimiter hdelimiter] at hc
    cases hc
  · rintro rfl
    exact hstart c hc

/-- Blanks end before any token of a block or a tag. -/
theorem isBlank_eq_false_of_first (hk : k.takesGap ∨ k = .keyword) (hc : k.first c) :
    isBlank c = false := by
  have hmark {d : Char} (hd : isBlank d = false) (hc : decide (c = d) = true) :
      isBlank c = false := of_decide_eq_true hc ▸ hd
  cases k with
  | ident => exact isBlank_eq_false_of_isWordChar (isWordChar_of_isIdentStart hc)
  | keyword => exact isBlank_eq_false_of_isWordChar hc
  | pipe => exact hmark (by decide) hc
  | blockClose => exact hmark (by decide) hc
  | tagClose => exact hmark (by decide) hc
  | text | blockOpen | tagOpen => rcases hk with hk | hk <;> cases hk

theorem avoids_isBlank (hk : k.takesGap ∨ k = .keyword) (hx : Spells k x) (w : Text) :
    Text.Avoids isBlank (x ++ w) := by
  obtain ⟨c, r, rfl, hc⟩ := exists_first hx
  exact Text.avoids_cons.2 (isBlank_eq_false_of_first hk hc)

/-- Neither a name nor a bar begins like a closing marker. -/
theorem first_close_eq_false (hk : k = .ident ∨ k = .pipe) (hc : k.first c)
    (hclose : k' = .blockClose ∨ k' = .tagClose) : k'.first c = false := by
  rw [Bool.eq_false_iff]
  intro hc'
  rcases hclose with rfl | rfl <;> obtain rfl := of_decide_eq_true hc' <;>
    rcases hk with rfl | rfl <;> exact absurd hc (by decide)

end Kind

/-! ### Neighbours -/

section Neighbours

variable {b v : Text} {c : Char}

theorem avoids_isBlank_iff (hb : Blanks b) (hc : isBlank c = false) :
    Text.Avoids isBlank (b ++ c :: v) ↔ b = [] := by
  cases b with
  | nil => exact iff_of_true (Text.avoids_cons.2 hc) rfl
  | cons d b =>
    refine iff_of_false (fun h => ?_) (List.cons_ne_nil d b)
    have hd := Text.avoids_cons.1 h
    rw [hb d List.mem_cons_self] at hd
    cases hd

/-- Where blanks end a token, only a character that stands right behind it can make it go on. -/
theorem avoids_iff {f : Char → Bool} (hf : ∀ d, isBlank d → f d = false) (hb : Blanks b) :
    Text.Avoids f (b ++ c :: v) ↔ (f c → b ≠ []) := by
  cases b with
  | nil => simp [Text.avoids_cons]
  | cons d b => simp [Text.avoids_cons, hf d (hb d List.mem_cons_self)]

/-- **Tokens are as long as they can be.** In a block or a tag, a piece may stand behind another one
    exactly if the token of that one cannot go on in it. -/
theorem follows_iff {p q : Piece} (hp : p.token.kind ≠ .text) (hq : q.Valid)
    (hgap : q.token.kind.takesGap) (w : Text) :
    Follows p q ↔ Text.Avoids p.token.kind.goesOn (q.gap ++ (q.token.text ++ w)) := by
  obtain ⟨c, r, htext, hc⟩ := Kind.exists_first hq.spells
  have hblank := Kind.isBlank_eq_false_of_first (.inl hgap) hc
  have hword : isWordChar c = true ↔ q.token.kind = .ident :=
    Kind.first_iff_ident hgap hc (fun _ => isWordChar_of_isIdentStart)
      (fun _ => isIdentPart_of_isWordChar)
  have hpart : isIdentPart c = true ↔ q.token.kind = .ident :=
    Kind.first_iff_ident hgap hc
      (fun _ h => isIdentPart_of_isWordChar (isWordChar_of_isIdentStart h)) (fun _ h => h)
  have hopening := avoids_isBlank_iff (c := c) (v := r ++ w) hq.blanks hblank
  rw [htext, List.cons_append]
  cases hkind : p.token.kind with
  | text => exact absurd hkind hp
  | blockOpen => exact (follows_opening (.inl hkind)).trans hopening.symm
  | tagOpen => exact (follows_opening (.inr hkind)).trans hopening.symm
  | keyword =>
    have hwords := follows_word (q := q) (.inr hkind)
    rw [← hword] at hwords
    exact hwords.trans (avoids_iff (fun _ h =>
      isWordChar_eq_false (isIdentPart_eq_false_of_isBlank h)) hq.blanks).symm
  | ident =>
    have hwords := follows_word (q := q) (.inl hkind)
    rw [← hpart] at hwords
    exact hwords.trans (avoids_iff (fun _ => isIdentPart_eq_false_of_isBlank) hq.blanks).symm
  | pipe => exact iff_of_true (follows_mark (.inl hkind)) fun _ _ => rfl
  | blockClose => exact iff_of_true (follows_mark (.inr (.inl hkind))) fun _ _ => rfl
  | tagClose => exact iff_of_true (follows_mark (.inr (.inr hkind))) fun _ _ => rfl

/-- What a block or a tag goes on with may stand behind a piece exactly if its token cannot go on
    there. -/
theorem follows_body_iff {close : Kind} {p : Piece} {ps : List Piece}
    (hclose : close = .blockClose ∨ close = .tagClose) (hbody : Body close (kindsOf ps))
    (hp : p.token.kind ≠ .text) (hps : ∀ q ∈ ps, q.Valid) (w : Text) :
    (∀ q ∈ ps.head?, Follows p q) ↔ Text.Avoids p.token.kind.goesOn (printed ps ++ w) := by
  cases ps with
  | nil => cases hbody
  | cons q ps =>
    have hgap := hbody.takesGap hclose
    rw [printed_cons, List.append_assoc, List.append_assoc,
      ← follows_iff hp (hps q List.mem_cons_self) hgap]
    simp only [List.head?_cons, Option.mem_some_iff, forall_eq']

end Neighbours

end TextScan.Template
