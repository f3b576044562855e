import TextScan.Proofs.Template.Longest

namespace TextScan.Template

/-!
# The patterns of tokens

* `Marked` says that a block or a tag begins. `plain_and_getLast?_iff` says which texts may stand in
  front of it.
* `Lexicon.Lawful` says what each pattern cuts off a text and what the search for a block or a tag
  finds. `Lexicon.new?_eq_ok` says that the patterns are built and are lawful.
* `Lexicon.token?_eq_none` and `Lexicon.token?_eq_some` say what a scanner does with them.
-/

/-! ### Where blocks and tags begin -/

/-- A block or a tag begins. -/
def Marked (v : Text) : Prop := openBraces <+: v ∨ openTag <+: v

/-- The characters behind the first brace of a block or a tag. -/
def openings : CharSet := ⟨[(37, 37), (123, 123)]⟩

theorem marked_iff {v : Text} : Marked v ↔ ∃ d r, v = '{' :: d :: r ∧ (d = '{' ∨ d = '%') := by
  constructor
  · rintro (⟨r, rfl⟩ | ⟨r, rfl⟩)
    · exact ⟨'{', r, rfl, .inl rfl⟩
    · exact ⟨'%', r, rfl, .inr rfl⟩
  · rintro ⟨d, r, rfl, rfl | rfl⟩
    · exact .inl ⟨r, rfl⟩
    · exact .inr ⟨r, rfl⟩

theorem marked_iff_begins {v : Text} :
    Marked v ↔ Regex.Program.begins [CharSet.single '{', openings] v := by
  have hopenings (d : Char) : openings.contains d = true ↔ d = '{' ∨ d = '%' := by
    simp only [openings, CharSet.contains, List.any_cons, List.any_nil, Bool.or_false,
      Bool.or_eq_true, Bool.and_eq_true, decide_eq_true_eq, ← Char.toNat_inj]
    show _ ↔ d.toNat = 123 ∨ d.toNat = 37
    omega
  rw [marked_iff]
  cases v with
  | nil => simp [Regex.Program.begins]
  | cons c v =>
    cases v with
    | nil => simp [Regex.Program.begins]
    | cons d v =>
      simp [Regex.Program.begins, CharSet.contains_single, hopenings, and_assoc]

theorem Marked.append {v : Text} (h : Marked v) (w : Text) : Marked (v ++ w) := by
  obtain ⟨d, r, rfl, hd⟩ := marked_iff.1 h
  exact marked_iff.2 ⟨d, r ++ w, rfl, hd⟩

theorem marked_of_spells {k : Kind} {x : Text} (hk : k = .blockOpen ∨ k = .tagOpen)
    (hx : Spells k x) (w : Text) : Marked (x ++ w) := by
  rcases hk with rfl | rfl <;> cases hx
  · exact .inl ⟨_, (List.append_assoc ..).symm⟩
  · exact .inr ⟨_, (List.append_assoc ..).symm⟩

/-- Elsewhere there is nothing that a block or a tag begins with. -/
theorem cut_opening_eq_nil {k : Kind} {v : Text} (hk : k = .blockOpen ∨ k = .tagOpen)
    (hv : ¬ Marked v) : k.cut v = [] := by
  by_contra h
  obtain ⟨x, w, rfl, hx, -⟩ := Kind.exists_of_cut_ne_nil h
  exact hv (marked_of_spells hk hx w)

/-- What a tag begins with is not that of a block. -/
theorem cut_blockOpen_eq_nil {x : Text} (hx : Spells .tagOpen x) (w : Text) :
    Kind.blockOpen.cut (x ++ w) = [] := by
  by_contra h
  obtain ⟨x', w', hsplit, hx', -⟩ := Kind.exists_of_cut_ne_nil h
  cases hx
  cases hx'
  simp [openTag, openBraces] at hsplit

/-- Where a block or a tag begins, there is an opening that cannot go on. -/
theorem Marked.exists_opening {v : Text} (h : Marked v) :
    ∃ k x w, (k = .blockOpen ∨ k = .tagOpen) ∧ v = x ++ w ∧ Spells k x ∧ w.Avoids isBlank := by
  rcases h with ⟨u, rfl⟩ | ⟨u, rfl⟩
  all_goals
    obtain ⟨b, hu, hb⟩ := blanks_append_dropWhile u
    have havoids := Text.avoids_dropWhile isBlank u
  · exact ⟨.blockOpen, openBraces ++ b, _, .inl rfl, by rw [List.append_assoc, ← hu], .blockOpen hb,
      havoids⟩
  · exact ⟨.tagOpen, openTag ++ b, _, .inr rfl, by rw [List.append_assoc, ← hu], .tagOpen hb,
      havoids⟩

/-- The place at which a block or a tag begins first, if there is one. -/
theorem exists_marked (v : Text) : (∀ w, w <:+ v → ¬ Marked w) ∨
    ∃ u w, v = u ++ w ∧ Marked w ∧ ∀ x, x ≠ [] → x <:+ u → ¬ Marked (x ++ w) := by
  induction v with
  | nil =>
    left
    intro w hw
    rw [List.suffix_nil.1 hw, marked_iff]
    rintro ⟨d, r, hnil, -⟩
    cases hnil
  | cons c v ih =>
    by_cases hmarked : Marked (c :: v)
    · refine .inr ⟨[], c :: v, rfl, hmarked, fun x hx hsuffix => ?_⟩
      exact absurd (List.suffix_nil.1 hsuffix) hx
    · rcases ih with hnone | ⟨u, w, rfl, hw, hu⟩
      · left
        intro w hw
        rcases List.suffix_cons_iff.1 hw with rfl | hw
        · exact hmarked
        · exact hnone w hw
      · refine .inr ⟨c :: u, w, rfl, hw, fun x hx hsuffix => ?_⟩
        rcases List.suffix_cons_iff.1 hsuffix with rfl | hsuffix
        · exact hmarked
        · exact hu x hx hsuffix

/-- Where neither begins, all is plain. -/
theorem plain_iff {v : Text} : Plain v ↔ ∀ w, w <:+ v → ¬ Marked w := by
  constructor
  · rintro ⟨hbraces, htag⟩ w hw (hbegins | hbegins)
    · exact hbraces (hbegins.isInfix.trans hw.isInfix)
    · exact htag (hbegins.isInfix.trans hw.isInfix)
  · intro h
    constructor
    · intro hinfix
      obtain ⟨w, hbegins, hw⟩ := List.infix_iff_prefix_suffix.1 hinfix
      exact h w hw (.inl hbegins)
    · intro hinfix
      obtain ⟨w, hbegins, hw⟩ := List.infix_iff_prefix_suffix.1 hinfix
      exact h w hw (.inr hbegins)

/-- In front of a block or a tag, none begins earlier exactly if the text is plain and does not end
    with a brace. -/
theorem plain_and_getLast?_iff {u w : Text} (hw : Marked w) :
    (Plain u ∧ u.getLast? ≠ some '{') ↔ ∀ x, x ≠ [] → x <:+ u → ¬ Marked (x ++ w) := by
  rw [plain_iff]
  constructor
  · rintro ⟨hplain, hlast⟩ x hx hsuffix hmarked
    obtain ⟨d, r, hsplit, hd⟩ := marked_iff.1 hmarked
    obtain ⟨c, x, rfl⟩ := List.exists_cons_of_ne_nil hx
    obtain ⟨rfl, htail⟩ := List.cons.inj hsplit
    cases x with
    | nil =>
      -- The last character would be the first brace.
      obtain ⟨z, rfl⟩ := hsuffix
      exact hlast List.getLast?_concat
    | cons e x =>
      obtain ⟨rfl, -⟩ := List.cons.inj htail
      exact hplain _ hsuffix (marked_iff.2 ⟨e, x, rfl, hd⟩)
  · intro h
    constructor
    · intro x hsuffix hmarked
      obtain ⟨d, r, rfl, -⟩ := marked_iff.1 hmarked
      exact h _ (List.cons_ne_nil _ _) hsuffix (hmarked.append w)
    · intro hlast
      obtain ⟨z, rfl⟩ := List.getLast?_eq_some_iff.1 hlast
      obtain ⟨d, r, rfl, -⟩ := marked_iff.1 hw
      exact h ['{'] (List.cons_ne_nil _ _) ⟨z, rfl⟩ (marked_iff.2 ⟨'{', d :: r, rfl, .inl rfl⟩)

/-! ### Patterns -/

/-- Each pattern cuts off the token that it is meant for, and the search finds where a block or a
    tag begins first. -/
structure Lexicon.Lawful (l : Lexicon) : Prop where
  blockOpen : l.blockOpen.toPattern.Cuts Kind.blockOpen.cut
  blockClose : l.blockClose.toPattern.Cuts Kind.blockClose.cut
  tagOpen : l.tagOpen.toPattern.Cuts Kind.tagOpen.cut
  tagClose : l.tagClose.toPattern.Cuts Kind.tagClose.cut
  keyword : l.keyword.toPattern.Cuts Kind.keyword.cut
  ident : l.ident.toPattern.Cuts Kind.ident.cut
  pipe : l.pipe.toPattern.Cuts Kind.pipe.cut
  space : l.space.toPattern.Cuts (List.takeWhile isBlank)
  anyOpen_first : ∀ u w : Text, Marked w → (∀ x, x ≠ [] → x <:+ u → ¬ Marked (x ++ w)) →
    l.anyOpen.toPattern.anywhere (u ++ w) = .ok (some ⟨u.byteSize, w.take 2, []⟩)
  anyOpen_none : ∀ v, (∀ w, w <:+ v → ¬ Marked w) → l.anyOpen.toPattern.anywhere v = .ok none

open Regex.Program in
-- Words are a long list of ranges.
set_option maxRecDepth 10000 in
/-- The patterns are built, and they are lawful. -/
theorem Lexicon.new?_eq_ok : ∃ l, Lexicon.new? = .ok l ∧ l.Lawful := by
  have hblockOpen : AnchoredRegex.new? "\\\x7b\\\x7b\\s*".toList =
      .ok ⟨_, headed (openBraces.map CharSet.single) Unicode.whiteSpace⟩ := rfl
  have htagOpen : AnchoredRegex.new? "\\\x7b%\\s*".toList =
      .ok ⟨_, headed (openTag.map CharSet.single) Unicode.whiteSpace⟩ := rfl
  have hblockClose : AnchoredRegex.new? "\\\x7d\\\x7d".toList =
      .ok ⟨_, spelling closeBraces⟩ := rfl
  have htagClose : AnchoredRegex.new? "%\\\x7d".toList = .ok ⟨_, spelling closeTag⟩ := rfl
  have hanyOpen : AnchoredRegex.new? "\\\x7b[\x7b%]".toList =
      .ok ⟨_, members [CharSet.single '{', openings]⟩ := rfl
  have hkeyword : AnchoredRegex.new? "\\w+".toList = .ok ⟨_, many Unicode.wordChar⟩ := rfl
  have hident : AnchoredRegex.new? "[A-Za-z_][\\w.]*".toList =
      .ok ⟨_, headed [identStarts] identParts⟩ := rfl
  have hpipe : AnchoredRegex.new? "\\|".toList = .ok ⟨_, spelling ['|']⟩ := rfl
  have hspace : AnchoredRegex.new? "\\s+".toList = .ok ⟨_, many Unicode.whiteSpace⟩ := rfl
  refine ⟨_, by rw [Lexicon.new?, hblockOpen, htagOpen, hblockClose, htagClose, hanyOpen, hkeyword,
    hident, hpipe, hspace]; rfl, ?_⟩
  have hmark {r : AnchoredRegex} {m : Text} (h : r.program = spelling m) (hm : m ≠ []) :
      r.toPattern.Cuts (markAt m) := AnchoredRegex.toPattern_spelling h ▸ Pattern.literal_cuts hm
  exact {
    blockOpen := AnchoredRegex.cuts_headed rfl (List.cons_ne_nil _ _)
    blockClose := hmark rfl (List.cons_ne_nil _ _)
    tagOpen := AnchoredRegex.cuts_headed rfl (List.cons_ne_nil _ _)
    tagClose := hmark rfl (List.cons_ne_nil _ _)
    keyword := AnchoredRegex.cuts_many rfl
    ident := AnchoredRegex.cuts_headed rfl (List.cons_ne_nil _ _)
    pipe := hmark rfl (List.cons_ne_nil _ _)
    space := AnchoredRegex.cuts_many rfl
    anyOpen_first := fun u w hw hu => by
      refine AnchoredRegex.anywhere_members_eq_some
        (r := ⟨_, members [CharSet.single '{', openings]⟩) rfl (marked_iff_begins.1 hw)
        fun x hx hsuffix => ?_
      exact Bool.eq_false_iff.2 fun h => hu x hx hsuffix (marked_iff_begins.2 h)
    anyOpen_none := fun v hv => by
      refine AnchoredRegex.anywhere_members_eq_none
        (r := ⟨_, members [CharSet.single '{', openings]⟩) rfl fun w hw => ?_
      exact Bool.eq_false_iff.2 fun h => hv w hw (marked_iff_begins.2 h) }

/-! ### Taking tokens -/

namespace Lexicon

variable {s : Scanner} {T v w x : Text} {p : AnchoredRegex} {k : Kind}

theorem token?_eq_none (hs : s.Before T v) (hT : T.Held) (hp : p.toPattern.Cuts k.cut)
    (hv : k.cut v = []) : token? s p = .ok none := by
  rw [token?, hs.token?_eq_none hT hp hv]
  rfl

/-- A token is taken if it cannot go on. -/
theorem token?_eq_some (hs : s.Before T (x ++ w)) (hT : T.Held) (hp : p.toPattern.Cuts k.cut)
    (hk : k ≠ .text) (hx : Spells k x) (hw : w.Avoids k.goesOn) :
    ∃ t : s.Behind, token? s p = .ok (some (x, t)) ∧ t.1.Before T w := by
  have hcut := Kind.cut_append hk hx hw
  have hne : k.cut (x ++ w) ≠ [] := by
    obtain ⟨c, r, rfl, -⟩ := Kind.exists_first hx
    rw [hcut]
    exact List.cons_ne_nil c r
  obtain ⟨t, htoken, ht⟩ := hs.token?_eq_some hT hp hne
  rw [hcut, List.drop_left] at ht
  refine ⟨t, ?_, ht⟩
  rw [token?, htoken, hcut]
  rfl

end Lexicon

end TextScan.Template
