import Mathlib.Data.List.Nodup
import TextScan.Proofs.Regex.Contract
import TextScan.Proofs.Regex.Directive

namespace TextScan.Regex

/-!
# Reading a directive

A directive is read letter by letter, and what it switches is what its letters say. Behind it the
source is read on as if the flags had been given beforehand.

* `readFlags_letters` reads letters of flags, `readFlags_directive` all that stands in a directive.
* `Reader.run_directive` says that the directive is read as the first part of the source.
* `Expr.ofText_directive` says that the normal forms are the same, and
  `Engine.ofDatabase_readsDirectives` says so of the engine of this library.
-/

/-! ### Letters -/

/-- The letter of a flag, or the hyphen before those that are switched off. -/
def signLetter : Option Flag → Char
  | none => '-'
  | some f => f.letter

/-- A sign that has not been read before is read. -/
theorem readFlags_sign {signs : FlagSigns} {sign : Option Flag} (h : sign ∉ signs.map Prod.fst)
    (r : Text) :
    ∃ span, readFlags signs (signLetter sign :: r) = readFlags (signs ++ [(sign, span)]) r := by
  have hsign : (if signLetter sign = '-' then some none
      else (Flag.ofLetter? (signLetter sign)).map some) = some sign := by
    cases sign with
    | none => rfl
    | some f => cases f <;> rfl
  have hend : ¬ (signLetter sign = ':' ∨ signLetter sign = ')') := by
    cases sign with
    | none => decide
    | some f => cases f <;> decide
  have hnew : signs.lookup sign = none := by
    rw [List.lookup_eq_none_iff]
    exact fun p hp => bne_iff_ne.2 fun heq => h (heq ▸ List.mem_map_of_mem hp)
  refine ⟨charSpan (signLetter sign :: r), ?_⟩
  rw [readFlags, if_neg hend]
  simp only [hsign, hnew]

/-- Signs are read one behind another, if none of them has been read before. -/
theorem readFlags_signs {ss : List (Option Flag)} {signs : FlagSigns}
    (h : (signs.map Prod.fst ++ ss).Nodup) (r : Text) :
    ∃ more : FlagSigns, more.map Prod.fst = ss ∧
      readFlags signs (ss.map signLetter ++ r) = readFlags (signs ++ more) r := by
  induction ss generalizing signs with
  | nil => exact ⟨[], rfl, by rw [List.append_nil]; rfl⟩
  | cons sign ss ih =>
    have hnew : sign ∉ signs.map Prod.fst := fun hmem =>
      (List.nodup_append.1 h).2.2 _ hmem _ List.mem_cons_self rfl
    obtain ⟨span, hread⟩ := readFlags_sign hnew (ss.map signLetter ++ r)
    obtain ⟨more, hmore, hrest⟩ := @ih (signs ++ [(sign, span)]) (by simpa using h)
    refine ⟨(sign, span) :: more, by rw [List.map_cons, hmore], ?_⟩
    rw [List.append_assoc] at hrest
    exact hread.trans hrest

/-- The closing parenthesis ends a directive, unless the last sign is the hyphen. -/
theorem readFlags_close {signs : FlagSigns} {sign : Option Flag} {ss : List (Option Flag)}
    (h : signs.map Prod.fst = ss ++ [sign]) (hsign : sign ≠ none) (r : Text) :
    readFlags signs (')' :: r) = .ok (signs.settings true, ')' :: r) := by
  have hlast : signs.getLast?.map Prod.fst = some sign := by
    rw [← List.getLast?_map, h, List.getLast?_concat]
  rw [readFlags, if_pos (.inr rfl)]
  split
  · rename_i span heq
    rw [heq] at hlast
    exact absurd (Option.some.inj hlast).symm hsign
  · rfl

/-- What has been read of the letters of flags are these flags. -/
theorem FlagSigns.settings_of_map_eq {fs : List Flag} {ss : List (Option Flag)} {signs : FlagSigns}
    (h : signs.map Prod.fst = fs.map some ++ ss) (on : Bool) :
    ∃ rest : FlagSigns, rest.map Prod.fst = ss ∧
      signs.settings on = fs.map (·, on) ++ rest.settings on := by
  induction fs generalizing signs with
  | nil => exact ⟨signs, h, rfl⟩
  | cons f fs ih =>
    obtain ⟨⟨sign, span⟩, signs, rfl, rfl, htail⟩ := List.map_eq_cons_iff.1 h
    obtain ⟨rest, hrest, hsettings⟩ := ih htail
    exact ⟨rest, hrest, congrArg ((f, on) :: ·) hsettings⟩

/-! ### Directives -/

namespace Directive

variable {d : Directive}

/-- The signs of the directive. -/
def signs (d : Directive) : List (Option Flag) :=
  d.on.map some ++ if d.off.isEmpty then [] else none :: d.off.map some

theorem text_eq (d : Directive) : d.text = '(' :: '?' :: (d.signs.map signLetter ++ [')']) := by
  obtain ⟨on, off⟩ := d
  cases off <;> simp [text, signs, signLetter, Function.comp_def]

theorem settings_ne_nil (h : d.WellFormed) : d.settings ≠ [] := by
  have hne := h.ne_nil
  simpa [settings] using hne

theorem nodup_signs (h : d.WellFormed) : d.signs.Nodup := by
  have hmap : ((d.on ++ d.off).map some).Nodup :=
    List.Nodup.map (fun _ _ => Option.some.inj) h.nodup
  rw [List.map_append] at hmap
  unfold signs
  split
  · rename_i hoff
    rwa [List.isEmpty_iff.1 hoff] at hmap
  · exact List.perm_middle.nodup_iff.2 (List.nodup_cons.2 ⟨by simp, hmap⟩)

/-- The last sign is that of a flag. -/
theorem exists_signs_concat (h : d.WellFormed) : ∃ ss f, d.signs = ss ++ [some f] := by
  obtain ⟨on, off⟩ := d
  rcases List.eq_nil_or_concat off with rfl | ⟨off, f, rfl⟩
  · rcases List.eq_nil_or_concat on with rfl | ⟨on, f, rfl⟩
    · exact absurd rfl h.ne_nil
    · exact ⟨on.map some, f, by simp [signs]⟩
  · exact ⟨on.map some ++ none :: off.map some, f, by simp [signs]⟩

/-- What has been read of the signs is what the directive switches. -/
theorem settings_of_signs {signs : FlagSigns} (h : signs.map Prod.fst = d.signs) :
    signs.settings true = d.settings := by
  obtain ⟨rest, hrest, hon⟩ := FlagSigns.settings_of_map_eq h true
  rw [hon, settings]
  split at hrest
  · rename_i hoff
    obtain rfl := List.map_eq_nil_iff.1 hrest
    rw [List.isEmpty_iff.1 hoff]
    rfl
  · -- Behind the hyphen, flags are switched off.
    obtain ⟨⟨sign, span⟩, rest, rfl, rfl, hbehind⟩ := List.map_eq_cons_iff.1 hrest
    rw [← List.append_nil (d.off.map some)] at hbehind
    obtain ⟨tail, htail, hoff⟩ := FlagSigns.settings_of_map_eq hbehind false
    obtain rfl := List.map_eq_nil_iff.1 htail
    rw [← List.append_nil (d.off.map (·, false))]
    exact congrArg _ hoff

/-- The signs are read as what the directive switches. -/
theorem readFlags_text (h : d.WellFormed) (source : Text) :
    readFlags [] (d.signs.map signLetter ++ ')' :: source) = .ok (d.settings, ')' :: source) := by
  obtain ⟨signs, hsigns, hread⟩ := @readFlags_signs d.signs [] (nodup_signs h) (')' :: source)
  obtain ⟨ss, f, hlast⟩ := exists_signs_concat h
  rw [hread, List.nil_append, readFlags_close (hsigns.trans hlast) (Option.some_ne_none f),
    settings_of_signs hsigns]

end Directive

/-- A directive opens no group, in verbose sources neither. -/
theorem readOpening_text {d : Directive} (h : d.WellFormed) (verbose : Bool) (names : Names)
    (source : Text) :
    readOpening verbose names (d.text ++ source) = .ok (.directive d.settings, source) := by
  have htext : d.text ++ source = '(' :: '?' :: (d.signs.map signLetter ++ ')' :: source) := by
    rw [d.text_eq]
    simp
  have hnext : next verbose (d.text ++ source) =
      '?' :: (d.signs.map signLetter ++ ')' :: source) := by
    rw [htext]
    cases verbose <;> rfl
  have hread := d.readFlags_text h source
  have hsettings : d.settings.isEmpty = false := by simpa using d.settings_ne_nil h
  obtain ⟨sign, ss, hsigns⟩ : ∃ sign ss, d.signs = sign :: ss := by
    obtain ⟨ss, f, hlast⟩ := d.exists_signs_concat h
    cases hss : d.signs with
    | nil => simp [hss] at hlast
    | cons sign ss => exact ⟨sign, ss, rfl⟩
  rw [hsigns, List.map_cons, List.cons_append] at hread hnext
  -- The first sign is none of those that name a group or look around.
  have hfirst (r : Text) : lookAround? ('?' :: signLetter sign :: r) = none ∧
      nameOpening? ('?' :: signLetter sign :: r) = none := by
    cases sign with
    | none => exact ⟨rfl, rfl⟩
    | some f => cases f <;> exact ⟨rfl, rfl⟩
  unfold readOpening
  simp only [hnext, (hfirst _).1, (hfirst _).2, hread, bind, Except.bind, hsettings,
    List.head?_cons, List.tail_cons]
  rfl

/-! ### Sources -/

/-- With a directive before it, a source is read as under the flags behind the directive, but with
    the directive as its first part. -/
theorem Reader.run_directive {d : Directive} (h : d.WellFormed) (c : Switches) (source : Text) :
    ∃ n a span, source.length ≤ n ∧
      run (d.text ++ source).length (new c.verbose (d.text ++ source)) =
        run n ⟨(c.apply d.settings).verbose, 0, [], ⟨[], a, a, [.flags span d.settings]⟩, [],
          source⟩ := by
  have hread := readOpening_text h c.verbose [] source
  obtain ⟨u, hu⟩ : ∃ u, d.text = '(' :: u := ⟨_, d.text_eq⟩
  rw [hu, List.cons_append] at hread ⊢
  obtain ⟨a, span, hopen⟩ : ∃ a span, (new c.verbose ('(' :: (u ++ source))).stepOpen =
      .ok ⟨(c.apply d.settings).verbose, 0, [], ⟨[], a, a, [.flags span d.settings]⟩, [],
        source⟩ := by
    refine ⟨('(' :: (u ++ source)).length, ⟨('(' :: (u ++ source)).length, source.length⟩, ?_⟩
    show (readOpening c.verbose [] ('(' :: (u ++ source)) >>= _) = _
    rw [hread]
    rfl
  have hblank : skipBlank (new c.verbose ('(' :: (u ++ source))).verbose
      (new c.verbose ('(' :: (u ++ source))).rest = '(' :: (u ++ source) := by
    cases c.verbose <;> rfl
  refine ⟨(u ++ source).length, a, span, by simp, ?_⟩
  rw [List.length_cons, run, hblank]
  show ((new c.verbose ('(' :: (u ++ source))).stepOpen >>= _) = _
  rw [hopen]
  rfl

/-- With a directive before it, a source is refused as under the flags behind the directive, or its
    tree is led by the directive. -/
theorem Reader.run_alike {d : Directive} (h : d.WellFormed) (c : Switches) (source : Text) :
    ∃ span, Alike (Tree.Led (.flags span d.settings))
      (run source.length (new (c.apply d.settings).verbose source))
      (run (d.text ++ source).length (new c.verbose (d.text ++ source))) := by
  obtain ⟨n, a, span, hn, hrun⟩ := run_directive h c source
  have hfuel : run source.length (new (c.apply d.settings).verbose source) =
      run n (new (c.apply d.settings).verbose source) := run_eq_of_le (Nat.le_refl _) hn
  refine ⟨span, ?_⟩
  rw [hrun, hfuel]
  have hlevel : Level.Led (.flags span d.settings) (.new source.length)
      ⟨[], a, a, [.flags span d.settings]⟩ := .first _ _ _ _ []
  exact Led.run (.mk _ 0 [] source (.outermost hlevel)) rfl n

/-- The source is nested too deeply. -/
def TooDeep (verbose : Bool) (source : Text) : Prop :=
  ∃ span, Tree.ofText verbose source = refuseSpan .nestedTooDeep span

theorem Tree.ofText_of_ok {verbose : Bool} {source : Text} {t : Tree}
    (hdeep : ¬ TooDeep verbose source)
    (h : Reader.run source.length (.new verbose source) = .ok t) :
    Tree.ofText verbose source = .ok t := by
  cases ht : t.deep? nestLimit with
  | none => simp only [ofText, h, bind, Except.bind, ht, pure, Except.pure]
  | some span => exact absurd ⟨span, by simp only [ofText, h, bind, Except.bind, ht]⟩ hdeep

/-- **Normal forms.** A directive before a source does what its flags do beforehand, unless the
    source is nested too deeply either way. -/
theorem Expr.ofText_directive {d : Directive} (h : d.WellFormed) (db : Unicode.Database)
    {c : Switches} {source : Text} (hdeep : ¬ TooDeep (c.apply d.settings).verbose source)
    (hdeep' : ¬ TooDeep c.verbose (d.text ++ source)) :
    ofText db c (d.text ++ source) = ofText db (c.apply d.settings) source := by
  obtain ⟨span, halike⟩ := Reader.run_alike h c source
  show (Tree.ofText c.verbose (d.text ++ source) >>= fun t => ofTree db c.toFlags t >>= _) =
    (Tree.ofText (c.apply d.settings).verbose source >>= fun t =>
      ofTree db (c.apply d.settings).toFlags t >>= _)
  obtain ⟨e, hx, hy⟩ | ⟨t, t', hx, hy, hled⟩ := halike.error_or_ok
  · rw [Tree.ofText, Tree.ofText, hx, hy]
    rfl
  · rw [Tree.ofText_of_ok hdeep hx, Tree.ofText_of_ok hdeep' hy]
    show (ofTree db c.toFlags t' >>= _) = (ofTree db (c.toFlags.apply d.settings) t >>= _)
    rw [ofTree_of_led db hled]

namespace Engine

theorem not_tooDeep_of_shallow {db : Unicode.Database} {c : Switches} {source : Text}
    (h : (ofDatabase db).Shallow c source) : ¬ TooDeep c.verbose source := by
  rintro ⟨span, hdeep⟩
  have hread : (ofDatabase db).read c source = .error (.refused ⟨.nestedTooDeep, span, none⟩) := by
    show (Expr.ofText db c source).mapError _ = _
    rw [Expr.ofText, hdeep]
    rfl
  cases h _ hread

/-- **Directives** mean to the engine of this library what they say, over any database. -/
theorem ofDatabase_readsDirectives (db : Unicode.Database) : (ofDatabase db).ReadsDirectives := by
  intro d hd c source hdeep' hdeep e
  have hsame := Expr.ofText_directive hd db (not_tooDeep_of_shallow hdeep)
    (not_tooDeep_of_shallow hdeep')
  exact mapError_eq_ok_iff.trans (hsame ▸ mapError_eq_ok_iff.symm)

end Engine

end TextScan.Regex
