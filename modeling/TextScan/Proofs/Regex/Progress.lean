import TextScan.Regex.Reading

namespace TextScan.Regex

/-!
# Reading goes on

Every part of the reader leaves an end of what it was given, and a step of the reader leaves less.
So as many steps as characters are unread are enough, and more of them change nothing.

* `Leaves` says of an answer that it leaves an end of the text. There is one lemma for each function
  that reads, such as `leaves_readEscape`.
* `Reader.step_suffix` says that a step reads on.
* `Reader.run_eq_of_le` says that any two numbers of steps that are large enough are the same.
-/

/-- The answer, if there is one, leaves an end of the text. -/
structure Leaves {α : Type} (t : Text) (answer : Except Refusal (α × Text)) : Prop where
  isSuffix : ∀ a rest, answer = .ok (a, rest) → rest <:+ t

namespace Leaves

variable {α β : Type} {t u : Text}

theorem refuse (fault : Fault) (start stop : Nat) : Leaves (α := α) t (refuse fault start stop) :=
  ⟨fun _ _ h => by cases h⟩

theorem refuseSpan (fault : Fault) (span : Span) : Leaves (α := α) t (refuseSpan fault span) :=
  ⟨fun _ _ h => by cases h⟩

theorem ok {a : α} {rest : Text} (h : rest <:+ t) : Leaves t (.ok (a, rest)) := by
  constructor
  intro a' rest' heq
  obtain ⟨rfl, rfl⟩ := Prod.mk.inj (Except.ok.inj heq)
  exact h

theorem mono {x : Except Refusal (α × Text)} (h : Leaves t x) (htu : t <:+ u) : Leaves u x :=
  ⟨fun a rest heq => (h.isSuffix a rest heq).trans htu⟩

/-- What goes on with an answer goes on with what it leaves. -/
theorem bind {x : Except Refusal (α × Text)} {f : α × Text → Except Refusal (β × Text)}
    (h : Leaves t x) (hf : ∀ a rest, rest <:+ t → Leaves t (f (a, rest))) :
    Leaves t (x >>= f) := by
  cases x with
  | error r => exact ⟨fun _ _ heq => by cases heq⟩
  | ok answer => exact hf answer.1 answer.2 (h.isSuffix _ _ rfl)

/-- What goes on with a value that is read already. -/
theorem bind_value {x : Except Refusal α} {f : α → Except Refusal (β × Text)}
    (hf : ∀ a, Leaves t (f a)) : Leaves t (x >>= f) := by
  cases x with
  | error r => exact ⟨fun _ _ heq => by cases heq⟩
  | ok a => exact hf a

end Leaves

/-! ### Blanks and numbers -/

theorem skipBlanks_suffix (inComment : Bool) (t : Text) : skipBlanks inComment t <:+ t := by
  induction t generalizing inComment with
  | nil => exact List.suffix_refl _
  | cons c r ih =>
    rw [skipBlanks]
    split
    · exact (ih _).trans (List.suffix_cons c r)
    split
    · exact (ih _).trans (List.suffix_cons c r)
    split
    · exact (ih _).trans (List.suffix_cons c r)
    · exact List.suffix_refl _

theorem skipBlank_suffix (verbose : Bool) (t : Text) : skipBlank verbose t <:+ t := by
  unfold skipBlank
  split
  · exact skipBlanks_suffix false t
  · exact List.suffix_refl _

theorem next_suffix_tail (verbose : Bool) (t : Text) : next verbose t <:+ t.tail :=
  skipBlank_suffix verbose t.tail

theorem next_suffix (verbose : Bool) (t : Text) : next verbose t <:+ t :=
  (next_suffix_tail verbose t).trans (List.tail_suffix t)

theorem takeSpaced_suffix (p : Char → Bool) (verbose : Bool) (gap : Gap) (t : Text) :
    (takeSpaced p verbose gap t).2 <:+ t := by
  induction t generalizing gap with
  | nil => exact List.suffix_refl _
  | cons c r ih =>
    rw [takeSpaced]
    split
    · exact (ih _).trans (List.suffix_cons c r)
    split
    · exact (ih _).trans (List.suffix_cons c r)
    split
    · exact (ih _).trans (List.suffix_cons c r)
    split
    · exact (ih _).trans (List.suffix_cons c r)
    · exact List.suffix_refl _

theorem readNumber_suffix (verbose : Bool) (t : Text) : (readNumber verbose t).2 <:+ t :=
  ((List.dropWhile_suffix _).trans (takeSpaced_suffix _ _ _ _)).trans (List.dropWhile_suffix _)

theorem readCount_suffix (verbose : Bool) (t : Text) : (readCount verbose t).2 <:+ t :=
  readNumber_suffix verbose t

theorem leaves_readBounds (verbose : Bool) (start : Nat) (t : Text) :
    Leaves t (readBounds verbose start t) := by
  have hleast := readCount_suffix verbose t
  unfold readBounds
  match hread : readCount verbose t with
  | (least, []) => exact .refuse ..
  | (least, c :: r) =>
    rw [hread] at hleast
    have hr : r <:+ t := (List.suffix_cons c r).trans hleast
    show Leaves t (if c = ',' then _ else _)
    split
    · have hskip := (skipBlank_suffix verbose r).trans hr
      split
      · exact .refuse ..
      · rename_i d w heq
        rw [heq] at hskip
        refine .bind_value fun n => ?_
        split
        · exact .ok hskip
        · refine .bind_value fun most => .ok ?_
          exact (readCount_suffix verbose (d :: w)).trans hskip
    · exact .bind_value fun n => .ok hleast

/-! ### Escapes -/

theorem leaves_readHexDigits (verbose : Bool) (n : Nat) (t : Text) :
    Leaves t (readHexDigits verbose n t) := by
  induction n generalizing t with
  | zero => exact .ok (List.suffix_refl _)
  | succ n ih =>
    cases t with
    | nil => exact .refuse ..
    | cons c r =>
      have hskip := (skipBlank_suffix verbose r).trans (List.suffix_cons c r)
      rw [readHexDigits]
      split
      · exact ((ih _).mono hskip).bind fun digits rest hrest => .ok hrest
      · exact .refuseSpan ..

theorem leaves_readHexBraces (verbose : Bool) (start : Nat) (t : Text) :
    Leaves t (readHexBraces verbose start t) := by
  have hdigits := (takeSpaced_suffix isHexDigit verbose .none (next verbose t)).trans
    (next_suffix verbose t)
  unfold readHexBraces
  match hread : takeSpaced isHexDigit verbose .none (next verbose t) with
  | (digits, []) => exact .refuse ..
  | (digits, c :: r) =>
    rw [hread] at hdigits
    have hafter := (next_suffix verbose (c :: r)).trans hdigits
    show Leaves t (if c = '\x7d' then _ else _)
    split
    · split
      · exact .refuse ..
      · split
        · exact .ok hafter
        · exact .refuse ..
    · exact .refuseSpan ..

theorem leaves_readHex (verbose : Bool) (start : Nat) (t : Text) :
    Leaves t (readHex verbose start t) := by
  have hnext := next_suffix verbose t
  unfold readHex
  split
  · exact .refuse ..
  · rename_i c r heq
    rw [heq] at hnext
    split
    · exact (leaves_readHexBraces verbose start (c :: r)).mono hnext
    · refine ((leaves_readHexDigits verbose _ (c :: r)).mono hnext).bind fun digits rest hrest => ?_
      dsimp only
      split
      · exact .ok hrest
      · exact .refuse ..

theorem leaves_readProperty (verbose : Bool) (start : Nat) (t : Text) :
    Leaves t (readProperty verbose start t) := by
  have hnext := next_suffix verbose t
  unfold readProperty
  dsimp only
  split
  · exact .refuse ..
  · rename_i c r heq
    rw [heq] at hnext
    have hwords := ((takeSpaced_suffix (· != '\x7d') verbose .none (next verbose (c :: r))).trans
      (next_suffix verbose (c :: r))).trans hnext
    split
    · split
      · exact .refuse ..
      · rename_i words d rest hread
        rw [hread] at hwords
        exact .ok ((List.suffix_cons d rest).trans hwords)
    · split
      · exact .refuseSpan ..
      · exact .ok (((skipBlank_suffix verbose r).trans (List.suffix_cons c r)).trans hnext)

theorem readBoundaryName_suffix {verbose : Bool} {start : Nat} {t rest : Text} {kind : Anchor}
    (h : readBoundaryName verbose start t = .ok (some (kind, rest))) : rest <:+ t := by
  have hnext := next_suffix verbose t
  unfold readBoundaryName at h
  dsimp only at h
  split at h
  · cases h
  · rename_i c r heq
    rw [heq] at hnext
    have hname := (takeSpaced_suffix (fun c => c.isAlpha || c = '-') verbose .none (c :: r)).trans
      hnext
    split at h
    · split at h
      · split at h
        · obtain ⟨-, rfl⟩ := Prod.mk.inj (Option.some.inj (Except.ok.inj h))
          exact (List.tail_suffix _).trans hname
        · cases h
      · cases h
    · cases h

theorem leaves_readBoundary (verbose : Bool) (start : Nat) (r : Text) :
    Leaves r (readBoundary verbose start r) := by
  unfold readBoundary
  dsimp only
  split
  · cases hname : readBoundaryName verbose start r with
    | error e => exact ⟨fun _ _ h => by cases h⟩
    | ok found =>
      cases found with
      | none => exact .ok (List.suffix_refl _)
      | some found => exact .ok (readBoundaryName_suffix hname)
  · exact .ok (List.suffix_refl _)

/-- **Escapes.** What is read behind a backslash leaves an end of the source. -/
theorem leaves_readEscape (verbose : Bool) (start : Nat) (t : Text) :
    Leaves t (readEscape verbose start t) := by
  cases t with
  | nil => exact .refuse ..
  | cons c r =>
    have hr : r <:+ c :: r := List.suffix_cons c r
    rw [readEscape]
    split
    · exact .refuse ..
    split
    · exact leaves_readHex verbose start (c :: r)
    split
    · exact leaves_readProperty verbose start (c :: r)
    split
    · exact (leaves_readBoundary verbose start r).mono hr
    split
    · exact .ok hr
    · exact .ok hr
    · exact .ok hr
    · split
      · exact .ok hr
      · exact .refuseSpan ..

/-! ### Classes -/

theorem asciiClass?_suffix {t rest : Text} {item : ClassTree}
    (h : asciiClass? t = some (item, rest)) : rest <:+ t.tail := by
  unfold asciiClass? at h
  split at h
  · rename_i r
    dsimp only at h
    split at h
    · rename_i rest' heq
      obtain ⟨kind, -, hpair⟩ := Option.map_eq_some_iff.1 h
      obtain ⟨-, rfl⟩ := Prod.mk.inj hpair
      have hnamed : (if r.head? = some '^' then r.tail else r) <:+ r := by
        split
        · exact List.tail_suffix r
        · exact List.suffix_refl r
      have hclose : ':' :: ']' :: rest' <:+ r := heq ▸ (List.dropWhile_suffix _).trans hnamed
      have hrest : rest' <:+ ':' :: ']' :: rest' :=
        (List.suffix_cons ']' rest').trans (List.suffix_cons ':' _)
      exact (hrest.trans hclose).trans (List.suffix_cons ':' r)
    · cases h
  · cases h

theorem takeHyphens_suffix {verbose : Bool} {fuel : Nat} {items items' : List ClassTree}
    {t rest : Text} (h : takeHyphens verbose fuel items t = some (items', rest)) : rest <:+ t := by
  induction fuel generalizing items t with
  | zero =>
    obtain ⟨-, rfl⟩ := Prod.mk.inj (Option.some.inj h)
    exact List.suffix_refl _
  | succ fuel ih =>
    rw [takeHyphens] at h
    split at h
    · split at h
      · cases h
      · exact (ih h).trans (next_suffix verbose t)
    · obtain ⟨-, rfl⟩ := Prod.mk.inj (Option.some.inj h)
      exact List.suffix_refl _

theorem leaves_openClass (verbose : Bool) (t : Text) : Leaves t.tail (openClass verbose t) := by
  have hnext := next_suffix_tail verbose t
  unfold openClass
  dsimp only
  split
  · exact .refuse ..
  · rename_i c r heq
    rw [heq] at hnext
    have hinner : (if c = '^' then skipBlank verbose r else c :: r) <:+ t.tail := by
      split
      · exact ((skipBlank_suffix verbose r).trans (List.suffix_cons c r)).trans hnext
      · exact hnext
    split
    · exact .refuse ..
    · split
      · exact .refuse ..
      · rename_i items rest hhyphens
        have hrest := (takeHyphens_suffix hhyphens).trans hinner
        split
        · split
          · exact .refuse ..
          · exact .ok ((next_suffix verbose rest).trans hrest)
        · exact .ok hrest

theorem leaves_readClassChar (verbose : Bool) (t : Text) : Leaves t (readClassChar verbose t) := by
  cases t with
  | nil => exact .refuse ..
  | cons c r =>
    rw [readClassChar]
    split
    · exact (leaves_readEscape verbose _ r).mono (List.suffix_cons c r)
    · exact .ok (List.suffix_cons c r)

theorem leaves_readClassItem (verbose : Bool) (opening : Span) (t : Text) :
    Leaves t (readClassItem verbose opening t) := by
  unfold readClassItem
  refine (leaves_readClassChar verbose t).bind fun first rest hrest => ?_
  have hskip := (skipBlank_suffix verbose rest).trans hrest
  dsimp only
  split
  · exact .refuseSpan ..
  · rename_i c r heq
    rw [heq] at hskip
    split
    · exact .bind_value fun part => .ok hskip
    · have hbehind := ((skipBlank_suffix verbose r).trans (List.suffix_cons c r)).trans hskip
      split
      · exact .refuseSpan ..
      · refine ((leaves_readClassChar verbose _).mono hbehind).bind fun last rest' hrest' => ?_
        refine .bind_value fun lo => .bind_value fun hi => ?_
        split
        · exact .ok hrest'
        · exact .refuseSpan ..

theorem leaves_readClassFrom (verbose : Bool) (fuel : Nat) (here : OpenClass)
    (outer : List OpenClass) (t : Text) : Leaves t (readClassFrom verbose fuel here outer t) := by
  induction fuel generalizing here outer t with
  | zero => exact .refuseSpan ..
  | succ fuel ih =>
    have hskip := skipBlank_suffix verbose t
    rw [readClassFrom]
    split
    · exact .refuseSpan ..
    · rename_i c r heq
      rw [heq] at hskip
      have hr := (List.suffix_cons c r).trans hskip
      split
      · split
        · rename_i item rest hascii
          exact (ih ..).mono ((asciiClass?_suffix hascii).trans hr)
        · exact ((leaves_openClass verbose (c :: r)).mono hr).bind
            fun inner rest hrest => (ih ..).mono hrest
      split
      · dsimp only
        split
        · exact .ok hr
        · exact (ih ..).mono hr
      · split
        · exact (ih ..).mono ((List.tail_suffix r).trans hr)
        · exact ((leaves_readClassItem verbose here.span (c :: r)).mono hskip).bind
            fun item rest hrest => (ih ..).mono hrest

/-- **Classes.** What is read from an opening bracket on leaves an end of what is behind it. -/
theorem leaves_readClass (verbose : Bool) (t : Text) : Leaves t.tail (readClass verbose t) :=
  (leaves_openClass verbose t).bind fun _ _ hrest => (leaves_readClassFrom ..).mono hrest

/-! ### Openings of groups -/

theorem leaves_readFlags (signs : FlagSigns) (t : Text) : Leaves t (readFlags signs t) := by
  induction t generalizing signs with
  | nil => exact .refuse ..
  | cons c r ih =>
    rw [readFlags]
    split
    · split
      · exact .refuseSpan ..
      · exact .ok (List.suffix_refl _)
    · dsimp only
      split
      · exact .refuseSpan ..
      · split
        · exact ⟨fun _ _ h => by cases h⟩
        · exact (ih _).mono (List.suffix_cons c r)

theorem leaves_readName (first : Bool) (t : Text) : Leaves t (readName first t) := by
  induction t generalizing first with
  | nil => exact .refuse ..
  | cons c r ih =>
    rw [readName]
    split
    · exact .ok (List.suffix_refl _)
    split
    · exact ((ih false).mono (List.suffix_cons c r)).bind fun name rest hrest => .ok hrest
    · exact .refuseSpan ..

theorem readNewName_suffix {names : Names} {t name rest : Text} {span : Span}
    (h : readNewName names t = .ok (name, span, rest)) : rest <:+ t := by
  unfold readNewName at h
  cases hname : readName true t with
  | error e => rw [hname] at h; cases h
  | ok read =>
    have hread := (leaves_readName true t).isSuffix read.1 read.2 hname
    rw [hname] at h
    simp only [bind, Except.bind] at h
    split at h
    · cases h
    · split at h
      · cases h
      · simp only [pure, Except.pure, Except.ok.injEq, Prod.mk.injEq] at h
        obtain ⟨-, -, rfl⟩ := h
        exact (List.tail_suffix _).trans hread

theorem nameOpening?_suffix {t rest : Text} (h : nameOpening? t = some rest) : rest <:+ t := by
  unfold nameOpening? at h
  split at h
  · obtain rfl := Option.some.inj h
    exact ⟨['?', 'P', '<'], rfl⟩
  · obtain rfl := Option.some.inj h
    exact ⟨['?', '<'], rfl⟩
  · cases h

/-- **Openings.** What is read from an opening parenthesis on leaves an end of what is behind it. -/
theorem leaves_readOpening (verbose : Bool) (names : Names) (t : Text) :
    Leaves t.tail (readOpening verbose names t) := by
  have hinner := next_suffix_tail verbose t
  unfold readOpening
  dsimp only
  split
  · exact .refuse ..
  split
  · rename_i r hopening
    have hr := (nameOpening?_suffix hopening).trans hinner
    cases hname : readNewName names r with
    | error e => exact ⟨fun _ _ h => by cases h⟩
    | ok read =>
      obtain ⟨name, span, rest⟩ := read
      exact .ok ((readNewName_suffix hname).trans hr)
  split
  · exact .refuseSpan ..
  · rename_i r hne heq
    have hr : r <:+ t.tail := (List.suffix_cons '?' r).trans (heq ▸ hinner)
    refine ((leaves_readFlags [] r).mono hr).bind fun flags rest hrest => ?_
    dsimp only
    split
    · exact .ok ((List.tail_suffix rest).trans hrest)
    split
    · exact .refuse ..
    · exact .ok ((List.tail_suffix rest).trans hrest)
  · exact .ok hinner

/-! ### Steps -/

namespace Reader

variable {s s' : Reader}

theorem takeLazy_suffix (t : Text) : (takeLazy t).2 <:+ t := by
  unfold takeLazy
  split
  · exact List.suffix_cons '?' _
  · exact List.suffix_refl _

theorem stepSimpleLoop_suffix {min : Nat} {max : Option Nat}
    (h : s.stepSimpleLoop min max = .ok s') : s'.rest <:+ s.rest.tail := by
  unfold stepSimpleLoop at h
  split at h
  · cases h
  · obtain rfl := Except.ok.inj h
    exact takeLazy_suffix s.rest.tail

theorem stepCountedLoop_suffix (h : s.stepCountedLoop = .ok s') : s'.rest <:+ s.rest.tail := by
  unfold stepCountedLoop at h
  dsimp only at h
  split at h
  · cases h
  · have hnext := next_suffix_tail s.verbose s.rest
    split at h
    · cases h
    · cases hbounds : readBounds s.verbose s.rest.length (next s.verbose s.rest) with
      | error e => rw [hbounds] at h; cases h
      | ok read =>
        obtain ⟨⟨min, max⟩, rest⟩ := read
        have hread := ((leaves_readBounds ..).isSuffix _ _ hbounds).trans hnext
        rw [hbounds] at h
        simp only [bind, Except.bind] at h
        split at h
        · rename_i r
          split at h
          · obtain rfl := Except.ok.inj h
            exact ((takeLazy_suffix _).trans (skipBlank_suffix s.verbose r)).trans
              ((List.suffix_cons _ r).trans hread)
          · cases h
        · cases h

theorem stepOpen_suffix (h : s.stepOpen = .ok s') : s'.rest <:+ s.rest.tail := by
  unfold stepOpen at h
  cases hopening : readOpening s.verbose s.names s.rest with
  | error e => rw [hopening] at h; cases h
  | ok read =>
    obtain ⟨opening, rest⟩ := read
    have hread := (leaves_readOpening ..).isSuffix _ _ hopening
    rw [hopening] at h
    cases opening with
    | directive flags | plain flags | capturing name =>
      obtain rfl := Except.ok.inj h
      exact hread

theorem stepClose_suffix (h : s.stepClose = .ok s') : s'.rest <:+ s.rest.tail := by
  unfold stepClose at h
  split at h
  · cases h
  · obtain rfl := Except.ok.inj h
    exact List.suffix_refl _

theorem push_suffix {x : Except Refusal (Tree × Text)} {t : Text} (hx : Leaves t x)
    (h : s.push <$> x = .ok s') : s'.rest <:+ t := by
  cases x with
  | error e => cases h
  | ok part =>
    obtain rfl := Except.ok.inj h
    exact hx.isSuffix part.1 part.2 rfl

/-- **Steps.** A step leaves an end of what is behind the first unread character. -/
theorem step_suffix {c : Char} {r : Text} (hrest : s.rest = c :: r) (h : s.step c r = .ok s') :
    s'.rest <:+ r := by
  have htail : s.rest.tail = r := by rw [hrest, List.tail_cons]
  unfold step at h
  split at h
  · exact htail ▸ stepOpen_suffix h
  · exact htail ▸ stepClose_suffix h
  · obtain rfl := Except.ok.inj h
    exact List.suffix_refl _
  · exact htail ▸ push_suffix (leaves_readClass s.verbose s.rest) h
  · exact htail ▸ stepSimpleLoop_suffix h
  · exact htail ▸ stepSimpleLoop_suffix h
  · exact htail ▸ stepSimpleLoop_suffix h
  · exact htail ▸ stepCountedLoop_suffix h
  · exact push_suffix (leaves_readEscape s.verbose _ r) h
  all_goals
    obtain rfl := Except.ok.inj h
    exact List.suffix_refl _

/-- Where nothing is unread, no step is taken. -/
theorem run_of_rest_eq_nil (h : s.rest = []) (n : Nat) : run n s = s.finish := by
  obtain ⟨verbose, groups, names, level, outer, rest⟩ := s
  obtain rfl : rest = [] := h
  cases n with
  | zero => rfl
  | succ n => cases verbose <;> rfl

/-- **Runs.** Any two numbers of steps that are as large as the number of unread characters read the
    same. -/
theorem run_eq_of_le {m n : Nat} (hm : s.rest.length ≤ m) (hn : s.rest.length ≤ n) :
    run m s = run n s := by
  induction m generalizing n s with
  | zero =>
    have hnil := List.eq_nil_of_length_eq_zero (Nat.le_zero.1 hm)
    rw [run_of_rest_eq_nil hnil, run_of_rest_eq_nil hnil]
  | succ m ih =>
    cases n with
    | zero =>
      have hnil := List.eq_nil_of_length_eq_zero (Nat.le_zero.1 hn)
      rw [run_of_rest_eq_nil hnil, run_of_rest_eq_nil hnil]
    | succ n =>
      have hskip := (skipBlank_suffix s.verbose s.rest).length_le
      rw [run, run]
      split
      · rfl
      · rename_i c r heq
        rw [heq, List.length_cons] at hskip
        cases hstep : step { s with rest := c :: r } c r with
        | error e => rfl
        | ok t =>
          -- The step has read the character at least.
          have hlt := (step_suffix rfl hstep).length_le
          exact ih (by omega) (by omega)

end Reader

end TextScan.Regex
