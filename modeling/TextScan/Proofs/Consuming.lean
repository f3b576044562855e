import TextScan.Proofs.Session.Frame

namespace TextScan

/-!
# Taking is looking and moving

A scanner that takes a match counts on from where it is. It could as well look for the match and
then move to the position behind it, which is counted from the start of the text. The two leave the
same session behind, whatever the pattern answers.

* `Cursor.Aligned.pass_eq_moveTo` says so of cursors, bytes included.
* `Session.lookThenMove` looks and moves. `Attempt.Takes` pairs the attempts that take with those
  that look, `Attempt.Counts` those that tell a length with those that tell a text.
* `Attempt.locate_cases` says what locating a match has in common with looking through to its end.
* `Session.taking_eq_looking` is the result for all that runs arrive at.
-/

/-- **Counting on or anew.** Moving over a text behind the cursor is moving to the position as many
    characters further on. -/
theorem Cursor.Aligned.pass_eq_moveTo {c : Cursor} (h : c.Aligned) {m : Text} (hm : m <+: c.rest) :
    c.pass m = c.moveTo (c.pos + m.length) := by
  obtain ⟨u, v, rfl⟩ := Cursor.aligned_iff.1 h
  rw [rest_between] at hm
  obtain ⟨w, rfl⟩ := hm
  have hlen : ((u.length : Int) + m.length).toNat = (u ++ m).length := by
    rw [List.length_append]
    omega
  rw [pass_between, pos_between, moveTo_between, hlen, ← List.append_assoc, List.take_left,
    List.drop_left]

/-! ### Pairs of attempts -/

namespace Attempt

/-- The second attempt takes what the first one looks for. -/
inductive Takes : Attempt → Attempt → Prop
  | take : Takes look take
  | takeThrough : Takes lookThrough takeThrough

/-- The second attempt tells the length of what the first one tells. -/
inductive Counts : Attempt → Attempt → Prop
  | measure : Counts look measure
  | skip : Counts take skip
  | skipThrough : Counts takeThrough skipThrough

end Attempt

/-- Puts the number of characters of a text in its place. -/
def Result.counted : Result → Result
  | text t => count (t.map List.length)
  | r => r

namespace Attempt

variable {p : Pattern} {rest : Text} {how how' : Attempt}

theorem Takes.outcome_eq (h : Takes how how') : how'.outcome p rest = how.outcome p rest := by
  cases h <;> rfl

theorem Takes.reply_eq (h : Takes how how') : how'.reply p rest = how.reply p rest := by
  cases h <;> rfl

/-- Looking passes nothing, taking all that is recorded. -/
theorem Takes.passed_eq (h : Takes how how') :
    how.passed p rest = [] ∧ how'.passed p rest = (how.outcome p rest).text.getD [] := by
  cases h <;> exact ⟨rfl, rfl⟩

/-- What looking records begins the text. -/
theorem Takes.outcome_isPrefix (h : Takes how how') {t : Text}
    (ht : (how.outcome p rest).text = some t) : t <+: rest :=
  outcome_text_isPrefix ht (by cases h <;> decide)

/-- Either looking replies with what it records, or it records nothing. -/
theorem Takes.reply_cases (h : Takes how how') (p : Pattern) (rest : Text) :
    (∃ t, how.reply p rest = .text (some t) ∧ (how.outcome p rest).text = some t) ∨
      (∀ t, how.reply p rest ≠ .text (some t)) ∧ (how.outcome p rest).text = none := by
  cases hans : how.answer p rest with
  | error e =>
    rw [reply, outcome, hans]
    refine .inr ⟨fun t ht => ?_, rfl⟩
    cases ht
  | ok found =>
    have hreply : how.reply p rest = .text (how.outcome p rest).text := by
      rw [reply, hans]
      cases h <;> rfl
    rw [hreply]
    cases htext : (how.outcome p rest).text with
    | some t => exact .inl ⟨t, rfl, rfl⟩
    | none =>
      refine .inr ⟨fun t ht => ?_, rfl⟩
      cases ht

/-- Telling the length differs from telling the text in the reply alone. -/
theorem Counts.attempt_eq (h : Counts how how') (sc : Scanner) (p : Pattern) :
    sc.attempt p how' = (sc.attempt p how).map Result.counted := by
  have hanswer : how'.answer p sc.rest = how.answer p sc.rest := by cases h <;> rfl
  have houtcome : how'.outcome p sc.rest = how.outcome p sc.rest := by cases h <;> rfl
  have hpassed : how'.passed p sc.rest = how.passed p sc.rest := by cases h <;> rfl
  have hevents : how'.events p sc.rest sc.pos = how.events p sc.rest sc.pos := by cases h <;> rfl
  have hreply : how'.reply p sc.rest = (how.reply p sc.rest).counted := by
    rw [reply, reply, hanswer, houtcome]
    cases how.answer p sc.rest with
    | error e => rfl
    | ok found => cases h <;> rfl
  rw [Scanner.attempt_eq, Scanner.attempt_eq, hreply, houtcome, hpassed, hevents]
  rfl

end Attempt

namespace Scanner

variable {sc : Scanner} {how how' : Attempt}

/-- A scanner takes what it looks for by moving behind it. -/
theorem attempt_eq_moveTo (h : sc.toCursor.Aligned) (hhow : Attempt.Takes how how') {p : Pattern}
    {t : Text} (ht : (how.outcome p sc.rest).text = some t) :
    (sc.attempt p how').scanner =
      ((sc.attempt p how).scanner.moveTo (sc.pos + t.length)).scanner := by
  have hpass := h.pass_eq_moveTo (hhow.outcome_isPrefix ht)
  rw [attempt_eq, attempt_eq, hhow.outcome_eq, hhow.passed_eq.1, hhow.passed_eq.2, ht,
    Option.getD_some, hpass]
  rfl

/-- A scanner that finds nothing to take stays where it is. -/
theorem attempt_eq_of_text_none (hhow : Attempt.Takes how how') {p : Pattern}
    (ht : (how.outcome p sc.rest).text = none) :
    (sc.attempt p how').scanner = (sc.attempt p how).scanner := by
  rw [attempt_eq, attempt_eq, hhow.outcome_eq, hhow.passed_eq.1, hhow.passed_eq.2, ht]
  rfl

end Scanner

/-! ### Locating -/

namespace Attempt

variable {p : Pattern} {rest : Text} {m : Found}

/-- A match ahead is located if it fits. What is recorded then differs by what is before it. -/
theorem locate_of_fitsIn (ha : p.anywhere rest = .ok (some m)) (hfits : m.FitsIn rest) :
    locate.reply p rest = .count (some (m.skipped rest).length) ∧
      locate.outcome p rest = .success m.text m.captures ∧
      lookThrough.reply p rest = .text (some (m.skipped rest ++ m.text)) ∧
      lookThrough.outcome p rest = .success (m.skipped rest ++ m.text) m.captures := by
  have hlocate : locate.answer p rest = .ok (some m) := ha
  have hthrough : lookThrough.answer p rest = .ok (some m) := ha
  rw [reply_of_fitsIn hlocate hfits, reply_of_fitsIn hthrough hfits,
    outcome_of_fitsIn hlocate hfits, outcome_of_fitsIn hthrough hfits]
  exact ⟨rfl, rfl, rfl, rfl⟩

/-- Where a match ahead does not fit, or there is none, neither way finds one. -/
theorem locate_of_not_fitsIn (h : ∀ m, p.anywhere rest = .ok (some m) → ¬ m.FitsIn rest) :
    (∀ k, locate.reply p rest ≠ .count (some k)) ∧
      ∀ u, lookThrough.reply p rest ≠ .text (some u) := by
  have hlocate : locate.outcome p rest = .failure := outcome_of_not_fitsIn h
  have hthrough : lookThrough.outcome p rest = .failure := outcome_of_not_fitsIn h
  rw [reply, reply, hlocate, hthrough, answer, answer]
  cases p.anywhere rest with
  | error e | ok found =>
    refine ⟨fun k hk => ?_, fun u hu => ?_⟩
    · cases hk
    · cases hu

/-- **Locating a match and looking through to its end** succeed together, and then differ by the
    text before the match. -/
theorem locate_cases (p : Pattern) (rest : Text) :
    (∃ u m v captures, rest = u ++ (m ++ v) ∧
      locate.reply p rest = .count (some u.length) ∧
      locate.outcome p rest = .success m captures ∧
      lookThrough.reply p rest = .text (some (u ++ m)) ∧
      lookThrough.outcome p rest = .success (u ++ m) captures) ∨
    (∀ k, locate.reply p rest ≠ .count (some k)) ∧
      ∀ u, lookThrough.reply p rest ≠ .text (some u) := by
  by_cases h : ∃ m, p.anywhere rest = .ok (some m) ∧ m.FitsIn rest
  · obtain ⟨m, ha, hfits⟩ := h
    obtain ⟨-, -, v, hrest⟩ := hfits.split
    exact .inl ⟨m.skipped rest, m.text, v, m.captures, hrest, locate_of_fitsIn ha hfits⟩
  · exact .inr (locate_of_not_fitsIn fun m ha hfits => h ⟨m, ha, hfits⟩)

end Attempt

/-! ### Sessions -/

namespace Session

variable {s : Session} {i : Nat} {seat : Seat}

/-- The session in which scanner number `i`, which has the given seat, has become `sc`. -/
def put (s : Session) (i : Nat) (seat : Seat) (sc : Scanner) : Session :=
  ⟨s.seats.set i { seat with cursor := sc.toCursor }, s.slots.set seat.slot sc.outcome⟩

/-- A scanner that is put back changes nothing. -/
theorem Sound.put_self (hs : s.Sound) (h : s.seats[i]? = some seat) :
    s.put i seat (s.scannerAt seat) = s := by
  obtain ⟨hi, rfl⟩ := List.getElem?_eq_some_iff.1 h
  have hslot := (hs _ (List.getElem_mem hi)).slot_lt
  have houtcome : s.outcomeIn s.seats[i].slot = s.slots[s.seats[i].slot] := by
    rw [outcomeIn, List.getD_eq_getElem?_getD, List.getElem?_eq_getElem hslot, Option.getD_some]
  show (⟨s.seats.set i s.seats[i], s.slots.set _ (s.outcomeIn s.seats[i].slot)⟩ : Session) = s
  rw [houtcome, List.set_getElem_self, List.set_getElem_self]

theorem step_act_eq_put (h : s.seats[i]? = some seat) (a : Action) :
    s.step (.act i a) = some (((s.scannerAt seat).act a).result,
      s.put i seat ((s.scannerAt seat).act a).scanner, ((s.scannerAt seat).act a).events) := by
  rw [step, act, h]
  rfl

/-- A scanner that has been put is what was put. -/
theorem Sound.scanner?_put (hs : s.Sound) (h : s.seats[i]? = some seat) (sc : Scanner) :
    (s.put i seat sc).scanner? i = some sc := by
  have hlt := (List.getElem?_eq_some_iff.1 h).1
  have hslot := (hs.of_getElem? h).slot_lt
  simp [put, scanner?, scannerAt, outcomeIn, hlt, hslot]

/-- A second operation of the same scanner overwrites what the first has put. -/
theorem Sound.step_act_put (hs : s.Sound) (h : s.seats[i]? = some seat) (sc : Scanner)
    (a : Action) :
    (s.put i seat sc).step (.act i a) =
      some ((sc.act a).result, s.put i seat (sc.act a).scanner, (sc.act a).events) := by
  have hlt := (List.getElem?_eq_some_iff.1 h).1
  have hseat : (s.put i seat sc).seats[i]? = some { seat with cursor := sc.toCursor } := by
    simp [put, hlt]
  have hsc : (s.put i seat sc).scannerAt { seat with cursor := sc.toCursor } = sc := by
    have h' := hs.scanner?_put h sc
    rw [scanner?, hseat, Option.map_some] at h'
    exact Option.some.inj h'
  rw [step_act_eq_put hseat, hsc]
  simp [put]

/-- Lets a scanner look for a pattern and, if there is a match, move by as many characters as it has
    recorded. -/
def lookThenMove (s : Session) (i : Nat) (how : Attempt) (p : Pattern) :
    Option (Result × Session) := do
  let (r, t, _) ← s.step (.act i (.attempt how p))
  let .text (some _) := r | return (r, t)
  let sc ← t.scanner? i
  let n ← sc.outcome.length?
  let (_, u, _) ← t.step (.act i (.moveTo (sc.pos + n)))
  return (r, u)

/-- Looking and moving is taking. -/
theorem Sound.lookThenMove_eq (hs : s.Sound) (h : s.seats[i]? = some seat) {how how' : Attempt}
    (hhow : Attempt.Takes how how') (p : Pattern) :
    s.lookThenMove i how p = some (((s.scannerAt seat).attempt p how').result,
      s.put i seat ((s.scannerAt seat).attempt p how').scanner) := by
  have hal : (s.scannerAt seat).toCursor.Aligned := (hs.of_getElem? h).aligned
  rw [lookThenMove, step_act_eq_put h]
  generalize s.scannerAt seat = sc at *
  have hresult : (sc.act (.attempt how p)).result = how.reply p sc.rest := sc.attempt_result p how
  have hresult' : (sc.attempt p how').result = how.reply p sc.rest := by
    rw [sc.attempt_result, hhow.reply_eq]
  simp only [Option.bind_eq_bind, Option.bind_some, hresult, hresult']
  rcases hhow.reply_cases p sc.rest with ⟨t, hreply, htext⟩ | ⟨hreply, htext⟩
  · -- What is recorded is as long as the text, and the cursor has stayed.
    have hlength : (sc.act (.attempt how p)).scanner.outcome.length? = some t.length := by
      rw [show (sc.act (.attempt how p)).scanner.outcome = how.outcome p sc.rest from
        sc.attempt_outcome p how, Outcome.length?, htext, Option.map_some]
    have hpos : (sc.act (.attempt how p)).scanner.pos = sc.pos := by
      rw [show (sc.act (.attempt how p)).scanner.toCursor = _ from sc.attempt_toCursor p how,
        hhow.passed_eq.1]
      rfl
    rw [hreply]
    simp only [hs.scanner?_put h, Option.bind_some, hlength, hpos, hs.step_act_put h,
      Scanner.attempt_eq_moveTo hal hhow htext]
    rfl
  · rw [Scanner.attempt_eq_of_text_none hhow htext]
    generalize how.reply p sc.rest = r at hreply
    cases r with
    | text found =>
      cases found with
      | some t => exact absurd rfl (hreply t)
      | none => rfl
    | count | failed | position | done => rfl

/-- Telling the length leaves the session that telling the text leaves. -/
theorem step_counts (h : s.seats[i]? = some seat) {how how' : Attempt}
    (hhow : Attempt.Counts how how') (p : Pattern) :
    ∃ r t es, s.step (.act i (.attempt how p)) = some (r, t, es) ∧
      s.step (.act i (.attempt how' p)) = some (r.counted, t, es) := by
  have hact : (s.scannerAt seat).act (.attempt how' p) =
      ((s.scannerAt seat).act (.attempt how p)).map Result.counted := hhow.attempt_eq _ p
  refine ⟨_, _, _, step_act_eq_put h _, ?_⟩
  rw [step_act_eq_put h, hact]
  rfl

/-- **Taking is looking and moving.** Whatever a run has done and whatever the pattern answers,
    taking a match leaves the session that looking for it and moving by its length leaves, and tells
    the same. The attempts that tell a length leave the session that those leave that tell the text,
    and tell the number of its characters.

    A match ahead is located exactly if looking through to its end succeeds. What is looked through
    is then as many characters as locating tells, and behind them the text that locating records.
    Both record the same captures, and the cursor moves by the two lengths if it is taken. -/
theorem taking_eq_looking {cs : List Command} (hrun : empty.run cs = some s) {sc : Scanner}
    (hsc : s.scanner? i = some sc) (p : Pattern) :
    (∀ how how', Attempt.Takes how how' → ∃ r t es, s.lookThenMove i how p = some (r, t) ∧
      s.step (.act i (.attempt how' p)) = some (r, t, es)) ∧
    (∀ how how', Attempt.Counts how how' → ∃ r t es,
      s.step (.act i (.attempt how p)) = some (r, t, es) ∧
      s.step (.act i (.attempt how' p)) = some (r.counted, t, es)) ∧
    ((∃ k, (sc.attempt p .locate).result = .count (some k)) ↔
      ∃ u, (sc.attempt p .lookThrough).result = .text (some u)) ∧
    ∀ k, (sc.attempt p .locate).result = .count (some k) → ∃ m captures,
      (sc.attempt p .locate).scanner.outcome = .success m captures ∧
      (sc.attempt p .lookThrough).result = .text (some (sc.peek k ++ m)) ∧
      (sc.attempt p .lookThrough).scanner.outcome = .success (sc.peek k ++ m) captures ∧
      (sc.attempt p .takeThrough).scanner.pos = sc.pos + (k + m.length) := by
  have hs := run_sound empty_sound hrun
  obtain ⟨seat, hseat, rfl⟩ := scanner?_eq_some_iff.1 hsc
  refine ⟨fun how how' hhow => ?_, fun how how' hhow => step_counts hseat hhow p, ?_⟩
  · exact ⟨_, _, _, hs.lookThenMove_eq hseat hhow p, step_act_eq_put hseat _⟩
  generalize s.scannerAt seat = sc
  simp only [Scanner.attempt_result, Scanner.attempt_outcome]
  obtain ⟨u, m, v, captures, hrest, hlocate, hlocated, hthrough, hseen⟩ | ⟨hlocate, hthrough⟩ :=
    Attempt.locate_cases p sc.rest
  · have hpeek : sc.peek u.length = u := by rw [Cursor.peek, hrest, List.take_left]
    refine ⟨⟨fun _ => ⟨_, hthrough⟩, fun _ => ⟨_, hlocate⟩⟩, fun k hk => ?_⟩
    obtain rfl : u.length = k := by simpa [hlocate] using hk
    refine ⟨m, captures, hlocated, by rw [hpeek, hthrough], by rw [hpeek, hseen], ?_⟩
    rw [Scanner.attempt_toCursor, Attempt.Takes.takeThrough.passed_eq.2, hseen,
      ← List.length_append]
    rfl
  · refine ⟨iff_of_false (not_exists.2 hlocate) (not_exists.2 hthrough), fun k hk => ?_⟩
    exact absurd hk (hlocate k)

/-- A pattern that knows nothing of the text. Behind the first character, both of its answers are
    true. -/
def knowing : Pattern :=
  .fixed (.ok (some ⟨0, "日".toList, []⟩)) (.ok (some ⟨3, "x€".toList, [some "日".toList, none]⟩))

theorem taking_eq_looking_knowing :
    ∃ s sc, empty.run [.new "é日x€ß".toList, .act 0 .takeChar, .share 0] = some s ∧
      s.scanner? 1 = some sc ∧
      (∃ r t es, s.lookThenMove 1 .look knowing = some (r, t) ∧
        s.step (.act 1 (.attempt .take knowing)) = some (r, t, es)) ∧
      (sc.attempt knowing .locate).result = .count (some 1) ∧
      (sc.attempt knowing .lookThrough).result = .text (some "日x€".toList) ∧
      (sc.attempt knowing .takeThrough).scanner.pos = 4 := by
  have hrun : empty.run [.new "é日x€ß".toList, .act 0 .takeChar, .share 0] =
      some ((empty.run [.new "é日x€ß".toList, .act 0 .takeChar, .share 0]).getD empty) := by decide
  have hsc : ((empty.run [.new "é日x€ß".toList, .act 0 .takeChar, .share 0]).getD empty).scanner? 1 =
      some ⟨.between ['é'] "日x€ß".toList, .success ['é'] []⟩ := by decide
  obtain ⟨htakes, -, -, hlocate⟩ := taking_eq_looking hrun hsc knowing
  have hcount : (Scanner.attempt ⟨.between ['é'] "日x€ß".toList, .success ['é'] []⟩ knowing
      .locate).result = .count (some 1) := by decide
  obtain ⟨m, captures, hm, hseen, -, hpos⟩ := hlocate 1 hcount
  have hm' : (Scanner.attempt ⟨.between ['é'] "日x€ß".toList, .success ['é'] []⟩ knowing
      .locate).scanner.outcome = .success "x€".toList [some "日".toList, none] := by decide
  cases hm'.symm.trans hm
  exact ⟨_, _, hrun, hsc, htakes _ _ .take, hcount, hseen, hpos⟩

end Session

end TextScan
