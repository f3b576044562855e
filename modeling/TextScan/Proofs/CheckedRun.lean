import TextScan.CheckedRun
import TextScan.Proofs.Literal
import TextScan.Proofs.Session

namespace TextScan

/-!
# Checked runs go through

No test of a checked run ever fails. The tests of an attempt follow from the single description of
attempts, those after every operation from alignment, and those of the copies from the slots.

* `Attempt.keptPromise_attempt` holds of any pattern that answers, and
  `SearchRegex.answer_eq_ok` says that the patterns of the table do.
* `CheckedRun.Ready` is the invariant of a run: its session is sound, and the scanner under test has
  the text that it should have.
* `CheckedRun.Ready.trial` says that every operation passes its tests and keeps the invariant,
  `CheckedRun.Ready.finish` that a whole run does. `checkedRun_isSome` is the result.
-/

/-! ### What attempts promise -/

namespace Attempt

variable {p : Pattern} {rest : Text} {how : Attempt}

/-- Where an attempt has a match, the characters before it can be counted. -/
theorem offset_isSome {found : Option Found} {t : Text}
    (hanswer : how.answer p rest = .ok found) (h : (how.outcome p rest).text = some t) :
    (found.bind fun m => (rest.takeBytes? m.start).map List.length).isSome := by
  obtain ⟨m, ha, hfits⟩ := exists_fitsIn_of_text h
  obtain rfl := Except.ok.inj (hanswer.symm.trans ha)
  rw [Option.bind_some, hfits.takeBytes?_start]
  rfl

/-- **An attempt keeps its promise** to any pattern that answers. -/
theorem keptPromise_attempt (s : Scanner) {found : Option Found}
    (hanswer : how.answer p s.rest = .ok found) :
    how.keptPromise s (s.attempt p how).scanner (s.attempt p how).result := by
  have hreply : how.reply p s.rest = how.replyOk (how.outcome p s.rest)
      (found.bind fun m => (s.rest.takeBytes? m.start).map List.length) := by
    rw [reply, hanswer]
  have hbegins (hhow : how ≠ .locate) :
      ((how.outcome p s.rest).text.all fun m => m.isPrefixOf s.rest) = true := by
    cases ht : (how.outcome p s.rest).text with
    | none => rfl
    | some t => exact List.isPrefixOf_iff_prefix.2 (outcome_text_isPrefix ht hhow)
  have hlength (o : Outcome) : (o.text.getD []).length = (o.text.map List.length).getD 0 := by
    cases o.text <;> rfl
  rw [Scanner.attempt_eq, hreply]
  cases how
  case look | measure => simp [keptPromise, replyOk, passed, passes, Outcome.length?]
  case take | skip =>
    simp [keptPromise, replyOk, passed, passes, Cursor.pass, Outcome.length?, hlength]
  case lookThrough =>
    simpa [keptPromise, replyOk, passed, passes] using hbegins (by decide)
  case takeThrough =>
    simpa [keptPromise, replyOk, passed, passes, Cursor.pass, hlength] using hbegins (by decide)
  case skipThrough =>
    simp [keptPromise, replyOk, passed, passes, Cursor.pass, Outcome.length?, hlength]
  case locate =>
    -- The reply is a number exactly if there is a match, since the number is always known then.
    have hoffset : ((Attempt.locate.outcome p s.rest).text.bind fun _ =>
        found.bind fun m => (s.rest.takeBytes? m.start).map List.length).isSome =
        (Attempt.locate.outcome p s.rest).text.isSome := by
      cases ht : (Attempt.locate.outcome p s.rest).text with
      | none => rfl
      | some t => exact offset_isSome hanswer ht
    simp [keptPromise, replyOk, passed, passes, Outcome.isSuccess, hoffset]

end Attempt

/-- A text is taken exactly if it begins what lies behind the cursor. -/
theorem Scanner.attempt_literal (s : Scanner) {needle : Text} (h : needle.Held) :
    (s.attempt (.literal needle) .take).result =
      .text (if needle.isPrefixOf s.rest then some needle else none) := by
  have hanswer : (Pattern.literal needle).atStart s.rest =
      .ok (if needle.isPrefixOf s.rest then some ⟨0, needle, []⟩ else none) := rfl
  rw [attempt_result, Attempt.reply_take hanswer]
  split at hanswer
  · rename_i hbegins
    rw [Attempt.outcome_take hanswer rfl (List.isPrefixOf_iff_prefix.1 hbegins) h, if_pos hbegins]
    rfl
  · rename_i hbegins
    rw [Attempt.outcome_take_of_none hanswer, if_neg hbegins]
    rfl

/-- The tests after every operation hold of an aligned scanner. -/
theorem Scanner.inOrder_of_aligned {s : Scanner} (h : s.toCursor.Aligned) :
    s.inOrder s.text := by
  obtain ⟨u, v, hs⟩ := Cursor.aligned_iff.1 h
  have hlength : s.outcome.isSuccess = s.outcome.length?.isSome :=
    (Option.isSome_map ..).symm
  rw [inOrder, hs, hlength]
  cases v <;> simp

/-! ### The table of patterns -/

/-- A regular expression that is built already answers whatever it is asked. -/
theorem SearchRegex.answer_eq_ok (r : SearchRegex) (how : Attempt) (rest : Text) :
    ∃ found, how.answer r.toPattern rest = .ok found := by
  cases how <;> exact ⟨_, rfl⟩

/-- The text that an operation looks for fits in a memory. -/
def Trial.Held : Trial → Prop
  | takeLiteral t => t.Held
  | _ => True

namespace CheckedRun

/-- Every pattern of the table is well-formed. -/
theorem trialPatterns_length :
    trialPatterns.toOption.map List.length = some trialSources.length := by decide +kernel

/-- Every number is that of a pattern. -/
theorem trialPattern?_eq_some (n : Nat) :
    ∃ r : SearchRegex, trialPattern? n = some r.toPattern := by
  have htable := trialPatterns_length
  unfold trialPattern?
  cases hpatterns : trialPatterns with
  | error e => rw [hpatterns] at htable; exact absurd htable (by simp [Except.toOption])
  | ok patterns =>
    rw [hpatterns] at htable
    have hlen : patterns.length = trialSources.length := Option.some.inj htable
    -- The numbers wrap around at the length of the table, and none of it was refused.
    have hlt : n % trialSources.length < patterns.length := by
      rw [hlen]
      exact Nat.mod_lt _ (by decide)
    refine ⟨patterns[n % trialSources.length], ?_⟩
    show patterns[n % trialSources.length]?.map (·.toPattern) = _
    rw [List.getElem?_eq_getElem hlt, Option.map_some]

/-! ### The invariant -/

/-- The session of a run is sound, and the scanner under test has the text that it should have. -/
structure Ready (r : CheckedRun) : Prop where
  sound : r.session.Sound
  seat : ∃ seat, r.session.seats[0]? = some seat ∧ seat.cursor.text = r.text

/-- All tests were passed, and the invariant holds. -/
def Passes (e : Option (CheckedRun × List Event)) : Prop :=
  ∃ r events, e = some (r, events) ∧ r.Ready

variable {r : CheckedRun}

theorem new_ready (text : Text) : (new text).Ready where
  sound := Session.step_sound Session.empty_sound (c := .new text) rfl
  seat := ⟨⟨Cursor.new text, 0⟩, rfl, rfl⟩

theorem scanner_eq {seat : Seat} (h : r.session.seats[0]? = some seat) :
    r.scanner = r.session.scannerAt seat := by
  rw [scanner, Session.scanner?, h]
  rfl

namespace Ready

theorem aligned (h : r.Ready) : r.scanner.toCursor.Aligned := by
  obtain ⟨seat, hseat, -⟩ := h.seat
  rw [scanner_eq hseat]
  exact (h.sound.of_getElem? hseat).aligned

theorem text_eq (h : r.Ready) : r.scanner.text = r.text := by
  obtain ⟨seat, hseat, htext⟩ := h.seat
  rw [scanner_eq hseat]
  exact htext

/-- An operation whose test holds of the scanner behind it. -/
theorem perform (h : r.Ready) {a : Action} {text : Text} {test : Result → Scanner → Bool}
    (htext : text = r.text ++ a.added)
    (htest : test (r.scanner.act a).result (r.scanner.act a).scanner = true) :
    Passes ({ r with text := text }.perform a test) := by
  obtain ⟨seat, hseat, hseatText⟩ := h.seat
  rw [scanner_eq hseat] at htest
  generalize he : (r.session.scannerAt seat).act a = e at htest
  have hact : r.session.act 0 a = some (e.result,
      ⟨r.session.seats.set 0 { seat with cursor := e.scanner.toCursor },
        r.session.slots.set seat.slot e.scanner.outcome⟩, e.events) := by
    rw [Session.act, hseat, Option.map_some, ← he]
  generalize hsession : (⟨r.session.seats.set 0 { seat with cursor := e.scanner.toCursor },
    r.session.slots.set seat.slot e.scanner.outcome⟩ : Session) = session at hact
  have hlt : 0 < r.session.seats.length := (List.getElem?_eq_some_iff.1 hseat).1
  have hzero : session.seats[0]? = some { seat with cursor := e.scanner.toCursor } := by
    rw [← hsession]
    exact List.getElem?_set_self hlt
  -- The scanner reads back what it has written, since its slot exists.
  have hscanner : (⟨session, text⟩ : CheckedRun).scanner = e.scanner := by
    have hslot := (h.sound.of_getElem? hseat).slot_lt
    rw [scanner_eq hzero, Session.scannerAt, Session.outcomeIn, ← hsession]
    simp only [List.getD_eq_getElem?_getD, List.getElem?_set_self hslot, Option.getD_some]
  have hready : (⟨session, text⟩ : CheckedRun).Ready := by
    refine ⟨Session.step_sound h.sound (c := .act 0 a) hact, _, hzero, ?_⟩
    rw [htext, ← hseatText]
    exact he ▸ Scanner.act_text (r.session.scannerAt seat) a
  refine ⟨_, e.events, ?_, hready⟩
  simp only [CheckedRun.perform, hact, hscanner, htest, if_true]

theorem perform_of_added_eq_nil (h : r.Ready) {a : Action} {test : Result → Scanner → Bool}
    (hadded : a.added = [])
    (htest : test (r.scanner.act a).result (r.scanner.act a).scanner = true) :
    Passes (r.perform a test) :=
  h.perform (by rw [hadded, List.append_nil]) htest

/-- A copy of which the test holds. -/
theorem addCopy (h : r.Ready) {c : Command} {session : Session} {result : Result}
    {events : List Event} {test : Session → Nat → Bool}
    (hstep : r.session.step c = some (result, session, events))
    (hzero : session.seats[0]? = r.session.seats[0]?)
    (htest : test session r.session.seats.length = true) :
    Passes (r.addCopy (some session) test) := by
  refine ⟨{ r with session := session }, [], ?_, Session.step_sound h.sound hstep, ?_⟩
  · simp only [CheckedRun.addCopy, htest, if_true]
  · rw [hzero]
    exact h.seat

/-- A copy that shares its slot. -/
theorem share (h : r.Ready) :
    Passes (r.addCopy (r.session.share 0) fun session i => session.shares i 0) := by
  obtain ⟨seat, hseat, -⟩ := h.seat
  have hlt : 0 < r.session.seats.length := (List.getElem?_eq_some_iff.1 hseat).1
  have hshare : r.session.share 0 = some ⟨r.session.seats ++ [seat], r.session.slots⟩ := by
    rw [Session.share, hseat, Option.map_some]
  have hzero : (r.session.seats ++ [seat])[0]? = r.session.seats[0]? :=
    List.getElem?_append_left hlt
  rw [hshare]
  refine h.addCopy (c := .share 0) (by rw [Session.step, hshare]; rfl) hzero ?_
  simp only [Session.shares, List.getElem?_concat_length, hzero, hseat, decide_true]

/-- A copy with a slot of its own. The slot is new, and what is in it is what the scanner under
    test sees. -/
theorem fork (h : r.Ready) :
    Passes (r.addCopy (r.session.fork 0) fun session i =>
      !session.shares i 0 &&
        (session.scanner? i).map Scanner.outcome = some r.scanner.outcome) := by
  obtain ⟨seat, hseat, -⟩ := h.seat
  have hlt : 0 < r.session.seats.length := (List.getElem?_eq_some_iff.1 hseat).1
  -- The new slot is behind all others.
  have hslot : r.session.slots.length ≠ seat.slot :=
    Nat.ne_of_gt (h.sound.of_getElem? hseat).slot_lt
  have hfork : r.session.fork 0 = some
      ⟨r.session.seats ++ [{ seat with slot := r.session.slots.length }],
        r.session.slots ++ [r.session.outcomeIn seat.slot]⟩ := by
    rw [Session.fork_eq, hseat, Option.map_some]
  have hzero : (r.session.seats ++ [{ seat with slot := r.session.slots.length }])[0]? =
      r.session.seats[0]? := List.getElem?_append_left hlt
  rw [hfork]
  refine h.addCopy (c := .fork 0) (by rw [Session.step, hfork]; rfl) hzero ?_
  simp only [Session.shares, Session.scanner?, Session.scannerAt, Session.outcomeIn,
    List.getElem?_concat_length, hzero, hseat, hslot, decide_false, Bool.not_false, Bool.true_and,
    Option.map_some, scanner_eq hseat, List.getD_eq_getElem?_getD, Option.getD_some, decide_true]

/-- **Every operation passes its tests** and keeps the invariant. -/
theorem trial (h : r.Ready) {t : Trial} (ht : t.Held) : Passes (r.trial t) := by
  have htext := h.text_eq
  -- Most tests compare with the scanner before the operation, in what it does to both texts.
  obtain ⟨u, v, hs⟩ := Cursor.aligned_iff.1 h.aligned
  cases t <;> rw [CheckedRun.trial]
  case attempt how n =>
    obtain ⟨p, hp⟩ := trialPattern?_eq_some n
    -- The pattern answers, so the attempt keeps its promise.
    obtain ⟨found, hanswer⟩ := p.answer_eq_ok how r.scanner.rest
    rw [hp, Option.bind_some]
    exact h.perform_of_added_eq_nil rfl (Attempt.keptPromise_attempt r.scanner hanswer)
  case takeLiteral lit =>
    refine h.perform_of_added_eq_nil rfl ?_
    rw [Scanner.act, r.scanner.attempt_literal ht]
    show decide ((if lit.isPrefixOf r.scanner.rest then some lit else none).isSome = _) = true
    cases lit.isPrefixOf r.scanner.rest <;> rfl
  case takeChar =>
    refine h.perform_of_added_eq_nil rfl ?_
    show decide (r.scanner.takeChar.result.isNone = r.scanner.atEnd) = true
    rw [Scanner.takeChar_result, Scanner.outcome_anyChar, hs]
    cases v <;> simp
  case peek n =>
    have hpeek : (r.scanner.peek n).isPrefixOf r.scanner.rest = true :=
      List.isPrefixOf_iff_prefix.2 (List.take_prefix n _)
    have hlen : (r.scanner.peek n).length ≤ n := List.length_take_le n _
    refine ⟨r, [], ?_, h⟩
    simp only [hpeek, hlen, decide_true, Bool.and_self, if_true]
  case moveTo pos =>
    refine h.perform_of_added_eq_nil rfl ?_
    have hlen : r.scanner.charLen = r.text.length := by rw [h.aligned.charLen_eq, htext]
    rw [Bool.and_eq_true, decide_eq_true_eq, decide_eq_true_eq, ← hlen]
    exact ⟨rfl, rfl⟩
  case append more =>
    refine h.perform rfl ?_
    rw [Bool.and_eq_true, decide_eq_true_eq, decide_eq_true_eq, ← htext]
    exact ⟨rfl, rfl⟩
  case restart =>
    refine h.perform_of_added_eq_nil rfl ?_
    rfl
  case finish =>
    refine h.perform_of_added_eq_nil rfl ?_
    show (r.scanner.toCursor.toEnd.atEnd && true) = true
    rw [hs, Cursor.toEnd_between]
    simp
  case share => exact h.share
  case fork => exact h.fork

/-- The tests after every operation are passed too. -/
theorem step (h : r.Ready) {t : Trial} (ht : t.Held) : Passes (r.step t) := by
  obtain ⟨r', events, htrial, hready⟩ := h.trial ht
  have horder : r'.scanner.inOrder r'.text = true :=
    hready.text_eq ▸ Scanner.inOrder_of_aligned hready.aligned
  refine ⟨r', events, ?_, hready⟩
  rw [CheckedRun.step, htrial, Option.filter_some, if_pos horder]

/-- The copies pass their tests at any time. -/
theorem copiesInOrder (h : r.Ready) : r.copiesInOrder := by
  rw [CheckedRun.copiesInOrder, List.all_eq_true]
  intro i _
  rw [Bool.or_eq_true, Option.all_eq_true]
  refine .inr fun s hs => ?_
  obtain ⟨seat, hseat, hseatText⟩ := h.seat
  have hzero : r.session.scanner? 0 = some r.scanner := by
    rw [Session.scanner?, scanner_eq hseat, hseat, Option.map_some]
  have hal : s.toCursor.Aligned := by
    obtain ⟨seat', hi, rfl⟩ := Option.map_eq_some_iff.1 hs
    exact (h.sound.of_getElem? hi).aligned
  have hpos : s.pos ≤ s.text.length := hal.charLen_eq ▸ hal.pos_le
  rw [decide_eq_true hpos, Bool.true_and, Bool.or_eq_true, decide_eq_true_eq]
  -- Only a copy that shares the slot has to see the same.
  cases hshares : r.session.shares i 0 with
  | false => exact .inl rfl
  | true => exact .inr (Session.outcome_eq_of_shares hshares hs hzero)

/-- A run goes through. -/
theorem finish (h : r.Ready) {ts : List Trial} (hts : ∀ t ∈ ts, t.Held) : (r.finish ts).isSome := by
  induction ts generalizing r with
  | nil => rw [CheckedRun.finish, if_pos h.copiesInOrder]; rfl
  | cons t ts ih =>
    -- The first operation leads to a run that is ready again.
    obtain ⟨r', events, hstep, hready⟩ := h.step (hts t List.mem_cons_self)
    obtain ⟨more, hmore⟩ := Option.isSome_iff_exists.1
      (ih hready fun t' ht' => hts t' (List.mem_cons_of_mem t ht'))
    simp only [CheckedRun.finish, hstep, hmore, Option.bind_eq_bind, Option.bind_some]
    rfl

end Ready

end CheckedRun

/-- **No test fails.** From any text and through any list of operations, whatever their arguments
    are, all tests of a checked run are passed. Texts that are looked for have to fit in a memory.
    -/
theorem checkedRun_isSome (text : Text) (trials : List Trial) (hheld : ∀ t ∈ trials, t.Held) :
    (checkedRun text trials).isSome :=
  (CheckedRun.new_ready text).finish hheld

/-- A run in which copies are made, one of which stops to share the outcome, and the text grows. -/
def busyTrials : List Trial :=
  [.attempt .takeThrough 2, .share, .takeLiteral "日".toList, .fork, .append "ß 1".toList,
    .moveTo (-3), .attempt .locate 13, .takeChar, .finish, .attempt .measure 10, .peek 4, .restart]

theorem checkedRun_isSome_busyTrials :
    (∀ t ∈ busyTrials, t.Held) ∧ (checkedRun "a 日b".toList busyTrials).isSome := by
  have hheld : ∀ t ∈ busyTrials, t.Held := by
    have hliteral : Text.Held "日".toList := by decide
    simp only [busyTrials, List.forall_mem_cons, Trial.Held, hliteral, List.not_mem_nil,
      false_imp_iff, implies_true, and_self]
  exact ⟨hheld, checkedRun_isSome _ busyTrials hheld⟩

end TextScan
