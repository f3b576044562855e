import TextScan.Proofs.Cursor
import TextScan.Scanner

namespace TextScan

/-!
# What an attempt does

The eight ways to try a pattern differ in what they ask of it, in where the recorded text begins,
in whether they pass it and in what they reply. All else they have in common, and it depends on the
text behind the cursor alone.

* `Found.FitsIn` is the condition under which a match counts, `Found.skipped` the text before it.
* `Outcome.ofAnswer` is the outcome that an answer of a pattern leaves.
* `Attempt.asked`, `Attempt.answer`, `Attempt.fromCursor`, `Attempt.passes` and `Attempt.reply` tell
  the ways apart.
* `Scanner.attempt_eq` puts them together, and `Scanner.act_attempt` says so of the operation. Proofs
  about attempts start from them and need not look at the single operations.
-/

/-! ### Matches in a text -/

namespace Found

/-- Whether a match is the slice of the text that its place names. -/
def FitsIn (m : Found) (t : Text) : Prop := t.slice? m.start m.stop = some m.text

instance (m : Found) (t : Text) : Decidable (m.FitsIn t) := inferInstanceAs (Decidable (_ = _))

/-- The text before a match. -/
def skipped (m : Found) (t : Text) : Text := (t.takeBytes? m.start).getD []

/-- The text before a match takes the bytes before it. -/
theorem skipped_append {m : Found} {u : Text} (h : u.byteSize = m.start) (v : Text) :
    m.skipped (u ++ v) = u := by
  rw [skipped, ← h, Text.takeBytes?_append, Option.getD_some]

/-- A match that fits is the middle of three parts of the text. -/
theorem FitsIn.split {m : Found} {t : Text} (h : m.FitsIn t) :
    (m.skipped t).byteSize = m.start ∧ m.stop = m.start + m.text.byteSize ∧
      ∃ v, t = m.skipped t ++ (m.text ++ v) := by
  -- The slice is one of two cuts, and the first of them is made where the match starts.
  obtain ⟨u, v, rfl, hstart, hstop⟩ := Text.slice?_eq_some_iff.1 h
  rw [List.append_assoc, skipped_append hstart, hstart] at *
  exact ⟨rfl, hstop.symm, v, rfl⟩

/-- The cut before a match that fits is not refused. -/
theorem FitsIn.takeBytes?_start {m : Found} {t : Text} (h : m.FitsIn t) :
    t.takeBytes? m.start = some (m.skipped t) := by
  obtain ⟨u, v, rfl, hstart, -⟩ := Text.slice?_eq_some_iff.1 h
  rw [List.append_assoc, skipped_append hstart, ← hstart, Text.takeBytes?_append]

/-- A match in the middle of a text fits, as long as its end can be told in 64 bits. -/
theorem fitsIn_append {m : Found} {u : Text} (h : u.byteSize = m.start) (v : Text)
    (hheld : (u ++ m.text).Held) : m.FitsIn (u ++ (m.text ++ v)) := by
  refine Text.slice?_eq_some_iff.2 ⟨u, v, (List.append_assoc ..).symm, h, ?_⟩
  unfold Text.Held at hheld
  rw [Text.byteSize_append] at hheld
  -- Nothing wraps around, since the end lies in a text that can be held.
  rw [stop, ← h, Nat.mod_eq_of_lt hheld]

end Found

/-! ### The outcome of an answer -/

/-- The outcome that an answer leaves, if the text behind the cursor is `rest`. With `fromCursor`
    the text before the match belongs to it. -/
def Outcome.ofAnswer (rest : Text) (fromCursor : Bool) : Answer → Outcome
  | .ok (some m) => Scanner.outcomeIn rest fromCursor m
  | _ => .failure

namespace Scanner

/-- A match that fits is recorded with its captures. -/
theorem outcomeIn_of_fitsIn {m : Found} {rest : Text} (h : m.FitsIn rest) (fromCursor : Bool) :
    outcomeIn rest fromCursor m =
      .success (if fromCursor then m.skipped rest ++ m.text else m.text) m.captures := by
  obtain ⟨hstart, hstop, v, hsplit⟩ := h.split
  have hslice : rest.slice? m.start m.stop = some m.text := h
  cases fromCursor with
  | false => simp only [outcomeIn, Bool.false_eq_true, if_false, hslice, if_true]
  | true =>
    -- The second cut starts at the cursor and ends where the match ends.
    have hbegins : rest.slice? 0 m.stop = some (m.skipped rest ++ m.text) := by
      refine Text.slice?_eq_some_iff.2 ⟨[], v, ?_, rfl, ?_⟩
      · rw [List.nil_append, List.append_assoc]
        exact hsplit
      · rw [hstop, ← hstart, Text.byteSize_nil, Nat.zero_add, Text.byteSize_append]
    simp only [outcomeIn, if_true, hslice, hbegins]

/-- A match that does not fit counts as none. -/
theorem outcomeIn_of_not_fitsIn {m : Found} {rest : Text} (h : ¬ m.FitsIn rest)
    (fromCursor : Bool) : outcomeIn rest fromCursor m = .failure := if_neg h

theorem judge_eq (s : Scanner) (fromCursor : Bool) (a : Answer) :
    s.judge fromCursor a =
      ⟨a.map fun _ => (Outcome.ofAnswer s.rest fromCursor a).text,
        { s with outcome := .ofAnswer s.rest fromCursor a },
        [.outcomeSet s.pos (Outcome.ofAnswer s.rest fromCursor a).text]⟩ := by
  cases a with
  | error e => rfl
  | ok found => cases found <;> rfl

end Scanner

/-! ### The ways to try a pattern -/

namespace Attempt

/-- The question behind an attempt: whether there is a match at the cursor, or ahead of it. -/
def asked (p : Pattern) (rest : Text) : Attempt → Answer
  | look | take | measure | skip => p.atStart rest
  | lookThrough | takeThrough | locate | skipThrough => p.anywhere rest

/-- What a pattern is asked. At the cursor only a match without text before it counts. -/
def answer (p : Pattern) (rest : Text) : Attempt → Answer
  | look | take | measure | skip => (p.atStart rest).map (·.filter fun m => m.start = 0)
  | lookThrough | takeThrough | locate | skipThrough => p.anywhere rest

/-- Whether the recorded text begins at the cursor and not at the match. -/
def fromCursor : Attempt → Bool
  | lookThrough | takeThrough | skipThrough => true
  | _ => false

/-- Whether the recorded text is passed. -/
def passes : Attempt → Bool
  | take | takeThrough | skip | skipThrough => true
  | _ => false

/-- The outcome of an attempt. -/
def outcome (p : Pattern) (rest : Text) (how : Attempt) : Outcome :=
  .ofAnswer rest how.fromCursor (how.answer p rest)

/-- The text that an attempt passes. -/
def passed (p : Pattern) (rest : Text) (how : Attempt) : Text :=
  if how.passes then (how.outcome p rest).text.getD [] else []

/-- The reply to an attempt that is not refused. `offset` is the number of characters before the
    match. -/
def replyOk (o : Outcome) (offset : Option Nat) : Attempt → Result
  | look | take | lookThrough | takeThrough => .text o.text
  | measure | skip | skipThrough => .count o.length?
  | locate => .count (o.text.bind fun _ => offset)

/-- The reply to an attempt. -/
def reply (p : Pattern) (rest : Text) (how : Attempt) : Result :=
  match how.answer p rest with
  | .error e => .failed e
  | .ok found =>
    how.replyOk (how.outcome p rest)
      (found.bind fun m => (rest.takeBytes? m.start).map List.length)

/-- The events of an attempt at a position. -/
def events (p : Pattern) (rest : Text) (pos : Nat) (how : Attempt) : List Event :=
  .outcomeSet pos (how.outcome p rest).text ::
    match (how.outcome p rest).text with
    | some t => if how.passes then [.passed (pos + t.length)] else []
    | none => []

end Attempt

/-- Whether the result tells that there is no match. An error does not. -/
def Result.isNone : Result → Bool
  | text t => t.isNone
  | count n => n.isNone
  | failed _ | position _ | done => false

namespace Scanner

theorem pass_judge (s : Scanner) (fromCursor : Bool) (a : Answer) :
    pass (s.judge fromCursor a) =
      ⟨a.map fun _ => (Outcome.ofAnswer s.rest fromCursor a).text,
        ⟨s.toCursor.pass ((Outcome.ofAnswer s.rest fromCursor a).text.getD []),
          .ofAnswer s.rest fromCursor a⟩,
        .outcomeSet s.pos (Outcome.ofAnswer s.rest fromCursor a).text ::
          match (Outcome.ofAnswer s.rest fromCursor a).text with
          | some t => [.passed (s.pos + t.length)]
          | none => []⟩ := by
  rw [judge_eq]
  cases a with
  | error e => rfl
  | ok found =>
    generalize Outcome.ofAnswer s.rest fromCursor (.ok found) = o
    obtain ⟨text, captures⟩ := o
    cases text <;> rfl

/-- **The single description of attempts.** An attempt replies, records and emits what the text
    behind the cursor determines, and moves the cursor over the recorded text if it passes at all.
    -/
theorem attempt_eq (s : Scanner) (p : Pattern) (how : Attempt) :
    s.attempt p how =
      ⟨how.reply p s.rest,
        ⟨s.toCursor.pass (how.passed p s.rest), how.outcome p s.rest⟩,
        how.events p s.rest s.pos⟩ := by
  cases how
  all_goals
    simp only [attempt, look, take, lookThrough, takeThrough, locate, measure, skip, skipThrough,
      measured, Attempt.reply, Attempt.passed, Attempt.outcome, Attempt.events, Attempt.answer,
      Attempt.fromCursor]
  -- Those that ask at the cursor. Whatever the answer is, only the text of the outcome decides.
  case look | take | measure | skip =>
    first | rw [pass_judge] | rw [judge_eq]
    generalize (p.atStart s.rest).map (·.filter fun m => m.start = 0) = a
    cases a with
    | error e => rfl
    | ok found =>
      generalize Outcome.ofAnswer s.rest false (.ok found) = o
      obtain ⟨text, captures⟩ := o
      cases text <;> rfl
  -- Those that ask ahead of it.
  case lookThrough | takeThrough | skipThrough =>
    first | rw [pass_judge] | rw [judge_eq]
    cases p.anywhere s.rest with
    | error e => rfl
    | ok found =>
      generalize Outcome.ofAnswer s.rest true (.ok found) = o
      obtain ⟨text, captures⟩ := o
      cases text <;> rfl
  -- The number that is replied comes from the answer and not from the outcome.
  case locate =>
    rw [judge_eq]
    cases p.anywhere s.rest with
    | error e => rfl
    | ok found =>
      generalize Outcome.ofAnswer s.rest false (.ok found) = o
      obtain ⟨text, captures⟩ := o
      cases found <;> cases text <;> rfl

/-- The same of the operation that is the attempt. -/
theorem act_attempt (s : Scanner) (p : Pattern) (how : Attempt) :
    s.act (.attempt how p) =
      ⟨how.reply p s.rest,
        ⟨s.toCursor.pass (how.passed p s.rest), how.outcome p s.rest⟩,
        how.events p s.rest s.pos⟩ :=
  s.attempt_eq p how

end Scanner

/-! ### Matches that count -/

namespace Attempt

variable {p : Pattern} {rest : Text} {how : Attempt} {m : Found}

/-- A match that fits is recorded. -/
theorem outcome_of_fitsIn (ha : how.answer p rest = .ok (some m)) (hfits : m.FitsIn rest) :
    how.outcome p rest =
      .success (if how.fromCursor then m.skipped rest ++ m.text else m.text) m.captures := by
  rw [outcome, ha]
  exact Scanner.outcomeIn_of_fitsIn hfits how.fromCursor

/-- A match that fits is replied to, with the number of characters before it if it was located. -/
theorem reply_of_fitsIn (ha : how.answer p rest = .ok (some m)) (hfits : m.FitsIn rest) :
    how.reply p rest = how.replyOk (how.outcome p rest) (some (m.skipped rest).length) := by
  rw [reply, ha]
  simp only [Option.bind_some, hfits.takeBytes?_start, Option.map_some]

/-- Nothing is recorded if no match fits. -/
theorem outcome_of_not_fitsIn (h : ∀ m, how.answer p rest = .ok (some m) → ¬ m.FitsIn rest) :
    how.outcome p rest = .failure := by
  unfold outcome
  cases ha : how.answer p rest with
  | error e => rfl
  | ok found =>
    cases found with
    | none => rfl
    | some m => exact Scanner.outcomeIn_of_not_fitsIn (h m ha) how.fromCursor

/-- If a text is recorded, there is a match that fits. -/
theorem exists_fitsIn_of_text {t : Text} (h : (how.outcome p rest).text = some t) :
    ∃ m, how.answer p rest = .ok (some m) ∧ m.FitsIn rest := by
  refine Classical.byContradiction fun hnone => ?_
  rw [outcome_of_not_fitsIn fun m ha hfits => hnone ⟨m, ha, hfits⟩] at h
  cases h

end Attempt

/-! ### What is passed lies behind the cursor -/

namespace Attempt

/-- At the cursor, only a match that starts there is an answer. -/
theorem start_eq_zero {p : Pattern} {rest : Text} {how : Attempt} {m : Found}
    (h : how.answer p rest = .ok (some m)) :
    how.fromCursor = true ∨ how = locate ∨ m.start = 0 := by
  cases how
  case lookThrough | takeThrough | skipThrough => exact .inl rfl
  case locate => exact .inr (.inl rfl)
  all_goals
    refine .inr (.inr ?_)
    simp only [answer] at h
    cases hp : p.atStart rest with
    | error e => rw [hp] at h; exact absurd h (by simp [Except.map])
    | ok found =>
      rw [hp] at h
      simp only [Except.map, Except.ok.injEq, Option.filter_eq_some_iff, decide_eq_true_eq] at h
      exact h.2

/-- A recorded text begins where the cursor stands, unless the match was only located. -/
theorem outcome_text_isPrefix {p : Pattern} {rest t : Text} {how : Attempt}
    (h : (how.outcome p rest).text = some t) (hhow : how ≠ locate) : t <+: rest := by
  obtain ⟨m, ha, hfits⟩ := exists_fitsIn_of_text h
  obtain ⟨hstart, -, v, hsplit⟩ := hfits.split
  rw [outcome_of_fitsIn ha hfits, Outcome.text_success, Option.some.injEq] at h
  subst h
  refine ⟨v, ?_⟩
  rcases start_eq_zero ha with hfrom | hloc | hzero
  · rw [hfrom, if_pos rfl, List.append_assoc]
    exact hsplit.symm
  · exact absurd hloc hhow
  · -- Nothing is before the match, so both forms of the recorded text are the same.
    rw [hzero, Text.byteSize_eq_zero] at hstart
    rw [hstart] at hsplit ⊢
    simpa using hsplit.symm

/-- A match that begins the text is taken. -/
theorem outcome_take {p : Pattern} {rest : Text} {m : Found} (h : p.atStart rest = .ok (some m))
    (hstart : m.start = 0) (hbegins : m.text <+: rest) (hheld : m.text.Held) :
    Attempt.take.outcome p rest = .success m.text m.captures := by
  obtain ⟨v, rfl⟩ := hbegins
  have hanswer : Attempt.take.answer p (m.text ++ v) = .ok (some m) := by
    rw [answer, h, Except.map, Option.filter_some, if_pos (decide_eq_true hstart)]
  have hfits : m.FitsIn (m.text ++ v) := Found.fitsIn_append (u := []) hstart.symm v hheld
  exact outcome_of_fitsIn hanswer hfits

/-- Without a match nothing is taken. -/
theorem outcome_take_of_none {p : Pattern} {rest : Text} (h : p.atStart rest = .ok none) :
    Attempt.take.outcome p rest = .failure := by
  rw [outcome, answer, h]
  rfl

/-- A pattern that answers is replied to with the text that is taken. -/
theorem reply_take {p : Pattern} {rest : Text} {found : Option Found}
    (h : p.atStart rest = .ok found) :
    Attempt.take.reply p rest = .text (Attempt.take.outcome p rest).text := by
  rw [reply, answer, h]
  rfl

theorem passed_isPrefix (p : Pattern) (rest : Text) (how : Attempt) :
    how.passed p rest <+: rest := by
  unfold passed
  split
  -- Only the attempts that pass are left, and locating is none of them.
  · cases ht : (how.outcome p rest).text with
    | none => exact List.nil_prefix
    | some t => exact outcome_text_isPrefix ht (by rintro rfl; contradiction)
  · exact List.nil_prefix

end Attempt

/-! ### Operations on aligned scanners -/

/-- The text that an operation adds. -/
def Action.added : Action → Text
  | append more => more
  | _ => []

namespace Scanner

/-- Both ways to look hand over a text that lies behind the cursor. -/
theorem look_isPrefix {s : Scanner} {p : Pattern} {e : Effect (Except PatternError (Option Text))}
    (he : e = s.look p ∨ e = s.lookThrough p) {m : Text} (h : e.result = .ok (some m)) :
    m <+: e.scanner.rest := by
  -- What is replied is what is recorded.
  have hjudge {b : Bool} {a : Answer} (h : (s.judge b a).result = .ok (some m)) :
      (Outcome.ofAnswer s.rest b a).text = some m := by
    rw [judge_eq] at h
    cases a with
    | error e => exact absurd h (by simp [Except.map])
    | ok found => exact Except.ok.inj h
  rcases he with rfl | rfl
  · rw [show (s.look p).scanner.rest = s.rest by rw [look, judge_eq]]
    exact @Attempt.outcome_text_isPrefix p s.rest m .look (hjudge h) (by decide)
  · rw [show (s.lookThrough p).scanner.rest = s.rest by rw [lookThrough, judge_eq]]
    exact @Attempt.outcome_text_isPrefix p s.rest m .lookThrough (hjudge h) (by decide)

@[simp] theorem attempt_outcome (s : Scanner) (p : Pattern) (how : Attempt) :
    (s.attempt p how).scanner.outcome = how.outcome p s.rest := by rw [attempt_eq]

@[simp] theorem attempt_toCursor (s : Scanner) (p : Pattern) (how : Attempt) :
    (s.attempt p how).scanner.toCursor = s.toCursor.pass (how.passed p s.rest) := by rw [attempt_eq]

@[simp] theorem attempt_result (s : Scanner) (p : Pattern) (how : Attempt) :
    (s.attempt p how).result = how.reply p s.rest := by rw [attempt_eq]

theorem take_toCursor (s : Scanner) (p : Pattern) :
    (s.take p).scanner.toCursor =
      s.toCursor.pass ((Attempt.take.outcome p s.rest).text.getD []) :=
  attempt_toCursor s p .take

theorem take_result (s : Scanner) (p : Pattern) :
    (s.take p).result =
      (p.atStart s.rest).map fun _ => (Attempt.take.outcome p s.rest).text := by
  rw [take, look, pass_judge]
  cases h : p.atStart s.rest with
  | error e => rfl
  | ok found => rw [Attempt.outcome, Attempt.answer, h]; rfl

/-- Taking a character is an attempt with the pattern of all characters. -/
theorem takeChar_scanner (s : Scanner) :
    s.takeChar.scanner = (s.attempt .anyChar .take).scanner := rfl

/-- The pattern of all characters matches the next one, where one is left. -/
theorem outcome_anyChar (rest : Text) :
    Attempt.take.outcome .anyChar rest =
      match rest with
      | [] => .failure
      | c :: _ => .success [c] [] := by
  cases rest with
  | nil => exact Attempt.outcome_take_of_none rfl
  | cons c w =>
    -- A character takes at most four bytes.
    have hheld : Text.Held [c] := by
      have hsize := c.utf8Size_le_four
      show c.utf8Size + 0 < 18446744073709551616
      omega
    exact Attempt.outcome_take (m := ⟨0, [c], []⟩) rfl rfl ⟨w, rfl⟩ hheld

theorem takeChar_result (s : Scanner) :
    s.takeChar.result = (Attempt.take.outcome .anyChar s.rest).text := by
  show (pass (s.look .anyChar)).result.toOption.join = _
  rw [look, pass_judge]
  rfl

theorem attempt_aligned {s : Scanner} (h : s.toCursor.Aligned) (p : Pattern) (how : Attempt) :
    (s.attempt p how).scanner.toCursor.Aligned := by
  obtain ⟨u, v, hs⟩ := Cursor.aligned_iff.1 h
  rw [attempt_toCursor, hs, Cursor.rest_between,
    Cursor.pass_between_of_isPrefix u (how.passed_isPrefix p v)]
  exact Cursor.aligned_between _ _

/-- Only text that is added changes the text. -/
theorem act_text (s : Scanner) (a : Action) : (s.act a).scanner.text = s.text ++ a.added := by
  cases a with
  | attempt how p =>
    show (s.attempt p how).scanner.text = s.text ++ []
    rw [attempt_toCursor, List.append_nil]
    rfl
  | takeChar =>
    show s.takeChar.scanner.text = s.text ++ []
    rw [takeChar_scanner, attempt_toCursor, List.append_nil]
    rfl
  | append more => rfl
  | moveTo | restart | finish => exact (List.append_nil s.text).symm

/-- No operation disturbs the counts of a cursor. -/
theorem act_aligned {s : Scanner} (h : s.toCursor.Aligned) (a : Action) :
    (s.act a).scanner.toCursor.Aligned := by
  obtain ⟨u, v, hs⟩ := Cursor.aligned_iff.1 h
  cases a with
  | attempt how p => exact attempt_aligned h p how
  | takeChar => exact attempt_aligned h .anyChar .take
  | moveTo pos =>
    show (s.toCursor.moveTo pos).Aligned
    rw [hs, Cursor.moveTo_between]
    exact Cursor.aligned_between _ _
  | append more =>
    show (s.toCursor.append more).Aligned
    rw [hs, Cursor.append_between]
    exact Cursor.aligned_between _ _
  | restart =>
    show s.toCursor.toStart.Aligned
    rw [hs, Cursor.toStart_between]
    exact Cursor.aligned_between _ _
  | finish =>
    show s.toCursor.toEnd.Aligned
    rw [hs, Cursor.toEnd_between]
    exact Cursor.aligned_between _ _

end Scanner

end TextScan
