import TextScan.Proofs.Literal

namespace TextScan

/-!
# Scanners agree with plain scanners

A scanner and a plain one that stand at the same place, with the same last match, reply alike to
every operation and stand at the same place again. Hence they cannot be told apart by any run, as
long as patterns report what is in the text.

* `Scanner.Refines` is the relation, `Scanner.Refines.view_eq` says that related scanners show the
  same.
* `Agrees` relates what two operations reply and leave.
* `Scanner.Refines.act` is the step, `Scanner.history_eq_plain` the run.
-/

/-! ### Genuine matches -/

namespace Found

variable {m : Found} {t : Text}

theorem GenuineIn.fitsIn (h : m.GenuineIn t) (hheld : t.Held) : m.FitsIn t := by
  obtain ⟨u, v, rfl, hu⟩ := h
  rw [← List.append_assoc] at hheld
  exact fitsIn_append hu v hheld.left

theorem GenuineIn.skipped_eq_take (h : m.GenuineIn t) : t.take (m.charsBefore t) = m.skipped t := by
  obtain ⟨u, v, rfl, hu⟩ := h
  rw [charsBefore, skipped_append hu, List.take_left]

/-- No character lies before a match exactly if no byte does. -/
theorem GenuineIn.charsBefore_eq_zero (h : m.GenuineIn t) : m.charsBefore t = 0 ↔ m.start = 0 := by
  obtain ⟨u, v, rfl, hu⟩ := h
  rw [charsBefore, skipped_append hu, List.length_eq_zero_iff, ← hu, Text.byteSize_eq_zero]

end Found

/-! ### The relation -/

/-- The last match as an outcome. -/
def PlainScanner.outcome (r : PlainScanner) : Outcome :=
  match r.last with
  | some (t, cs) => .success t cs
  | none => .failure

/-- A scanner stands where a plain one stands, over the same text and with the same last match. -/
structure Scanner.Refines (s : Scanner) (r : PlainScanner) : Prop where
  cursor : s.toCursor = .between (r.text.take r.pos) r.rest
  pos_le : r.pos ≤ r.text.length
  outcome : s.outcome = r.outcome

/-- An operation replies what a plain one replies, and leaves a scanner that refines what that one
    leaves. -/
structure Agrees {α : Type} (e : Effect α) (q : α × PlainScanner) : Prop where
  result : e.result = q.1
  scanner : e.scanner.Refines q.2

theorem Agrees.map {α β : Type} {e : Effect α} {q : α × PlainScanner} (h : Agrees e q)
    (f : α → β) : Agrees (e.map f) (q.map f id) :=
  ⟨congrArg f h.result, h.scanner⟩

namespace Scanner

theorem new_refines (text : Text) : (new text).Refines (.new text) where
  cursor := rfl
  pos_le := Nat.zero_le _
  outcome := rfl

namespace Refines

variable {s : Scanner} {r : PlainScanner} {p : Pattern}

theorem rest_eq (h : s.Refines r) : s.rest = r.rest := by
  rw [h.cursor, Cursor.rest_between]

theorem text_eq (h : s.Refines r) : s.text = r.text := by
  rw [h.cursor, Cursor.text_between]
  exact List.take_append_drop _ _

theorem pos_eq (h : s.Refines r) : s.pos = r.pos := by
  rw [h.cursor, Cursor.pos_between, List.length_take, Nat.min_eq_left h.pos_le]

/-- Related scanners show the same. -/
theorem view_eq (h : s.Refines r) : s.view = r.view := by
  have hend : s.atEnd = decide (r.pos = r.text.length) := by
    rw [h.cursor, Cursor.atEnd_between, Bool.eq_iff_iff, List.isEmpty_iff, decide_eq_true_eq]
    have hle := h.pos_le
    unfold PlainScanner.rest
    rw [List.drop_eq_nil_iff]
    omega
  -- The last character before the cursor is the one whose number is one less than the position.
  have hline : s.atLineStart = (r.pos = 0 || r.text[r.pos - 1]? = some '\n') := by
    rw [h.cursor, Cursor.atLineStart_between]
    by_cases hzero : r.pos = 0
    · simp [hzero]
    · have hne : r.text ≠ [] := by
        intro hnil
        have hle := h.pos_le
        rw [hnil, List.length_nil] at hle
        omega
      have hlt : r.pos - 1 < r.text.length := by
        have hle := h.pos_le
        omega
      rw [List.getLast?_take, if_neg hzero, List.getElem?_eq_getElem hlt]
      simp [hzero, hne]
  have hpeek : s.peek = fun n => r.rest.take n := by
    funext n
    rw [Cursor.peek, h.rest_eq]
  unfold view PlainScanner.view
  rw [h.pos_eq, hend, hline, h.rest_eq, hpeek, h.text_eq, h.outcome]
  unfold PlainScanner.outcome
  cases r.last <;> rfl

/-- What a scanner remembers changes nothing else. -/
theorem remember (h : s.Refines r) {o : Outcome} {last : Option (Text × List (Option Text))}
    (ho : o = (r.remember last).outcome) : { s with outcome := o }.Refines (r.remember last) :=
  ⟨h.cursor, h.pos_le, ho⟩

/-- Passing a text that lies behind the cursor. -/
theorem pass (h : s.Refines r) {t : Text} (ht : t <+: r.rest) :
    { s with toCursor := s.toCursor.pass t }.Refines { r with pos := r.pos + t.length } where
  cursor := by
    show s.toCursor.pass t = _
    -- What lies before the cursor grows by what is passed.
    have htake : r.text.take (r.pos + t.length) = r.text.take r.pos ++ t := by
      obtain ⟨w, hw⟩ := ht
      rw [List.take_add, ← show r.rest = r.text.drop r.pos from rfl, ← hw, List.take_left]
    rw [h.cursor, Cursor.pass_between_of_isPrefix _ ht, htake]
    unfold PlainScanner.rest
    rw [List.drop_drop]
  pos_le := by
    have hlen := ht.length_le
    unfold PlainScanner.rest at hlen
    rw [List.length_drop] at hlen
    have hle := h.pos_le
    show r.pos + t.length ≤ r.text.length
    omega
  outcome := h.outcome

theorem rest_held (hheld : r.text.Held) : r.rest.Held := by
  rw [← List.take_append_drop r.pos r.text] at hheld
  exact hheld.right

/-! ### Operations -/

theorem look (h : s.Refines r) (hp : p.Genuine) (hheld : r.text.Held) :
    Agrees (s.look p) (r.look p) := by
  unfold PlainScanner.look
  rw [Scanner.look, judge_eq, h.rest_eq]
  cases ha : p.atStart r.rest with
  | error e => exact ⟨rfl, h.remember rfl⟩
  | ok found =>
    cases found with
    | none => exact ⟨rfl, h.remember rfl⟩
    | some m =>
      have hm : m.GenuineIn r.rest := hp _ _ (.inl ha)
      have hmap : Except.map (·.filter fun m => m.start = 0) (.ok (some m) : Answer) =
          .ok (if m.start = 0 then some m else none) := by
        simp [Except.map, Option.filter_some]
      rw [hmap]
      dsimp only
      -- A genuine match is at the cursor in bytes exactly if it is in characters.
      by_cases hzero : m.start = 0
      · have ho : Outcome.ofAnswer r.rest false (.ok (some m)) = .success m.text m.captures :=
          outcomeIn_of_fitsIn (hm.fitsIn (rest_held hheld)) false
        rw [if_pos hzero, if_pos (hm.charsBefore_eq_zero.2 hzero), ho]
        exact ⟨rfl, h.remember rfl⟩
      · rw [if_neg hzero, if_neg (mt hm.charsBefore_eq_zero.1 hzero)]
        exact ⟨rfl, h.remember rfl⟩

theorem lookThrough (h : s.Refines r) (hp : p.Genuine) (hheld : r.text.Held) :
    Agrees (s.lookThrough p) (r.lookThrough p) := by
  unfold PlainScanner.lookThrough
  rw [Scanner.lookThrough, judge_eq, h.rest_eq]
  cases ha : p.anywhere r.rest with
  | error e => exact ⟨rfl, h.remember rfl⟩
  | ok found =>
    cases found with
    | none => exact ⟨rfl, h.remember rfl⟩
    | some m =>
      have hm : m.GenuineIn r.rest := hp _ _ (.inr ha)
      have ho : Outcome.ofAnswer r.rest true (.ok (some m)) =
          .success (r.rest.take (m.charsBefore r.rest) ++ m.text) m.captures := by
        rw [hm.skipped_eq_take]
        exact outcomeIn_of_fitsIn (hm.fitsIn (rest_held hheld)) true
      rw [ho]
      exact ⟨rfl, h.remember rfl⟩

theorem locate (h : s.Refines r) (hp : p.Genuine) (hheld : r.text.Held) :
    Agrees (s.locate p) (r.locate p) := by
  unfold PlainScanner.locate
  rw [Scanner.locate, judge_eq, h.rest_eq]
  cases ha : p.anywhere r.rest with
  | error e => exact ⟨rfl, h.remember rfl⟩
  | ok found =>
    cases found with
    | none => exact ⟨rfl, h.remember rfl⟩
    | some m =>
      have hm : m.GenuineIn r.rest := hp _ _ (.inr ha)
      -- The characters before the match are counted on the same text on both sides.
      have hfits := hm.fitsIn (rest_held hheld)
      have ho : Outcome.ofAnswer r.rest false (.ok (some m)) = .success m.text m.captures :=
        outcomeIn_of_fitsIn hfits false
      rw [ho]
      dsimp only
      rw [hfits.takeBytes?_start]
      exact ⟨rfl, h.remember rfl⟩

end Refines

end Scanner

namespace Agrees

variable {e : Effect (Except PatternError (Option Text))}
  {q : Except PatternError (Option Text) × PlainScanner}

/-- Passing what was matched, which lies behind the cursor. -/
theorem pass (h : Agrees e q) (hbegins : ∀ t, e.result = .ok (some t) → t <+: e.scanner.rest) :
    Agrees (Scanner.pass e) (PlainScanner.pass q) := by
  unfold Scanner.pass PlainScanner.pass
  rw [← h.result]
  cases hres : e.result with
  | error err => exact h
  | ok found =>
    cases found with
    | none => exact h
    | some t =>
      have hrest := hbegins t hres
      rw [h.scanner.rest_eq] at hrest
      exact ⟨rfl, h.scanner.pass hrest⟩

/-- The length that is replied is that of the last match. -/
theorem measured (h : Agrees e q) : Agrees (Scanner.measured e) (PlainScanner.measured q) := by
  refine ⟨?_, h.scanner⟩
  have hlen : e.scanner.outcome.length? = q.2.last.map fun m => m.1.length := by
    rw [h.scanner.outcome, PlainScanner.outcome]
    cases q.2.last <;> rfl
  show e.result.map _ = q.1.map _
  rw [h.result, hlen]

end Agrees

namespace Scanner.Refines

variable {s : Scanner} {r : PlainScanner} {p : Pattern}

theorem attempt (h : s.Refines r) (hp : p.Genuine) (hheld : r.text.Held) (how : Attempt) :
    Agrees (s.attempt p how) (r.attempt p how) := by
  -- Every attempt is one of two looks, passed or not and measured or not.
  have hlook := h.look hp hheld
  have hthrough := h.lookThrough hp hheld
  have htake : Agrees (s.take p) (PlainScanner.pass (r.look p)) :=
    hlook.pass fun _ => look_isPrefix (.inl rfl)
  have htakeThrough : Agrees (s.takeThrough p) (PlainScanner.pass (r.lookThrough p)) :=
    hthrough.pass fun _ => look_isPrefix (.inr rfl)
  cases how with
  | look => exact hlook.map _
  | take => exact htake.map _
  | lookThrough => exact hthrough.map _
  | takeThrough => exact htakeThrough.map _
  | locate => exact (h.locate hp hheld).map _
  | measure => exact hlook.measured.map _
  | skip => exact htake.measured.map _
  | skipThrough => exact htakeThrough.measured.map _

theorem takeChar (h : s.Refines r) : Agrees s.takeChar r.takeChar := by
  have hcursor : s.takeChar.scanner.toCursor =
      s.toCursor.pass ((Attempt.take.outcome .anyChar s.rest).text.getD []) := by
    rw [takeChar_scanner, attempt_toCursor]
    rfl
  have houtcome : s.takeChar.scanner.outcome = Attempt.take.outcome .anyChar s.rest := by
    rw [takeChar_scanner, attempt_outcome]
  unfold PlainScanner.takeChar
  rw [h.rest_eq, outcome_anyChar] at hcursor houtcome
  have hresult := takeChar_result s
  rw [h.rest_eq, outcome_anyChar] at hresult
  cases hrest : r.rest with
  | nil =>
    rw [hrest] at hcursor houtcome hresult
    exact ⟨hresult, ⟨hcursor.trans h.cursor, h.pos_le, houtcome⟩⟩
  | cons c w =>
    rw [hrest] at hcursor houtcome hresult
    have hpass := h.pass (t := [c]) ⟨w, by rw [hrest]; rfl⟩
    exact ⟨hresult, ⟨hcursor.trans hpass.cursor, hpass.pos_le, houtcome⟩⟩

theorem moveTo (h : s.Refines r) (pos : Int) :
    Agrees (s.act (.moveTo pos)) (r.act (.moveTo pos)) := by
  -- It makes no difference whether a position is cut to the text before it is made a number.
  have hclamp : (max 0 (min pos r.text.length)).toNat = min pos.toNat r.text.length := by omega
  have hcursor : (s.act (.moveTo pos)).scanner.toCursor =
      .between (r.text.take pos.toNat) (r.text.drop pos.toNat) := by
    show s.toCursor.moveTo pos = _
    rw [h.cursor, Cursor.moveTo_between, PlainScanner.rest, List.take_append_drop]
  have hpos : (s.act (.moveTo pos)).scanner.pos = (max 0 (min pos r.text.length)).toNat := by
    rw [hcursor, Cursor.pos_between, List.length_take, hclamp]
  refine ⟨congrArg Result.position hpos, ?_, ?_, h.outcome⟩
  · rw [hcursor, PlainScanner.act, PlainScanner.rest]
    dsimp only
    rw [hclamp, ← List.take_eq_take_min, ← List.drop_eq_drop_min]
  · show (max 0 (min pos r.text.length)).toNat ≤ r.text.length
    omega

/-- **One operation.** A scanner and a plain one that agree before it agree after it. -/
theorem act (h : s.Refines r) {a : Action} (ha : a.Genuine) (hheld : r.text.Held) :
    Agrees (s.act a) (r.act a) := by
  have htext : r.text.take r.pos ++ r.rest = r.text := List.take_append_drop _ _
  cases a with
  | attempt how p => exact h.attempt ha hheld how
  | takeChar => exact h.takeChar.map _
  | moveTo pos => exact h.moveTo pos
  | append more =>
    refine ⟨rfl, ?_, ?_, h.outcome⟩
    · show s.toCursor.append more = _
      rw [h.cursor, Cursor.append_between, PlainScanner.act, PlainScanner.rest, PlainScanner.rest]
      dsimp only
      rw [List.take_append_of_le_length h.pos_le, List.drop_append_of_le_length h.pos_le]
    · show r.pos ≤ (r.text ++ more).length
      rw [List.length_append]
      exact Nat.le_add_right_of_le h.pos_le
  | restart =>
    refine ⟨rfl, ?_, Nat.zero_le _, rfl⟩
    show s.toCursor.toStart = _
    rw [h.cursor, Cursor.toStart_between, htext]
    rfl
  | finish =>
    refine ⟨rfl, ?_, Nat.le_refl _, rfl⟩
    show s.toCursor.toEnd = _
    rw [h.cursor, Cursor.toEnd_between, htext, PlainScanner.act, PlainScanner.rest]
    dsimp only
    rw [List.take_length, List.drop_length]

/-- Any run, from scanners that agree. -/
theorem history_eq (h : s.Refines r) {as : List Action} (hgen : ∀ a ∈ as, a.Genuine)
    (hheld : (r.text ++ as.flatMap Action.added).Held) : s.history as = r.history as := by
  induction as generalizing s r with
  | nil => rfl
  | cons a as ih =>
    -- The text and what this operation adds are a part of all that has to fit in a memory.
    rw [List.flatMap_cons, ← List.append_assoc] at hheld
    have hact := h.act (hgen a List.mem_cons_self) hheld.left.left
    have htext : (r.act a).2.text = r.text ++ a.added := by
      rw [← hact.scanner.text_eq, act_text, h.text_eq]
    rw [history, PlainScanner.history, hact.result, hact.scanner.view_eq,
      ih hact.scanner (fun b hb => hgen b (List.mem_cons_of_mem a hb)) (htext ▸ hheld)]

end Scanner.Refines

/-- **Bytes do not show.** Over any text and through any run of operations, a scanner replies and
    shows, at the start and after each operation, what a plain scanner does, if patterns report
    parts of the text. The text with all that is added to it has to fit in a memory. -/
theorem Scanner.history_eq_plain (text : Text) (as : List Action) (hgen : ∀ a ∈ as, a.Genuine)
    (hheld : (text ++ as.flatMap Action.added).Held) :
    (new text).view = (PlainScanner.new text).view ∧
      (new text).history as = (PlainScanner.new text).history as :=
  ⟨(new_refines text).view_eq, (new_refines text).history_eq hgen hheld⟩

/-- A run with a match after a gap, a pattern that fails, a move and added text. -/
def mixedRun : List Action :=
  [.attempt .takeThrough (.literal "日".toList), .attempt .locate (.char 'ß'), .append "aß".toList,
    .attempt .locate (.char 'ß'), .takeChar,
    .attempt .measure (.fixed (.error (.malformed [])) (.ok none)), .moveTo (-1),
    .attempt .skipThrough (.literal []), .finish]

theorem Scanner.history_eq_plain_mixedRun :
    (∀ a ∈ mixedRun, a.Genuine) ∧ Text.Held ("é日x".toList ++ mixedRun.flatMap Action.added) ∧
      (new "é日x".toList).history mixedRun = (PlainScanner.new "é日x".toList).history mixedRun := by
  have hgen : ∀ a ∈ mixedRun, a.Genuine := by
    have hfixed : (Pattern.fixed (.error (.malformed [])) (.ok none)).Genuine := by
      rintro t m (h | h) <;> simp [Pattern.fixed] at h
    have hchar : (Pattern.char 'ß').Genuine := Pattern.char_eq_literal 'ß' ▸
      Pattern.literal_genuine _
    simp only [mixedRun, List.forall_mem_cons, Action.Genuine, Pattern.literal_genuine, hfixed,
      hchar, List.not_mem_nil, false_imp_iff, implies_true, and_self]
  have hheld : Text.Held ("é日x".toList ++ mixedRun.flatMap Action.added) := by decide
  exact ⟨hgen, hheld, (history_eq_plain _ mixedRun hgen hheld).2⟩

end TextScan
