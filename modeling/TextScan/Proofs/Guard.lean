import TextScan.Proofs.Session.Frame

namespace TextScan

/-!
# Which answers count

A pattern may answer anything. Its answer counts if it names a part of the rest, and only then.
Nothing else that it says can do harm: the scanners that share the slot lose their match, and all
is as it was otherwise.

* `Attempt.Hits` says that an answer names a part of the rest. Bytes and words of 64 bits do not
  occur in it, except that the place of a match is told in bytes.
* `Attempt.Hits.outcome_eq` and `Attempt.Hits.reply_eq` are what follows if it does,
  `Attempt.passed_of_not_hits` and `Attempt.reply_of_not_hits` if it does not.
* `Session.attempt_isSome_iff` is the result for all that runs arrive at.
-/

/-- Whether the result tells a match. -/
def Result.isSome : Result → Bool
  | text t => t.isSome
  | count n => n.isSome
  | failed _ | position _ | done => false

namespace Attempt

variable {p : Pattern} {rest u v : Text} {how : Attempt} {m : Found}

/-- Whether the match may lie ahead of the cursor. -/
def ahead : Attempt → Bool
  | lookThrough | takeThrough | locate | skipThrough => true
  | look | take | measure | skip => false

/-- The answer of a pattern is a match, and its text stands in the rest behind `u` and before `v`,
    which is where the match says that it starts. -/
structure Hits (how : Attempt) (p : Pattern) (rest u : Text) (m : Found) (v : Text) : Prop where
  asked : how.asked p rest = .ok (some m)
  near : how.ahead ∨ m.start = 0
  eq_append : rest = u ++ (m.text ++ v)
  byteSize_eq : u.byteSize = m.start

/-- The outcome of an answer that names a part of the rest behind `u`. -/
def recorded (how : Attempt) (u : Text) (m : Found) : Outcome :=
  .success (if how.fromCursor then u ++ m.text else m.text) m.captures

theorem answer_eq_some_iff :
    how.answer p rest = .ok (some m) ↔
      how.asked p rest = .ok (some m) ∧ (how.ahead ∨ m.start = 0) := by
  cases how with
  | lookThrough | takeThrough | locate | skipThrough => simp [answer, asked, ahead]
  | look | take | measure | skip =>
    simp only [answer, asked, ahead, Bool.false_eq_true, false_or]
    cases p.atStart rest with
    | error e => simp [Except.map]
    | ok found => simp [Except.map, Option.filter_eq_some_iff]

/-- What is held back of an answer is no error. -/
theorem answer_eq_error_iff {e : PatternError} :
    how.answer p rest = .error e ↔ how.asked p rest = .error e := by
  cases how with
  | lookThrough | takeThrough | locate | skipThrough => rfl
  | look | take | measure | skip =>
    simp only [answer, asked]
    cases p.atStart rest <;> simp [Except.map]

/-- An answer that counts names a part of the rest. -/
theorem hits_of_fitsIn (ha : how.answer p rest = .ok (some m)) (hfits : m.FitsIn rest) :
    ∃ v, how.Hits p rest (m.skipped rest) m v := by
  obtain ⟨hasked, hnear⟩ := answer_eq_some_iff.1 ha
  obtain ⟨hstart, -, v, hrest⟩ := hfits.split
  exact ⟨v, hasked, hnear, hrest, hstart⟩

namespace Hits

variable (h : how.Hits p rest u m v)
include h

theorem answer_eq : how.answer p rest = .ok (some m) := answer_eq_some_iff.2 ⟨h.asked, h.near⟩

theorem skipped_eq : m.skipped rest = u := by
  rw [h.eq_append, Found.skipped_append h.byteSize_eq]

/-- An answer that names a part of the rest counts. The rest can be held, so no sum wraps around. -/
theorem fitsIn (hheld : rest.Held) : m.FitsIn rest := by
  rw [h.eq_append] at hheld ⊢
  rw [← List.append_assoc] at hheld
  exact Found.fitsIn_append h.byteSize_eq v hheld.left

theorem outcome_eq (hheld : rest.Held) : how.outcome p rest = how.recorded u m := by
  rw [outcome_of_fitsIn h.answer_eq (h.fitsIn hheld), h.skipped_eq, recorded]

theorem reply_eq (hheld : rest.Held) :
    how.reply p rest = how.replyOk (how.recorded u m) (some u.length) := by
  rw [reply_of_fitsIn h.answer_eq (h.fitsIn hheld), h.skipped_eq, h.outcome_eq hheld]

/-- A match that counts is told. -/
theorem reply_isSome (hheld : rest.Held) : (how.reply p rest).isSome := by
  rw [h.reply_eq hheld]
  cases how <;> rfl

end Hits

section

variable (h : ∀ u m v, ¬ how.Hits p rest u m v)
include h

theorem outcome_of_not_hits : how.outcome p rest = .failure := by
  refine outcome_of_not_fitsIn fun m ha hfits => ?_
  obtain ⟨v, hhits⟩ := hits_of_fitsIn ha hfits
  exact h _ m v hhits

theorem passed_of_not_hits : how.passed p rest = [] := by
  rw [passed, outcome_of_not_hits h]
  cases how.passes <;> rfl

/-- Without a match that counts, the reply is that there is none, or the error of the pattern. -/
theorem reply_of_not_hits :
    ((how.reply p rest).isNone ∧ ∃ found, how.asked p rest = .ok found) ∨
      ∃ e, how.reply p rest = .failed e ∧ how.asked p rest = .error e := by
  rw [reply, outcome_of_not_hits h]
  cases hans : how.answer p rest with
  | error e => exact .inr ⟨e, rfl, answer_eq_error_iff.1 hans⟩
  | ok found =>
    refine .inl ⟨by cases how <;> rfl, ?_⟩
    cases hasked : how.asked p rest with
    | ok found => exact ⟨found, rfl⟩
    | error e => cases hans.symm.trans (answer_eq_error_iff.2 hasked)

end

/-- If a match is told, there is one that fits. -/
theorem exists_fitsIn_of_isSome (h : (how.reply p rest).isSome) :
    ∃ m, how.answer p rest = .ok (some m) ∧ m.FitsIn rest := by
  refine Classical.byContradiction fun hnone => ?_
  have houtcome : how.outcome p rest = .failure :=
    outcome_of_not_fitsIn fun m ha hfits => hnone ⟨m, ha, hfits⟩
  rw [reply, houtcome] at h
  cases hans : how.answer p rest with
  | error e =>
    rw [hans] at h
    cases h
  | ok found =>
    rw [hans] at h
    cases how <;> cases h

/-- A match is told exactly if there is one that counts. -/
theorem reply_isSome_iff (hheld : rest.Held) (p : Pattern) (how : Attempt) :
    (how.reply p rest).isSome ↔ ∃ u m v, how.Hits p rest u m v := by
  constructor
  · intro hsome
    obtain ⟨m, ha, hfits⟩ := exists_fitsIn_of_isSome hsome
    obtain ⟨v, hhits⟩ := hits_of_fitsIn ha hfits
    exact ⟨_, m, v, hhits⟩
  · rintro ⟨u, m, v, h⟩
    exact h.reply_isSome hheld

end Attempt

/-! ### Sessions -/

namespace Session

variable {s t : Session} {i : Nat} {sc : Scanner}

/-- If a scanner keeps its cursor, nothing changes but the outcome of those that share its slot. -/
theorem ActsOn.scanner?_outcome {o : Outcome} (h : s.ActsOn i { sc with outcome := o } t)
    (hsc : s.scanner? i = some sc) (k : Nat) :
    t.scanner? k = (s.scanner? k).map fun other =>
      if s.shares i k then { other with outcome := o } else other := by
  by_cases hk : k = i
  · subst hk
    obtain ⟨seat, hseat, -⟩ := scanner?_eq_some_iff.1 hsc
    have hshares : s.shares k k := shares_iff.2 ⟨seat.slot, by simp [slot?, hseat]⟩
    rw [h.self, hsc, Option.map_some, if_pos hshares]
  · exact h.others k hk

/-- **Which answers count.** Whatever a run has done and whatever the pattern answers, an attempt in
    a text that can be held tells a match exactly if the answer names a part of the rest. Then that
    part is recorded with the captures as they were told, or all from the cursor to its end; the
    reply is made from that, and from the number of characters before it. If not, the reply is that
    there is no match, or the error of the pattern. The scanners that share the slot have lost their
    match, and nothing else has changed, the cursor included. -/
theorem attempt_isSome_iff {cs : List Command} (hrun : empty.run cs = some s)
    (hsc : s.scanner? i = some sc) (hheld : sc.text.Held) (p : Pattern) (how : Attempt) :
    ∃ r t es, s.step (.act i (.attempt how p)) = some (r, t, es) ∧
      (r.isSome ↔ ∃ u m v, how.Hits p sc.rest u m v) ∧
      (∀ u m v, how.Hits p sc.rest u m v →
        r = how.replyOk (how.recorded u m) (some u.length) ∧
        ∀ k, s.shares i k → (t.scanner? k).map Scanner.outcome = some (how.recorded u m)) ∧
      (r.isSome = false →
        ((r.isNone ∧ ∃ found, how.asked p sc.rest = .ok found) ∨
          ∃ e, r = .failed e ∧ how.asked p sc.rest = .error e) ∧
        ∀ k, t.scanner? k = (s.scanner? k).map fun other =>
          if s.shares i k then { other with outcome := .failure } else other) := by
  have hs := run_sound empty_sound hrun
  have hrest : sc.rest.Held := by
    obtain ⟨seat, hseat, rfl⟩ := scanner?_eq_some_iff.1 hsc
    exact (hs.of_getElem? hseat).aligned.rest_held hheld
  obtain ⟨t, hstep, hacts⟩ := hs.step_act hsc (.attempt how p)
  rw [Scanner.act_attempt] at hstep hacts
  have hiff := Attempt.reply_isSome_iff hrest p how
  refine ⟨_, t, _, hstep, hiff, fun u m v hhits => ⟨hhits.reply_eq hrest, fun k hk => ?_⟩,
    fun hnone => ?_⟩
  · rw [← hhits.outcome_eq hrest]
    exact hacts.outcome_eq hk
  · have hnot : ∀ u m v, ¬ how.Hits p sc.rest u m v := by
      intro u m v hhits
      rw [hiff.2 ⟨u, m, v, hhits⟩] at hnone
      cases hnone
    rw [Attempt.passed_of_not_hits hnot, Attempt.outcome_of_not_hits hnot] at hacts
    exact ⟨Attempt.reply_of_not_hits hnot, hacts.scanner?_outcome hsc⟩

/-- A pattern that is right about the next character, and names the middle of one ahead. -/
def halfRight : Pattern :=
  .fixed (.ok (some ⟨0, "é".toList, [some "x".toList]⟩)) (.ok (some ⟨1, "日".toList, []⟩))

theorem attempt_isSome_iff_halfRight :
    ∃ s, empty.run [.new "aé日".toList, .act 0 .takeChar, .share 0] = some s ∧
      (∃ t es, s.step (.act 1 (.attempt .skip halfRight)) = some (.count (some 1), t, es) ∧
        (t.scanner? 0).map Scanner.outcome = some (.success "é".toList [some "x".toList])) ∧
      ∃ t es, s.step (.act 1 (.attempt .locate halfRight)) = some (.count none, t, es) ∧
        t.scanner? 0 = some ⟨.between "a".toList "é日".toList, .failure⟩ := by
  have hrun : empty.run [.new "aé日".toList, .act 0 .takeChar, .share 0] =
      some ((empty.run [.new "aé日".toList, .act 0 .takeChar, .share 0]).getD empty) := by decide
  have hsc (k : Nat) (hk : k < 2) :
      ((empty.run [.new "aé日".toList, .act 0 .takeChar, .share 0]).getD empty).scanner? k =
        some ⟨.between "a".toList "é日".toList, .success "a".toList []⟩ := by
    revert k
    decide
  have hshares : ((empty.run [.new "aé日".toList, .act 0 .takeChar, .share 0]).getD empty).shares 1 0
      = true := by decide
  have hlocate : (((empty.run [.new "aé日".toList, .act 0 .takeChar, .share 0]).getD empty).step
      (.act 1 (.attempt .locate halfRight))).map (·.1) = some (.count none) := by decide
  have hheld : Text.Held "aé日".toList := by decide
  generalize (empty.run [.new "aé日".toList, .act 0 .takeChar, .share 0]).getD empty = s at *
  refine ⟨s, hrun, ?_, ?_⟩
  · obtain ⟨r, t, es, hstep, -, hhits, -⟩ :=
      attempt_isSome_iff hrun (hsc 1 (by decide)) hheld halfRight .skip
    obtain ⟨rfl, hseen⟩ := hhits [] _ "日".toList ⟨rfl, .inr rfl, rfl, rfl⟩
    exact ⟨t, es, hstep, hseen 0 hshares⟩
  · obtain ⟨r, t, es, hstep, -, -, hnone⟩ :=
      attempt_isSome_iff hrun (hsc 1 (by decide)) hheld halfRight .locate
    obtain rfl : r = .count none := by rwa [hstep, Option.map_some, Option.some.injEq] at hlocate
    obtain ⟨-, hleft⟩ := hnone rfl
    refine ⟨t, es, hstep, ?_⟩
    rw [hleft 0, hsc 0 (by decide), Option.map_some, if_pos hshares]

end Session

end TextScan
