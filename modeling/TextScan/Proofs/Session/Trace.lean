import TextScan.Proofs.Locality

namespace TextScan

/-!
# What the events tell

Whoever hears nothing of a scanner but its events knows at every moment where its cursor is and what
it matched last.

* `Account` is what one knows of a scanner, `Account.hear` takes in an event.
* `Session.traced` is a run together with its events.
* `Event.PassedBehindMatch` says that a cursor passes only what has just been matched.
* `Scanner.act_account` is the step, `Session.traced_account` the result for runs.
-/

/-! ### Hearing of events -/

/-- What one knows of a scanner: its position and the text of its last match. -/
structure Account where
  pos : Nat
  matched : Option Text
  deriving DecidableEq, Repr

namespace Account

/-- What is known of a new scanner. -/
def initial : Account := ⟨0, none⟩

/-- Takes in an event. All of them bring a position, and some of them a match or that there is
    none. -/
def hear (known : Account) (e : Event) : Account :=
  ⟨e.pos, match e with
    | .outcomeSet _ matched => matched
    | .passed _ | .moved _ => known.matched⟩

end Account

/-- What there is to know of a scanner. -/
def Scanner.account (s : Scanner) : Account := ⟨s.pos, s.outcome.text⟩

namespace Event

/-- Whether the event brings a new outcome. -/
def isOutcome : Event → Bool
  | outcomeSet _ _ => true
  | passed _ | moved _ => false

/-- Among the events, a cursor passes a text only right behind the event that brings this text as a
    match, and it ends as many characters further on. -/
def PassedBehindMatch (es : List Event) : Prop :=
  ∀ before pos after, es = before ++ .passed pos :: after →
    ∃ earlier start matched, before = earlier ++ [.outcomeSet start (some matched)] ∧
      pos = start + matched.length

theorem passedBehindMatch_of_forall {es : List Event} (h : ∀ pos, .passed pos ∉ es) :
    PassedBehindMatch es := by
  rintro before pos after rfl
  exact absurd (List.mem_append_right before List.mem_cons_self) (h pos)

theorem passedBehindMatch_pair (start : Nat) (matched : Text) :
    PassedBehindMatch [.outcomeSet start (some matched), .passed (start + matched.length)] := by
  intro before pos after h
  -- The event that passes is the second of the two.
  match before with
  | [] => cases h
  | [e] =>
    simp only [List.cons_append, List.nil_append, List.cons.injEq, passed.injEq] at h
    obtain ⟨rfl, rfl, -⟩ := h
    exact ⟨[], start, matched, rfl, rfl⟩
  | _ :: _ :: before => simp at h

theorem PassedBehindMatch.append {es fs : List Event} (hes : PassedBehindMatch es)
    (hfs : PassedBehindMatch fs) : PassedBehindMatch (es ++ fs) := by
  intro before pos after h
  obtain ⟨rest, rfl, hrest⟩ | ⟨rest, rfl, hrest⟩ := List.append_eq_append_iff.1 h
  · obtain ⟨earlier, start, matched, rfl, hpos⟩ := hfs rest pos after hrest
    exact ⟨es ++ earlier, start, matched, (List.append_assoc ..).symm, hpos⟩
  · cases rest with
    | nil =>
      rw [List.append_nil] at *
      obtain ⟨earlier, start, matched, hnil, -⟩ := hfs [] pos after hrest.symm
      simp at hnil
    | cons e rest =>
      obtain ⟨rfl, -⟩ := List.cons.inj hrest
      exact hes before pos rest rfl

end Event

/-! ### The events of an operation -/

/-- Whether an operation passes what it matches. -/
def Action.passes : Action → Bool
  | attempt how _ => how.passes
  | takeChar => true
  | moveTo _ | append _ | restart | finish => false

/-- Whether the result tells of a match. -/
def Result.isMatch : Result → Bool
  | text t => t.isSome
  | count n => n.isSome
  | failed _ | position _ | done => false

namespace Attempt

/-- The reply of an attempt that passes tells of a match exactly if there is one. -/
theorem isMatch_reply {how : Attempt} (h : how.passes = true) (p : Pattern) (rest : Text) :
    (how.reply p rest).isMatch = (how.outcome p rest).text.isSome := by
  unfold reply outcome
  cases how.answer p rest with
  | error e => rfl
  | ok found =>
    cases how with
    | take | takeThrough => rfl
    | skip | skipThrough => exact Option.isSome_map
    | look | lookThrough | locate | measure => cases h

/-- An attempt brings one outcome, with the position before the cursor moves. -/
theorem filter_isOutcome_events (how : Attempt) (p : Pattern) (rest : Text) (pos : Nat) :
    (how.events p rest pos).filter Event.isOutcome =
      [.outcomeSet pos (how.outcome p rest).text] := by
  unfold events
  cases (how.outcome p rest).text with
  | none => rfl
  | some t => cases how.passes <;> rfl

theorem mem_events_passed_iff {how : Attempt} {p : Pattern} {rest : Text} {pos : Nat} :
    (∃ q, .passed q ∈ how.events p rest pos) ↔
      how.passes = true ∧ (how.outcome p rest).text.isSome := by
  unfold events
  cases (how.outcome p rest).text with
  | none => simp
  | some t => cases how.passes <;> simp

theorem passedBehindMatch_events (how : Attempt) (p : Pattern) (rest : Text) (pos : Nat) :
    Event.PassedBehindMatch (how.events p rest pos) := by
  cases htext : (how.outcome p rest).text with
  | none =>
    refine Event.passedBehindMatch_of_forall fun q hq => ?_
    have hsome := (mem_events_passed_iff.1 ⟨q, hq⟩).2
    rw [htext] at hsome
    cases hsome
  | some t =>
    cases hpasses : how.passes with
    | false =>
      refine Event.passedBehindMatch_of_forall fun q hq => ?_
      have htrue := (mem_events_passed_iff.1 ⟨q, hq⟩).1
      rw [hpasses] at htrue
      cases htrue
    | true =>
      simp only [events, htext, hpasses, if_true]
      exact Event.passedBehindMatch_pair pos t

end Attempt

namespace Scanner

/-- Every operation that tries a pattern is one of the eight ways. -/
theorem exists_attempt_of_tries {a : Action} (h : a.Tries) :
    ∃ how p, a.passes = how.passes ∧ ∀ s : Scanner, s.act a = s.attempt p how := by
  cases a with
  | attempt how p => exact ⟨how, p, rfl, fun _ => rfl⟩
  | takeChar => exact ⟨.take, .anyChar, rfl, act_takeChar⟩
  | moveTo | append | restart | finish => exact h.elim

/-- **The events of an operation** tell what it has changed. -/
theorem act_account (s : Scanner) (a : Action) :
    (s.act a).events.foldl Account.hear s.account = (s.act a).scanner.account := by
  by_cases htries : a.Tries
  · obtain ⟨how, p, -, hact⟩ := exists_attempt_of_tries htries
    rw [hact, attempt_eq]
    unfold Attempt.events Attempt.passed account
    cases (how.outcome p s.rest).text with
    | none => cases how.passes <;> rfl
    | some t => cases how.passes <;> rfl
  · cases a with
    | attempt | takeChar => exact absurd trivial htries
    | moveTo | append | restart | finish => rfl

/-- What the events of an operation look like. -/
theorem act_events (s : Scanner) (a : Action) :
    (a.Tries → ∃ matched, (s.act a).events.filter Event.isOutcome = [.outcomeSet s.pos matched]) ∧
    ((∃ pos, .passed pos ∈ (s.act a).events) ↔
      a.passes = true ∧ (s.act a).result.isMatch = true) ∧
    Event.PassedBehindMatch (s.act a).events := by
  by_cases htries : a.Tries
  · obtain ⟨how, p, hpasses, hact⟩ := exists_attempt_of_tries htries
    rw [hact, attempt_eq, hpasses]
    refine ⟨fun _ => ⟨_, how.filter_isOutcome_events p s.rest s.pos⟩, ?_,
      how.passedBehindMatch_events p s.rest s.pos⟩
    rw [Attempt.mem_events_passed_iff]
    exact and_congr_right fun h => by rw [Attempt.isMatch_reply h]
  · have hnone : ∀ pos, Event.passed pos ∉ (s.act a).events := by
      intro pos hpos
      cases a with
      | attempt | takeChar => exact htries trivial
      | append => cases hpos
      | moveTo | restart | finish =>
        cases List.mem_singleton.1 hpos
    have hpasses : a.passes = false := by
      cases a with
      | attempt | takeChar => exact absurd trivial htries
      | moveTo | append | restart | finish => rfl
    refine ⟨fun h => absurd h htries, ?_, Event.passedBehindMatch_of_forall hnone⟩
    rw [hpasses]
    exact iff_of_false (fun ⟨pos, hpos⟩ => hnone pos hpos) (fun h => by cases h.1)

end Scanner

/-! ### Runs -/

namespace Session

variable {s t : Session} {cs : List Command}

/-- Carries out steps and collects their events. There is no answer if one of them has none. -/
def traced (s : Session) : List Command → Option (Session × List Event)
  | [] => some (s, [])
  | c :: cs => (s.step c).bind fun (_, t, es) => (t.traced cs).map fun (u, fs) => (u, es ++ fs)

/-- Collecting events changes nothing in a run. -/
theorem traced_map_fst (s : Session) (cs : List Command) :
    (s.traced cs).map Prod.fst = s.run cs := by
  induction cs generalizing s with
  | nil => rfl
  | cons c cs ih =>
    rw [traced, run, Option.map_bind]
    congr 1
    funext step
    obtain ⟨r, t, es⟩ := step
    show ((t.traced cs).map fun (u, fs) => (u, es ++ fs)).map Prod.fst = t.run cs
    rw [Option.map_map, ← ih]
    rfl

/-- Steps other than operations leave no events. -/
theorem step_events {c : Command} {r : Result} {es : List Event} (h : s.step c = some (r, t, es))
    (hc : ∀ i a, c ≠ .act i a) : es = [] := by
  cases c with
  | act i a => exact absurd rfl (hc i a)
  | new text =>
    simp only [step, Option.some.injEq, Prod.mk.injEq] at h
    exact h.2.2.symm
  | share | fork | detach =>
    simp only [step, Option.map_eq_some_iff, Prod.mk.injEq] at h
    obtain ⟨-, -, -, -, hes⟩ := h
    exact hes.symm

/-- Between two sessions, what is known of scanner number `i` grows by the events. -/
theorem Sound.step_account (hs : s.Sound) {i : Nat} {sc : Scanner} (hi : s.scanner? i = some sc)
    {c : Command} {r : Result} {es : List Event} (h : s.step c = some (r, t, es))
    (honly : ∀ j a, c = .act j a → j = i) :
    ∃ sc', t.scanner? i = some sc' ∧ es.foldl Account.hear sc.account = sc'.account ∧
      Event.PassedBehindMatch es := by
  by_cases hact : ∃ j a, c = .act j a
  · obtain ⟨j, a, rfl⟩ := hact
    obtain rfl := honly j a rfl
    obtain ⟨t', hstep, hacts⟩ := hs.step_act hi a
    obtain ⟨-, rfl, rfl⟩ : _ = r ∧ t' = t ∧ _ = es := by simpa using hstep.symm.trans h
    exact ⟨_, hacts.self, sc.act_account a, (sc.act_events a).2.2⟩
  · have hne : ∀ j a, c ≠ .act j a := fun j a hc => hact ⟨j, a, hc⟩
    rw [step_events h hne]
    refine ⟨sc, ?_, rfl, Event.passedBehindMatch_of_forall fun _ => List.not_mem_nil⟩
    rw [hs.step_scanner? h hne (lt_of_scanner? hi), hi]

/-- What is known of a scanner before a run grows by the events of the run, if no other scanner is
    operated on. -/
theorem Sound.traced_hear (hs : s.Sound) {i : Nat} {sc : Scanner} (hi : s.scanner? i = some sc)
    {es : List Event} (h : s.traced cs = some (t, es)) (honly : ∀ j a, .act j a ∈ cs → j = i) :
    t.Sound ∧ ∃ sc', t.scanner? i = some sc' ∧
      es.foldl Account.hear sc.account = sc'.account ∧ Event.PassedBehindMatch es := by
  induction cs generalizing s sc es with
  | nil =>
    simp only [traced, Option.some.injEq, Prod.mk.injEq] at h
    obtain ⟨rfl, rfl⟩ := h
    exact ⟨hs, sc, hi, rfl, Event.passedBehindMatch_of_forall fun _ => List.not_mem_nil⟩
  | cons c cs ih =>
    obtain ⟨⟨r, u, fs⟩, hstep, hrest⟩ := Option.bind_eq_some_iff.1 h
    obtain ⟨⟨v, gs⟩, htraced, heq⟩ := Option.map_eq_some_iff.1 hrest
    simp only [Prod.mk.injEq] at heq
    obtain ⟨rfl, rfl⟩ := heq
    obtain ⟨sc₁, hi₁, haccount₁, hpassed₁⟩ := hs.step_account hi hstep
      fun j a hc => honly j a (hc ▸ List.mem_cons_self)
    obtain ⟨hv, sc₂, hi₂, haccount₂, hpassed₂⟩ := ih (step_sound hs hstep) hi₁ htraced
      fun j a hc => honly j a (List.mem_cons_of_mem _ hc)
    refine ⟨hv, sc₂, hi₂, ?_, hpassed₁.append hpassed₂⟩
    rw [List.foldl_append, haccount₁, haccount₂]

/-- **The events determine the state.** Let a scanner start at the beginning of a text, and let a
    run operate on no other one, though it may add scanners and copies, and detach them. Whoever
    knows the events so far, and that there is no match in the beginning, knows the position and
    the matched text. In all these events a cursor passes only what has been matched right before.
    Whatever is done next, an attempt brings one outcome, with the position before the cursor
    moves; the cursor passes something exactly if the operation passes its match and replies that
    there is one; and steps that are no operations leave no events. -/
theorem traced_account {text : Text} {es : List Event}
    (h : (empty.new text).traced cs = some (t, es)) (honly : ∀ j a, .act j a ∈ cs → j = 0) :
    (empty.new text).run cs = some t ∧ ∃ sc, t.scanner? 0 = some sc ∧
      es.foldl Account.hear .initial = ⟨sc.pos, sc.outcome.text⟩ ∧
      Event.PassedBehindMatch es ∧
      (∀ a : Action, ∃ r u fs, t.step (.act 0 a) = some (r, u, fs) ∧
        (a.Tries → ∃ matched, fs.filter Event.isOutcome = [.outcomeSet sc.pos matched]) ∧
        ((∃ pos, .passed pos ∈ fs) ↔ a.passes = true ∧ r.isMatch = true)) ∧
      ∀ c r u fs, (∀ i a, c ≠ .act i a) → t.step c = some (r, u, fs) → fs = [] := by
  have hsound : (empty.new text).Sound := step_sound (c := .new text) empty_sound rfl
  have hfirst : (empty.new text).scanner? 0 = some (.new text) := rfl
  obtain ⟨ht, sc, hsc, haccount, hpassed⟩ := hsound.traced_hear hfirst h honly
  have hrun : (empty.new text).run cs = some t := by rw [← traced_map_fst, h, Option.map_some]
  refine ⟨hrun, sc, hsc, haccount, hpassed, ?_, fun c r u fs hc hstep => step_events hstep hc⟩
  intro a
  obtain ⟨u, hstep, -⟩ := ht.step_act hsc a
  exact ⟨_, u, _, hstep, (sc.act_events a).1, (sc.act_events a).2.1⟩

/-- A run with a match of no characters, one that does not fit, an error, and copies that are left
    alone. -/
def watchedRun : List Command :=
  [.act 0 (.attempt .takeThrough (.char 'é')), .share 0, .act 0 (.attempt .skip (.literal [])),
    .act 0 (.append "日b".toList), .fork 1,
    .act 0 (.attempt .locate (.fixed (.ok none) (.ok (some ⟨1, "x".toList, [none]⟩)))),
    .act 0 .takeChar, .detach 0,
    .act 0 (.attempt .look (.fixed (.error (.malformed [])) (.ok none))), .act 0 (.moveTo 1),
    .act 0 .finish, .act 0 (.attempt .takeThrough (.char 'b')), .act 0 .restart,
    .act 0 (.attempt .measure (.char 'a'))]

theorem traced_account_watchedRun :
    ∃ t es sc, (empty.new "aé".toList).traced watchedRun = some (t, es) ∧
      (∀ j a, Command.act j a ∈ watchedRun → j = 0) ∧ t.scanner? 0 = some sc ∧
      es.length = 13 ∧ sc.outcome.text = some ['a'] ∧
      es.foldl Account.hear .initial = ⟨sc.pos, sc.outcome.text⟩ ∧ Event.PassedBehindMatch es := by
  have hrun : (empty.new "aé".toList).traced watchedRun =
      some (((empty.new "aé".toList).traced watchedRun).getD (empty, [])) := by decide
  have honly : ∀ j a, Command.act j a ∈ watchedRun → j = 0 := by
    intro j a h
    simp only [watchedRun, List.mem_cons, Command.act.injEq, reduceCtorEq, List.not_mem_nil,
      or_false, false_or] at h
    omega
  obtain ⟨-, sc, hsc, haccount, hpassed, -⟩ := traced_account hrun honly
  have htext : (((empty.new "aé".toList).traced watchedRun).getD (empty, [])).1.scanner? 0 =
      some ⟨.between [] "aé日b".toList, .success ['a'] []⟩ := by decide
  have hsc' := Option.some.inj (hsc.symm.trans htext)
  exact ⟨_, _, sc, hrun, honly, hsc, by decide, by rw [hsc']; rfl, haccount, hpassed⟩

end Session

end TextScan
