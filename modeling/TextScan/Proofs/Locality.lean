import TextScan.Proofs.Regex.Shape
import TextScan.Proofs.Session.Frame

namespace TextScan

/-!
# Attempts see the rest alone

Of all that a scanner has been through, an attempt sees what lies behind the cursor and nothing
else: neither the text before it, nor the position, nor the outcome that it replaces.

* `Action.Tries` says which operations try a pattern. By `Scanner.act_takeChar`, all of them are one
  of the eight ways.
* `Scanner.act_eq_of_tries` splits what such an operation does into what the rest determines and the
  place where the cursor was. `Event.shift` moves an event to that place.
* `Session.tries_eq_of_rest_eq` is the result for two scanners of any two sessions.
-/

/-- Whether the character belongs to words, by the database of this library or within ASCII. -/
def Regex.isWord (ascii : Bool) (c : Char) : Bool :=
  if ascii then c.isAlphanum || c = '_' else Unicode.wordChar.contains c

/-- The same event, `n` characters further on. -/
def Event.shift (n : Nat) : Event → Event
  | outcomeSet pos matched => outcomeSet (n + pos) matched
  | passed pos => passed (n + pos)
  | moved pos => moved (n + pos)

/-- The events of an attempt are those at the start of a text, moved to the position. -/
theorem Attempt.events_eq_shift (p : Pattern) (rest : Text) (pos : Nat) (how : Attempt) :
    how.events p rest pos = (how.events p rest 0).map (.shift pos) := by
  unfold events
  cases (how.outcome p rest).text with
  | none => rfl
  | some t =>
    cases how.passes
    · rfl
    · simp [Event.shift]

/-- Whether an operation tries a pattern. -/
def Action.Tries : Action → Prop
  | attempt _ _ | takeChar => True
  | moveTo _ | append _ | restart | finish => False

namespace Scanner

/-- Taking a character is an attempt with the pattern of all characters, which never fails. -/
theorem act_takeChar (s : Scanner) : s.act .takeChar = s.act (.attempt .take .anyChar) := by
  show ((s.take .anyChar).map (·.toOption.join)).map Result.text = (s.take .anyChar).map .ofText
  have hresult := s.take_result .anyChar
  have hanswer : Pattern.anyChar.atStart s.rest = .ok (s.rest.head?.map fun c => ⟨0, [c], []⟩) :=
    rfl
  rw [hanswer] at hresult
  simp only [Effect.map, hresult]
  rfl

/-- **What an attempt does**, told apart from where it does it. -/
theorem act_eq_of_tries {op : Action} (h : op.Tries) (rest : Text) :
    ∃ (result : Result) (outcome : Outcome) (passed : Text) (events : List Event),
      ∀ s : Scanner, s.rest = rest →
        s.act op = ⟨result, ⟨s.toCursor.pass passed, outcome⟩, events.map (.shift s.pos)⟩ := by
  obtain ⟨how, p, hop⟩ : ∃ how p, ∀ s : Scanner, s.act op = s.attempt p how := by
    cases op with
    | attempt how p => exact ⟨how, p, fun _ => rfl⟩
    | takeChar => exact ⟨.take, .anyChar, act_takeChar⟩
    | moveTo _ | append _ | restart | finish => exact h.elim
  refine ⟨how.reply p rest, how.outcome p rest, how.passed p rest, how.events p rest 0, ?_⟩
  rintro s rfl
  rw [hop, attempt_eq, ← Attempt.events_eq_shift]

/-- Patterns that test for the start of the text see the cursor as that, wherever it stands, and so
    does a pattern that tests for the edge of a word. -/
theorem look_start (s : Scanner) {p : Pattern} :
    ((p.IsRegex "^".toList ∨ p.IsRegex "\\A".toList) → (s.look p).result = .ok (some [])) ∧
      (p.IsRegex "\\b".toList → (s.look p).result =
        .ok (if s.rest.head?.any (Regex.isWord false) then some [] else none)) := by
  have hlook (test : Regex.Look) {source : Text} (h : p.IsRegex source)
      (hread : Regex.engine.read .initial source = .ok (.look test))
      (hsearch : SearchRegex.new? source = .ok ⟨.testing test⟩) :
      (s.look p).result = .ok (if test.holds none s.rest then some [] else none) := by
    have hpattern : p = (Regex.Program.testing test).toPattern :=
      (Regex.Engine.ofDatabase_leftmostFirst _).eq_toPattern h hread hsearch
    have hstart : p.atStart s.rest = .ok ((Regex.Program.testing test).foundAtStart? s.rest) :=
      hpattern ▸ rfl
    rw [look, judge_eq, hstart, Regex.Program.foundAtStart?_testing]
    cases test.holds none s.rest with
    | true =>
      show Except.ok (outcomeIn s.rest false ⟨0, [], []⟩).text = _
      have hfits : Found.FitsIn ⟨0, [], []⟩ s.rest :=
        Found.fitsIn_append (m := ⟨0, [], []⟩) (u := []) rfl s.rest (by decide)
      rw [outcomeIn_of_fitsIn hfits]
      rfl
    | false => rfl
  refine ⟨?_, fun h => ?_⟩
  · rintro (h | h) <;> exact hlook .textStart h rfl rfl
  · -- Nothing is before the cursor, so only the next character decides.
    have hword : Regex.isWord false = Unicode.wordChar.contains := rfl
    rw [hlook (.boundary Unicode.wordChar) h rfl rfl, hword]
    simp [Regex.Look.holds]

end Scanner

/-- **Attempts depend on the rest alone.** Let two scanners, each in any session that a run arrives
    at, have the same text behind their cursors. Whatever pattern is tried and in whichever way,
    both reply the same, both cursors move by as many characters and as many bytes, the outcomes are
    equal, and the events are the same up to where the cursors stood. So a test for the start of the
    text succeeds at any cursor, and one for the edge of a word depends on the next character only.
    -/
theorem Session.tries_eq_of_rest_eq {cs ds : List Command} {s t : Session}
    (hs : empty.run cs = some s) (ht : empty.run ds = some t) {i j : Nat} {a b : Scanner}
    (ha : s.scanner? i = some a) (hb : t.scanner? j = some b) (hrest : a.rest = b.rest) :
    (∀ op : Action, op.Tries → ∃ result, ∃ events : List Event, ∃ s' t' a' b' chars bytes,
      s.step (.act i op) = some (result, s', events.map (Event.shift a.pos)) ∧
      t.step (.act j op) = some (result, t', events.map (Event.shift b.pos)) ∧
      s'.scanner? i = some a' ∧ t'.scanner? j = some b' ∧ a'.outcome = b'.outcome ∧
      (a'.pos = a.pos + chars ∧ b'.pos = b.pos + chars) ∧
      (a'.byte = a.byte + bytes ∧ b'.byte = b.byte + bytes)) ∧
    ∀ p : Pattern,
      ((p.IsRegex "^".toList ∨ p.IsRegex "\\A".toList) → (a.look p).result = .ok (some [])) ∧
      (p.IsRegex "\\b".toList → (a.look p).result =
        .ok (if a.rest.head?.any (Regex.isWord false) then some [] else none)) := by
  refine ⟨?_, fun p => a.look_start⟩
  intro op hop
  obtain ⟨result, outcome, passed, events, hact⟩ := Scanner.act_eq_of_tries hop a.rest
  obtain ⟨s', hsstep, hs'⟩ := (run_sound empty_sound hs).step_act ha op
  obtain ⟨t', htstep, ht'⟩ := (run_sound empty_sound ht).step_act hb op
  -- Both scanners do the same, each from where it stands.
  rw [hact a rfl] at hsstep hs'
  rw [hact b hrest.symm] at htstep ht'
  exact ⟨result, events, s', t', _, _, passed.length, passed.byteSize, hsstep, htstep, hs'.self,
    ht'.self, rfl, ⟨rfl, rfl⟩, ⟨rfl, rfl⟩⟩

/-- A run that leaves a scanner behind a match, with an outcome. -/
def passedRun : List Command :=
  [.new "aé日x".toList, .act 0 (.attempt .takeThrough (.char 'é'))]

theorem Session.tries_eq_of_rest_eq_passedRun :
    ∃ s t a b, empty.run passedRun = some s ∧ empty.run [.new "日x".toList] = some t ∧
      s.scanner? 0 = some a ∧ t.scanner? 0 = some b ∧ a.rest = b.rest ∧ a.pos ≠ b.pos ∧
      a.outcome ≠ b.outcome ∧ (Action.attempt .skipThrough (.char 'x')).Tries ∧
      Pattern.IsRegex "^".toList (.source "^".toList) ∧
      (a.look (.source "^".toList)).result = .ok (some []) ∧
      ∃ r s' t' es fs, s.step (.act 0 (.attempt .skipThrough (.char 'x'))) = some (r, s', es) ∧
        t.step (.act 0 (.attempt .skipThrough (.char 'x'))) = some (r, t', fs) := by
  have hs : empty.run passedRun = some ((empty.run passedRun).getD empty) := by decide
  have ht : empty.run [.new "日x".toList] = some (empty.new "日x".toList) := by decide
  have ha : ((empty.run passedRun).getD empty).scanner? 0 =
      some ⟨.between "aé".toList "日x".toList, .success "aé".toList []⟩ := by decide
  have hb : (empty.new "日x".toList).scanner? 0 = some (.new "日x".toList) := by decide
  obtain ⟨htries, hstart⟩ := tries_eq_of_rest_eq hs ht ha hb (by decide)
  obtain ⟨r, events, s', t', -, -, -, -, hsstep, htstep, -⟩ :=
    htries (.attempt .skipThrough (.char 'x')) trivial
  exact ⟨_, _, _, _, hs, ht, ha, hb, by decide, by decide, by decide, trivial, .source,
    (hstart _).1 (.inl .source), r, s', t', _, _, hsstep, htstep⟩

end TextScan
