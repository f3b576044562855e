import TextScan.Proofs.Attempt
import TextScan.Session

namespace TextScan

/-!
# Runs of sessions

A run carries out one step after another, on any number of scanners. Every scanner of a session that
a run arrives at is aligned, whatever the patterns answered on the way.

* `Session.run` carries out a list of steps.
* `Session.step_cases` lists once what a step can do; proofs about steps take it apart and need not
  unfold the operations.
* `Session.Sound` is the invariant: each scanner is aligned and has a slot. `Session.run_sound`
  follows from `Session.step_sound`.
* `Session.run_aligned` reads off what the invariant means for one scanner.
-/

/-- A scanner is aligned, and its slot is one of the first `n`. -/
structure Seat.Sound (n : Nat) (seat : Seat) : Prop where
  aligned : seat.cursor.Aligned
  slot_lt : seat.slot < n

theorem Seat.Sound.mono {m n : Nat} {seat : Seat} (h : seat.Sound m) (hmn : m ≤ n) :
    seat.Sound n := ⟨h.aligned, Nat.lt_of_lt_of_le h.slot_lt hmn⟩

namespace Session

/-- Carries out steps. There is no answer if one of them has none. -/
def run (s : Session) : List Command → Option Session
  | [] => some s
  | c :: cs => (s.step c).bind fun (_, t, _) => t.run cs

theorem fork_eq (s : Session) (i : Nat) :
    s.fork i = s.seats[i]?.map fun seat =>
      ⟨s.seats ++ [{ seat with slot := s.slots.length }], s.slots ++ [s.outcomeIn seat.slot]⟩ := by
  unfold fork share
  cases s.seats[i]? with
  | none => rfl
  | some seat =>
    simp only [Option.map_some, Option.bind_some, detach, List.getElem?_concat_length, outcomeIn,
      List.set_append_right _ _ (Nat.le_refl _), Nat.sub_self, List.set_cons_zero]

/-- **The steps of a session.** A step adds a scanner with a slot of its own, lets one scanner act,
    adds a copy that shares a slot, adds one that does not, or gives a scanner a slot of its own. -/
theorem step_cases {s t : Session} {c : Command} {r : Result} {es : List Event}
    (h : s.step c = some (r, t, es)) :
    (∃ text, c = .new text ∧ t = s.new text) ∨
    (∃ i a seat, c = .act i a ∧ s.seats[i]? = some seat ∧
      r = ((s.scannerAt seat).act a).result ∧ es = ((s.scannerAt seat).act a).events ∧
      t = ⟨s.seats.set i { seat with cursor := ((s.scannerAt seat).act a).scanner.toCursor },
        s.slots.set seat.slot ((s.scannerAt seat).act a).scanner.outcome⟩) ∨
    (∃ i seat, c = .share i ∧ s.seats[i]? = some seat ∧ t = ⟨s.seats ++ [seat], s.slots⟩) ∨
    (∃ i seat, c = .fork i ∧ s.seats[i]? = some seat ∧
      t = ⟨s.seats ++ [{ seat with slot := s.slots.length }],
        s.slots ++ [s.outcomeIn seat.slot]⟩) ∨
    (∃ i seat, c = .detach i ∧ s.seats[i]? = some seat ∧
      t = ⟨s.seats.set i { seat with slot := s.slots.length },
        s.slots ++ [s.outcomeIn seat.slot]⟩) := by
  cases c with
  | new text =>
    simp only [step, Option.some.injEq, Prod.mk.injEq] at h
    exact .inl ⟨text, rfl, h.2.1.symm⟩
  | act i a =>
    simp only [step, act, Option.map_eq_some_iff, Prod.mk.injEq] at h
    obtain ⟨seat, hseat, hr, ht, he⟩ := h
    exact .inr (.inl ⟨i, a, seat, rfl, hseat, hr.symm, he.symm, ht.symm⟩)
  | share i =>
    simp only [step, share, Option.map_map, Option.map_eq_some_iff, Function.comp_apply,
      Prod.mk.injEq] at h
    obtain ⟨seat, hseat, -, ht, -⟩ := h
    exact .inr (.inr (.inl ⟨i, seat, rfl, hseat, ht.symm⟩))
  | fork i =>
    simp only [step, fork_eq, Option.map_map, Option.map_eq_some_iff, Function.comp_apply,
      Prod.mk.injEq] at h
    obtain ⟨seat, hseat, -, ht, -⟩ := h
    exact .inr (.inr (.inr (.inl ⟨i, seat, rfl, hseat, ht.symm⟩)))
  | detach i =>
    simp only [step, detach, Option.map_map, Option.map_eq_some_iff, Function.comp_apply,
      Prod.mk.injEq] at h
    obtain ⟨seat, hseat, -, ht, -⟩ := h
    exact .inr (.inr (.inr (.inr ⟨i, seat, rfl, hseat, ht.symm⟩)))

/-! ### The invariant -/

/-- Every scanner is aligned and has a slot. -/
def Sound (s : Session) : Prop := ∀ seat ∈ s.seats, seat.Sound s.slots.length

theorem empty_sound : empty.Sound := fun _ h => absurd h List.not_mem_nil

namespace Sound

variable {s : Session}

theorem of_getElem? (h : s.Sound) {i : Nat} {seat : Seat} (hi : s.seats[i]? = some seat) :
    seat.Sound s.slots.length := h seat (List.mem_of_getElem? hi)

/-- The invariant survives a new scanner that satisfies it, and new slots. -/
theorem append (h : s.Sound) {seat : Seat} {slots : List Outcome}
    (hlen : s.slots.length ≤ slots.length) (hseat : seat.Sound slots.length) :
    Sound ⟨s.seats ++ [seat], slots⟩ := by
  intro b hb
  rcases List.mem_append.1 hb with hb | hb
  · exact (h b hb).mono hlen
  · rw [List.mem_singleton.1 hb]
    exact hseat

/-- The invariant survives a change of one scanner to one that satisfies it, and new slots. -/
theorem set (h : s.Sound) (i : Nat) {seat : Seat} {slots : List Outcome}
    (hlen : s.slots.length ≤ slots.length) (hseat : seat.Sound slots.length) :
    Sound ⟨s.seats.set i seat, slots⟩ := by
  intro b hb
  rcases List.mem_or_eq_of_mem_set hb with hb | rfl
  · exact (h b hb).mono hlen
  · exact hseat

end Sound

/-- Every step keeps the invariant. -/
theorem step_sound {s t : Session} {c : Command} {r : Result} {es : List Event} (hs : s.Sound)
    (h : s.step c = some (r, t, es)) : t.Sound := by
  have hgrow (o : Outcome) : s.slots.length < (s.slots ++ [o]).length := by simp
  obtain ⟨text, -, rfl⟩ | ⟨i, a, seat, -, hi, -, -, rfl⟩ | ⟨i, seat, -, hi, rfl⟩ |
    ⟨i, seat, -, hi, rfl⟩ | ⟨i, seat, -, hi, rfl⟩ := step_cases h
  · -- A new scanner stands at the start of its text.
    have hnew : (Cursor.new text).Aligned := Cursor.aligned_between [] text
    exact hs.append (Nat.le_of_lt (hgrow _)) ⟨hnew, hgrow _⟩
  · -- One scanner moves. The slots are as many as before.
    have hseat := hs.of_getElem? hi
    have hact := Scanner.act_aligned (s := s.scannerAt seat) hseat.aligned a
    have hlen : (s.slots.set seat.slot ((s.scannerAt seat).act a).scanner.outcome).length =
        s.slots.length := List.length_set
    exact hs.set i (Nat.le_of_eq hlen.symm) ⟨hact, hlen ▸ hseat.slot_lt⟩
  · -- Copies stand where their original stands.
    exact hs.append (Nat.le_refl _) (hs.of_getElem? hi)
  · exact hs.append (Nat.le_of_lt (hgrow _)) ⟨(hs.of_getElem? hi).aligned, hgrow _⟩
  · -- A scanner that is detached stays where it is.
    exact hs.set i (Nat.le_of_lt (hgrow _)) ⟨(hs.of_getElem? hi).aligned, hgrow _⟩

/-- Every run keeps the invariant. -/
theorem run_sound {s t : Session} {cs : List Command} (hs : s.Sound) (h : s.run cs = some t) :
    t.Sound := by
  induction cs generalizing s with
  | nil =>
    rw [run, Option.some.injEq] at h
    exact h ▸ hs
  | cons c cs ih =>
    -- A run that has an answer has one for its first step.
    obtain ⟨⟨r, t', es⟩, hstep, hrun⟩ := Option.bind_eq_some_iff.1 h
    exact ih (step_sound hs hstep) hrun

theorem Sound.scanner_aligned {s : Session} (hs : s.Sound) {sc : Scanner} (h : sc ∈ s.scanners) :
    sc.toCursor.Aligned := by
  obtain ⟨seat, hseat, rfl⟩ := List.mem_map.1 h
  exact (hs seat hseat).aligned

/-- Scanners that share a slot see the same outcome. -/
theorem outcome_eq_of_shares {s : Session} {i j : Nat} {a b : Scanner} (h : s.shares i j)
    (ha : s.scanner? i = some a) (hb : s.scanner? j = some b) : a.outcome = b.outcome := by
  obtain ⟨seat, hi, rfl⟩ := Option.map_eq_some_iff.1 ha
  obtain ⟨seat', hj, rfl⟩ := Option.map_eq_some_iff.1 hb
  -- The outcome is read from the slot, and the slots are one.
  simp only [shares, hi, hj, decide_eq_true_eq] at h
  simp only [scannerAt, h]

/-! ### What a run arrives at -/

/-- **The counts of a scanner.** However a run went, every scanner that it arrives at stands at the
    end of a character of its text, its position counts the characters before it, and its length
    is that of its text. So no cut is ever refused: neither before the rest, nor behind what is
    consumed, nor behind the next characters. What a pattern is said to match, and is then passed,
    begins the rest. -/
theorem run_aligned {cs : List Command} {s : Session} (h : empty.run cs = some s) {sc : Scanner}
    (hsc : sc ∈ s.scanners) :
    (sc.text.takeBytes? sc.byte = some sc.consumed ∧ sc.byte ≤ sc.text.byteSize) ∧
    sc.pos = sc.consumed.length ∧ sc.charLen = sc.text.length ∧ sc.pos ≤ sc.charLen ∧
    sc.text.dropBytes? sc.byte = some sc.rest ∧
    (∀ n, sc.rest.takeBytes? (sc.peek n).byteSize = some (sc.peek n)) ∧
    ∀ (p : Pattern), ∀ e ∈ [sc.look p, sc.lookThrough p], ∀ m, e.result = .ok (some m) →
      m <+: e.scanner.rest := by
  have hal : sc.toCursor.Aligned := (run_sound empty_sound h).scanner_aligned hsc
  refine ⟨⟨hal.boundary, hal.byte_le⟩, hal.pos_eq, hal.charLen_eq, hal.pos_le,
    hal.dropBytes?_eq_rest, sc.takeBytes?_eq_peek, ?_⟩
  intro p e he m hm
  simp only [List.mem_cons, List.not_mem_nil, or_false] at he
  exact Scanner.look_isPrefix he hm

/-- A run in which no pattern keeps to the text: one names the middle of a character, one a text
    that is not there, one an end that is too large for 64 bits. -/
def hostileRun : List Command :=
  let bad (start : Nat) (text : String) : Answer := .ok (some ⟨start, text.toList, [some ['x']]⟩)
  [.new "é日x".toList, .act 0 (.attempt .take (.char 'é')),
    .act 0 (.attempt .takeThrough (.fixed (bad 0 "é") (bad 1 "日"))), .share 0,
    .act 1 (.attempt .locate (.fixed (bad 0 "") (bad (Nat.pow 2 64 - 1) "x"))), .act 1 .finish,
    .act 1 (.append "ß".toList), .fork 1, .detach 0, .act 0 .takeChar, .act 2 (.moveTo (-1))]

theorem run_aligned_hostileRun :
    ∃ s, empty.run hostileRun = some s ∧ s.scanners.map (·.pos) = [2, 3, 0] ∧
      ∀ sc ∈ s.scanners, sc.pos = sc.consumed.length ∧ sc.pos ≤ sc.charLen := by
  have hrun : empty.run hostileRun = some ((empty.run hostileRun).getD empty) := by decide
  refine ⟨_, hrun, by decide, ?_⟩
  intro sc hsc
  obtain ⟨-, hpos, -, hle, -⟩ := run_aligned hrun hsc
  exact ⟨hpos, hle⟩

end Session

end TextScan
