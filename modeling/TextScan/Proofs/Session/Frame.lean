import TextScan.Proofs.Session

namespace TextScan

/-!
# What a step leaves alone

A step changes at most one cursor, and an outcome only where it is shared. All that later proofs use
of the seats and slots of a session is said here once.

* `Session.slot?` is the slot of a scanner. By `Session.shares_iff`, scanners share if it is one.
* `Session.ActsOn` says what an operation of one scanner does to all of them. By
  `Session.Sound.step_act`, an operation of a scanner that exists has an answer and does that.
* `Session.Sound.step_scanner?` says that the other steps leave the scanners that exist as they are,
  `Session.step_newcomer` what scanner they add.
-/

/-- The scanner that a step adds to a session. -/
def Command.newcomer? (s : Session) : Command → Option Scanner
  | .new text => some (.new text)
  | .share i | .fork i => s.scanner? i
  | .act _ _ | .detach _ => none

namespace Session

variable {s t : Session} {c : Command} {r : Result} {es : List Event} {i j k : Nat}

/-! ### Seats and slots -/

/-- The slot of scanner number `i`. -/
def slot? (s : Session) (i : Nat) : Option Nat := s.seats[i]?.map Seat.slot

theorem scanner?_eq_some_iff {sc : Scanner} :
    s.scanner? i = some sc ↔ ∃ seat, s.seats[i]? = some seat ∧ s.scannerAt seat = sc :=
  Option.map_eq_some_iff

theorem scanner?_eq_none (h : s.seats.length ≤ i) : s.scanner? i = none := by
  rw [scanner?, List.getElem?_eq_none h, Option.map_none]

theorem lt_of_scanner? {sc : Scanner} (h : s.scanner? i = some sc) : i < s.seats.length := by
  obtain ⟨seat, hseat, -⟩ := scanner?_eq_some_iff.1 h
  exact (List.getElem?_eq_some_iff.1 hseat).1

theorem exists_scanner? (h : i < s.seats.length) : ∃ sc, s.scanner? i = some sc :=
  ⟨_, scanner?_eq_some_iff.2 ⟨_, List.getElem?_eq_getElem h, rfl⟩⟩

/-- Scanners share if their slots are one. -/
theorem shares_iff : s.shares i j ↔ ∃ n, s.slot? i = some n ∧ s.slot? j = some n := by
  unfold shares slot?
  cases s.seats[i]? with
  | none => simp
  | some a =>
    cases s.seats[j]? with
    | none => simp
    | some b => simp [eq_comm]

theorem shares_comm (s : Session) (i j : Nat) : s.shares i j = s.shares j i := by
  rw [Bool.eq_iff_iff, shares_iff, shares_iff]
  simp only [and_comm]

/-- New slots at the end change nothing in the slots before. -/
theorem scannerAt_append {seat : Seat} (h : seat.slot < s.slots.length) (seats : List Seat)
    (o : Outcome) : (⟨seats, s.slots ++ [o]⟩ : Session).scannerAt seat = s.scannerAt seat := by
  simp only [scannerAt, outcomeIn, List.getD_eq_getElem?_getD, List.getElem?_append_left h]

/-! ### Operations -/

/-- Between two sessions, scanner number `i` has become `sc`. Those that share its slot see the new
    outcome, and nothing else has changed. -/
structure ActsOn (s : Session) (i : Nat) (sc : Scanner) (t : Session) : Prop where
  self : t.scanner? i = some sc
  others : ∀ k, k ≠ i → t.scanner? k = (s.scanner? k).map fun other =>
    if s.shares i k then { other with outcome := sc.outcome } else other
  slot?_eq : ∀ k, t.slot? k = s.slot? k

/-- **Operations.** One that a scanner can be asked for has an answer, that of the scanner, and acts
    on that scanner. -/
theorem Sound.step_act (hs : s.Sound) {sc : Scanner} (hi : s.scanner? i = some sc) (a : Action) :
    ∃ t, s.step (.act i a) = some ((sc.act a).result, t, (sc.act a).events) ∧
      s.ActsOn i (sc.act a).scanner t := by
  obtain ⟨seat, hseat, rfl⟩ := scanner?_eq_some_iff.1 hi
  have hlt := (List.getElem?_eq_some_iff.1 hseat).1
  have hslot := (hs.of_getElem? hseat).slot_lt
  refine ⟨_, by rw [step, act, hseat, Option.map_some], ?_, ?_, ?_⟩
  · -- What is written to the slot is read back, since the slot exists.
    simp [scanner?, scannerAt, outcomeIn, List.getElem?_set_self hlt, hslot]
  · intro k hk
    have hget : (s.seats.set i { seat with
        cursor := ((s.scannerAt seat).act a).scanner.toCursor })[k]? = s.seats[k]? :=
      List.getElem?_set_ne (Ne.symm hk)
    rw [scanner?, scanner?, hget]
    cases hother : s.seats[k]? with
    | none => rfl
    | some other =>
      have hshares : s.shares i k = decide (seat.slot = other.slot) := by
        simp only [shares, hseat, hother]
      simp only [Option.map_some, scannerAt, outcomeIn, hshares, decide_eq_true_eq,
        List.getD_eq_getElem?_getD, Option.some.injEq]
      by_cases heq : seat.slot = other.slot
      · rw [if_pos heq, ← heq, List.getElem?_set_self hslot, Option.getD_some]
      · rw [if_neg heq, List.getElem?_set_ne heq]
  · intro k
    by_cases hk : k = i
    · subst hk
      simp [slot?, List.getElem?_set_self hlt, hseat]
    · rw [slot?, slot?, List.getElem?_set_ne (Ne.symm hk)]

namespace ActsOn

variable {sc : Scanner}

theorem shares_eq (h : s.ActsOn i sc t) (j k : Nat) : t.shares j k = s.shares j k := by
  rw [Bool.eq_iff_iff, shares_iff, shares_iff, h.slot?_eq, h.slot?_eq]

/-- No cursor of another scanner moves. -/
theorem cursor_eq (h : s.ActsOn i sc t) (hk : k ≠ i) :
    (t.scanner? k).map Scanner.toCursor = (s.scanner? k).map Scanner.toCursor := by
  rw [h.others k hk, Option.map_map]
  congr 1
  funext other
  rw [Function.comp_apply]
  split <;> rfl

/-- A scanner that does not share the slot stays as it is. -/
theorem scanner?_eq (h : s.ActsOn i sc t) (hk : k ≠ i) (hshares : ¬ s.shares i k) :
    t.scanner? k = s.scanner? k := by
  rw [h.others k hk]
  simp only [if_neg hshares, Option.map_id']

/-- A scanner that shares the slot sees the new outcome. -/
theorem outcome_eq (h : s.ActsOn i sc t) (hshares : s.shares i k) :
    (t.scanner? k).map Scanner.outcome = some sc.outcome := by
  by_cases hk : k = i
  · rw [hk, h.self, Option.map_some]
  · obtain ⟨n, -, hn⟩ := shares_iff.1 hshares
    obtain ⟨seat, hseat, -⟩ := Option.map_eq_some_iff.1 hn
    rw [h.others k hk, scanner?, hseat, Option.map_some, Option.map_some, if_pos hshares]
    rfl

end ActsOn

/-! ### Other steps -/

/-- Steps other than operations leave all scanners as they are. -/
theorem Sound.step_scanner? (hs : s.Sound) (h : s.step c = some (r, t, es))
    (hc : ∀ i a, c ≠ .act i a) (hk : k < s.seats.length) : t.scanner? k = s.scanner? k := by
  have hseat : s.seats[k]? = some s.seats[k] := List.getElem?_eq_getElem hk
  have hslot := (hs.of_getElem? hseat).slot_lt
  obtain ⟨text, -, rfl⟩ | ⟨i, a, seat, rfl, -⟩ | ⟨i, seat, -, hi, rfl⟩ |
    ⟨i, seat, -, hi, rfl⟩ | ⟨i, seat, -, hi, rfl⟩ := step_cases h
  · simp only [scanner?, new, List.getElem?_append_left hk, hseat, Option.map_some,
      scannerAt_append hslot]
  · exact absurd rfl (hc i a)
  · simp only [scanner?, List.getElem?_append_left hk, hseat, Option.map_some]
    rfl
  · simp only [scanner?, List.getElem?_append_left hk, hseat, Option.map_some,
      scannerAt_append hslot]
  · by_cases hki : k = i
    · -- The new slot holds what the old one holds.
      subst hki
      rw [hi] at hseat
      obtain rfl := Option.some.inj hseat
      simp [scanner?, scannerAt, outcomeIn, hk]
    · simp only [scanner?, List.getElem?_set_ne (Ne.symm hki), hseat, Option.map_some,
        scannerAt_append hslot]

/-- The scanner that a step adds gets the next number. -/
theorem step_newcomer (h : s.step c = some (r, t, es)) :
    t.scanner? s.seats.length = c.newcomer? s := by
  have hnone : s.seats[s.seats.length]? = none := List.getElem?_eq_none (Nat.le_refl _)
  obtain ⟨text, rfl, rfl⟩ | ⟨i, a, seat, rfl, hi, -, -, rfl⟩ | ⟨i, seat, rfl, hi, rfl⟩ |
    ⟨i, seat, rfl, hi, rfl⟩ | ⟨i, seat, rfl, hi, rfl⟩ := step_cases h
  · simp [scanner?, new, scannerAt, outcomeIn, Command.newcomer?, Scanner.new]
  · exact scanner?_eq_none (by simp)
  · simp only [Command.newcomer?, scanner?, List.getElem?_concat_length, hi]
    rfl
  · simp [Command.newcomer?, scanner?, scannerAt, outcomeIn, hi]
  · exact scanner?_eq_none (by simp)

end Session

end TextScan
