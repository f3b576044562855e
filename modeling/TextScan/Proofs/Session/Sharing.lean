import Mathlib.Data.List.Induction
import TextScan.Proofs.Session.Frame

namespace TextScan

/-!
# Who sees which outcome

Scanners that share a slot form groups. A step changes the groups only where it says so, and what a
scanner sees is the last outcome that was left in its group, before or after it came there.

* `Command.regroup` says how a step changes the groups. `Session.Sound.step_shares_iff` says that it
  does.
* `Action.outcome?` is the outcome that an operation leaves, `Session.HeardOf` says whether a
  scanner hears of it. For this, `Command.ancestor?` follows copies back to their originals.
* `Session.LastHeard` says what a scanner has heard of last, and `Session.lastHeard_of_run` that it
  sees this.
* `Session.sharing_laws` puts all this together.
-/

/-! ### Groups -/

/-- Who shares with whom behind a step, if `R` says it before, and there are `n` scanners. A copy
    gets the next number. -/
def Command.regroup (n : Nat) (R : Nat → Nat → Prop) : Command → Nat → Nat → Prop
  | new _ | fork _ => fun i j => R i j ∨ (i = n ∧ j = n)
  | act _ _ => R
  | share k => fun i j => R (if i = n then k else i) (if j = n then k else j)
  | detach k => fun i j => (R i j ∧ i ≠ k ∧ j ≠ k) ∨ (i = k ∧ j = k)

namespace Session

variable {s t : Session} {c : Command} {r : Result} {es : List Event} {i j k : Nat}

theorem Sound.slot?_lt (hs : s.Sound) {n : Nat} (h : s.slot? k = some n) : n < s.slots.length := by
  obtain ⟨seat, hseat, rfl⟩ := Option.map_eq_some_iff.1 h
  exact (hs.of_getElem? hseat).slot_lt

theorem slot?_eq_none (h : s.seats.length ≤ k) : s.slot? k = none := by
  rw [slot?, List.getElem?_eq_none h, Option.map_none]

theorem slot?_concat (seat : Seat) (slots : List Outcome) (k : Nat) :
    (⟨s.seats ++ [seat], slots⟩ : Session).slot? k =
      if k = s.seats.length then some seat.slot else s.slot? k := by
  unfold slot?
  split
  · rename_i hk
    rw [hk, List.getElem?_concat_length, Option.map_some]
  · rename_i hk
    rcases Nat.lt_or_gt_of_ne hk with hlt | hgt
    · rw [List.getElem?_append_left hlt]
    · rw [List.getElem?_eq_none (by rw [List.length_append]; exact hgt),
        List.getElem?_eq_none (Nat.le_of_lt hgt)]

theorem slot?_set (hi : i < s.seats.length) (seat : Seat) (slots : List Outcome) (k : Nat) :
    (⟨s.seats.set i seat, slots⟩ : Session).slot? k =
      if k = i then some seat.slot else s.slot? k := by
  unfold slot?
  split
  · rename_i hk
    rw [hk, List.getElem?_set_self hi, Option.map_some]
  · rename_i hk
    rw [List.getElem?_set_ne (Ne.symm hk)]

/-- A slot that nobody has had makes a group of its own. -/
theorem Sound.shares_alone_iff (hs : s.Sound) {m : Nat}
    (hslot : ∀ k, t.slot? k = if k = m then some s.slots.length else s.slot? k) :
    t.shares i j ↔ (s.shares i j ∧ i ≠ m ∧ j ≠ m) ∨ (i = m ∧ j = m) := by
  have hnew (k : Nat) : s.slot? k ≠ some s.slots.length :=
    fun h => Nat.lt_irrefl _ (hs.slot?_lt h)
  rw [shares_iff, shares_iff, hslot i, hslot j]
  by_cases hi : i = m <;> by_cases hj : j = m
  · simp [hi, hj]
  · simp [hi, hj, hnew]
  · simp [hi, hj, hnew]
  · simp [hi, hj]

/-- **Groups behind a step.** -/
theorem Sound.step_shares_iff (hs : s.Sound) (h : s.step c = some (r, t, es)) (i j : Nat) :
    t.shares i j ↔ c.regroup s.seats.length (fun i j => s.shares i j) i j := by
  -- A scanner that does not exist yet shares with none.
  have halone : (s.shares i j ∧ i ≠ s.seats.length ∧ j ≠ s.seats.length) ↔ s.shares i j := by
    refine and_iff_left_of_imp fun hshares => ?_
    obtain ⟨n, hi, hj⟩ := shares_iff.1 hshares
    constructor
    · rintro rfl
      rw [slot?_eq_none (Nat.le_refl _)] at hi
      cases hi
    · rintro rfl
      rw [slot?_eq_none (Nat.le_refl _)] at hj
      cases hj
  obtain ⟨text, rfl, rfl⟩ | ⟨k, a, seat, rfl, hk, -, -, rfl⟩ | ⟨k, seat, rfl, hk, rfl⟩ |
    ⟨k, seat, rfl, hk, rfl⟩ | ⟨k, seat, rfl, hk, rfl⟩ := step_cases h
  · rw [hs.shares_alone_iff (slot?_concat _ _), halone]
    rfl
  · have hlt := (List.getElem?_eq_some_iff.1 hk).1
    -- The seat that is changed keeps its slot.
    have hslot (m : Nat) : s.slot? m = if m = k then some seat.slot else s.slot? m := by
      split
      · rename_i hm
        rw [hm, slot?, hk, Option.map_some]
      · rfl
    rw [shares_iff, slot?_set hlt, slot?_set hlt, ← hslot, ← hslot, ← shares_iff]
    rfl
  · have hslot : some seat.slot = s.slot? k := by rw [slot?, hk, Option.map_some]
    rw [shares_iff, slot?_concat, slot?_concat, hslot]
    show _ ↔ s.shares (if i = s.seats.length then k else i) (if j = s.seats.length then k else j)
    rw [shares_iff, apply_ite s.slot?, apply_ite s.slot?]
  · rw [hs.shares_alone_iff (slot?_concat _ _), halone]
    rfl
  · exact hs.shares_alone_iff (slot?_set (List.getElem?_eq_some_iff.1 hk).1 _ _)

/-- To share is an equivalence of the scanners that exist. -/
theorem shares_equivalence (s : Session) :
    Equivalence fun i j : Fin s.seats.length => s.shares i j = true where
  refl i := shares_iff.2 ⟨_, by rw [slot?, List.getElem?_eq_getElem i.2, Option.map_some], by
    rw [slot?, List.getElem?_eq_getElem i.2, Option.map_some]⟩
  symm h := by rwa [shares_comm]
  trans h h' := by
    obtain ⟨n, hi, hj⟩ := shares_iff.1 h
    obtain ⟨n', hj', hk⟩ := shares_iff.1 h'
    exact shares_iff.2 ⟨n, hi, (hj.symm.trans hj') ▸ hk⟩

end Session

/-! ### Outcomes that are left -/

/-- The outcome that an operation leaves if the text behind the cursor is `rest`. There is none if
    it leaves the outcome alone. -/
def Action.outcome? (rest : Text) : Action → Option Outcome
  | attempt how p => some (how.outcome p rest)
  | takeChar => some (Attempt.take.outcome .anyChar rest)
  | restart | finish => some .failure
  | moveTo _ | append _ => none

theorem Scanner.act_outcome (s : Scanner) (a : Action) :
    (s.act a).scanner.outcome = (a.outcome? s.rest).getD s.outcome := by
  cases a with
  | attempt how p => exact s.attempt_outcome p how
  | takeChar => exact s.attempt_outcome .anyChar .take
  | moveTo _ | append _ | restart | finish => rfl

namespace Command

/-- How many scanners a step adds. -/
def adds : Command → Nat
  | new _ | share _ | fork _ => 1
  | act _ _ | detach _ => 0

/-- How many scanners several steps add. -/
def addsIn : List Command → Nat
  | [] => 0
  | c :: cs => c.adds + addsIn cs

/-- The scanner that was number `k` before a step, or its original if the step has copied it. Before
    the step there are `n` scanners. -/
def origin? (n : Nat) (c : Command) (k : Nat) : Option Nat :=
  if k < n then some k
  else match c with
    | share i | fork i => some i
    | _ => none

/-- The scanner from which scanner number `k` comes, behind several steps. -/
def ancestor? (n : Nat) : List Command → Nat → Option Nat
  | [], k => some k
  | c :: cs, k => (ancestor? (n + c.adds) cs k).bind (c.origin? n)

theorem ancestor?_concat (n : Nat) (cs : List Command) (c : Command) (k : Nat) :
    ancestor? n (cs ++ [c]) k = (c.origin? (n + addsIn cs) k).bind (ancestor? n cs) := by
  induction cs generalizing n with
  | nil => simp [ancestor?, addsIn]
  | cons d cs ih =>
    rw [List.cons_append, ancestor?, ih, Option.bind_assoc, addsIn, Nat.add_assoc]
    rfl

end Command

namespace Session

variable {s t u : Session} {c : Command} {r : Result} {es : List Event} {i j k : Nat}
  {cs : List Command}

theorem run_append (s : Session) (cs ds : List Command) :
    s.run (cs ++ ds) = (s.run cs).bind fun t => t.run ds := by
  induction cs generalizing s with
  | nil => rfl
  | cons c cs ih =>
    rw [List.cons_append, run, run, Option.bind_assoc]
    congr 1
    funext e
    exact ih e.2.1

theorem run_concat_eq_some (h : s.run (cs ++ [c]) = some t) :
    ∃ u r es, s.run cs = some u ∧ u.step c = some (r, t, es) := by
  rw [run_append] at h
  obtain ⟨u, hu, hlast⟩ := Option.bind_eq_some_iff.1 h
  obtain ⟨⟨r, t', es⟩, hstep, ht⟩ := Option.bind_eq_some_iff.1 hlast
  obtain rfl := Option.some.inj ht
  exact ⟨u, r, es, hu, hstep⟩

theorem step_length (h : s.step c = some (r, t, es)) :
    t.seats.length = s.seats.length + c.adds := by
  obtain ⟨text, rfl, rfl⟩ | ⟨i, a, seat, rfl, -, -, -, rfl⟩ | ⟨i, seat, rfl, -, rfl⟩ |
    ⟨i, seat, rfl, -, rfl⟩ | ⟨i, seat, rfl, -, rfl⟩ := step_cases h <;> simp [new, Command.adds]

theorem run_length (h : s.run cs = some t) :
    t.seats.length = s.seats.length + Command.addsIn cs := by
  induction cs generalizing s with
  | nil => rw [← Option.some.inj h]; rfl
  | cons c cs ih =>
    obtain ⟨⟨r, u, es⟩, hstep, hrun⟩ := Option.bind_eq_some_iff.1 h
    rw [ih hrun, step_length hstep, Command.addsIn, Nat.add_assoc]

/-! ### What a scanner hears of -/

/-- In a run, scanner number `i` does `a` between the steps `before` and `after`. That leaves the
    outcome `o`, and scanner number `k` of those in the end hears of it: the scanner from which it
    comes shares the slot at that moment. -/
def HeardOf (before : List Command) (i : Nat) (a : Action) (after : List Command) (k : Nat)
    (o : Outcome) : Prop :=
  ∃ s sc j, empty.run before = some s ∧ s.scanner? i = some sc ∧ a.outcome? sc.rest = some o ∧
    Command.ancestor? s.seats.length after k = some j ∧ s.shares i j

/-- The last outcome of which scanner number `k` has heard in a run. -/
inductive LastHeard (cs : List Command) (k : Nat) : Outcome → Prop
  | heard {before after : List Command} {i : Nat} {a : Action} {o : Outcome} :
      cs = before ++ .act i a :: after → HeardOf before i a after k o →
      (∀ before' i' a' after' o', cs = before' ++ .act i' a' :: after' →
        HeardOf before' i' a' after' k o' → before'.length ≤ before.length) →
      LastHeard cs k o
  | unheard :
      (∀ before i a after o, cs = before ++ .act i a :: after → ¬ HeardOf before i a after k o) →
      LastHeard cs k .failure

/-- A copy has heard of what its original had heard of. -/
theorem heardOf_concat_iff {before after : List Command} {a : Action} {o : Outcome}
    (hrun : empty.run (before ++ .act i a :: after) = some u) :
    HeardOf before i a (after ++ [c]) k o ↔
      ∃ j, c.origin? u.seats.length k = some j ∧ HeardOf before i a after j o := by
  have hlength {s : Session} (hs : empty.run before = some s) :
      u.seats.length = s.seats.length + Command.addsIn after := by
    rw [run_append, hs, Option.bind_some] at hrun
    rw [run_length hrun, Command.addsIn, Command.adds, Nat.zero_add]
  constructor
  · rintro ⟨s, sc, m, hs, hi, ho, hm, hshares⟩
    rw [Command.ancestor?_concat, ← hlength hs] at hm
    obtain ⟨j, hj, hjm⟩ := Option.bind_eq_some_iff.1 hm
    exact ⟨j, hj, s, sc, m, hs, hi, ho, hjm, hshares⟩
  · rintro ⟨j, hj, s, sc, m, hs, hi, ho, hjm, hshares⟩
    refine ⟨s, sc, m, hs, hi, ho, ?_, hshares⟩
    rw [Command.ancestor?_concat, ← hlength hs, hj, Option.bind_some, hjm]

/-- What a scanner sees behind a step was left in its group by that step, or it is what the scanner
    from which it comes saw before. A new scanner sees no match. -/
theorem Sound.step_outcome (hs : s.Sound) (h : s.step c = some (r, t, es)) {sc : Scanner}
    (hk : t.scanner? k = some sc) :
    (∃ i a other, c = .act i a ∧ s.scanner? i = some other ∧
      a.outcome? other.rest = some sc.outcome ∧ s.shares i k) ∨
    ((∀ i a other o, c = .act i a → s.scanner? i = some other → a.outcome? other.rest = some o →
        ¬ s.shares i k) ∧
      ((∃ j other, c.origin? s.seats.length k = some j ∧ s.scanner? j = some other ∧
          sc.outcome = other.outcome) ∨
        (c.origin? s.seats.length k = none ∧ sc.outcome = .failure))) := by
  by_cases hact : ∃ i a, c = .act i a
  · obtain ⟨i, a, rfl⟩ := hact
    have hklt : k < s.seats.length := by
      have hlt := lt_of_scanner? hk
      rwa [step_length h] at hlt
    obtain ⟨old, hold⟩ := exists_scanner? hklt
    have horigin : (Command.act i a).origin? s.seats.length k = some k := if_pos hklt
    obtain ⟨other, hi⟩ : ∃ other, s.scanner? i = some other := by
      obtain ⟨seat, hseat, -⟩ := Option.map_eq_some_iff.1 h
      exact ⟨_, scanner?_eq_some_iff.2 ⟨seat, hseat, rfl⟩⟩
    obtain ⟨t', hstep, hacts⟩ := hs.step_act hi a
    obtain ⟨-, rfl, -⟩ : _ = r ∧ t' = t ∧ _ = es := by simpa using hstep.symm.trans h
    -- Either the operation leaves an outcome in the scanner's group, or the scanner keeps its own.
    by_cases hshares : s.shares i k
    · have houtcome := hacts.outcome_eq hshares
      rw [hk, Option.map_some, Option.some.injEq, Scanner.act_outcome] at houtcome
      cases ho : a.outcome? other.rest with
      | some o =>
        rw [ho, Option.getD_some] at houtcome
        exact .inl ⟨i, a, other, rfl, hi, houtcome ▸ ho, hshares⟩
      | none =>
        rw [ho, Option.getD_none] at houtcome
        refine .inr ⟨?_, .inl ⟨k, old, horigin, hold, ?_⟩⟩
        · rintro i a other' o' heq hi' ho' -
          obtain ⟨rfl, rfl⟩ := Command.act.inj heq
          obtain rfl := Option.some.inj (hi.symm.trans hi')
          rw [ho] at ho'
          cases ho'
        · rw [houtcome, outcome_eq_of_shares hshares hi hold]
    · refine .inr ⟨?_, .inl ⟨k, old, horigin, hold, ?_⟩⟩
      · rintro i a other' o' heq - -
        obtain ⟨rfl, rfl⟩ := Command.act.inj heq
        exact hshares
      · have hki : k ≠ i := by
          rintro rfl
          exact hshares ((shares_equivalence s).refl ⟨k, hklt⟩)
        rw [hacts.scanner?_eq hki hshares, hold] at hk
        rw [Option.some.inj hk]
  · have hne : ∀ i a, c ≠ .act i a := fun i a hc => hact ⟨i, a, hc⟩
    refine .inr ⟨fun i a _ _ hc => absurd hc (hne i a), ?_⟩
    by_cases hklt : k < s.seats.length
    · rw [hs.step_scanner? h hne hklt] at hk
      exact .inl ⟨k, sc, if_pos hklt, hk, rfl⟩
    · -- The scanner is new: a copy, or one at the start of a text.
      obtain rfl : k = s.seats.length := by
        have hlt := lt_of_scanner? hk
        rw [step_length h] at hlt
        cases c <;> simp only [Command.adds] at hlt <;> omega
      rw [step_newcomer h] at hk
      cases c with
      | new text =>
        obtain rfl := Option.some.inj hk
        exact .inr ⟨if_neg hklt, rfl⟩
      | share i => exact .inl ⟨i, sc, if_neg hklt, hk, rfl⟩
      | fork i => exact .inl ⟨i, sc, if_neg hklt, hk, rfl⟩
      | act i a => exact absurd rfl (hne i a)
      | detach i => cases hk

/-- A run that is one step longer has the same moments and maybe one more. -/
theorem concat_eq_append_cons {cs before after : List Command} {c d : Command}
    (h : cs ++ [c] = before ++ d :: after) :
    (after = [] ∧ before = cs ∧ d = c) ∨ ∃ after', after = after' ++ [c] ∧
      cs = before ++ d :: after' := by
  rcases List.eq_nil_or_concat after with rfl | ⟨after', e, rfl⟩
  · obtain ⟨rfl, heq⟩ := List.append_inj' h rfl
    exact .inl ⟨rfl, rfl, (List.cons.inj heq).1.symm⟩
  · rw [List.concat_eq_append, ← List.cons_append, ← List.append_assoc] at h
    obtain ⟨rfl, heq⟩ := List.append_inj' h rfl
    exact .inr ⟨after', by rw [List.concat_eq_append, (List.cons.inj heq).1], rfl⟩

/-- What the origin of a scanner has heard of last, the scanner has, if the step between them has
    brought nothing new. -/
theorem LastHeard.of_origin {o : Outcome} (h : LastHeard cs j o) (hrun : empty.run cs = some u)
    (hj : c.origin? u.seats.length k = some j)
    (hearlier : ∀ before i a after o, cs ++ [c] = before ++ .act i a :: after →
      HeardOf before i a after k o → ∃ after', cs = before ++ .act i a :: after' ∧
        HeardOf before i a after' j o) : LastHeard (cs ++ [c]) k o := by
  cases h with
  | @heard before after i a o hcs hheard hlatest =>
    have hsplit : cs ++ [c] = before ++ .act i a :: (after ++ [c]) := by
      rw [hcs, List.append_assoc, List.cons_append]
    refine .heard hsplit ((heardOf_concat_iff (hcs ▸ hrun)).2 ⟨j, hj, hheard⟩) ?_
    intro before' i' a' after' o' hsplit' hheard'
    obtain ⟨after'', hcs', hheard''⟩ := hearlier _ _ _ _ _ hsplit' hheard'
    exact hlatest _ _ _ _ _ hcs' hheard''
  | unheard hnever =>
    refine .unheard ?_
    intro before i a after o hsplit hheard
    obtain ⟨after', hcs, hheard'⟩ := hearlier _ _ _ _ _ hsplit hheard
    exact hnever _ _ _ _ _ hcs hheard'

/-- **What a scanner sees** is what it has heard of last. -/
theorem lastHeard_of_run {s : Session} (h : empty.run cs = some s) {sc : Scanner}
    (hk : s.scanner? k = some sc) : LastHeard cs k sc.outcome := by
  induction cs using List.reverseRecOn generalizing s k sc with
  | nil =>
    obtain rfl := Option.some.inj h
    cases hk
  | append_singleton cs c ih =>
    obtain ⟨u, r, es, hu, hstep⟩ := run_concat_eq_some h
    rcases (run_sound empty_sound hu).step_outcome hstep hk with
      ⟨i, a, other, rfl, hi, ho, hshares⟩ | ⟨hlast, hbefore⟩
    · -- No other moment is later than the last one.
      refine .heard rfl ⟨u, other, k, hu, hi, ho, rfl, hshares⟩ ?_
      intro before' i' a' after' o' hsplit _
      have hlen := congrArg List.length hsplit
      simp only [List.length_append, List.length_cons, List.length_nil] at hlen
      omega
    · -- A moment of which the scanner hears is an earlier one, and its origin hears of it.
      have hearlier {before after : List Command} {i : Nat} {a : Action} {o : Outcome}
          (hsplit : cs ++ [c] = before ++ .act i a :: after)
          (hheard : HeardOf before i a after k o) :
          ∃ after' j, cs = before ++ .act i a :: after' ∧ c.origin? u.seats.length k = some j ∧
            HeardOf before i a after' j o := by
        rcases concat_eq_append_cons hsplit with ⟨rfl, rfl, hc⟩ | ⟨after', rfl, hcs⟩
        · obtain ⟨s', other, j, hs', hi, ho, hj, hshares⟩ := hheard
          obtain rfl := Option.some.inj (hu.symm.trans hs')
          obtain rfl := Option.some.inj hj
          exact absurd hshares (hlast i a other o hc.symm hi ho)
        · obtain ⟨j, hj, hheard⟩ := (heardOf_concat_iff (hcs ▸ hu)).1 hheard
          exact ⟨after', j, hcs, hj, hheard⟩
      rcases hbefore with ⟨j, other, hj, hother, houtcome⟩ | ⟨hnone, houtcome⟩
      · rw [houtcome]
        refine (ih hu hother).of_origin hu hj ?_
        intro before i a after o hsplit hheard
        obtain ⟨after', j', hcs, hj', hheard'⟩ := hearlier hsplit hheard
        obtain rfl := Option.some.inj (hj.symm.trans hj')
        exact ⟨after', hcs, hheard'⟩
      · rw [houtcome]
        refine .unheard ?_
        intro before i a after o hsplit hheard
        obtain ⟨after', j, -, hj, -⟩ := hearlier hsplit hheard
        rw [hnone] at hj
        cases hj

/-! ### The laws -/

/-- A step leaves alone what it is not about: only the scanner that acts moves its cursor, and only
    those that share its slot may see another outcome. -/
theorem Sound.step_frame (hs : s.Sound) (h : s.step c = some (r, t, es)) {sc : Scanner}
    (hk : s.scanner? k = some sc) :
    ∃ sc', t.scanner? k = some sc' ∧
      ((∀ a, c ≠ .act k a) → sc'.toCursor = sc.toCursor) ∧
      ((∀ i a, c = .act i a → ¬ s.shares i k) → sc'.outcome = sc.outcome) := by
  by_cases hact : ∃ i a, c = .act i a
  · obtain ⟨i, a, rfl⟩ := hact
    obtain ⟨seat, hseat, -⟩ := Option.map_eq_some_iff.1 h
    obtain ⟨t', hstep, hacts⟩ := hs.step_act (scanner?_eq_some_iff.2 ⟨seat, hseat, rfl⟩) a
    obtain ⟨-, rfl, -⟩ : _ = r ∧ t' = t ∧ _ = es := by simpa using hstep.symm.trans h
    by_cases hki : k = i
    · subst hki
      have hshares : s.shares k k := (shares_equivalence s).refl ⟨k, lt_of_scanner? hk⟩
      exact ⟨_, hacts.self, fun hne => absurd rfl (hne a),
        fun hapart => absurd hshares (hapart _ _ rfl)⟩
    · have hcursor := hacts.cursor_eq hki
      rw [hk, Option.map_some] at hcursor
      obtain ⟨sc', hk', hsc'⟩ := Option.map_eq_some_iff.1 hcursor
      refine ⟨sc', hk', fun _ => hsc', fun hapart => ?_⟩
      rw [hacts.scanner?_eq hki (hapart i a rfl), hk] at hk'
      rw [Option.some.inj hk']
  · have hne : ∀ i a, c ≠ .act i a := fun i a hc => hact ⟨i, a, hc⟩
    exact ⟨sc, by rw [hs.step_scanner? h hne (lt_of_scanner? hk), hk], fun _ => rfl, fun _ => rfl⟩

/-- **The laws of sharing**, in any session that a run arrives at. Sharing is an equivalence of the
    scanners. Those that share see one outcome, and so all that can be read off it. What a scanner
    sees is the last outcome of which it has heard. A step changes the groups as it says; the
    scanner that it adds is new or a copy; and of those before, only the one that acts has its
    cursor moved, and only those that share its slot may see another outcome. -/
theorem sharing_laws {s : Session} (h : empty.run cs = some s) :
    (Equivalence fun i j : Fin s.seats.length => s.shares i j = true) ∧
    (∀ i j a b, s.shares i j → s.scanner? i = some a → s.scanner? j = some b →
      a.outcome = b.outcome) ∧
    (∀ k sc, s.scanner? k = some sc → LastHeard cs k sc.outcome) ∧
    ∀ c r t es, s.step c = some (r, t, es) →
      (∀ i j, t.shares i j ↔ c.regroup s.seats.length (fun i j => s.shares i j) i j) ∧
      t.seats.length = s.seats.length + c.adds ∧ t.scanner? s.seats.length = c.newcomer? s ∧
      ∀ k sc, s.scanner? k = some sc → ∃ sc', t.scanner? k = some sc' ∧
        ((∀ a, c ≠ .act k a) → sc'.toCursor = sc.toCursor) ∧
        ((∀ i a, c = .act i a → ¬ s.shares i k) → sc'.outcome = sc.outcome) := by
  have hs := run_sound empty_sound h
  refine ⟨shares_equivalence s, fun i j a b => outcome_eq_of_shares, fun k sc => lastHeard_of_run h,
    ?_⟩
  intro c r t es hstep
  exact ⟨hs.step_shares_iff hstep, step_length hstep, step_newcomer hstep,
    fun k sc hk => hs.step_frame hstep hk⟩

/-- A run with copies of copies. One is detached, one has a slot of its own from the start, and two
    share a slot to the end. -/
def copiesRun : List Command :=
  [.new "abé".toList, .share 0, .act 0 (.attempt .take (.char 'a')), .share 1, .detach 1,
    .act 2 (.attempt .takeThrough (.char 'é')), .fork 2, .act 0 .restart]

theorem sharing_laws_copiesRun :
    ∃ s, empty.run copiesRun = some s ∧
      s.scanners.map (·.outcome.text) = [none, some ['a'], none, some "abé".toList] ∧
      (s.shares 0 2 ∧ ¬ s.shares 0 1 ∧ ¬ s.shares 2 3) ∧
      (Equivalence fun i j : Fin s.seats.length => s.shares i j = true) ∧
      ∀ k sc, s.scanner? k = some sc → LastHeard copiesRun k sc.outcome := by
  have hrun : empty.run copiesRun = some ((empty.run copiesRun).getD empty) := by decide
  obtain ⟨hequiv, -, hheard, -⟩ := sharing_laws hrun
  exact ⟨_, hrun, by decide, by decide, hequiv, hheard⟩

end Session

end TextScan
