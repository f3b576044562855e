import TextScan.Proofs.Locality

namespace TextScan

/-!
# Scanners that take turns

Two scanners of a session are given their requests in any order of turns. What each of them replies
is what it replies alone, whether they share their slot or not; only what is asked about the outcome
itself tells that they share.

* `Request` is what a scanner can be asked to do or to tell, `Session.serve` carries out requests to
  several scanners and keeps a log of the replies.
* `Scanner.answers` is what a scanner replies without a session. `Session.Sound.serve_cursor`
  and `Session.Sound.serve_apart` say when a scanner of a session replies the same.
* `Interleaves` lists the orders in which the requests to two scanners can come.
  `Session.serve_interleaving` is the result for them.
-/

/-! ### Requests -/

/-- What a scanner can be asked. The last five questions are about the outcome. -/
inductive Request where
  | act (a : Action)
  | pos | atEnd | atLineStart | rest | peek (n : Nat) | text
  | matched | lastText | lastLength | captures | outcome

/-- Whether a request asks about the outcome. -/
def Request.asksOutcome : Request → Bool
  | matched | lastText | lastLength | captures | outcome => true
  | _ => false

/-- The reply to a request. -/
inductive Reply where
  | result (r : Result)
  | number (n : Nat)
  | flag (b : Bool)
  | text (t : Text)
  | lastText (t : Option Text)
  | lastLength (n : Option Nat)
  | captures (cs : List (Option Text))
  | outcome (o : Outcome)
  deriving DecidableEq, Repr

namespace Scanner

/-- The reply of a scanner, and the scanner behind it. -/
def answer (s : Scanner) : Request → Reply × Scanner
  | .act a => (.result (s.act a).result, (s.act a).scanner)
  | .pos => (.number s.pos, s)
  | .atEnd => (.flag s.atEnd, s)
  | .atLineStart => (.flag s.atLineStart, s)
  | .rest => (.text s.rest, s)
  | .peek n => (.text (s.peek n), s)
  | .text => (.text s.text, s)
  | .matched => (.flag s.outcome.isSuccess, s)
  | .lastText => (.lastText s.outcome.text, s)
  | .lastLength => (.lastLength s.outcome.length?, s)
  | .captures => (.captures s.outcome.captures, s)
  | .outcome => (.outcome s.outcome, s)

/-- Requests with their replies, and the scanner behind them. -/
def answers (s : Scanner) : List Request → List (Request × Reply) × Scanner
  | [] => ([], s)
  | q :: qs => ((q, (s.answer q).1) :: ((s.answer q).2.answers qs).1, ((s.answer q).2.answers qs).2)

/-- What an operation replies and where it leaves the cursor does not depend on the outcome. -/
theorem act_congr {s t : Scanner} (h : s.toCursor = t.toCursor) (a : Action) :
    (s.act a).result = (t.act a).result ∧
      (s.act a).scanner.toCursor = (t.act a).scanner.toCursor := by
  obtain ⟨c, o⟩ := s
  obtain ⟨c', o'⟩ := t
  obtain rfl : c = c' := h
  by_cases htries : a.Tries
  · obtain ⟨r, o₁, passed, es, hact⟩ := act_eq_of_tries htries c.rest
    rw [hact ⟨c, o⟩ rfl, hact ⟨c, o'⟩ rfl]
    exact ⟨rfl, rfl⟩
  · cases a with
    | attempt _ _ | takeChar => exact absurd trivial htries
    | moveTo _ | append _ | restart | finish => exact ⟨rfl, rfl⟩

/-- Nor does what a request replies, unless it asks about the outcome. -/
theorem answer_congr {s t : Scanner} (h : s.toCursor = t.toCursor) (q : Request) :
    (q.asksOutcome = false → (s.answer q).1 = (t.answer q).1) ∧
      (s.answer q).2.toCursor = (t.answer q).2.toCursor := by
  cases q with
  | act a =>
    obtain ⟨hresult, hcursor⟩ := act_congr h a
    exact ⟨fun _ => congrArg Reply.result hresult, hcursor⟩
  | pos | atEnd | atLineStart | rest | peek _ | text =>
    refine ⟨fun _ => ?_, h⟩
    simp only [answer, h]
  | matched | lastText | lastLength | captures | outcome => exact ⟨nofun, h⟩

end Scanner

/-! ### Turns -/

/-- The part of a list that has the number `i`. -/
def part {α : Type} (i : Nat) (w : List (Nat × α)) : List α :=
  w.filterMap fun e => if e.1 = i then some e.2 else none

/-- What a log holds of questions that are not about the outcome. -/
def withoutOutcome (log : List (Request × Reply)) : List (Request × Reply) :=
  log.filter fun e => !e.1.asksOutcome

/-- The requests `A` to scanner number `i` and `B` to scanner number `j` come in the order of `w`.
    -/
inductive Interleaves (i j : Nat) : List Request → List Request → List (Nat × Request) → Prop
  | nil : Interleaves i j [] [] []
  | first {q : Request} {A B : List Request} {w : List (Nat × Request)} :
      Interleaves i j A B w → Interleaves i j (q :: A) B ((i, q) :: w)
  | second {q : Request} {A B : List Request} {w : List (Nat × Request)} :
      Interleaves i j A B w → Interleaves i j A (q :: B) ((j, q) :: w)

section Part

variable {α : Type} {i j : Nat} {x : α} {w : List (Nat × α)}

@[simp] theorem part_nil : part i ([] : List (Nat × α)) = [] := rfl

@[simp] theorem part_cons_self : part i ((i, x) :: w) = x :: part i w := by simp [part]

theorem part_cons_of_ne (h : j ≠ i) : part i ((j, x) :: w) = part i w := by simp [part, h]

@[simp] theorem part_map_self (xs : List α) : part i (xs.map (i, ·)) = xs := by
  induction xs with
  | nil => rfl
  | cons x xs ih => rw [List.map_cons, part_cons_self, ih]

end Part

theorem withoutOutcome_cons (q : Request) (r : Reply) (log : List (Request × Reply)) :
    withoutOutcome ((q, r) :: log) =
      if q.asksOutcome then withoutOutcome log else (q, r) :: withoutOutcome log := by
  unfold withoutOutcome
  cases h : q.asksOutcome <;> simp [h]

namespace Interleaves

variable {i j : Nat} {A B : List Request} {w : List (Nat × Request)}

theorem part_first (h : Interleaves i j A B w) (hij : i ≠ j) : part i w = A := by
  induction h with
  | nil => rfl
  | first _ ih => rw [part_cons_self, ih]
  | second _ ih => rw [part_cons_of_ne (Ne.symm hij), ih]

theorem symm (h : Interleaves i j A B w) : Interleaves j i B A w := by
  induction h with
  | nil => exact .nil
  | first _ ih => exact .second ih
  | second _ ih => exact .first ih

theorem mem (h : Interleaves i j A B w) : ∀ e ∈ w, e.1 = i ∨ e.1 = j := by
  induction h with
  | nil => exact fun e he => absurd he List.not_mem_nil
  | first _ ih => exact List.forall_mem_cons.2 ⟨.inl rfl, ih⟩
  | second _ ih => exact List.forall_mem_cons.2 ⟨.inr rfl, ih⟩

end Interleaves

/-! ### Requests to the scanners of a session -/

namespace Session

/-- Asks scanner number `i`. There is no answer if it does not exist. -/
def request (s : Session) (i : Nat) : Request → Option (Reply × Session)
  | .act a => (s.step (.act i a)).map fun (r, t, _) => (.result r, t)
  | q => (s.scanner? i).map fun sc => ((sc.answer q).1, s)

/-- Carries out requests, each to the scanner of the given number, and logs the replies. -/
def serve (s : Session) : List (Nat × Request) → Option (List (Nat × Request × Reply) × Session)
  | [] => some ([], s)
  | (i, q) :: w =>
    (s.request i q).bind fun (r, t) => (t.serve w).map fun (log, u) => ((i, q, r) :: log, u)

variable {s t : Session} {i j : Nat} {q : Request} {w : List (Nat × Request)}
  {log : List (Nat × Request × Reply)}

/-- A scanner that exists replies, and the session changes as the scanner does. -/
theorem Sound.request_eq (hs : s.Sound) {sc : Scanner} (hi : s.scanner? i = some sc) (q : Request) :
    ∃ t, s.request i q = some ((sc.answer q).1, t) ∧ s.ActsOn i (sc.answer q).2 t ∧ t.Sound := by
  -- A question leaves the session as it is.
  have hask : s.ActsOn i sc s := by
    refine ⟨hi, fun k _ => ?_, fun _ => rfl⟩
    cases hk : s.scanner? k with
    | none => rfl
    | some other =>
      rw [Option.map_some]
      split
      · rename_i hshares
        rw [outcome_eq_of_shares hshares hi hk]
      · rfl
  cases q with
  | act a =>
    obtain ⟨t, hstep, hacts⟩ := hs.step_act hi a
    exact ⟨t, by rw [request, hstep]; rfl, hacts, step_sound hs hstep⟩
  | _ => exact ⟨s, by simp only [request, hi, Option.map_some], hask, hs⟩

theorem exists_scanner?_of_request {r : Reply} (h : s.request i q = some (r, t)) :
    ∃ sc, s.scanner? i = some sc := by
  cases hi : s.scanner? i with
  | some sc => exact ⟨sc, rfl⟩
  | none =>
    have hseat : s.seats[i]? = none := Option.map_eq_none_iff.1 hi
    cases q <;> simp [request, step, act, hi, hseat] at h

/-- Requests to scanners that exist are carried out. -/
theorem Sound.exists_serve (hs : s.Sound) (hw : ∀ e ∈ w, ∃ sc, s.scanner? e.1 = some sc) :
    ∃ log t, s.serve w = some (log, t) := by
  induction w generalizing s with
  | nil => exact ⟨[], s, rfl⟩
  | cons e w ih =>
    obtain ⟨i, q⟩ := e
    obtain ⟨sc, hi⟩ := hw _ List.mem_cons_self
    obtain ⟨t, hrequest, hacts, ht⟩ := hs.request_eq hi q
    have hlater : ∀ e ∈ w, ∃ sc, t.scanner? e.1 = some sc := by
      intro e he
      obtain ⟨other, hother⟩ := hw e (List.mem_cons_of_mem _ he)
      by_cases hk : e.1 = i
      · exact ⟨_, hk ▸ hacts.self⟩
      · exact ⟨_, by rw [hacts.others _ hk, hother, Option.map_some]⟩
    obtain ⟨log, u, hserve⟩ := ih ht hlater
    refine ⟨(i, q, (sc.answer q).1) :: log, u, ?_⟩
    rw [serve, hrequest, Option.bind_some]
    exact congrArg (Option.map _) hserve

/-- The first of several requests, and the rest of them. -/
theorem Sound.serve_cons (hs : s.Sound) (h : s.serve ((i, q) :: w) = some (log, t)) :
    ∃ sc s' log', s.scanner? i = some sc ∧ s.ActsOn i (sc.answer q).2 s' ∧ s'.Sound ∧
      s'.serve w = some (log', t) ∧ log = (i, q, (sc.answer q).1) :: log' := by
  obtain ⟨⟨r, s'⟩, hrequest, hrest⟩ := Option.bind_eq_some_iff.1 h
  obtain ⟨⟨log', u⟩, hserve, heq⟩ := Option.map_eq_some_iff.1 hrest
  obtain ⟨rfl, rfl⟩ := Prod.mk.inj heq
  obtain ⟨sc, hi⟩ := exists_scanner?_of_request hrequest
  obtain ⟨s'', hrequest', hacts, hs''⟩ := hs.request_eq hi q
  obtain ⟨rfl, rfl⟩ := Prod.mk.inj (Option.some.inj (hrequest.symm.trans hrequest'))
  exact ⟨sc, _, log', hi, hacts, hs'', hserve, rfl⟩

/-- **With or without others.** Apart from what is asked about the outcome, a scanner replies to its
    part of the requests as it would without a session, and its cursor ends up in the same place.
    All that `b` has to have in common with it is the cursor. -/
theorem Sound.serve_cursor (hs : s.Sound) (h : s.serve w = some (log, t)) {a b : Scanner}
    (hi : s.scanner? i = some a) (hab : a.toCursor = b.toCursor) :
    withoutOutcome (part i log) = withoutOutcome (b.answers (part i w)).1 ∧
      (t.scanner? i).map Scanner.toCursor = some (b.answers (part i w)).2.toCursor := by
  induction w generalizing s log a b with
  | nil =>
    obtain ⟨rfl, rfl⟩ := Prod.mk.inj (Option.some.inj h)
    exact ⟨rfl, by rw [hi, Option.map_some, hab]; rfl⟩
  | cons e w ih =>
    obtain ⟨k, q⟩ := e
    obtain ⟨sc, s', log', hk, hacts, hs', hserve, rfl⟩ := hs.serve_cons h
    by_cases hki : k = i
    · subst hki
      obtain rfl := Option.some.inj (hk.symm.trans hi)
      obtain ⟨hreply, hcursor⟩ := Scanner.answer_congr hab q
      obtain ⟨hlog, hfinal⟩ := ih hs' hserve hacts.self hcursor
      refine ⟨?_, by rw [part_cons_self]; exact hfinal⟩
      rw [part_cons_self, part_cons_self, Scanner.answers, withoutOutcome_cons, withoutOutcome_cons,
        hlog]
      cases hasks : q.asksOutcome with
      | true => rfl
      | false => rw [hreply hasks]
    · -- Another scanner acts, which does not move this one.
      have hcursor := hacts.cursor_eq (Ne.symm hki)
      rw [hi, Option.map_some] at hcursor
      obtain ⟨a', hi', ha'⟩ := Option.map_eq_some_iff.1 hcursor
      rw [part_cons_of_ne hki, part_cons_of_ne hki]
      exact ih hs' hserve hi' (ha'.trans hab)

/-- If nobody who is asked shares the slot, a scanner replies to everything as it would alone. -/
theorem Sound.serve_apart (hs : s.Sound) (h : s.serve w = some (log, t)) {a : Scanner}
    (hi : s.scanner? i = some a) (hw : ∀ e ∈ w, e.1 ≠ i → ¬ s.shares e.1 i) :
    part i log = (a.answers (part i w)).1 ∧ t.scanner? i = some (a.answers (part i w)).2 := by
  induction w generalizing s log a with
  | nil =>
    obtain ⟨rfl, rfl⟩ := Prod.mk.inj (Option.some.inj h)
    exact ⟨rfl, hi⟩
  | cons e w ih =>
    obtain ⟨k, q⟩ := e
    obtain ⟨sc, s', log', hk, hacts, hs', hserve, rfl⟩ := hs.serve_cons h
    obtain ⟨hfirst, hlater⟩ := List.forall_mem_cons.1 hw
    simp only [← hacts.shares_eq] at hlater
    by_cases hki : k = i
    · subst hki
      obtain rfl := Option.some.inj (hk.symm.trans hi)
      obtain ⟨hlog, hfinal⟩ := ih hs' hserve hacts.self hlater
      rw [part_cons_self, part_cons_self, Scanner.answers, hlog]
      exact ⟨rfl, hfinal⟩
    · have hi' := hacts.scanner?_eq (Ne.symm hki) (hfirst hki)
      rw [part_cons_of_ne hki, part_cons_of_ne hki]
      exact ih hs' hserve (hi'.trans hi) hlater

/-- A scanner that is given its part of the requests replies as it does when it is given nothing but
    them. -/
theorem Sound.serve_alone (hs : s.Sound) (h : s.serve w = some (log, t)) {a : Scanner}
    (hi : s.scanner? i = some a) {A : List Request} (hA : part i w = A)
    {logA : List (Nat × Request × Reply)} {sA : Session}
    (halone : s.serve (A.map (i, ·)) = some (logA, sA)) :
    withoutOutcome (part i log) = withoutOutcome (part i logA) ∧
      (t.scanner? i).map Scanner.toCursor = (sA.scanner? i).map Scanner.toCursor ∧
      ((∀ e ∈ w, e.1 ≠ i → ¬ s.shares e.1 i) →
        part i log = part i logA ∧ t.scanner? i = sA.scanner? i) := by
  -- Both are compared with what the scanner replies without a session.
  obtain ⟨hlog, hcursor⟩ := hs.serve_cursor h hi rfl
  obtain ⟨hlogA, hcursorA⟩ := hs.serve_cursor halone hi rfl
  rw [hA] at hlog hcursor
  rw [part_map_self] at hlogA hcursorA
  refine ⟨hlog.trans hlogA.symm, hcursor.trans hcursorA.symm, ?_⟩
  intro hapart
  have hself : ∀ e ∈ A.map (i, ·), e.1 ≠ i → ¬ s.shares e.1 i := by
    rintro e he hne
    obtain ⟨q, -, rfl⟩ := List.mem_map.1 he
    exact absurd rfl hne
  obtain ⟨hall, hfinal⟩ := hs.serve_apart h hi hapart
  obtain ⟨hallA, hfinalA⟩ := hs.serve_apart halone hi hself
  rw [hA] at hall hfinal
  rw [part_map_self] at hallA hfinalA
  exact ⟨hall.trans hallA.symm, hfinal.trans hfinalA.symm⟩

/-! ### Two scanners -/

/-- **The order of turns does not matter.** Let two scanners of a session that a run arrives at be
    given requests, to one `A` and to the other `B`. In every order in which these can come, each
    scanner replies as if the other one got none, and its text and cursor end up the same, apart
    from questions about the outcome. If the two do not share their slot, there is no exception, and
    the outcomes end up the same as well. -/
theorem serve_interleaving {cs : List Command} (hrun : empty.run cs = some s) (hij : i ≠ j)
    {a b : Scanner} (ha : s.scanner? i = some a) (hb : s.scanner? j = some b)
    (A B : List Request) :
    ∃ logA sA logB sB, s.serve (A.map (i, ·)) = some (logA, sA) ∧
      s.serve (B.map (j, ·)) = some (logB, sB) ∧
      ∀ w, Interleaves i j A B w → ∃ log t, s.serve w = some (log, t) ∧
        (withoutOutcome (part i log) = withoutOutcome (part i logA) ∧
          withoutOutcome (part j log) = withoutOutcome (part j logB)) ∧
        ((t.scanner? i).map Scanner.toCursor = (sA.scanner? i).map Scanner.toCursor ∧
          (t.scanner? j).map Scanner.toCursor = (sB.scanner? j).map Scanner.toCursor) ∧
        (¬ s.shares i j →
          (part i log = part i logA ∧ part j log = part j logB) ∧
          (t.scanner? i = sA.scanner? i ∧ t.scanner? j = sB.scanner? j)) := by
  have hs := run_sound empty_sound hrun
  have halone {k : Nat} {sc : Scanner} (hk : s.scanner? k = some sc) (qs : List Request) :
      ∃ log t, s.serve (qs.map (k, ·)) = some (log, t) := by
    apply hs.exists_serve
    rintro e he
    obtain ⟨q, -, rfl⟩ := List.mem_map.1 he
    exact ⟨sc, hk⟩
  obtain ⟨logA, sA, hserveA⟩ := halone ha A
  obtain ⟨logB, sB, hserveB⟩ := halone hb B
  refine ⟨logA, sA, logB, sB, hserveA, hserveB, ?_⟩
  intro w hw
  obtain ⟨log, t, hserve⟩ := hs.exists_serve (w := w) fun e he =>
    (hw.mem e he).elim (fun h => ⟨a, h ▸ ha⟩) fun h => ⟨b, h ▸ hb⟩
  obtain ⟨hlogi, hcursori, hfulli⟩ := hs.serve_alone hserve ha (hw.part_first hij) hserveA
  obtain ⟨hlogj, hcursorj, hfullj⟩ :=
    hs.serve_alone hserve hb (hw.symm.part_first (Ne.symm hij)) hserveB
  refine ⟨log, t, hserve, ⟨hlogi, hlogj⟩, ⟨hcursori, hcursorj⟩, ?_⟩
  intro hapart
  -- Whoever else is asked is the other one of the two.
  obtain ⟨halli, hfinali⟩ := hfulli fun e he hne => by
    rw [(hw.mem e he).resolve_left hne, shares_comm]
    exact hapart
  obtain ⟨hallj, hfinalj⟩ := hfullj fun e he hne => by
    rw [(hw.mem e he).resolve_right hne]
    exact hapart
  exact ⟨⟨halli, hallj⟩, hfinali, hfinalj⟩

/-- A run that leaves two scanners with one slot. -/
def sharedRun : List Command := [.new "aé日".toList, .share 0]

/-- A number that is read from the slot behind the attempt of the other scanner. -/
def sharedTurns : List (Nat × Request) :=
  [(1, .act (.attempt .takeThrough (.char '日'))), (0, .act (.attempt .skip (.char 'a'))),
    (1, .act .restart), (0, .lastLength), (0, .rest)]

theorem serve_interleaving_sharedRun :
    ∃ s a b, empty.run sharedRun = some s ∧ 0 ≠ 1 ∧ s.scanner? 0 = some a ∧
      s.scanner? 1 = some b ∧ s.shares 0 1 ∧
      Interleaves 0 1 (part 0 sharedTurns) (part 1 sharedTurns) sharedTurns ∧
      ∃ log t logA sA, s.serve sharedTurns = some (log, t) ∧
        s.serve ((part 0 sharedTurns).map (0, ·)) = some (logA, sA) ∧
        withoutOutcome (part 0 log) = withoutOutcome (part 0 logA) := by
  have hrun : empty.run sharedRun = some ((empty.run sharedRun).getD empty) := by decide
  have h₀ : ((empty.run sharedRun).getD empty).scanner? 0 = some (.new "aé日".toList) := by decide
  have h₁ : ((empty.run sharedRun).getD empty).scanner? 1 = some (.new "aé日".toList) := by decide
  have hturns : Interleaves 0 1 (part 0 sharedTurns) (part 1 sharedTurns) sharedTurns :=
    .second (.first (.second (.first (.first .nil))))
  obtain ⟨logA, sA, _, _, halone, -, horder⟩ := serve_interleaving hrun (by decide) h₀ h₁ _ _
  obtain ⟨log, t, hserve, ⟨hlog, -⟩, -⟩ := horder sharedTurns hturns
  exact ⟨_, _, _, hrun, by decide, h₀, h₁, by decide, hturns, log, t, logA, sA, hserve, halone,
    hlog⟩

end Session

end TextScan
