import TextScan.Outcome.Json
import TextScan.Proofs.Failure
import TextScan.Proofs.Session

namespace TextScan

/-!
# Outcomes without a match

Where there is no match there is nothing to capture. All outcomes that are made here keep to that:
those that are made by hand, and those that any run leaves in its scanners. They keep to it when
they are written as JSON and read again. What others write need not, and it is read as it stands.

* `Outcome.Clean` says that an outcome has no captures without a match, `Outcome.clean_iff` that it
  has no match only if it is the one without a match.
* `Outcome.Made` are the outcomes that are made here.
* `Scanner.act_clean` and `Session.step_clean` are the steps, `Session.run_clean` is the result for
  runs.
* `Outcome.ofJson_toJson` says that what is written is read. `Json.capturesAlone` tells which values
  have captures without a match, `Outcome.clean_iff_of_ofJson` that these are read as such.
* `Outcome.isSuccess_eq_false_iff` puts it together.
-/

namespace Outcome

/-- Without a match there are no captures. -/
def Clean (o : Outcome) : Prop := o.text = none → o.captures = []

theorem failure_clean : failure.Clean := fun _ => rfl

theorem success_clean (t : Text) (cs : List (Option Text)) : (success t cs).Clean :=
  fun h => by cases h

/-- To have no captures without a match is to be `failure` exactly if there is no match. -/
theorem clean_iff {o : Outcome} : o.Clean ↔ (o.isSuccess = false ↔ o = failure) := by
  obtain ⟨text, captures⟩ := o
  cases text <;> simp [Clean, isSuccess, failure]

end Outcome

/-! ### Outcomes of scanners -/

namespace Scanner

theorem outcomeIn_clean (rest : Text) (fromCursor : Bool) (m : Found) :
    (outcomeIn rest fromCursor m).Clean := by
  by_cases hfits : m.FitsIn rest
  · rw [outcomeIn_of_fitsIn hfits]
    exact Outcome.success_clean _ _
  · rw [outcomeIn_of_not_fitsIn hfits]
    exact Outcome.failure_clean

theorem attempt_clean (s : Scanner) (p : Pattern) (how : Attempt) :
    (s.attempt p how).scanner.outcome.Clean := by
  rw [attempt_outcome, Attempt.outcome]
  cases how.answer p s.rest with
  | error e => exact Outcome.failure_clean
  | ok found =>
    cases found with
    | none => exact Outcome.failure_clean
    | some m => exact outcomeIn_clean s.rest how.fromCursor m

/-- No operation leaves captures without a match. -/
theorem act_clean {s : Scanner} (h : s.outcome.Clean) (a : Action) :
    (s.act a).scanner.outcome.Clean := by
  cases a with
  | attempt how p => exact s.attempt_clean p how
  | takeChar => exact s.attempt_clean .anyChar .take
  | moveTo _ | append _ => exact h
  | restart | finish => exact Outcome.failure_clean

end Scanner

namespace Session

/-- No slot holds captures without a match. -/
def Clean (s : Session) : Prop := ∀ o ∈ s.slots, o.Clean

variable {s t : Session}

theorem Clean.outcomeIn (h : s.Clean) (slot : Nat) : (s.outcomeIn slot).Clean := by
  unfold Session.outcomeIn
  rw [List.getD_eq_getElem?_getD]
  cases hslot : s.slots[slot]? with
  | none => exact Outcome.failure_clean
  | some o => exact h o (List.mem_of_getElem? hslot)

theorem Clean.append (h : s.Clean) {o : Outcome} (ho : o.Clean) (seats : List Seat) :
    Clean ⟨seats, s.slots ++ [o]⟩ :=
  List.forall_mem_append.2 ⟨h, List.forall_mem_singleton.2 ho⟩

/-- No step leaves captures without a match. -/
theorem step_clean {c : Command} {r : Result} {es : List Event} (hs : s.Clean)
    (h : s.step c = some (r, t, es)) : t.Clean := by
  obtain ⟨text, -, rfl⟩ | ⟨i, a, seat, -, -, -, -, rfl⟩ | ⟨i, seat, -, -, rfl⟩ |
    ⟨i, seat, -, -, rfl⟩ | ⟨i, seat, -, -, rfl⟩ := step_cases h
  · exact hs.append Outcome.failure_clean _
  · intro o ho
    rcases List.mem_or_eq_of_mem_set ho with ho | rfl
    · exact hs o ho
    · exact Scanner.act_clean (s := s.scannerAt seat) (hs.outcomeIn seat.slot) a
  · exact hs
  · exact hs.append (hs.outcomeIn seat.slot) _
  · exact hs.append (hs.outcomeIn seat.slot) _

/-- No run leaves captures without a match. -/
theorem run_clean {cs : List Command} (hs : s.Clean) (h : s.run cs = some t) : t.Clean := by
  induction cs generalizing s with
  | nil => exact Option.some.inj h ▸ hs
  | cons c cs ih =>
    obtain ⟨⟨r, u, es⟩, hstep, hrun⟩ := Option.bind_eq_some_iff.1 h
    exact ih (step_clean hs hstep) hrun

theorem Clean.scanner (h : s.Clean) {sc : Scanner} (hsc : sc ∈ s.scanners) :
    sc.outcome.Clean := by
  obtain ⟨seat, -, rfl⟩ := List.mem_map.1 hsc
  exact h.outcomeIn seat.slot

end Session

namespace Outcome

/-- The outcomes that are made here: by hand, by giving one up, and by any run in any of its
    scanners. -/
inductive Made : Outcome → Prop
  | failure : Made failure
  | default : Made default
  | success (t : Text) (cs : List (Option Text)) : Made (success t cs)
  | clear (o : Outcome) : Made o.clear
  | scanner {cs : List Command} {s : Session} {sc : Scanner} :
      Session.empty.run cs = some s → sc ∈ s.scanners → Made sc.outcome

theorem Made.clean {o : Outcome} (h : o.Made) : o.Clean := by
  cases h with
  | failure | default | clear => exact failure_clean
  | success t cs => exact success_clean t cs
  | scanner hrun hsc =>
    have hempty : Session.empty.Clean := fun _ h => absurd h List.not_mem_nil
    exact (Session.run_clean hempty hrun).scanner hsc

end Outcome

/-! ### Outcomes as JSON -/

namespace Json

variable {v : Json}

/-- Whether the value is null. -/
def isNull : Json → Bool
  | null => true
  | _ => false

/-- Whether the value is an array with items. -/
def hasItems : Json → Bool
  | arr (_ :: _) => true
  | _ => false

/-- Whether the value has captures where an outcome has them, and no text. -/
def capturesAlone : Json → Bool
  | obj fields =>
    (fields.lookup "text".toList).all isNull && (fields.lookup "captures".toList).any hasItems
  | arr (t :: c :: _) => t.isNull && c.hasItems
  | _ => false

theorem toOptionText_eq_none_iff {t : Option Text} (h : v.toOptionText = .ok t) :
    t = none ↔ v.isNull := by
  cases v with
  | null =>
    obtain rfl := Except.ok.inj h
    simp [isNull]
  | str s =>
    obtain rfl := Except.ok.inj h
    simp [isNull]
  | bool | int | float | arr | obj => cases h

theorem toCaptures_eq_nil_iff {cs : List (Option Text)} (h : v.toCaptures = .ok cs) :
    cs = [] ↔ v.hasItems = false := by
  match v, h with
  | arr [], h =>
    obtain rfl := Except.ok.inj h
    simp [hasItems]
  | arr (item :: items), h =>
    rw [toCaptures, List.mapM_cons] at h
    obtain ⟨c, -, h⟩ := exists_of_bind_eq_ok h
    obtain ⟨more, -, h⟩ := exists_of_bind_eq_ok h
    obtain rfl := Except.ok.inj h
    simp [hasItems]

/-- What is written for a text that may be missing is read as such. -/
theorem toOptionText_ofOption (t : Option Text) : (ofOption t).toOptionText = .ok t := by
  cases t <;> rfl

theorem toCaptures_ofOptions (cs : List (Option Text)) :
    (arr (cs.map ofOption)).toCaptures = .ok cs := by
  rw [toCaptures]
  induction cs with
  | nil => rfl
  | cons c cs ih =>
    rw [List.map_cons, List.mapM_cons, ih, toOptionText_ofOption]
    rfl

end Json

namespace Outcome

/-- What is written is read. -/
theorem ofJson_toJson (o : Outcome) : ofJson o.toJson = .ok o := by
  have htext : [("text".toList, Json.ofOption o.text),
      ("captures".toList, .arr (o.captures.map .ofOption))].lookup "text".toList =
        some (Json.ofOption o.text) := rfl
  have hcaptures : [("text".toList, Json.ofOption o.text),
      ("captures".toList, .arr (o.captures.map .ofOption))].lookup "captures".toList =
        some (Json.arr (o.captures.map .ofOption)) := rfl
  rw [toJson, ofJson, htext, hcaptures]
  simp only [Option.mapM_some, Json.toCaptures_ofOptions, Json.toOptionText_ofOption]
  rfl

variable {v : Json} {o : Outcome}

/-- An outcome is read from an object with captures, whose text may be missing, or from an array of
    the two values. -/
theorem ofJson_cases (h : ofJson v = .ok o) :
    (∃ fields c, v = .obj fields ∧ fields.lookup "captures".toList = some c ∧
      c.toCaptures = .ok o.captures ∧
      ((fields.lookup "text".toList = none ∧ o.text = none) ∨
        ∃ t, fields.lookup "text".toList = some t ∧ t.toOptionText = .ok o.text)) ∨
    ∃ t c, v = .arr [t, c] ∧ t.toOptionText = .ok o.text ∧ c.toCaptures = .ok o.captures := by
  match v, h with
  | .obj fields, h =>
    rw [ofJson] at h
    obtain ⟨captures, hcaptures, h⟩ := exists_of_bind_eq_ok h
    obtain ⟨text, htext, h⟩ := exists_of_bind_eq_ok h
    cases hc : fields.lookup "captures".toList with
    | none =>
      -- Captures that are missing are refused, whatever the text is.
      rw [hc] at hcaptures
      obtain rfl := Except.ok.inj hcaptures
      cases h
    | some c =>
      rw [hc] at hcaptures
      obtain ⟨cs, hcs, hsome⟩ := exists_of_bind_eq_ok hcaptures
      obtain rfl := Except.ok.inj hsome
      obtain rfl := Except.ok.inj h
      refine .inl ⟨fields, c, rfl, hc, hcs, ?_⟩
      cases ht : fields.lookup "text".toList with
      | none =>
        rw [ht] at htext
        obtain rfl := Except.ok.inj htext
        exact .inl ⟨rfl, rfl⟩
      | some t =>
        rw [ht] at htext
        obtain ⟨found, hfound, hsome⟩ := exists_of_bind_eq_ok htext
        obtain rfl := Except.ok.inj hsome
        exact .inr ⟨t, rfl, hfound⟩
  | .arr [t, c], h =>
    rw [ofJson] at h
    obtain ⟨text, htext, h⟩ := exists_of_bind_eq_ok h
    obtain ⟨captures, hcaptures, h⟩ := exists_of_bind_eq_ok h
    obtain rfl := Except.ok.inj h
    exact .inr ⟨t, c, rfl, htext, hcaptures⟩
  | .arr (t :: c :: d :: more), h =>
    rw [ofJson] at h
    obtain ⟨text, -, h⟩ := exists_of_bind_eq_ok h
    obtain ⟨captures, -, h⟩ := exists_of_bind_eq_ok h
    cases h
  | .arr [t], h =>
    rw [ofJson] at h
    obtain ⟨text, -, h⟩ := exists_of_bind_eq_ok h
    cases h

/-- What is read has captures without a match exactly if the value has. -/
theorem clean_iff_of_ofJson (h : ofJson v = .ok o) : o.Clean ↔ v.capturesAlone = false := by
  have hclean : o.Clean ↔ ¬ (o.text = none ∧ o.captures ≠ []) := by
    rw [Clean, not_and, Decidable.not_not]
  rw [hclean, ← Bool.not_eq_true]
  refine not_congr ?_
  obtain ⟨fields, c, rfl, hc, hcaptures, htext⟩ | ⟨t, c, rfl, htext, hcaptures⟩ := ofJson_cases h
  · rw [Json.capturesAlone, hc, Bool.and_eq_true, Option.any_some, Ne,
      Json.toCaptures_eq_nil_iff hcaptures, Bool.not_eq_false]
    refine and_congr_left fun _ => ?_
    obtain ⟨ht, hnone⟩ | ⟨t, ht, hread⟩ := htext
    · rw [ht, Option.all_none]
      exact iff_of_true hnone rfl
    · rw [ht, Option.all_some, Json.toOptionText_eq_none_iff hread]
  · rw [Json.capturesAlone, Bool.and_eq_true, Ne, Json.toCaptures_eq_nil_iff hcaptures,
      Bool.not_eq_false, Json.toOptionText_eq_none_iff htext]

/-! ### Where there is no match -/

/-- A value with captures and without a text, as others may send it. -/
def sentAlone : Json := .obj [("captures".toList, .arr [.str ['x']]), ("text".toList, .null)]

/-- What is read from the value has no match and no length, but it is not the outcome without a
    match, since it has a capture. -/
theorem ofJson_sentAlone : ∃ o, ofJson sentAlone = .ok o ∧ o.isSuccess = false ∧
    o.length? = none ∧ o.captures = [some ['x']] ∧ o ≠ failure :=
  ⟨⟨none, [some ['x']]⟩, rfl, rfl, rfl, rfl, by decide⟩

/-- **Where there is no match there are no captures.** An outcome that is made here has no match
    exactly if it is the outcome without one. When it is written and read again it is the same. An
    outcome that is read from a value keeps to the rule exactly if the value does not have captures
    and no text. -/
theorem isSuccess_eq_false_iff (o : Outcome) :
    (o.Made → (o.isSuccess = false ↔ o = failure) ∧ ofJson o.toJson = .ok o) ∧
    ∀ v : Json, ofJson v = .ok o →
      ((o.isSuccess = false ↔ o = failure) ↔ v.capturesAlone = false) := by
  refine ⟨fun ho => ⟨clean_iff.1 ho.clean, o.ofJson_toJson⟩, fun v h => ?_⟩
  rw [← clean_iff]
  exact clean_iff_of_ofJson h

theorem isSuccess_eq_false_iff_hostileRun :
    (∃ s, Session.empty.run Session.hostileRun = some s ∧ s.scanners.length = 3 ∧
      ∀ sc ∈ s.scanners, sc.outcome.isSuccess = false ↔ sc.outcome = failure) ∧
    ∃ o, ofJson sentAlone = .ok o ∧ ¬ (o.isSuccess = false ↔ o = failure) := by
  have hrun : Session.empty.run Session.hostileRun =
      some ((Session.empty.run Session.hostileRun).getD Session.empty) := by decide
  have hsent : ofJson sentAlone = .ok ⟨none, [some ['x']]⟩ := rfl
  refine ⟨⟨_, hrun, by decide, fun sc hsc => ?_⟩, _, hsent, fun h => ?_⟩
  · exact ((isSuccess_eq_false_iff sc.outcome).1 (.scanner hrun hsc)).1
  · cases ((isSuccess_eq_false_iff _).2 sentAlone hsent).1 h

end Outcome

end TextScan
