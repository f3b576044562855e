import TextScan.Proofs.Consuming
import TextScan.Proofs.Guard
import TextScan.Proofs.Literal
import TextScan.Proofs.Locality

namespace TextScan

/-!
# Text that comes later

The text of a scanner can come in parts. What has been found in the parts that are there stands,
whatever comes later: the scanner would have found the same with all of the text before it.

* `Pattern.Keeps` says of a pattern that no later text takes a match back. Plain text is such a
  pattern, since no earlier occurrence can begin in front of the seam and end behind it.
* `Scanner.Stands` says that an operation of a scanner does the same before and after text is added.
* `Session.Commute` says that two operations of one scanner can be exchanged.
* `Session.append_commutes` is the result for all that runs arrive at.
-/

/-! ### Patterns -/

/-- A match that the pattern reports is reported too if the text goes on. -/
structure Pattern.Keeps (p : Pattern) : Prop where
  atStart : ∀ {t m}, p.atStart t = .ok (some m) → ∀ w, p.atStart (t ++ w) = .ok (some m)
  anywhere : ∀ {t m}, p.anywhere t = .ok (some m) → ∀ w, p.anywhere (t ++ w) = .ok (some m)

namespace Pattern

/-- What a text begins with stays its start, and the first occurrence the first one. -/
theorem literal_keeps (needle : Text) : (literal needle).Keeps where
  atStart h w := by
    obtain ⟨hbegins, hm⟩ := literal_atStart_eq_some_iff.1 h
    exact literal_atStart_eq_some_iff.2 ⟨hbegins.trans (List.prefix_append _ w), hm⟩
  anywhere h w := by
    obtain ⟨u, v, hfirst, hm⟩ := literal_anywhere_eq_some_iff.1 h
    exact literal_anywhere_eq_some_iff.2 ⟨u, v ++ w, hfirst.append w, hm⟩

theorem char_keeps (c : Char) : (char c).Keeps := char_eq_literal c ▸ literal_keeps [c]

theorem anyChar_keeps : anyChar.Keeps := by
  have hhead {t : Text} {m : Found} (h : t.head?.map (fun c => (⟨0, [c], []⟩ : Found)) = some m)
      (w : Text) : (t ++ w).head?.map (fun c => (⟨0, [c], []⟩ : Found)) = some m := by
    cases t with
    | nil => cases h
    | cons c t => exact h
  exact ⟨fun h w => congrArg Except.ok (hhead (Except.ok.inj h) w),
    fun h w => congrArg Except.ok (hhead (Except.ok.inj h) w)⟩

end Pattern

/-! ### Attempts -/

/-- A match that fits a text fits it if it goes on, and the same text is before it. -/
theorem Found.FitsIn.append {m : Found} {t : Text} (h : m.FitsIn t) (w : Text) :
    m.FitsIn (t ++ w) ∧ m.skipped (t ++ w) = m.skipped t := by
  obtain ⟨u, v, rfl, hstart, hstop⟩ := Text.slice?_eq_some_iff.1 h
  have hassoc : u ++ m.text ++ v ++ w = u ++ (m.text ++ (v ++ w)) := by
    simp only [List.append_assoc]
  refine ⟨Text.slice?_eq_some_iff.2 ⟨u, v ++ w, by rw [hassoc, List.append_assoc], hstart, hstop⟩,
    ?_⟩
  rw [hassoc, List.append_assoc, skipped_append hstart, skipped_append hstart]

namespace Attempt

variable {p : Pattern} {rest : Text} {how : Attempt} {m : Found}

theorem answer_append (hp : p.Keeps) (h : how.answer p rest = .ok (some m)) (w : Text) :
    how.answer p (rest ++ w) = .ok (some m) := by
  obtain ⟨hasked, hnear⟩ := answer_eq_some_iff.1 h
  refine answer_eq_some_iff.2 ⟨?_, hnear⟩
  cases how with
  | look | take | measure | skip => exact hp.atStart hasked w
  | lookThrough | takeThrough | locate | skipThrough => exact hp.anywhere hasked w

/-- **An attempt that succeeds** replies and records the same if the text goes on. -/
theorem reply_append (hp : p.Keeps) (h : (how.reply p rest).isSome) (w : Text) :
    how.reply p (rest ++ w) = how.reply p rest ∧
      how.outcome p (rest ++ w) = how.outcome p rest := by
  obtain ⟨m, ha, hfits⟩ := exists_fitsIn_of_isSome h
  have ha' := answer_append hp ha w
  obtain ⟨hfits', hskipped⟩ := hfits.append w
  have houtcome : how.outcome p (rest ++ w) = how.outcome p rest := by
    rw [outcome_of_fitsIn ha' hfits', outcome_of_fitsIn ha hfits, hskipped]
  refine ⟨?_, houtcome⟩
  rw [reply_of_fitsIn ha' hfits', reply_of_fitsIn ha hfits, hskipped, houtcome]

end Attempt

/-! ### Scanners -/

theorem Cursor.Aligned.rest_append {c : Cursor} (h : c.Aligned) (more : Text) :
    (c.append more).rest = c.rest ++ more := by
  obtain ⟨u, v, rfl⟩ := Cursor.aligned_iff.1 h
  rw [append_between, rest_between, rest_between]

/-- A position within the text is the same place in the longer text. -/
theorem Cursor.Aligned.moveTo_append {c : Cursor} (h : c.Aligned) {pos : Int} (hpos : pos ≤ c.charLen)
    (more : Text) : (c.append more).moveTo pos = (c.moveTo pos).append more := by
  obtain ⟨u, v, rfl⟩ := Cursor.aligned_iff.1 h
  have hle : pos.toNat ≤ (u ++ v).length := by
    rw [charLen_between] at hpos
    omega
  rw [append_between, moveTo_between, moveTo_between, append_between, ← List.append_assoc,
    List.take_append_of_le_length hle, List.drop_append_of_le_length hle]

/-- The operations that try plain text, and the one that takes a character. -/
inductive Action.Plain : Action → Prop
  | literal (how : Attempt) (needle : Text) : Plain (.attempt how (.literal needle))
  | char (how : Attempt) (c : Char) : Plain (.attempt how (.char c))
  | takeChar : Plain .takeChar

namespace Scanner

/-- What the operation does stands whether or not `more` has been added: it replies the same, and
    `more` is at the end of what it leaves. -/
def Stands (s : Scanner) (a : Action) (more : Text) : Prop :=
  (s.append more).act a = { s.act a with scanner := (s.act a).scanner.append more }

variable {s : Scanner} (h : s.toCursor.Aligned)
include h

theorem attempt_stands {p : Pattern} (hp : p.Keeps) {how : Attempt}
    (hsome : (s.act (.attempt how p)).result.isSome) (more : Text) :
    s.Stands (.attempt how p) more := by
  have hrest : (s.append more).rest = s.rest ++ more := h.rest_append more
  have hsome' : (how.reply p s.rest).isSome := by
    rw [← s.attempt_result p how]
    exact hsome
  obtain ⟨hreply, houtcome⟩ := Attempt.reply_append hp hsome' more
  -- What is passed and the events are made from the outcome alone.
  have hpassed : how.passed p (s.rest ++ more) = how.passed p s.rest := by
    rw [Attempt.passed, Attempt.passed, houtcome]
  have hevents (pos : Nat) : how.events p (s.rest ++ more) pos = how.events p s.rest pos := by
    rw [Attempt.events, Attempt.events, houtcome]
  rw [Stands, act_attempt, act_attempt, hrest, hreply, houtcome, hpassed, hevents]
  rfl

theorem stands_of_isSome {a : Action} (ha : a.Plain) (hsome : (s.act a).result.isSome)
    (more : Text) : s.Stands a more := by
  cases ha with
  | literal how needle => exact attempt_stands h (Pattern.literal_keeps needle) hsome more
  | char how c => exact attempt_stands h (Pattern.char_keeps c) hsome more
  | takeChar =>
    have hstands := attempt_stands h Pattern.anyChar_keeps (act_takeChar s ▸ hsome) more
    rwa [Stands, ← act_takeChar, ← act_takeChar] at hstands

theorem moveTo_stands {pos : Int} (hpos : pos ≤ s.charLen) (more : Text) :
    s.Stands (.moveTo pos) more := by
  have hcursor : (s.append more).toCursor.moveTo pos = (s.toCursor.moveTo pos).append more :=
    h.moveTo_append hpos more
  simp only [Stands, act, moveTo, Effect.map, hcursor]
  rfl

end Scanner

/-! ### Sessions -/

namespace Session

/-- Two operations of scanner number `i` can be exchanged: each replies and emits the same whether
    it comes first or second, and both orders leave the same session. -/
def Commute (s : Session) (i : Nat) (a b : Action) : Prop :=
  ∃ r r' es es' t t' u,
    s.step (.act i a) = some (r, t, es) ∧ t.step (.act i b) = some (r', u, es') ∧
    s.step (.act i b) = some (r', t', es') ∧ t'.step (.act i a) = some (r, u, es)

variable {s : Session} {i : Nat} {seat : Seat}

theorem Sound.commute_of_stands (hs : s.Sound) (h : s.seats[i]? = some seat) {a : Action}
    {more : Text} (hstands : (s.scannerAt seat).Stands a more) : s.Commute i a (.append more) := by
  have hact : ((s.scannerAt seat).act (.append more)).scanner.act a =
      { (s.scannerAt seat).act a with
        scanner := ((s.scannerAt seat).act a).scanner.append more } := hstands
  refine ⟨_, _, _, _, _, _, _, step_act_eq_put h a, hs.step_act_put h _ _, step_act_eq_put h _, ?_⟩
  rw [hs.step_act_put h, hact]
  rfl

/-- **Later text changes nothing that is settled.** Whatever a run has done, an attempt with plain
    text that tells a match, the taking of a character that is there, and a move to a position within
    the text can be exchanged with adding text: they reply the same, and cursor and outcome, with
    all else in the session, are the same in the end. -/
theorem append_commutes {cs : List Command} (hrun : empty.run cs = some s) {sc : Scanner}
    (hsc : s.scanner? i = some sc) (more : Text) :
    (∀ a : Action, a.Plain → (sc.act a).result.isSome → s.Commute i a (.append more)) ∧
      ∀ pos : Int, pos ≤ sc.charLen → s.Commute i (.moveTo pos) (.append more) := by
  have hs := run_sound empty_sound hrun
  obtain ⟨seat, hseat, rfl⟩ := scanner?_eq_some_iff.1 hsc
  have hal : (s.scannerAt seat).toCursor.Aligned := (hs.of_getElem? hseat).aligned
  refine ⟨fun a ha hsome => ?_, fun pos hpos => ?_⟩
  · exact hs.commute_of_stands hseat (Scanner.stands_of_isSome hal ha hsome more)
  · exact hs.commute_of_stands hseat (Scanner.moveTo_stands hal hpos more)

/-- Two scanners that share a slot stand behind the first character. -/
def seamRun : List Command := [.new "日aéaé".toList, .act 0 .takeChar, .share 0]

theorem append_commutes_seamRun :
    ∃ s sc, empty.run seamRun = some s ∧ s.scanner? 1 = some sc ∧
      (sc.act (.attempt .skipThrough (.literal "éa".toList))).result = .count (some 3) ∧
      s.Commute 1 (.attempt .skipThrough (.literal "éa".toList)) (.append "aßéa".toList) ∧
      (sc.act .takeChar).result = .text (some ['a']) ∧
      s.Commute 1 .takeChar (.append "aßéa".toList) ∧
      sc.charLen = 5 ∧ s.Commute 1 (.moveTo 5) (.append "aßéa".toList) := by
  have hrun : empty.run seamRun = some ((empty.run seamRun).getD empty) := by decide
  have hsc : ((empty.run seamRun).getD empty).scanner? 1 =
      some ⟨.between ['日'] "aéaé".toList, .success ['日'] []⟩ := by decide
  obtain ⟨hplain, hmove⟩ := append_commutes hrun hsc "aßéa".toList
  exact ⟨_, _, hrun, hsc, by decide, hplain _ (.literal .skipThrough _) (by decide), by decide,
    hplain _ .takeChar (by decide), rfl, hmove 5 (by decide)⟩

end Session

end TextScan
