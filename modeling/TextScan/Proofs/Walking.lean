import TextScan.Proofs.Consuming
import TextScan.Proofs.Locality
import TextScan.Proofs.Token

namespace TextScan

/-!
# Walking through the characters

The next `n` characters can be looked at, taken one by one, or jumped over. The three count in
different ways: on the rest, on from match to match, and from the start of the text. They name the
same place, also where fewer than `n` characters are left.

* `Text.oneByOne` are the replies of a walk, `Outcome.afterChars` is the outcome that it leaves.
* `Session.repeated` asks for an operation again and again.
* `Scanner.act_takeChar_eq` is one step of the walk, `Session.Sound.repeated_takeChar` the whole of
  it.
* `Session.takeChar_walks` is the result for all that runs arrive at.
-/

/-- The characters that a reply tells. -/
def Result.told : Result → Text
  | text (some t) => t
  | _ => []

/-- The outcome of taking a character, if there is one. -/
def Outcome.ofChar : Option Char → Outcome
  | some c => .success [c] []
  | none => .failure

/-- The outcome after `n` characters of `rest` have been asked for: that of the last one. -/
def Outcome.afterChars (o : Outcome) (rest : Text) : Nat → Outcome
  | 0 => o
  | n + 1 => .ofChar rest[n]?

namespace Text

/-- The replies if `n` characters of the text are asked for, one by one. -/
def oneByOne (t : Text) (n : Nat) : List Result :=
  (t.take n).map (fun c => .text (some [c])) ++ List.replicate (n - t.length) (.text none)

/-- The last reply is the character with that number. -/
theorem oneByOne_succ (t : Text) (n : Nat) :
    t.oneByOne (n + 1) = t.oneByOne n ++ [.text (t[n]?.map fun c => [c])] := by
  unfold oneByOne
  rw [List.take_add_one]
  by_cases hlt : n < t.length
  · -- No reply was empty so far, and the next one is none either.
    rw [List.getElem?_eq_getElem hlt, Nat.sub_eq_zero_of_le hlt,
      Nat.sub_eq_zero_of_le (Nat.le_of_lt hlt)]
    simp only [Option.toList_some, List.map_append, List.map_cons, List.map_nil,
      List.replicate_zero, List.append_nil, Option.map_some]
  · have hle := Nat.le_of_not_lt hlt
    rw [List.getElem?_eq_none hle, Nat.succ_sub hle, List.replicate_succ']
    simp

theorem flatMap_told_oneByOne (t : Text) (n : Nat) :
    (t.oneByOne n).flatMap Result.told = t.take n := by
  induction n with
  | zero => simp [oneByOne]
  | succ n ih =>
    rw [oneByOne_succ, List.flatMap_append, ih, List.take_add_one]
    cases t[n]? <;> rfl

end Text

/-- The number of characters that are left, as it is counted, is that of the rest. -/
theorem Cursor.Aligned.unread_eq {c : Cursor} (h : c.Aligned) : c.unread = c.rest.length := by
  obtain ⟨u, v, rfl⟩ := Cursor.aligned_iff.1 h
  rw [rest_between, unread_between]

/-- **One step.** What lies behind the cursor loses its first character, if it has one. -/
theorem Scanner.act_takeChar_eq (s : Scanner) :
    ∃ es, s.act .takeChar = ⟨.text (s.rest.head?.map fun c => [c]),
      ⟨s.toCursor.pass s.rest.head?.toList, .ofChar s.rest.head?⟩, es⟩ := by
  have houtcome := outcome_anyChar s.rest
  have hreply : Attempt.take.reply .anyChar s.rest = _ := Attempt.reply_take rfl
  rw [act_takeChar, act_attempt, Attempt.passed, hreply, houtcome]
  cases s.rest with
  | nil => exact ⟨_, rfl⟩
  | cons c w => exact ⟨_, rfl⟩

namespace Session

/-- Carries out an operation of scanner number `i` so many times. The result are the replies in order,
    and the session behind them. -/
def repeated (s : Session) (i : Nat) (a : Action) : Nat → Option (List Result × Session)
  | 0 => some ([], s)
  | n + 1 => (s.repeated i a n).bind fun (rs, t) =>
    (t.step (.act i a)).map fun (r, u, _) => (rs ++ [r], u)

variable {s : Session} {i : Nat} {seat : Seat}

theorem repeated_succ {t u : Session} {a : Action} {n : Nat} {r : Result} {rs : List Result}
    {es : List Event} (h : s.repeated i a n = some (rs, t))
    (hstep : t.step (.act i a) = some (r, u, es)) :
    s.repeated i a (n + 1) = some (rs ++ [r], u) := by
  simp only [repeated, h, Option.bind_some, hstep, Option.map_some]

/-- **The walk.** Calls that take a character tell the characters of the rest, as far as there are
    any, and move over them. -/
theorem Sound.repeated_takeChar (hs : s.Sound) (h : s.seats[i]? = some seat) {sc : Scanner}
    (hsc : s.scannerAt seat = sc) (n : Nat) :
    s.repeated i .takeChar n = some (sc.rest.oneByOne n,
      s.put i seat ⟨sc.toCursor.pass (sc.rest.take n), sc.outcome.afterChars sc.rest n⟩) := by
  have hal : sc.toCursor.Aligned := hsc ▸ (hs.of_getElem? h).aligned
  induction n with
  | zero =>
    rw [repeated, Outcome.afterChars, List.take_zero, Cursor.pass_nil, ← hsc, hs.put_self h]
    simp [Text.oneByOne]
  | succ n ih =>
    -- Behind the first `n` characters, the next one is number `n` of the rest.
    have hrest : (sc.toCursor.pass (sc.rest.take n)).rest = sc.rest.drop n :=
      (hal.pass (List.take_append_drop n sc.rest).symm).2
    obtain ⟨es, hact⟩ := Scanner.act_takeChar_eq
      ⟨sc.toCursor.pass (sc.rest.take n), sc.outcome.afterChars sc.rest n⟩
    rw [hrest, List.head?_drop, ← Cursor.pass_append, ← List.take_add_one] at hact
    rw [repeated_succ ih (hs.step_act_put h _ _), hact, Text.oneByOne_succ]
    rfl

/-- **Walking, looking and jumping agree.** Whatever a run has done, let `r` characters be left. What
    is seen of the next `n` are the first `min n r` of the rest. `n` calls that take a character
    reply these one by one, and that there is none from then on. After them the cursor is, with its
    bytes, where moving it by `min n r` puts it. The outcome is that of the last call: the last
    character that was taken, or none if there was a call too many. -/
theorem takeChar_walks {cs : List Command} (hrun : empty.run cs = some s) {sc : Scanner}
    (hsc : s.scanner? i = some sc) (n : Nat) :
    sc.peek n = sc.rest.take (min n sc.unread) ∧
    ∃ (replies : List Result) (t : Session) (sc' : Scanner),
      s.repeated i .takeChar n = some (replies, t) ∧ t.scanner? i = some sc' ∧
      replies = (sc.peek n).map (fun c => .text (some [c])) ++
        List.replicate (n - sc.unread) (.text none) ∧
      replies.flatMap Result.told = sc.peek n ∧
      sc'.toCursor =
        (sc.act (.moveTo (sc.pos + min n sc.unread : Nat))).scanner.toCursor ∧
      (1 ≤ n → n ≤ sc.unread →
        ∃ c, (sc.peek n).getLast? = some c ∧ sc'.outcome = .success [c] []) ∧
      (sc.unread < n → sc'.outcome = .failure) := by
  have hs := run_sound empty_sound hrun
  obtain ⟨seat, hseat, hscanner⟩ := scanner?_eq_some_iff.1 hsc
  have hal : sc.toCursor.Aligned := hscanner ▸ (hs.of_getElem? hseat).aligned
  rw [hal.unread_eq]
  refine ⟨List.take_eq_take_min, _, _, _, hs.repeated_takeChar hseat hscanner n,
    hs.scanner?_put hseat _, rfl, Text.flatMap_told_oneByOne _ _, ?_, ?_, ?_⟩
  · show sc.toCursor.pass (sc.rest.take n) = sc.toCursor.moveTo _
    rw [hal.pass_eq_moveTo (List.take_prefix n sc.rest), List.length_take, Int.natCast_add]
  · intro hpos hle
    obtain ⟨k, rfl⟩ := Nat.exists_eq_add_one.2 hpos
    refine ⟨sc.rest[k], ?_, ?_⟩
    · rw [Cursor.peek, List.getLast?_take, if_neg (Nat.succ_ne_zero k), Nat.add_sub_cancel,
        List.getElem?_eq_getElem hle, Option.some_or]
    · show Outcome.ofChar sc.rest[k]? = _
      rw [List.getElem?_eq_getElem hle]
      rfl
  · intro hlt
    obtain ⟨k, rfl⟩ := Nat.exists_eq_add_one.2 (Nat.zero_lt_of_lt hlt)
    show Outcome.ofChar sc.rest[k]? = _
    rw [List.getElem?_eq_none (Nat.le_of_lt_succ hlt)]
    rfl

/-- Two scanners that share a slot stand before characters of one to four bytes. -/
def stairsRun : List Command := [.new "日aé€𝄞".toList, .act 0 .takeChar, .share 0]

theorem takeChar_walks_stairsRun :
    ∃ s sc, empty.run stairsRun = some s ∧ s.scanner? 1 = some sc ∧ sc.unread = 4 ∧
      (∃ replies t sc', s.repeated 1 .takeChar 3 = some (replies, t) ∧ t.scanner? 1 = some sc' ∧
        replies.flatMap Result.told = "aé€".toList ∧ sc'.outcome = .success ['€'] [] ∧
        sc'.toCursor = .between "日aé€".toList ['𝄞']) ∧
      ∃ replies t sc', s.repeated 1 .takeChar 6 = some (replies, t) ∧ t.scanner? 1 = some sc' ∧
        replies = "aé€𝄞".toList.map (fun c => .text (some [c])) ++
          [.text none, .text none] ∧ sc'.outcome = .failure := by
  have hrun : empty.run stairsRun = some ((empty.run stairsRun).getD empty) := by decide
  have hsc : ((empty.run stairsRun).getD empty).scanner? 1 =
      some ⟨.between ['日'] "aé€𝄞".toList, .success ['日'] []⟩ := by decide
  obtain ⟨-, replies, t, sc', hrepeated, hsc', -, htold, hcursor, hlast, -⟩ :=
    takeChar_walks hrun hsc 3
  obtain ⟨-, replies', t', sc'', hrepeated', hsc'', hreplies, -, -, -, hnone⟩ :=
    takeChar_walks hrun hsc 6
  obtain ⟨c, hc, houtcome⟩ := hlast (by decide) (by decide)
  obtain rfl : '€' = c := Option.some.inj hc
  exact ⟨_, _, hrun, hsc, rfl, ⟨replies, t, sc', hrepeated, hsc', htold, houtcome, hcursor⟩,
    replies', t', sc'', hrepeated', hsc'', hreplies, hnone (by decide)⟩

end Session

end TextScan
