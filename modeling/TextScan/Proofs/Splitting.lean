import TextScan.Proofs.Consuming
import TextScan.Proofs.Guard
import TextScan.Proofs.Literal

namespace TextScan

/-!
# Splitting at a delimiter

A scanner that takes its text through a delimiter, again and again, takes it apart into pieces that
end in the delimiter. The pieces are those that one expects also where occurrences of the delimiter
overlap: each is as short as it can be.

* `Text.EndsOnlyIn` says what a piece is, `Text.Splits` how a text falls into pieces and a rest.
  By `Text.exists_splits` every text does.
* `Pattern.Delimits` are the patterns that look for a delimiter.
* `Session.untilNone` is the loop. By `Session.Sound.untilNone_takeThrough` it gives the pieces, by
  `Session.untilNone_counts` their lengths if it only skips.
* `Session.takeThrough_splits` is the result for all that runs arrive at.
-/

namespace Text

/-- The piece ends in the delimiter, which occurs nowhere else in it, not even where it overlaps with
    the end. -/
structure EndsOnlyIn (piece d : Text) : Prop where
  ends : d <:+ piece
  nowhereElse : ∀ u v, piece = u ++ (d ++ v) → v = []

/-- The delimiter splits a text into pieces and a rest: the text is cut behind the first occurrence,
    and so is what follows, as long as there is one. -/
inductive Splits (d : Text) : Text → List Text → Text → Prop
  | rest {w : Text} : ¬ d <:+: w → Splits d w [] w
  | piece {t u v w : Text} {pieces : List Text} :
      d.FirstIn t u v → Splits d v pieces w → Splits d t ((u ++ d) :: pieces) w

variable {d t u v w : Text} {pieces : List Text}

/-- Up to a first occurrence, the text ends in it only. -/
theorem FirstIn.endsOnlyIn (h : d.FirstIn t u v) : (u ++ d).EndsOnlyIn d := by
  refine ⟨List.suffix_append u d, fun u' v' hpiece => ?_⟩
  -- Another occurrence would be one in the whole text, and begin before the first one.
  have hle : u.length ≤ u'.length := by
    refine h.least u' (v' ++ v) ?_
    rw [h.eq_append, ← List.append_assoc, hpiece]
    simp only [List.append_assoc]
  have hlen := congrArg List.length hpiece
  simp only [List.length_append] at hlen
  exact List.eq_nil_of_length_eq_zero (by omega)

/-- Behind a delimiter less is left. -/
theorem FirstIn.length_lt (h : d.FirstIn t u v) (hd : d ≠ []) : v.length < t.length := by
  have hpos := List.length_pos_iff.2 hd
  rw [h.eq_append, List.length_append, List.length_append]
  omega

theorem exists_splits (hd : d ≠ []) (t : Text) : ∃ pieces w, d.Splits t pieces w := by
  by_cases hinfix : d <:+: t
  · obtain ⟨u, v, hfirst⟩ := Pattern.exists_firstIn hinfix
    have hlt := hfirst.length_lt hd
    obtain ⟨pieces, w, hsplits⟩ := exists_splits hd v
    exact ⟨_, w, .piece hfirst hsplits⟩
  · exact ⟨[], t, .rest hinfix⟩
termination_by t.length

namespace Splits

/-- Nothing is lost and nothing is taken twice. -/
theorem flatten_append (h : d.Splits t pieces w) : pieces.flatten ++ w = t := by
  induction h with
  | rest => rfl
  | piece hfirst _ ih => rw [List.flatten_cons, List.append_assoc, ih, hfirst.eq_append,
      List.append_assoc]

theorem endsOnlyIn (h : d.Splits t pieces w) : ∀ piece ∈ pieces, piece.EndsOnlyIn d := by
  induction h with
  | rest => exact fun _ hpiece => absurd hpiece List.not_mem_nil
  | piece hfirst _ ih => exact List.forall_mem_cons.2 ⟨hfirst.endsOnlyIn, ih⟩

theorem not_infix (h : d.Splits t pieces w) : ¬ d <:+: w := by
  induction h with
  | rest hnot => exact hnot
  | piece _ _ ih => exact ih

/-- There are no more pieces than characters. -/
theorem length_le (h : d.Splits t pieces w) (hd : d ≠ []) : pieces.length ≤ t.length := by
  induction h with
  | rest => exact Nat.zero_le _
  | piece hfirst _ ih =>
    have hlt := hfirst.length_lt hd
    rw [List.length_cons]
    omega

end Splits

end Text

/-! ### Delimiters -/

/-- The pattern looks for a delimiter, which is a text that is not empty, or a character. -/
inductive Pattern.Delimits : Text → Pattern → Prop
  | literal {d : Text} : d ≠ [] → Delimits d (.literal d)
  | char (c : Char) : Delimits [c] (.char c)

theorem Pattern.Delimits.eq_literal {d : Text} {p : Pattern} (h : p.Delimits d) :
    d ≠ [] ∧ p = .literal d := by
  cases h with
  | literal hd => exact ⟨hd, rfl⟩
  | char c => exact ⟨List.cons_ne_nil c [], Pattern.char_eq_literal c⟩

theorem Result.isNone_counted (r : Result) : r.counted.isNone = r.isNone := by
  cases r with
  | text t => cases t <;> rfl
  | count | failed | position | done => rfl

namespace Scanner

variable {s : Scanner} {d u v : Text}

/-- Taking a text through a delimiter takes it up to the end of the first occurrence. -/
theorem act_takeThrough_of_firstIn (h : d.FirstIn s.rest u v) (hheld : s.rest.Held) :
    ∃ es, s.act (.attempt .takeThrough (.literal d)) =
      ⟨.text (some (u ++ d)), ⟨s.toCursor.pass (u ++ d), .success (u ++ d) []⟩, es⟩ := by
  have hfound : (Pattern.literal d).anywhere s.rest = .ok (some ⟨u.byteSize, d, []⟩) :=
    Pattern.literal_anywhere_eq_some_iff.2 ⟨u, v, h, rfl⟩
  have hhits : Attempt.takeThrough.Hits (.literal d) s.rest u ⟨u.byteSize, d, []⟩ v :=
    ⟨hfound, .inl rfl, h.eq_append, rfl⟩
  rw [act_attempt, Attempt.passed, hhits.reply_eq hheld, hhits.outcome_eq hheld]
  exact ⟨_, rfl⟩

/-- Without a delimiter nothing is taken. -/
theorem act_takeThrough_of_not_infix (h : ¬ d <:+: s.rest) :
    ∃ es, s.act (.attempt .takeThrough (.literal d)) =
      ⟨.text none, ⟨s.toCursor, .failure⟩, es⟩ := by
  have hnone : Attempt.takeThrough.answer (.literal d) s.rest = .ok none :=
    Pattern.literal_anywhere_eq_none_iff.2 h
  rw [act_attempt, Attempt.passed, Attempt.reply, Attempt.outcome, hnone]
  exact ⟨_, rfl⟩

end Scanner

/-! ### The loop -/

namespace Session

/-- Carries out an operation of scanner number `i` until it replies that there is nothing, at most
    `n` times. The result are the replies before that, and the session behind them. -/
def untilNone (s : Session) (i : Nat) (a : Action) : Nat → Option (List Result × Session)
  | 0 => none
  | n + 1 => (s.step (.act i a)).bind fun (r, t, _) =>
    if r.isNone then some ([], t) else (t.untilNone i a n).map fun (rs, u) => (r :: rs, u)

variable {s : Session} {i : Nat} {seat : Seat}

theorem untilNone_succ {a : Action} {r : Result} {t : Session} {es : List Event}
    (h : s.step (.act i a) = some (r, t, es)) (n : Nat) :
    s.untilNone i a (n + 1) =
      if r.isNone then some ([], t) else (t.untilNone i a n).map fun q => (r :: q.1, q.2) := by
  rw [untilNone, h, Option.bind_some]

/-- The loop gives the lengths of the texts if the operation tells lengths in their place. -/
theorem untilNone_counts {how how' : Attempt} (hhow : Attempt.Counts how how') (s : Session)
    (i : Nat) (p : Pattern) (n : Nat) :
    s.untilNone i (.attempt how' p) n =
      (s.untilNone i (.attempt how p) n).map fun q => (q.1.map Result.counted, q.2) := by
  induction n generalizing s with
  | zero => rfl
  | succ n ih =>
    cases hseat : s.seats[i]? with
    | none => simp [untilNone, step, act, hseat]
    | some seat =>
      obtain ⟨r, t, es, hstep, hstep'⟩ := step_counts hseat hhow p
      rw [untilNone_succ hstep, untilNone_succ hstep', Result.isNone_counted, ih t]
      cases r.isNone with
      | true => rfl
      | false => simp [Function.comp_def]

/-- **The loop.** From a scanner whose rest falls into pieces, the loop gives the pieces and stands
    behind them, with one turn more than there are pieces. -/
theorem Sound.untilNone_takeThrough (hs : s.Sound) (h : s.seats[i]? = some seat) {d t w : Text}
    {pieces : List Text} (hsplits : d.Splits t pieces w) {sc : Scanner} (hal : sc.toCursor.Aligned)
    (hrest : sc.rest = t) (hheld : t.Held) {n : Nat} (hn : pieces.length < n) :
    (s.put i seat sc).untilNone i (.attempt .takeThrough (.literal d)) n =
      some (pieces.map fun piece => .text (some piece),
        s.put i seat ⟨sc.toCursor.pass pieces.flatten, .failure⟩) := by
  -- The induction follows the pieces, with any scanner that has them before it.
  induction hsplits generalizing sc n with
  | rest hnot =>
    obtain ⟨n, rfl⟩ := Nat.exists_eq_add_one.2 hn
    obtain ⟨es, hact⟩ := Scanner.act_takeThrough_of_not_infix (hrest ▸ hnot)
    rw [untilNone_succ (hs.step_act_put h _ _), hact]
    rfl
  | @piece t u v w pieces hfirst _ ih =>
    obtain ⟨n, rfl⟩ := Nat.exists_eq_add_one.2 (Nat.zero_lt_of_lt hn)
    subst hrest
    obtain ⟨es, hact⟩ := Scanner.act_takeThrough_of_firstIn hfirst hheld
    obtain ⟨hal', hrest'⟩ := hal.pass (m := u ++ d) (v := v) (by
      rw [hfirst.eq_append, List.append_assoc])
    rw [hfirst.eq_append] at hheld
    have hloop := @ih ⟨sc.toCursor.pass (u ++ d), .success (u ++ d) []⟩ hal' hrest'
      hheld.right.right n (Nat.lt_of_succ_lt_succ hn)
    rw [untilNone_succ (hs.step_act_put h _ _), hact, hloop, List.flatten_cons,
      Cursor.pass_append sc.toCursor (u ++ d)]
    rfl

/-- **Splitting at a delimiter.** Whatever a run has done, taking the text through a delimiter until
    there is none comes to an end, after no more turns than there are characters and one. The texts
    that are taken and the rest that is left are the rest at
    the start, in order. Each of them ends in the delimiter and has no other occurrence of it, not
    even an overlapping one, and there is none in what is left. The cursor has moved by their
    characters. If the text is skipped in the same way, the lengths that are told add up to that. -/
theorem takeThrough_splits {cs : List Command} (hrun : empty.run cs = some s) {sc : Scanner}
    (hsc : s.scanner? i = some sc) (hheld : sc.text.Held) {d : Text} {p : Pattern}
    (hp : p.Delimits d) :
    ∃ (pieces : List Text) (lengths : List Nat) (t : Session) (sc' : Scanner),
      pieces.length ≤ sc.rest.length ∧
      (∀ n, pieces.length < n →
        s.untilNone i (.attempt .takeThrough p) n =
          some (pieces.map fun piece => .text (some piece), t) ∧
        s.untilNone i (.attempt .skipThrough p) n =
          some (lengths.map fun k => .count (some k), t)) ∧
      t.scanner? i = some sc' ∧ sc'.text = sc.text ∧ pieces.flatten ++ sc'.rest = sc.rest ∧
      (∀ piece ∈ pieces, piece.EndsOnlyIn d) ∧ ¬ d <:+: sc'.rest ∧
      sc'.pos = sc.pos + pieces.flatten.length ∧
      lengths.foldr (· + ·) 0 = pieces.flatten.length := by
  have hs := run_sound empty_sound hrun
  obtain ⟨seat, hseat, rfl⟩ := scanner?_eq_some_iff.1 hsc
  have hal : (s.scannerAt seat).toCursor.Aligned := (hs.of_getElem? hseat).aligned
  obtain ⟨hd, rfl⟩ := hp.eq_literal
  obtain ⟨pieces, w, hsplits⟩ := Text.exists_splits hd (s.scannerAt seat).rest
  have hrest' := (hal.pass hsplits.flatten_append.symm).2
  have hloop {n : Nat} (hn : pieces.length < n) :=
    hs.untilNone_takeThrough hseat hsplits hal rfl (hal.rest_held hheld) hn
  rw [hs.put_self hseat] at hloop
  refine ⟨pieces, pieces.map List.length, _, _, hsplits.length_le hd, fun n hn => ⟨hloop hn, ?_⟩,
    hs.scanner?_put hseat _, rfl, ?_, hsplits.endsOnlyIn, ?_, rfl, List.length_flatten.symm⟩
  · rw [untilNone_counts .skipThrough, hloop hn]
    simp [Result.counted, Function.comp_def]
  · rw [hrest']
    exact hsplits.flatten_append
  · rw [hrest']
    exact hsplits.not_infix

/-- Two scanners that share a slot have a text before them in which the delimiter `éaé` overlaps with
    itself. -/
def overlapRun : List Command := [.new "日éaéaéaßéaéx".toList, .act 0 .takeChar, .share 0]

theorem takeThrough_splits_overlapRun :
    ∃ s sc t sc', empty.run overlapRun = some s ∧ s.scanner? 1 = some sc ∧ sc.text.Held ∧
      (Pattern.literal "éaé".toList).Delimits "éaé".toList ∧
      s.untilNone 1 (.attempt .takeThrough (.literal "éaé".toList)) 12 =
        some ([.text "éaé".toList, .text "aéaßéaé".toList], t) ∧
      s.untilNone 1 (.attempt .skipThrough (.literal "éaé".toList)) 12 =
        some ([.count (some 3), .count (some 7)], t) ∧
      t.scanner? 1 = some sc' ∧ ¬ "éaé".toList <:+: sc'.rest := by
  have hrun : empty.run overlapRun = some ((empty.run overlapRun).getD empty) := by decide
  have hsc : ∃ sc, ((empty.run overlapRun).getD empty).scanner? 1 = some sc ∧ sc.text.Held ∧
      sc.rest.length = 11 :=
    ⟨⟨.between ['日'] "éaéaéaßéaéx".toList, .success ['日'] []⟩, by decide, by decide, by decide⟩
  have hp : (Pattern.literal "éaé".toList).Delimits "éaé".toList := .literal (by decide)
  have htexts : (((empty.run overlapRun).getD empty).untilNone 1
      (.attempt .takeThrough (.literal "éaé".toList)) 12).map (·.1) =
      some [.text "éaé".toList, .text "aéaßéaé".toList] := by decide
  have hlengths : (((empty.run overlapRun).getD empty).untilNone 1
      (.attempt .skipThrough (.literal "éaé".toList)) 12).map (·.1) =
      some [.count (some 3), .count (some 7)] := by decide
  generalize (empty.run overlapRun).getD empty = s at *
  obtain ⟨sc, hsc, hheld, hlength⟩ := hsc
  obtain ⟨pieces, lengths, t, sc', hle, hloop, hsc', -, -, -, hnot, -, -⟩ :=
    takeThrough_splits hrun hsc hheld hp
  obtain ⟨htake, hskip⟩ := hloop 12 (by omega)
  simp only [htake, Option.map_some, Option.some.injEq] at htexts
  simp only [hskip, Option.map_some, Option.some.injEq] at hlengths
  rw [htexts] at htake
  rw [hlengths] at hskip
  exact ⟨s, sc, t, sc', hrun, hsc, hheld, hp, htake, hskip, hsc', hnot⟩

end Session

end TextScan
