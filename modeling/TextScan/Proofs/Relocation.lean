import TextScan.Proofs.Consuming
import TextScan.Proofs.Guard
import TextScan.Proofs.Lawful
import TextScan.Proofs.Regex.Ahead

namespace TextScan

open Regex

/-!
# What is located is found again

A reader that locates a match may move there and try the pattern again. It finds the same match,
and it would not have found any on its way, if all that the pattern asks for lies ahead. A search
sees what is before a place, and a try at the place does not.

* `Engine.ReadsAhead` says that no test of a source looks behind, as an engine reads it.
  `Pattern.LooksAhead` are the patterns of which this is known: plain text, and regular expressions
  over such sources.
* `Pattern.FindsFirst` says that a search ends at the first place at which the pattern matches.
  `Pattern.LooksAhead.findsFirst` says that these patterns are such if the engine runs expressions.
* `Session.located_again` is the result for all that runs arrive at.
-/

/-! ### Patterns -/

/-- What the source stands for has no test that looks behind. -/
def Regex.Engine.ReadsAhead (E : Engine) (c : Switches) (source : Text) : Prop :=
  ∀ e, E.read c source = .ok e → e.Ahead

/-- The engine of this library reads no test that looks behind from a source without such an anchor,
    over any database. -/
theorem Regex.Engine.ofDatabase_readsAhead (db : Unicode.Database) {c : Switches} {source : Text}
    (h : c.looksAhead source = true) : (ofDatabase db).ReadsAhead c source := by
  intro e hread
  exact Expr.ahead_of_ofText (mapError_eq_ok_iff.1 hread) h

namespace Pattern

variable {E : Engine}

/-- The patterns that only look ahead: plain text, a character, and regular expressions without a
    test that looks behind, in each way of use and under any settings. -/
inductive LooksAhead (E : Engine) : Pattern → Prop
  | literal (needle : Text) : LooksAhead E (.literal needle)
  | char (c : Char) : LooksAhead E (.char c)
  | source {source : Text} : E.ReadsAhead .initial source → LooksAhead E (E.source source)
  | search {c : Switches} {limit : Option Nat} {source : Text} {prog : E.Program} :
      E.build c limit source = .ok prog → E.ReadsAhead c source →
      LooksAhead E (⟨prog⟩ : E.SearchRegex).toPattern
  | anchored {source : Text} {settings : Settings} {r : E.AnchoredRegex} :
      E.anchored? source settings = .ok r → E.ReadsAhead settings.switches source →
      LooksAhead E r.toPattern

/-- A search ends at the first place at which the pattern matches, with the match that it has
    there. -/
structure FindsFirst (p : Pattern) : Prop where
  found : ∀ t m, p.anywhere t = .ok (some m) → ∃ u w, t = u ++ w ∧ u.byteSize = m.start ∧
    p.atStart w = .ok (some { m with start := 0 }) ∧ ∀ j < u.length, p.atStart (t.drop j) = .ok none
  none : ∀ t, p.anywhere t = .ok none → ∀ j, p.atStart (t.drop j) = .ok none

theorem literal_findsFirst (needle : Text) : (literal needle).FindsFirst := by
  constructor
  · intro t m h
    obtain ⟨u, v, hfirst, rfl⟩ := literal_anywhere_eq_some_iff.1 h
    refine ⟨u, needle ++ v, hfirst.eq_append, rfl, ?_, fun j hj => ?_⟩
    · exact literal_atStart_eq_some_iff.2 ⟨List.prefix_append needle v, rfl⟩
    · -- It would occur before it occurs first.
      refine literal_atStart_eq_none_iff.2 fun ⟨v', hv'⟩ => ?_
      have hle := hfirst.least (t.take j) v' (by rw [hv', List.take_append_drop])
      rw [List.length_take] at hle
      omega
  · intro t h j
    refine literal_atStart_eq_none_iff.2 fun hbegins => ?_
    exact literal_anywhere_eq_none_iff.1 h (hbegins.isInfix.trans (List.drop_suffix j t).isInfix)

/-- A match of a program that only looks ahead is the same wherever in a text it starts. -/
theorem findsFirst_of_ahead {prog : Program} (h : prog.Ahead) : prog.toPattern.FindsFirst := by
  have hnone {t : Text} {j : Nat} (hj : prog.matchAt (t.take j).getLast? (t.drop j) = none) :
      prog.toPattern.atStart (t.drop j) = .ok none := by
    rw [h.matchAt_eq] at hj
    show Except.ok (prog.foundAtStart? (t.drop j)) = _
    rw [Program.foundAtStart?, hj]
    rfl
  constructor
  · intro t m hm
    obtain ⟨⟨w, m⟩, hfind, rfl⟩ := Option.map_eq_some_iff.1 (Except.ok.inj hm)
    obtain ⟨u, rfl, hw, hbefore⟩ := Program.findFrom_split hfind
    rw [h.matchAt_eq] at hw
    refine ⟨u, w, rfl, ?_, ?_, fun j hj => hnone ?_⟩
    · simp [Found.ofMatch]
    · show Except.ok (prog.foundAtStart? w) = _
      rw [Program.foundAtStart?, hw]
      simp [Found.ofMatch]
    · have hplace := hbefore ((u ++ w).take j) ((u ++ w).drop j) (List.take_append_drop ..).symm
      rw [Option.or_none, List.length_take] at hplace
      exact hplace (by omega)
  · intro t hfind j
    have hfind := Option.map_eq_none_iff.1 (Except.ok.inj hfind)
    have hplace := Program.matchAt_eq_none_of_findFrom hfind (List.take_append_drop j t).symm
    rw [Option.or_none] at hplace
    exact hnone hplace

namespace LooksAhead

variable {p : Pattern} (hrun : E.LeftmostFirst)
include hrun

/-- **Patterns that only look ahead find the first place** at which they match. -/
theorem findsFirst (h : p.LooksAhead E) : p.FindsFirst := by
  have hsearch {c : Switches} {limit : Option Nat} {source : Text} {prog : E.Program}
      (hbuild : E.build c limit source = .ok prog) (hahead : E.ReadsAhead c source) :
      (⟨prog⟩ : E.SearchRegex).toPattern.FindsFirst := by
    obtain ⟨e, hread, -⟩ := exists_of_bind_eq_ok hbuild
    rw [hrun.search_eq_toPattern hread hbuild]
    exact findsFirst_of_ahead (Program.ofExpr_ahead (hahead e hread))
  cases h with
  | literal needle => exact literal_findsFirst needle
  | char c => exact char_eq_literal c ▸ literal_findsFirst [c]
  | @source source hahead =>
    cases hr : E.search? source with
    | ok r =>
      rw [Engine.source_eq_toPattern hr]
      exact hsearch (Engine.build_of_search? hr) hahead
    | error e =>
      -- Such a pattern has no answers.
      have hanywhere (t : Text) : (E.source source).anywhere t = .error e :=
        (Engine.source_eq_error_iff t e).2.2 hr
      constructor
      · intro t m hm
        cases (hanywhere t).symm.trans hm
      · intro t hnone
        cases (hanywhere t).symm.trans hnone
  | search hbuild hahead => exact hsearch hbuild hahead
  | anchored hr hahead =>
    obtain ⟨e, hread, -⟩ := exists_of_bind_eq_ok (Engine.build_of_anchored? hr)
    rw [hrun.anchored_eq_toPattern hread hr]
    exact findsFirst_of_ahead (Program.ofExpr_ahead (hahead e hread))

theorem lawful (h : p.LooksAhead E) : ∃ groups, p.Lawful groups := by
  have hshipped : p.Shipped E := by
    cases h with
    | literal needle => exact .provided (.literal needle)
    | char c => exact .provided (.char c)
    | source => exact .source _
    | search hbuild => exact .provided (.search ⟨_, _, _, hbuild⟩)
    | anchored hr => exact .provided (.anchored hr)
  exact hshipped.lawful hrun.leftmost hrun.aligned

end LooksAhead

end Pattern

/-! ### Scanners -/

/-- Behind a position further on, so many characters less are left. -/
theorem Cursor.Aligned.rest_moveTo {c : Cursor} (h : c.Aligned) (j : Nat) :
    (c.moveTo (c.pos + j)).rest = c.rest.drop j := by
  obtain ⟨u, v, rfl⟩ := Cursor.aligned_iff.1 h
  have hto : ((u.length : Int) + j).toNat = u.length + j := by omega
  rw [pos_between, moveTo_between, hto, rest_between, rest_between, ← List.drop_drop,
    List.drop_left]

namespace Scanner

/-- Moves the cursor to a position and tries a pattern there. -/
def attemptAt (s : Scanner) (pos : Int) (p : Pattern) (how : Attempt) : Effect Result :=
  (s.moveTo pos).scanner.attempt p how

variable {s : Scanner}

/-- What an attempt further on replies and records. -/
theorem attemptAt_eq (h : s.toCursor.Aligned) (j : Nat) (p : Pattern) (how : Attempt) :
    (s.attemptAt (s.pos + j) p how).result = how.reply p (s.rest.drop j) ∧
      (s.attemptAt (s.pos + j) p how).scanner.outcome = how.outcome p (s.rest.drop j) := by
  have hrest : (s.moveTo (s.pos + j)).scanner.rest = s.rest.drop j := h.rest_moveTo j
  rw [attemptAt, attempt_result, attempt_outcome, hrest]
  exact ⟨rfl, rfl⟩

end Scanner

namespace Attempt

variable {p : Pattern} {rest : Text} {k : Nat}

/-- A located match is the one that the pattern has at its place, and before it there is none. -/
theorem locate_of_findsFirst (hp : p.FindsFirst) (hheld : rest.Held)
    (h : locate.reply p rest = .count (some k)) :
    (∀ j < k, p.atStart (rest.drop j) = .ok none) ∧
      ∃ m, p.atStart (rest.drop k) = .ok (some m) ∧ m.start = 0 ∧ m.text <+: rest.drop k ∧
        locate.outcome p rest = .success m.text m.captures := by
  obtain ⟨u, m, v, hhits⟩ := (reply_isSome_iff hheld p locate).1 (by rw [h]; rfl)
  have hreply := hhits.reply_eq hheld
  rw [h] at hreply
  obtain rfl : k = u.length := Option.some.inj (Result.count.inj hreply)
  obtain ⟨u', w, hrest, hu', hw, hbefore⟩ := hp.found rest m hhits.asked
  -- Both are what is before the byte at which the match starts.
  obtain rfl : u = u' := by
    have hcut := Text.takeBytes?_append u (m.text ++ v)
    rw [← hhits.eq_append, hhits.byteSize_eq, ← hu', hrest, Text.takeBytes?_append] at hcut
    exact (Option.some.inj hcut).symm
  have hdrop : rest.drop u.length = w := by rw [hrest, List.drop_left]
  have hw' : m.text ++ v = w := List.append_cancel_left (hhits.eq_append.symm.trans hrest)
  refine ⟨hbefore, { m with start := 0 }, ?_, rfl, ⟨v, ?_⟩, hhits.outcome_eq hheld⟩
  · rw [hdrop, hw]
  · rw [hdrop, hw']

end Attempt

namespace Session

/-- **What is located is found again.** Let an engine run expressions. Whatever a run has done, a
    pattern that only looks ahead is located at the first place at which it matches: at the
    positions before, from the cursor on, it does not match, and from that position on it is taken
    with the text and the captures that locating it has recorded. If it is not located, it matches
    at no position up to the end. The engine of this library runs expressions, over any database. In
    what it reads from a source no test looks behind if no anchor of the source does. -/
theorem located_again :
    (∀ E : Engine, E.LeftmostFirst → ∀ cs s, empty.run cs = some s →
      ∀ sc ∈ s.scanners, sc.text.Held → ∀ p : Pattern, p.LooksAhead E →
      let located := sc.attempt p .locate
      (∀ k, located.result = .count (some k) →
        (∀ j < k, (located.scanner.attemptAt (sc.pos + j) p .look).result = .text none) ∧
        ∃ m captures, located.scanner.outcome = .success m captures ∧
          (located.scanner.attemptAt (sc.pos + k) p .take).result = .text (some m) ∧
          (located.scanner.attemptAt (sc.pos + k) p .take).scanner.outcome = .success m captures) ∧
      (located.result = .count none → ∀ pos : Nat, sc.pos ≤ pos → pos ≤ sc.charLen →
        (located.scanner.attemptAt pos p .look).result = .text none)) ∧
    ∀ db : Unicode.Database, (Engine.ofDatabase db).LeftmostFirst ∧
      ∀ (c : Switches) (source : Text), c.looksAhead source = true →
        (Engine.ofDatabase db).ReadsAhead c source := by
  refine ⟨fun E hE cs s hrun sc hsc hheld p hp => ?_, fun db =>
    ⟨Engine.ofDatabase_leftmostFirst db, fun c source => Engine.ofDatabase_readsAhead db⟩⟩
  intro located
  have hal : sc.toCursor.Aligned := (run_sound empty_sound hrun).scanner_aligned hsc
  have hrest := hal.rest_held hheld
  -- Locating does not move the cursor.
  have hcursor : located.scanner.toCursor = sc.toCursor := sc.attempt_toCursor p .locate
  have hthere (j : Nat) (how : Attempt) :
      (located.scanner.attemptAt (sc.pos + j) p how).result = how.reply p (sc.rest.drop j) ∧
        (located.scanner.attemptAt (sc.pos + j) p how).scanner.outcome =
          how.outcome p (sc.rest.drop j) := by
    rw [← hcursor] at hal ⊢
    exact Scanner.attemptAt_eq hal j p how
  have hlook {j : Nat} (h : p.atStart (sc.rest.drop j) = .ok none) :
      (located.scanner.attemptAt (sc.pos + j) p .look).result = .text none := by
    rw [(hthere j .look).1, ← Attempt.Takes.take.reply_eq, Attempt.reply_take h,
      Attempt.outcome_take_of_none h]
    rfl
  have hresult : located.result = Attempt.locate.reply p sc.rest := sc.attempt_result p .locate
  have houtcome : located.scanner.outcome = Attempt.locate.outcome p sc.rest :=
    sc.attempt_outcome p .locate
  have hfirst := hp.findsFirst hE
  rw [hresult, houtcome]
  constructor
  · intro k hk
    obtain ⟨hbefore, m, hm, hstart, hbegins, hlocated⟩ :=
      Attempt.locate_of_findsFirst hfirst hrest hk
    have htaken := Attempt.outcome_take hm hstart hbegins
      ((hrest.of_isSuffix (List.drop_suffix k _)).of_isPrefix hbegins)
    refine ⟨fun j hj => hlook (hbefore j hj), m.text, m.captures, hlocated, ?_⟩
    rw [(hthere k .take).1, (hthere k .take).2, Attempt.reply_take hm, htaken]
    exact ⟨rfl, rfl⟩
  · intro hnone pos hle _
    obtain ⟨groups, hlawful⟩ := hp.lawful hE
    have hasked := (hlawful.isNone_reply_iff hrest .locate).1 (by rw [hnone]; rfl)
    obtain ⟨j, rfl⟩ := Nat.exists_eq_add_of_le hle
    exact hlook (hfirst.none sc.rest hasked j)

/-- Two groups, one of which may take no part, up to the end of a line. -/
def lineEndSource : Text := "(é|b)?(日+)$".toList

theorem located_again_lineEndSource :
    ∃ r, AnchoredRegex.withSettings? lineEndSource { Settings.default with multiLine := true } =
        .ok r ∧ r.toPattern.LooksAhead engine ∧
      ∃ s sc, empty.run [.new "aé日b日\nx".toList, .act 0 .takeChar] = some s ∧
        sc ∈ s.scanners ∧ sc.text.Held ∧
        (sc.attempt r.toPattern .locate).result = .count (some 2) ∧
        ((sc.attempt r.toPattern .locate).scanner.attemptAt (sc.pos + 1) r.toPattern .look).result =
          .text none ∧
        ((sc.attempt r.toPattern .locate).scanner.attemptAt (sc.pos + 2) r.toPattern .take).result =
          .text (some "b日".toList) := by
  have hbuild : ∃ r, AnchoredRegex.withSettings? lineEndSource
      { Settings.default with multiLine := true } = .ok r ∧
      r.toPattern.anywhere "é日b日\nx".toList =
        .ok (some ⟨5, "b日".toList, [some "b".toList, some "日".toList]⟩) := ⟨_, rfl, rfl⟩
  obtain ⟨r, hr, hanywhere⟩ := hbuild
  have hahead : Switches.looksAhead
      (Settings.switches { Settings.default with multiLine := true }) lineEndSource = true := rfl
  have hrun : empty.run [.new "aé日b日\nx".toList, .act 0 .takeChar] =
      some ((empty.run [.new "aé日b日\nx".toList, .act 0 .takeChar]).getD empty) := by decide
  have hsc : (⟨.between ['a'] "é日b日\nx".toList, .success ['a'] []⟩ : Scanner) ∈
      ((empty.run [.new "aé日b日\nx".toList, .act 0 .takeChar]).getD empty).scanners := by decide
  have hheld : Text.Held "aé日b日\nx".toList := by decide
  -- What the program finds fits, so it is located.
  obtain ⟨hreply, houtcome, -⟩ := Attempt.locate_of_fitsIn hanywhere (by decide)
  obtain ⟨hlocated, hlibrary⟩ := located_again
  obtain ⟨hruns, hreads⟩ := hlibrary Unicode.database
  have hp : r.toPattern.LooksAhead engine := .anchored hr (hreads _ _ hahead)
  obtain ⟨hfirst, -⟩ := hlocated engine hruns _ _ hrun _ hsc hheld _ hp
  have hcount := (Scanner.attempt_result ⟨.between ['a'] "é日b日\nx".toList, .success ['a'] []⟩
    r.toPattern .locate).trans hreply
  obtain ⟨hbefore, m, captures, hm, htaken, -⟩ := hfirst 2 hcount
  rw [Scanner.attempt_outcome] at hm
  cases houtcome.symm.trans hm
  exact ⟨r, hr, hp, _, _, hrun, hsc, hheld, hcount, hbefore 1 (by decide), htaken⟩

end Session

end TextScan
