import Mathlib.Data.List.Forall2
import Mathlib.Data.Nat.Find
import TextScan.Proofs.Regex.Unmarked
import TextScan.Proofs.Session

namespace TextScan

open Regex

/-!
# The patterns that are provided

Plain text and regular expressions are looked for in different ways. What they find does not depend
on the way: neither on whether the start of the text is tried alone, nor on how the pattern is
written. The engine may be any that keeps the promises named.

* `Pattern.Provided` are the patterns for plain text and those for regular expressions.
  `Pattern.Provided.atStart_eq_filter` says that they match at the start of a text what they find
  anywhere, if that is there. The engine has to be leftmost.
* `Pattern.Spells` are the ways to write one source as a pattern. By `Pattern.Spells.eq`, they are
  the same pattern of an engine that runs expressions.
* `Session.transcript` is all that a run shows, and `Command.Respells` says that two steps are the
  same but for the spelling of a pattern. `Session.transcript_eq_of_respells` is the result for
  runs.
-/

variable {E : Engine}

/-! ### At the start and anywhere -/

/-- What a search finds is preferred where it begins. -/
theorem Regex.Engine.Prefers.exists_of_spans? {prog : E.Program}
    {preferred : Text → Nat → Option Spans} (h : E.Prefers prog preferred) {t : Text} {s : Spans}
    (hs : E.spans? prog false t = some s) : ∃ i, preferred t i = some s := by
  by_cases hmatch : ∃ i, (preferred t i).isSome
  · obtain ⟨s', hs'⟩ := Option.isSome_iff_exists.1 (Nat.find_spec hmatch)
    have hfirst := h.first t _ s' hs' fun j hj => by simpa using Nat.find_min hmatch hj
    exact ⟨_, hs'.trans (hfirst.symm.trans hs)⟩
  · have hnone := h.none t fun i => by simpa using fun hi => hmatch ⟨i, hi⟩
    cases hnone.symm.trans hs

/-- An anchored search finds what a search finds, if that begins at the start. -/
theorem Regex.Engine.Prefers.anchored_eq_filter {prog : E.Program}
    {preferred : Text → Nat → Option Spans} (h : E.Prefers prog preferred) (t : Text) :
    E.spans? prog true t = (E.spans? prog false t).filter fun s => s.whole.start = 0 := by
  rw [h.anchored]
  cases hzero : preferred t 0 with
  | some s =>
    rw [h.first t 0 s hzero fun j hj => absurd hj (Nat.not_lt_zero j), Option.filter_some,
      if_pos (decide_eq_true (h.start_eq t 0 s hzero))]
  | none =>
    cases hsearch : E.spans? prog false t with
    | none => rfl
    | some s =>
      -- It begins further on, since at the start there is none.
      obtain ⟨i, hi⟩ := h.exists_of_spans? hsearch
      have hstart : s.whole.start ≠ 0 := by
        rw [h.start_eq t i s hi]
        rintro rfl
        cases hzero.symm.trans hi
      rw [Option.filter_some, if_neg (by simpa using hstart)]

/-- The patterns that are provided: plain text, a character, and regular expressions whose sources
    are accepted, in each way of use and under any settings. -/
inductive Pattern.Provided (E : Engine) : Pattern → Prop
  | literal (needle : Text) : Provided E (.literal needle)
  | char (c : Char) : Provided E (.char c)
  | source {source : Text} {r : E.SearchRegex} :
      E.search? source = .ok r → Provided E (E.source source)
  | search {prog : E.Program} : E.Builds prog → Provided E (⟨prog⟩ : E.SearchRegex).toPattern
  | anchored {source : Text} {settings : Settings} {r : E.AnchoredRegex} :
      E.anchored? source settings = .ok r → Provided E r.toPattern

/-- A text is found first at the start exactly if it stands there. -/
theorem Pattern.indexOf?_filter_start (needle t : Text) :
    ((indexOf? needle t).map fun start => (⟨start, needle, []⟩ : Found)).filter
        (fun m => m.start = 0) =
      if needle.isPrefixOf t then some ⟨0, needle, []⟩ else none := by
  cases t with
  | nil => cases needle <;> rfl
  | cons c t =>
    rw [indexOf?]
    by_cases hbegins : needle.isPrefixOf (c :: t)
    · rw [if_pos hbegins, if_pos hbegins]
      rfl
    · rw [if_neg hbegins, if_neg hbegins]
      -- Any other place lies at least one character further on.
      cases indexOf? needle t with
      | none => rfl
      | some k =>
        have hsize := c.utf8Size_pos
        exact Option.filter_some_neg (by simp; omega)

/-- What is cut out begins where the ranges begin. -/
theorem Regex.Spans.found?_filter_start (s : Option Spans) (t : Text) :
    (s.bind (·.found? t)).filter (fun m => m.start = 0) =
      (s.filter fun s => s.whole.start = 0).bind (·.found? t) := by
  cases s with
  | none => rfl
  | some s =>
    rw [Option.bind_some, Option.filter_some]
    cases hfound : s.found? t with
    | none =>
      split
      · exact hfound.symm
      · rfl
    | some m =>
      obtain ⟨whole, -, rfl⟩ := Option.map_eq_some_iff.1 hfound
      rw [Option.filter_some]
      split
      · exact hfound.symm
      · rfl

/-- At the start of a text, what is found anywhere counts if it is there. -/
theorem Regex.Engine.AnchoredRegex.found?_filter_start (hE : E.Leftmost) {source : Text}
    {settings : Settings} {r : E.AnchoredRegex} (hr : E.anchored? source settings = .ok r)
    (t : Text) : (r.found? false t).filter (fun m => m.start = 0) = r.found? true t := by
  obtain ⟨preferred, hprefers⟩ := hE _ ⟨_, _, _, build_of_anchored? hr⟩
  rw [found?, found?, hprefers.anchored_eq_filter, Spans.found?_filter_start]

/-- **The start of a text and the whole of it.** Over a leftmost engine, a provided pattern always
    has an answer. It matches at the start of a text what it finds anywhere in the text, with the
    same place, text and captures, if that is where the text starts. Otherwise it does not match
    there, whatever it finds further on. Engines that run expressions are leftmost. -/
theorem Pattern.Provided.atStart_eq_filter :
    (∀ E : Engine, E.Leftmost → ∀ p : Pattern, p.Provided E → ∀ text : Text,
      ∃ found : Option Found, p.anywhere text = .ok found ∧
        p.atStart text = .ok (found.filter fun m => m.start = 0)) ∧
    ∀ E : Engine, E.LeftmostFirst → E.Leftmost := by
  refine ⟨fun E hE p h text => ?_, fun E h => h.leftmost⟩
  have hliteral (needle : Text) : ∃ found : Option Found,
      (Pattern.literal needle).anywhere text = .ok found ∧
        (Pattern.literal needle).atStart text = .ok (found.filter fun m => m.start = 0) := by
    refine ⟨_, rfl, ?_⟩
    rw [indexOf?_filter_start]
    rfl
  cases h with
  | literal needle => exact hliteral needle
  | char c =>
    rw [char_eq_literal]
    exact hliteral [c]
  | @source _ r hr =>
    rw [Engine.source_eq_toPattern hr]
    exact ⟨r.found? text, rfl, rfl⟩
  | search => exact ⟨_, rfl, rfl⟩
  | @anchored _ _ r hr =>
    exact ⟨r.found? false text, rfl,
      congrArg Except.ok (Engine.AnchoredRegex.found?_filter_start hE hr text).symm⟩

/-- A test for the start of a line, and a choice whose second branch is longer. -/
def lineSource : Text := "^(b|ab)".toList

theorem Pattern.Provided.atStart_eq_filter_laterLine :
    ∃ r, AnchoredRegex.withSettings? lineSource { Settings.default with multiLine := true } =
        .ok r ∧
      r.toPattern.anywhere "é\nab".toList = .ok (some ⟨3, "ab".toList, [some "ab".toList]⟩) ∧
      r.toPattern.atStart "é\nab".toList = .ok none ∧
      r.toPattern.atStart "ab".toList = .ok (some ⟨0, "ab".toList, [some "ab".toList]⟩) := by
  have hbuild : ∃ r, AnchoredRegex.withSettings? lineSource
      { Settings.default with multiLine := true } = .ok r ∧
      r.toPattern.anywhere "é\nab".toList = .ok (some ⟨3, "ab".toList, [some "ab".toList]⟩) ∧
      r.toPattern.anywhere "ab".toList = .ok (some ⟨0, "ab".toList, [some "ab".toList]⟩) :=
    ⟨_, rfl, rfl, rfl⟩
  obtain ⟨r, hr, hlater, hstart⟩ := hbuild
  obtain ⟨hengines, hleft⟩ := atStart_eq_filter
  have hE : engine.Leftmost := hleft engine (Engine.ofDatabase_leftmostFirst _)
  obtain ⟨found, hfound, hnone⟩ := hengines engine hE _ (.anchored hr) "é\nab".toList
  obtain ⟨found', hfound', hsome⟩ := hengines engine hE _ (.anchored hr) "ab".toList
  obtain rfl := Except.ok.inj (hfound.symm.trans hlater)
  obtain rfl := Except.ok.inj (hfound'.symm.trans hstart)
  exact ⟨r, hr, hfound, hnone, hsome⟩

/-! ### Ways to write a pattern -/

namespace Pattern

variable {source : Text} {p q : Pattern}

/-- The ways to write a source as a pattern: as a regular expression, and as plain text or as a
    character if nothing in it has a meaning of its own. -/
inductive Spells (E : Engine) (source : Text) : Pattern → Prop
  | regex {p : Pattern} : E.IsRegex source p → Spells E source p
  | literal : Unmarked source → Spells E source (.literal source)
  | char {c : Char} : source = [c] → Unmarked source → Spells E source (.char c)

/-- However a source is written, it is the pattern of the program for its expression. -/
theorem Spells.eq_toPattern (hrun : E.LeftmostFirst) (hplain : E.ReadsPlain) (h : Spells E source p)
    {r : E.SearchRegex} (hr : E.search? source = .ok r) {e : Expr}
    (hread : E.read .initial source = .ok e) : p = (Program.ofExpr e).toPattern := by
  have hliteral (hmarks : Unmarked source) :
      Pattern.literal source = (Program.ofExpr e).toPattern := by
    obtain rfl := Except.ok.inj (hread.symm.trans (hplain source hmarks))
    exact (Program.toPattern_characters source).symm
  cases h with
  | regex h => exact hrun.eq_toPattern h hread hr
  | literal h => exact hliteral h
  | @char c hc h =>
    subst hc
    rw [char_eq_literal]
    exact hliteral h

/-- **The ways to write a source are the same pattern**, if it is accepted. -/
theorem Spells.eq (hrun : E.LeftmostFirst) (hplain : E.ReadsPlain) {r : E.SearchRegex}
    (hr : E.search? source = .ok r) (hp : Spells E source p) (hq : Spells E source q) : p = q := by
  obtain ⟨e, hread, -⟩ := exists_of_bind_eq_ok (Engine.build_of_search? hr)
  rw [hp.eq_toPattern hrun hplain hr hread, hq.eq_toPattern hrun hplain hr hread]

end Pattern

/-! ### Refusals -/

namespace Regex.Engine

variable {source : Text}

/-- Neither of the two sizes that are asked for without settings is exceeded, and the source is not
    nested too deeply. -/
def WithinLimits (E : Engine) (source : Text) : Prop :=
  ∀ limit, limit = none ∨ limit = some usualLimit → ∀ f, E.build .initial limit source = .error f →
    E.isLimit f = false

/-- Within the limits, whether there is a program depends on the reading alone. -/
theorem FailsAtLimit.exists_build_iff (h : E.FailsAtLimit) (hsource : E.WithinLimits source)
    {limit : Option Nat} (hlimit : limit = none ∨ limit = some usualLimit) :
    (∃ p, E.build .initial limit source = .ok p) ↔ ∃ e, E.read .initial source = .ok e := by
  constructor
  · rintro ⟨p, hp⟩
    obtain ⟨e, hread, -⟩ := exists_of_bind_eq_ok hp
    exact ⟨e, hread⟩
  · rintro ⟨e, hread⟩
    have hcompile : E.build .initial limit source = E.compile limit e := by
      rw [build, hread]
      rfl
    cases hbuild : E.build .initial limit source with
    | ok p => exact ⟨p, rfl⟩
    | error f =>
      have hover := h .initial source e hread limit f (hcompile.symm.trans hbuild)
      cases hover.symm.trans (hsource limit hlimit f hbuild)

theorem exists_search?_iff :
    (∃ r, E.search? source = .ok r) ↔ ∃ p, E.build .initial (some usualLimit) source = .ok p := by
  constructor
  · rintro ⟨r, hr⟩
    exact ⟨_, build_of_search? hr⟩
  · rintro ⟨p, hp⟩
    exact ⟨⟨p⟩, by rw [search?, hp]⟩

theorem exists_anchored?_iff :
    (∃ r, E.anchored? source .default = .ok r) ↔ ∃ p, E.build .initial none source = .ok p := by
  constructor
  · rintro ⟨r, hr⟩
    exact ⟨_, build_of_anchored? hr⟩
  · rintro ⟨p, hp⟩
    have hbuild : E.build Settings.default.switches Settings.default.sizeLimit source = .ok p := hp
    exact ⟨⟨source, p⟩, by rw [anchored?, hbuild]⟩

/-- A source is refused in each way of use or in none. -/
theorem FailsAtLimit.exists_error_iff (h : E.FailsAtLimit) (hsource : E.WithinLimits source) :
    (∃ e, E.anchored? source .default = .error e) ↔ ∃ e, E.search? source = .error e := by
  have hboth : (∃ r, E.anchored? source .default = .ok r) ↔ ∃ r, E.search? source = .ok r := by
    rw [exists_search?_iff, exists_anchored?_iff, h.exists_build_iff hsource (.inl rfl),
      h.exists_build_iff hsource (.inr rfl)]
  have hnot {ε α : Type} (x : Except ε α) : (∃ e, x = .error e) ↔ ¬ ∃ a, x = .ok a := by
    cases x <;> simp
  rw [hnot, hnot, hboth]

/-- The pattern of a source reports a refusal on every text. -/
theorem source_eq_error_iff (text : Text) (e : PatternError) :
    ((E.source source).atStart text = .error e ↔ E.search? source = .error e) ∧
      ((E.source source).anywhere text = .error e ↔ E.search? source = .error e) := by
  unfold Engine.source
  cases E.search? source with
  | error e' => simp only [bind, Except.bind, Except.error.injEq, and_self]
  | ok r => constructor <;> exact iff_of_false nofun nofun

end Regex.Engine

/-! ### Runs -/

/-- What the steps of a run reply, the sessions behind them, and the events that they leave. -/
def Session.transcript (s : Session) : List Command → Option (List (Result × Session × List Event))
  | [] => some []
  | c :: cs => (s.step c).bind fun (r, t, es) => (t.transcript cs).map ((r, t, es) :: ·)

/-- The steps are the same, or they try patterns that are ways to write one accepted source. -/
inductive Command.Respells (E : Engine) : Command → Command → Prop
  | refl (c : Command) : Respells E c c
  | attempt {source : Text} {r : E.SearchRegex} {p q : Pattern} (i : Nat) (how : Attempt) :
      E.search? source = .ok r → Pattern.Spells E source p → Pattern.Spells E source q →
      Respells E (.act i (.attempt how p)) (.act i (.attempt how q))

theorem Command.Respells.eq (hrun : E.LeftmostFirst) (hplain : E.ReadsPlain) {c d : Command}
    (h : Command.Respells E c d) : c = d := by
  cases h with
  | refl => rfl
  | attempt i how hr hp hq => rw [hp.eq hrun hplain hr hq]

/-- **The ways to write a pattern can be exchanged.** Let an engine run expressions, refuse none but
    for its size, and read a source in which nothing has a meaning of its own as its characters.
    Within its limits, a source is refused in each way of use or in none, and one in which nothing
    has a meaning of its own is not refused. As a pattern, a source that is refused fails on every
    text with the report on it. Where the patterns of a run are written in other ways, with accepted
    sources, nothing changes that the run shows: no reply, no cursor, no outcome and no event. The
    engine of this library is such an engine, over any database. -/
theorem Session.transcript_eq_of_respells :
    (∀ E : Engine, E.LeftmostFirst → E.FailsAtLimit → E.ReadsPlain →
      (∀ source : Text,
        (E.WithinLimits source →
          ((∃ e, E.anchored? source .default = .error e) ↔ ∃ e, E.search? source = .error e)) ∧
        (∀ text e, ((E.source source).atStart text = .error e ↔ E.search? source = .error e) ∧
          ((E.source source).anywhere text = .error e ↔ E.search? source = .error e)) ∧
        (E.WithinLimits source → Unmarked source → ∃ r, E.search? source = .ok r)) ∧
      ∀ (s : Session) (cs ds : List Command), List.Forall₂ (Command.Respells E) cs ds →
        s.transcript cs = s.transcript ds) ∧
    ∀ db : Unicode.Database, (Engine.ofDatabase db).LeftmostFirst ∧
      (Engine.ofDatabase db).FailsAtLimit ∧ (Engine.ofDatabase db).ReadsPlain := by
  refine ⟨fun E hrun hlimit hplain => ⟨fun source => ⟨hlimit.exists_error_iff,
    Engine.source_eq_error_iff, fun hsource hmarks => ?_⟩, fun s cs ds h => ?_⟩, fun db => ?_⟩
  · exact Engine.exists_search?_iff.2
      ((hlimit.exists_build_iff hsource (.inr rfl)).2 ⟨_, hplain source hmarks⟩)
  · have hsame : List.Forall₂ Eq cs ds := h.imp fun _ _ => Command.Respells.eq hrun hplain
    rw [List.forall₂_eq_eq_eq] at hsame
    rw [hsame]
  · exact ⟨Engine.ofDatabase_leftmostFirst db, Engine.ofDatabase_failsAtLimit db,
      Engine.ofDatabase_readsPlain db⟩

/-- A run on a text with long characters, in which two patterns are tried in several ways. -/
def twoPatternsRun (p q : Pattern) : List Command :=
  [.new "aé-xx".toList, .act 0 (.attempt .takeThrough p), .share 0, .act 1 (.attempt .skip q),
    .act 0 (.attempt .locate p), .act 1 (.append "é-x".toList), .act 1 (.attempt .take q)]

theorem Session.transcript_eq_of_respells_twoPatternsRun :
    ∃ r r', AnchoredRegex.new? "é-x".toList = .ok r ∧ SearchRegex.new? "x".toList = .ok r' ∧
      Unmarked "é-x".toList ∧
      empty.transcript (twoPatternsRun (.source "é-x".toList) (.char 'x')) =
        empty.transcript (twoPatternsRun r.toPattern r'.toPattern) ∧
      empty.transcript (twoPatternsRun (.literal "é-x".toList) (.source "x".toList)) =
        empty.transcript (twoPatternsRun r.toPattern r'.toPattern) ∧
      (empty.transcript (twoPatternsRun (.literal "é-x".toList) (.char 'x'))).isSome := by
  have hmarks : Unmarked "é-x".toList := by decide
  have hmarks' : Unmarked "x".toList := by decide
  have hr : AnchoredRegex.new? "é-x".toList = .ok ⟨"é-x".toList, .spelling "é-x".toList⟩ := rfl
  have hs : SearchRegex.new? "é-x".toList = .ok ⟨.spelling "é-x".toList⟩ := rfl
  have hr' : SearchRegex.new? "x".toList = .ok ⟨.spelling "x".toList⟩ := rfl
  have hrun {p q p' q' : Pattern} (hp : Pattern.Spells engine "é-x".toList p)
      (hp' : Pattern.Spells engine "é-x".toList p') (hq : Pattern.Spells engine "x".toList q)
      (hq' : Pattern.Spells engine "x".toList q') :
      empty.transcript (twoPatternsRun p q) = empty.transcript (twoPatternsRun p' q') := by
    have hone (how : Attempt) (i : Nat) := Command.Respells.attempt i how hs hp hp'
    have htwo (how : Attempt) (i : Nat) := Command.Respells.attempt i how hr' hq hq'
    obtain ⟨hengines, hlibrary⟩ := transcript_eq_of_respells
    obtain ⟨hfirst, hlimit, hplain⟩ := hlibrary Unicode.database
    obtain ⟨-, hsame⟩ := hengines engine hfirst hlimit hplain
    exact hsame empty _ _ <| .cons (.refl _) <| .cons (hone _ _) <| .cons (.refl _) <|
      .cons (htwo _ _) <| .cons (hone _ _) <| .cons (.refl _) <| .cons (htwo _ _) .nil
  exact ⟨_, _, hr, hr', hmarks,
    hrun (.regex .source) (.regex (.anchored hr)) (.char rfl hmarks') (.regex (.search hr')),
    hrun (.literal hmarks) (.regex (.anchored hr)) (.regex .source) (.regex (.search hr')),
    by decide⟩

end TextScan
