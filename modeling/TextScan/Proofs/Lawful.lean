import TextScan.Proofs.Locality
import TextScan.Proofs.Session.Frame
import TextScan.Proofs.Spelling

namespace TextScan

open Regex

/-!
# No match is lost

A match that does not fit its text counts as none, and nothing tells that it was dropped. With the
patterns that come with the scanner this does not happen. Whatever they are given, what they report
fits, and a scanner replies that there is no match only if they say so.

* `Pattern.Shipped` are the patterns that come with the scanner, over an engine.
* `Found.LawfulIn` and `Pattern.Lawful` say what is right about a match and about a pattern.
  `Pattern.Shipped.lawful` says that these patterns are lawful if the engine is leftmost and its
  ranges are aligned.
* `Found.TakenFrom` says that a match is all that its ranges tell, with no group lost either.
* By `Pattern.Lawful.isNone_reply_iff` lawful patterns are taken at their word.
* `Session.no_match_lost` is the result for all that runs arrive at.
-/

/-! ### Ranges in a text -/

/-- Of two beginnings of a text, the one that takes less bytes begins the other. -/
theorem Text.isPrefix_of_byteSize_le {u v t : Text} (hu : u <+: t) (hv : v <+: t)
    (h : u.byteSize ≤ v.byteSize) : u <+: v := by
  rcases List.prefix_or_prefix_of_prefix hu hv with huv | ⟨d, rfl⟩
  · exact huv
  · cases d with
    | nil => exact (List.append_nil v).symm ▸ List.prefix_refl v
    | cons c d =>
      have hsize := c.utf8Size_pos
      simp only [byteSize_append, byteSize_cons] at h
      omega

/-- A range within another one cuts out a part of what that one cuts out. -/
theorem Text.isInfix_of_slice? {t x y : Text} {a b a' b' : Nat} (hx : t.slice? a b = some x)
    (hy : t.slice? a' b' = some y) (ha : a ≤ a') (hb : b' ≤ b) : y <:+: x := by
  obtain ⟨s, u, rfl, rfl, rfl⟩ := slice?_eq_some_iff.1 hx
  obtain ⟨s', u', hsplit, rfl, rfl⟩ := slice?_eq_some_iff.1 hy
  rw [List.append_assoc s'] at hsplit
  obtain ⟨d, rfl⟩ := isPrefix_of_byteSize_le ⟨x ++ u, (List.append_assoc ..).symm⟩
    ⟨y ++ u', hsplit.symm⟩ ha
  -- With the bytes before it, the inner part ends where the outer one does, or before.
  have hends : s ++ (d ++ y) <+: s ++ x := by
    refine isPrefix_of_byteSize_le ⟨u', ?_⟩ ⟨u, rfl⟩ (by simp only [byteSize_append] at hb ⊢; omega)
    rw [hsplit, List.append_assoc, List.append_assoc, List.append_assoc]
  obtain ⟨v, hv⟩ := List.prefix_append_right_inj s |>.1 hends
  exact ⟨d, v, hv⟩

/-! ### Lawful patterns -/

/-- A match in a text is right: it is the slice that its place names, and it has so many captures,
    each of which is a part of it. -/
structure Found.LawfulIn (m : Found) (groups : Nat) (t : Text) : Prop where
  fits : m.FitsIn t
  captures_infix : ∀ c, some c ∈ m.captures → c <:+: m.text
  length_captures : m.captures.length = groups

/-- In every text that can be held, all that the pattern reports is right. The number of captures is
    always the same. -/
structure Pattern.Lawful (p : Pattern) (groups : Nat) : Prop where
  atStart : ∀ t m, t.Held → p.atStart t = .ok (some m) → m.start = 0 ∧ m.LawfulIn groups t
  anywhere : ∀ t m, t.Held → p.anywhere t = .ok (some m) → m.LawfulIn groups t

/-- A match has all that ranges tell: the slice that the whole of them names, and for each group the
    slice that it names, or nothing if the group took no part. -/
structure Found.TakenFrom (m : Found) (s : Spans) (t : Text) : Prop where
  start_eq : m.start = s.whole.start
  text_eq : s.whole.cut? t = some m.text
  length_captures : m.captures.length = s.groups.length
  group : ∀ (g : Nat) (r : ByteRange), s.groups[g]? = some (some r) →
    ∃ c, r.cut? t = some c ∧ m.captures[g]? = some (some c)
  absent : ∀ g : Nat, s.groups[g]? = some none → m.captures[g]? = some none

/-- The patterns that come with a scanner: those that are provided, sources that may turn out to be
    refused, and the one that scanners use to take characters. -/
inductive Pattern.Shipped (E : Engine) : Pattern → Prop
  | provided {p : Pattern} : p.Provided E → Shipped E p
  | source (source : Text) : Shipped E (E.source source)
  | anyChar : Shipped E .anyChar

namespace Regex.Spans.AlignedIn

variable {s : Spans} {groups : Nat} {t : Text} (h : s.AlignedIn groups t)
include h

theorem takenFrom : (s.found t).TakenFrom s t where
  start_eq := rfl
  text_eq := by
    obtain ⟨x, hx⟩ := h.whole
    rw [found, hx]
    rfl
  length_captures := List.length_map _
  group g r hr := by
    obtain ⟨⟨c, hc⟩, -⟩ := h.group r (List.mem_of_getElem? hr)
    refine ⟨c, hc, ?_⟩
    rw [found, List.getElem?_map, hr, Option.map_some, Option.map_some, hc]
    rfl
  absent g hg := by
    rw [found, List.getElem?_map, hg]
    rfl

/-- With aligned ranges, what is cut out is right. -/
theorem lawfulIn (ht : t.Held) : (s.found t).LawfulIn groups t where
  fits := by
    have hcut : t.slice? s.whole.start s.whole.stop = some (s.found t).text := h.takenFrom.text_eq
    obtain ⟨u, v, hsplit, hstart, -⟩ := Text.slice?_eq_some_iff.1 hcut
    have hfits := Found.fitsIn_append hstart v (ht.of_isPrefix ⟨v, hsplit.symm⟩)
    rwa [← List.append_assoc, ← hsplit] at hfits
  captures_infix c hc := by
    obtain ⟨r, hr, hcut⟩ := List.mem_map.1 hc
    obtain ⟨r, rfl, rfl⟩ := Option.map_eq_some_iff.1 hcut
    obtain ⟨⟨x, hx⟩, hstart, hstop⟩ := h.group r hr
    rw [hx]
    exact Text.isInfix_of_slice? h.takenFrom.text_eq hx hstart hstop
  length_captures := (List.length_map _).trans h.length

end Regex.Spans.AlignedIn

namespace Pattern

variable {E : Engine} {p : Pattern} {groups : Nat}

/-- It is enough to look at searches, where nothing else counts at the start. -/
theorem Lawful.of_anywhere
    (hstart : ∀ t, p.atStart t = (p.anywhere t).map (·.filter fun m => m.start = 0))
    (h : ∀ t m, t.Held → p.anywhere t = .ok (some m) → m.LawfulIn groups t) : p.Lawful groups := by
  refine ⟨fun t m ht hm => ?_, h⟩
  rw [hstart t] at hm
  cases hany : p.anywhere t with
  | error e => rw [hany] at hm; cases hm
  | ok found =>
    rw [hany] at hm
    obtain ⟨rfl, hzero⟩ := Option.filter_eq_some_iff.1 (Except.ok.inj hm)
    exact ⟨of_decide_eq_true hzero, h t m ht hany⟩

theorem literal_lawful (needle : Text) : (literal needle).Lawful 0 := by
  refine .of_anywhere (fun t => congrArg Except.ok (indexOf?_filter_start needle t).symm) ?_
  intro t m ht hm
  obtain ⟨u, v, hfirst, rfl⟩ := literal_anywhere_eq_some_iff.1 hm
  obtain rfl := hfirst.eq_append
  refine ⟨Found.fitsIn_append rfl v (ht.of_isPrefix ⟨v, List.append_assoc ..⟩), ?_, rfl⟩
  exact fun _ h => absurd h List.not_mem_nil

theorem anyChar_lawful : anyChar.Lawful 0 := by
  have h : ∀ t m, t.Held → anyChar.anywhere t = .ok (some m) →
      m.start = 0 ∧ m.LawfulIn 0 t := by
    intro t m ht hm
    simp only [anyChar, Except.ok.injEq, Option.map_eq_some_iff] at hm
    obtain ⟨c, hc, rfl⟩ := hm
    obtain ⟨v, rfl⟩ : ∃ v, t = c :: v := ⟨t.tail, (List.cons_head?_tail hc).symm⟩
    have hheld : Text.Held [c] := ht.of_isPrefix ⟨v, rfl⟩
    have hfits : (⟨0, [c], []⟩ : Found).FitsIn (c :: v) :=
      Found.fitsIn_append (u := []) rfl v hheld
    exact ⟨rfl, hfits, fun _ h => absurd h List.not_mem_nil, rfl⟩
  exact ⟨h, fun t m ht hm => (h t m ht hm).2⟩

theorem search_lawful {r : E.SearchRegex}
    (h : ∀ t s, E.spans? r.program false t = some s → s.AlignedIn groups t) :
    r.toPattern.Lawful groups := by
  refine .of_anywhere (fun _ => rfl) fun t m ht hm => ?_
  obtain ⟨s, hs, rfl⟩ := Option.map_eq_some_iff.1 (Except.ok.inj hm)
  exact (h t s hs).lawfulIn ht

theorem anchored_lawful (hE : E.Leftmost) {source : Text} {settings : Settings}
    {r : E.AnchoredRegex} (hr : E.anchored? source settings = .ok r)
    (h : ∀ t s, E.spans? r.program false t = some s → s.AlignedIn groups t) :
    r.toPattern.Lawful groups := by
  refine .of_anywhere (fun t => ?_) fun t m ht hm => ?_
  · exact congrArg Except.ok (Engine.AnchoredRegex.found?_filter_start hE hr t).symm
  · obtain ⟨s, hs, hfound⟩ := Option.bind_eq_some_iff.1 (Except.ok.inj hm)
    have haligned := h t s hs
    rw [haligned.found?_eq] at hfound
    exact Option.some.inj hfound ▸ haligned.lawfulIn ht

/-- A source that is refused reports no match. -/
theorem source_lawful_of_error {source : Text} {e : PatternError}
    (h : E.search? source = .error e) : (E.source source).Lawful 0 := by
  refine ⟨fun t m _ hm => ?_, fun t m _ hm => ?_⟩
  · cases ((Engine.source_eq_error_iff t e).1.2 h).symm.trans hm
  · cases ((Engine.source_eq_error_iff t e).2.2 h).symm.trans hm

/-- **The patterns that come with a scanner are lawful.** -/
theorem Shipped.lawful (hleft : E.Leftmost) (haligned : E.Aligned) (h : p.Shipped E) :
    ∃ groups, p.Lawful groups := by
  have hsearch {prog : E.Program} (hprog : E.Builds prog) :
      ∃ groups, (⟨prog⟩ : E.SearchRegex).toPattern.Lawful groups := by
    obtain ⟨groups, h⟩ := haligned _ hprog
    exact ⟨groups, search_lawful (h false)⟩
  have hsource (source : Text) : ∃ groups, (E.source source).Lawful groups := by
    cases hr : E.search? source with
    | ok r =>
      rw [Engine.source_eq_toPattern hr]
      exact hsearch ⟨_, _, _, Engine.build_of_search? hr⟩
    | error e => exact ⟨0, source_lawful_of_error hr⟩
  cases h with
  | source source => exact hsource source
  | anyChar => exact ⟨0, anyChar_lawful⟩
  | provided hp =>
    cases hp with
    | literal needle => exact ⟨0, literal_lawful needle⟩
    | char c => exact ⟨0, char_eq_literal c ▸ literal_lawful [c]⟩
    | source _ => exact hsource _
    | search hprog => exact hsearch hprog
    | anchored hr =>
      obtain ⟨groups, h⟩ := haligned _ ⟨_, _, _, Engine.build_of_anchored? hr⟩
      exact ⟨groups, anchored_lawful hleft hr (h false)⟩

end Pattern

/-! ### What is not lost on the way -/

namespace Regex.Engine.Aligned

variable {E : Engine} (h : E.Aligned) {t : Text} {s : Spans}
include h

/-- A search has all that its ranges tell. -/
theorem search_takenFrom {prog : E.Program} (hprog : E.Builds prog)
    (hs : E.spans? prog false t = some s) :
    ∃ m, (⟨prog⟩ : E.SearchRegex).found? t = some m ∧ m.TakenFrom s t := by
  obtain ⟨groups, h⟩ := h _ hprog
  exact ⟨_, by rw [SearchRegex.found?, hs]; rfl, (h false t s hs).takenFrom⟩

theorem anchored_takenFrom {source : Text} {settings : Settings} {r : E.AnchoredRegex}
    (hr : E.anchored? source settings = .ok r) {anchored : Bool}
    (hs : E.spans? r.program anchored t = some s) :
    ∃ m, r.found? anchored t = some m ∧ m.TakenFrom s t := by
  obtain ⟨groups, h⟩ := h _ ⟨_, _, _, build_of_anchored? hr⟩
  have haligned := h anchored t s hs
  exact ⟨_, by rw [AnchoredRegex.found?, hs]; exact haligned.found?_eq, haligned.takenFrom⟩

end Regex.Engine.Aligned

/-! ### Attempts with lawful patterns -/

namespace Pattern.Lawful

variable {p : Pattern} {groups : Nat} {rest : Text}

/-- No answer of a lawful pattern is held back. -/
theorem answer_eq (h : p.Lawful groups) (hrest : rest.Held) (how : Attempt) :
    how.answer p rest = how.asked p rest := by
  cases how with
  | lookThrough | takeThrough | locate | skipThrough => rfl
  | look | take | measure | skip =>
    show (p.atStart rest).map (·.filter fun m => m.start = 0) = p.atStart rest
    match hp : p.atStart rest with
    | .error e => rfl
    | .ok none => rfl
    | .ok (some m) =>
      have hzero := (h.atStart rest m hrest hp).1
      rw [Except.map, Option.filter_some, if_pos (decide_eq_true hzero)]

theorem fitsIn (h : p.Lawful groups) (hrest : rest.Held) {how : Attempt} {m : Found}
    (hm : how.asked p rest = .ok (some m)) : m.FitsIn rest := by
  cases how with
  | look | take | measure | skip => exact (h.atStart rest m hrest hm).2.fits
  | lookThrough | takeThrough | locate | skipThrough => exact (h.anywhere rest m hrest hm).fits

/-- **Lawful patterns are taken at their word.** The reply to an attempt tells that there is no
    match exactly if the pattern answers that there is none. -/
theorem isNone_reply_iff (h : p.Lawful groups) (hrest : rest.Held) (how : Attempt) :
    (how.reply p rest).isNone ↔ how.asked p rest = .ok none := by
  have hanswer := h.answer_eq hrest how
  unfold Attempt.reply Attempt.outcome
  rw [hanswer]
  match hasked : how.asked p rest with
  | .error e => simp [Result.isNone]
  | .ok none =>
    cases how <;> simp [Attempt.replyOk, Outcome.ofAnswer, Outcome.length?, Result.isNone]
  | .ok (some m) =>
    have hfits := h.fitsIn hrest hasked
    have houtcome : Outcome.ofAnswer rest how.fromCursor (.ok (some m)) = .success _ _ :=
      Scanner.outcomeIn_of_fitsIn hfits how.fromCursor
    rw [houtcome]
    cases how <;> simp [Attempt.replyOk, Result.isNone, hfits.takeBytes?_start]

theorem isNone_act_iff (h : p.Lawful groups) {sc : Scanner} (hrest : sc.rest.Held)
    (how : Attempt) :
    (sc.act (.attempt how p)).result.isNone ↔ how.asked p sc.rest = .ok none := by
  show (sc.attempt p how).result.isNone ↔ _
  rw [Scanner.attempt_result]
  exact h.isNone_reply_iff hrest how

end Pattern.Lawful

/-! ### Runs -/

namespace Session

/-- **No match is lost.** Let an engine be leftmost, and let its ranges be aligned. What a pattern
    reports that comes with the scanner is right in every text that can be held, and has always the
    same number of captures. Whatever a run has done, an attempt replies that there is no match
    exactly if the pattern answers so, for the rest at the cursor or ahead of it; taking a character
    does if none is left to match. A match of which the engine tells the ranges is never dropped,
    and no group that has taken part in it is missing from its captures. Engines that run
    expressions are leftmost, and their ranges are aligned. -/
theorem no_match_lost :
    (∀ E : Engine, E.Leftmost → E.Aligned →
      (∀ p : Pattern, p.Shipped E →
        (∃ groups, p.Lawful groups) ∧
        ∀ cs s i sc, empty.run cs = some s → s.scanner? i = some sc → sc.text.Held →
          (∀ how : Attempt, ∃ r t es, s.step (.act i (.attempt how p)) = some (r, t, es) ∧
            (r.isNone ↔ how.asked p sc.rest = .ok none)) ∧
          ∃ r t es, s.step (.act i .takeChar) = some (r, t, es) ∧
            (r.isNone ↔ Pattern.anyChar.atStart sc.rest = .ok none)) ∧
      (∀ prog, E.Builds prog → ∀ t s, E.spans? prog false t = some s →
        ∃ m, (⟨prog⟩ : E.SearchRegex).found? t = some m ∧ m.TakenFrom s t) ∧
      ∀ source settings (r : E.AnchoredRegex), E.anchored? source settings = .ok r →
        ∀ anchored t s, E.spans? r.program anchored t = some s →
          ∃ m, r.found? anchored t = some m ∧ m.TakenFrom s t) ∧
    ∀ E : Engine, E.LeftmostFirst → E.Leftmost ∧ E.Aligned := by
  refine ⟨fun E hleft haligned => ⟨fun p hp => ?_, ?_, ?_⟩, fun E h => ⟨h.leftmost, h.aligned⟩⟩
  · obtain ⟨groups, hlawful⟩ := hp.lawful hleft haligned
    refine ⟨⟨groups, hlawful⟩, fun cs s i sc hrun hsc hheld => ?_⟩
    have hsound := run_sound empty_sound hrun
    obtain ⟨seat, hseat, rfl⟩ := scanner?_eq_some_iff.1 hsc
    have hrest := (hsound.of_getElem? hseat).aligned.rest_held hheld
    constructor
    · intro how
      obtain ⟨t, hstep, -⟩ := hsound.step_act hsc (.attempt how p)
      exact ⟨_, t, _, hstep, hlawful.isNone_act_iff hrest how⟩
    · obtain ⟨t, hstep, -⟩ := hsound.step_act hsc .takeChar
      refine ⟨_, t, _, hstep, ?_⟩
      rw [Scanner.act_takeChar]
      exact Pattern.anyChar_lawful.isNone_act_iff hrest .take
  · exact fun prog hprog t s hs => haligned.search_takenFrom hprog hs
  · exact fun source settings r hr anchored t s hs => haligned.anchored_takenFrom hr hs

/-- A repetition of a choice, with a group in each branch. -/
def branchesSource : Text := "(?:(é)|(b)\\w?)+".toList

theorem no_match_lost_branchesSource :
    ∃ r, AnchoredRegex.withSettings? branchesSource { Settings.default with unicode := false } =
        .ok r ∧
      r.toPattern.anywhere "日éb".toList =
        .ok (some ⟨3, "éb".toList, [some "é".toList, some "b".toList]⟩) ∧
      r.toPattern.atStart "日éb".toList = .ok none ∧ r.toPattern.Shipped engine ∧
      ∃ s sc, empty.run [.new "a日éb".toList, .act 0 .takeChar, .share 0] = some s ∧
        s.scanner? 1 = some sc ∧ sc.text.Held ∧
        (∃ reply t es, s.step (.act 1 (.attempt .take r.toPattern)) = some (reply, t, es) ∧
          reply.isNone = true) ∧
        ∃ reply t es, s.step (.act 1 (.attempt .takeThrough r.toPattern)) = some (reply, t, es) ∧
          reply.isNone = false := by
  have hbuild : ∃ r, AnchoredRegex.withSettings? branchesSource
      { Settings.default with unicode := false } = .ok r ∧
      r.toPattern.anywhere "日éb".toList =
        .ok (some ⟨3, "éb".toList, [some "é".toList, some "b".toList]⟩) ∧
      r.toPattern.atStart "日éb".toList = .ok none := ⟨_, rfl, rfl, rfl⟩
  obtain ⟨r, hr, hanywhere, hatStart⟩ := hbuild
  have hshipped : r.toPattern.Shipped engine := .provided (.anchored hr)
  have hrun : empty.run [.new "a日éb".toList, .act 0 .takeChar, .share 0] =
      some ((empty.run [.new "a日éb".toList, .act 0 .takeChar, .share 0]).getD empty) := by decide
  have hsc : ((empty.run [.new "a日éb".toList, .act 0 .takeChar, .share 0]).getD empty).scanner? 1 =
      some ⟨.between ['a'] "日éb".toList, .success ['a'] []⟩ := by decide
  have hheld : Text.Held "a日éb".toList := by decide
  obtain ⟨hengines, hkept⟩ := no_match_lost
  obtain ⟨hleft, haligned⟩ := hkept engine (Engine.ofDatabase_leftmostFirst _)
  obtain ⟨hpatterns, -⟩ := hengines engine hleft haligned
  obtain ⟨hattempt, -⟩ := (hpatterns _ hshipped).2 _ _ _ _ hrun hsc hheld
  obtain ⟨reply, t, es, htake, hreply⟩ := hattempt .take
  obtain ⟨reply', t', es', htakeThrough, hreply'⟩ := hattempt .takeThrough
  refine ⟨r, hr, hanywhere, hatStart, hshipped, _, _, hrun, hsc, hheld,
    ⟨reply, t, es, htake, hreply.2 hatStart⟩, reply', t', es', htakeThrough, ?_⟩
  rw [Bool.eq_false_iff]
  intro htrue
  cases hanywhere.symm.trans (hreply'.1 htrue)

end Session

end TextScan
