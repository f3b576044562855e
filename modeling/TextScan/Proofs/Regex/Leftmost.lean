import TextScan.Proofs.Failure
import TextScan.Proofs.Regex.Spans

namespace TextScan.Regex

/-!
# Engines that run expressions

An engine that finds what runs of expressions find keeps the promises on matches that patterns rely
on. The engine of this library does so, over any database.

* `Program.preferred` is the match that a run prefers among those that begin at a byte.
* `Engine.LeftmostFirst.leftmost` and `Engine.LeftmostFirst.aligned` are the two promises.
* `Engine.ofDatabase_leftmostFirst` says that the engine of this library runs expressions, and
  `Engine.ofDatabase_failsAtLimit` that it refuses none but for its size.
-/

namespace Program

variable {p : Program} {t : Text}

/-- The match of a run that begins behind the first `i` bytes of a text, if they end where a
    character ends. -/
def preferred (p : Program) (t : Text) (i : Nat) : Option Spans :=
  (t.dropBytes? i).bind fun w =>
    (p.matchAt (t.take (t.length - w.length)).getLast? w).map (Spans.ofMatch t w)

/-- Behind the first part of a text, that is the match before the second part. -/
theorem preferred_append (p : Program) (x y : Text) :
    p.preferred (x ++ y) x.byteSize =
      (p.matchAt x.getLast? y).map (Spans.ofMatch (x ++ y) y) := by
  rw [preferred, Text.dropBytes?_append, Option.bind_some, List.length_append,
    Nat.add_sub_cancel, List.take_left]

theorem exists_of_preferred {i : Nat} {s : Spans} (h : p.preferred t i = some s) :
    ∃ x y m, t = x ++ y ∧ i = x.byteSize ∧ p.matchAt x.getLast? y = some m ∧
      s = .ofMatch (x ++ y) y m := by
  obtain ⟨y, hy, hm⟩ := Option.bind_eq_some_iff.1 h
  obtain ⟨x, rfl, rfl⟩ := Text.dropBytes?_eq_some_iff.1 hy
  have happend := p.preferred_append x y
  rw [h] at happend
  obtain ⟨m, hm, hs⟩ := Option.map_eq_some_iff.1 happend.symm
  exact ⟨x, y, m, rfl, rfl, hm, hs.symm⟩

/-- What a search finds is preferred where it begins, and nothing matches before. -/
theorem spans?_eq_some {s : Spans} (h : p.spans? false t = some s) :
    ∃ i, p.preferred t i = some s ∧ ∀ j < i, p.preferred t j = none := by
  obtain ⟨⟨y, m⟩, hfind, rfl⟩ := Option.map_eq_some_iff.1 h
  obtain ⟨x, rfl, hm, hbefore⟩ := findFrom_split hfind
  rw [Option.or_none] at hm
  refine ⟨x.byteSize, by rw [preferred_append, hm]; rfl, fun j hj => ?_⟩
  cases hpref : p.preferred (x ++ y) j with
  | none => rfl
  | some s =>
    -- It would begin at a place before, where nothing matches.
    obtain ⟨x', y', m', hsplit, rfl, hm', -⟩ := exists_of_preferred hpref
    have hlt : x'.length < x.length := by
      refine Nat.lt_of_not_le fun hle => ?_
      have hsplit' : x' ++ y' = x ++ y := hsplit.symm
      obtain ⟨c, rfl⟩ := List.prefix_of_prefix_length_le ⟨y, rfl⟩ ⟨y', hsplit'⟩ hle
      rw [Text.byteSize_append] at hj
      omega
    have hnone := hbefore x' y' hsplit hlt
    rw [Option.or_none, hm'] at hnone
    cases hnone

theorem spans?_eq_none (h : p.spans? false t = none) (i : Nat) : p.preferred t i = none := by
  cases hpref : p.preferred t i with
  | none => rfl
  | some s =>
    obtain ⟨x, y, m, hsplit, -, hm, -⟩ := exists_of_preferred hpref
    have hnone := matchAt_eq_none_of_findFrom (Option.map_eq_none_iff.1 h) hsplit
    rw [Option.or_none, hm] at hnone
    cases hnone

end Program

namespace Engine

variable {E : Engine}

/-- The ranges that a program of an engine tells are those of the expression. -/
theorem LeftmostFirst.exists_of_builds (h : E.LeftmostFirst) {p : E.Program} (hp : E.Builds p) :
    ∃ e, ∀ anchored t, E.spans? p anchored t = (Regex.Program.ofExpr e).spans? anchored t := by
  obtain ⟨c, limit, source, hbuild⟩ := hp
  obtain ⟨e, hread, hcompile⟩ := exists_of_bind_eq_ok hbuild
  exact ⟨e, h c source e hread limit p hcompile⟩

/-- **Runs of expressions are leftmost.** -/
theorem LeftmostFirst.leftmost (h : E.LeftmostFirst) : E.Leftmost := by
  intro p hp
  obtain ⟨e, hspans⟩ := h.exists_of_builds hp
  refine ⟨(Regex.Program.ofExpr e).preferred, ?_, fun t => ?_, fun t i s hs hbefore => ?_,
    fun t hnone => ?_⟩
  · intro t i s hs
    obtain ⟨x, y, m, rfl, rfl, -, rfl⟩ := Regex.Program.exists_of_preferred hs
    simp [Spans.ofMatch]
  · rw [hspans]
    exact ((Regex.Program.ofExpr e).preferred_append [] t).symm
  · rw [hspans]
    cases hsearch : (Regex.Program.ofExpr e).spans? false t with
    | none => exact hs ▸ (Regex.Program.spans?_eq_none hsearch i).symm
    | some s' =>
      obtain ⟨j, hs', hbefore'⟩ := Regex.Program.spans?_eq_some hsearch
      -- Both are the first byte at which a match begins.
      rcases Nat.lt_trichotomy i j with hlt | rfl | hlt
      · cases (hbefore' i hlt).symm.trans hs
      · exact hs' ▸ hs
      · cases (hbefore j hlt).symm.trans hs'
  · rw [hspans]
    cases hsearch : (Regex.Program.ofExpr e).spans? false t with
    | none => rfl
    | some s =>
      obtain ⟨i, hs, -⟩ := Regex.Program.spans?_eq_some hsearch
      cases (hnone i).symm.trans hs

/-- **Ranges of runs are aligned.** -/
theorem LeftmostFirst.aligned (h : E.LeftmostFirst) : E.Aligned := by
  intro p hp
  obtain ⟨e, hspans⟩ := h.exists_of_builds hp
  refine ⟨(Regex.Program.ofExpr e).groups, fun anchored t s hs => ?_⟩
  rw [hspans] at hs
  exact Regex.Program.alignedIn_of_spans? (Regex.Program.ofExpr_grouped e) hs

variable (db : Unicode.Database)

theorem ofDatabase_leftmostFirst : (ofDatabase db).LeftmostFirst := by
  intro c source e _ limit p hcompile anchored t
  have hcompile : Regex.Program.compile limit e = .ok p := hcompile
  unfold Regex.Program.compile at hcompile
  dsimp only at hcompile
  split at hcompile
  · obtain rfl := Except.ok.inj hcompile
    rfl
  · cases hcompile

/-- Over a database that knows one more name, a source may ask for it. -/
example : ∃ r, (ofDatabase { Unicode.database with
      named? := fun _ => some (CharSet.ofRange 'ぁ' 'ゖ') }).search? "\\p{Hiragana}+".toList = .ok r ∧
    r.found? "xあい".toList = some ⟨1, "あい".toList, []⟩ := ⟨_, rfl, rfl⟩

theorem ofDatabase_failsAtLimit : (ofDatabase db).FailsAtLimit := by
  intro c source e _ limit f hcompile
  have hcompile : Regex.Program.compile limit e = .error f := hcompile
  unfold Regex.Program.compile at hcompile
  dsimp only at hcompile
  split at hcompile
  · cases hcompile
  · obtain rfl := Except.error.inj hcompile
    rfl

end Engine

end TextScan.Regex
