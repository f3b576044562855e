import TextScan.Proofs.Regex.Leftmost

namespace TextScan

/-!
# Ways to use a regular expression

An engine that tells the ranges of a program makes it the pattern of that program, in each way of
use.

* `Engine.SearchRegex.toPattern_eq` and `Engine.AnchoredRegex.toPattern_eq` say so of the two kinds
  of regular expressions, `Engine.source_eq_toPattern` of sources as patterns.
* `Engine.IsRegex` says that a pattern is a regular expression of a given source, in one of three
  ways of use. By `Engine.LeftmostFirst.eq_toPattern`, they match alike if the engine runs
  expressions. `Pattern.IsRegex` is the case of the engine of this library.
-/

namespace Regex.Engine

variable {E : Engine} {source : Text}

/-! ### Patterns of programs -/

section Patterns

variable {p : Regex.Program} (hp : p.Grouped)
include hp

theorem SearchRegex.toPattern_eq {r : E.SearchRegex}
    (h : ∀ t, E.spans? r.program false t = p.spans? false t) : r.toPattern = p.toPattern := by
  have hfound (t : Text) : r.found? t = p.found? t := by
    rw [found?, h, Program.spans?_map_found hp]
  have hstart (t : Text) : r.foundAtStart? t = p.foundAtStart? t := by
    rw [foundAtStart?, hfound, Program.found?_filter_start]
  unfold toPattern Program.toPattern
  simp only [hfound, hstart]

theorem AnchoredRegex.toPattern_eq {r : E.AnchoredRegex}
    (h : ∀ anchored t, E.spans? r.program anchored t = p.spans? anchored t) :
    r.toPattern = p.toPattern := by
  have hfound (anchored : Bool) (t : Text) : r.found? anchored t =
      if anchored then p.foundAtStart? t else p.found? t := by
    rw [found?, h, Program.spans?_bind_found? hp]
  unfold toPattern Program.toPattern
  simp only [hfound, if_true, Bool.false_eq_true, if_false]

end Patterns

/-! ### Ways of use -/

/-- A source that is accepted is the search for it. -/
theorem source_eq_toPattern {r : E.SearchRegex} (h : E.search? source = .ok r) :
    E.source source = r.toPattern := by
  unfold Engine.source SearchRegex.toPattern
  simp only [h]
  rfl

/-- A search for a source has its program. -/
theorem build_of_search? {r : E.SearchRegex} (h : E.search? source = .ok r) :
    E.build .initial (some usualLimit) source = .ok r.program := by
  unfold search? at h
  split at h
  · rename_i hbuild
    exact Except.ok.inj h ▸ hbuild
  · cases h

theorem build_of_anchored? {settings : Settings} {r : E.AnchoredRegex}
    (h : E.anchored? source settings = .ok r) :
    E.build settings.switches settings.sizeLimit source = .ok r.program := by
  unfold anchored? at h
  split at h
  · rename_i hbuild
    exact Except.ok.inj h ▸ hbuild
  · cases h

/-- The pattern is the regular expression with the given source. -/
inductive IsRegex (E : Engine) (source : Text) : Pattern → Prop
  | source : IsRegex E source (E.source source)
  | search {r : E.SearchRegex} : E.search? source = .ok r → IsRegex E source r.toPattern
  | anchored {r : E.AnchoredRegex} :
      E.anchored? source .default = .ok r → IsRegex E source r.toPattern

namespace LeftmostFirst

variable (h : E.LeftmostFirst) {e : Expr}
include h

/-- The program of a source tells the ranges of its expression. -/
theorem spans?_eq_of_build {c : Switches} (hread : E.read c source = .ok e) {limit : Option Nat}
    {p : E.Program} (hbuild : E.build c limit source = .ok p) (anchored : Bool) (t : Text) :
    E.spans? p anchored t = (Regex.Program.ofExpr e).spans? anchored t := by
  obtain ⟨e', hread', hcompile⟩ := exists_of_bind_eq_ok hbuild
  obtain rfl := Except.ok.inj (hread.symm.trans hread')
  exact h c source e hread limit p hcompile anchored t

theorem search_eq_toPattern {c : Switches} (hread : E.read c source = .ok e)
    {limit : Option Nat} {p : E.Program} (hbuild : E.build c limit source = .ok p) :
    (⟨p⟩ : E.SearchRegex).toPattern = (Regex.Program.ofExpr e).toPattern :=
  SearchRegex.toPattern_eq (Regex.Program.ofExpr_grouped e) fun t =>
    h.spans?_eq_of_build hread hbuild false t

theorem anchored_eq_toPattern {settings : Settings}
    (hread : E.read settings.switches source = .ok e) {r : E.AnchoredRegex}
    (hr : E.anchored? source settings = .ok r) :
    r.toPattern = (Regex.Program.ofExpr e).toPattern :=
  AnchoredRegex.toPattern_eq (Regex.Program.ofExpr_grouped e)
    (h.spans?_eq_of_build hread (build_of_anchored? hr))

/-- **However it is used**, a regular expression is the pattern of the program for what it stands
    for. -/
theorem eq_toPattern {q : Pattern} (hq : E.IsRegex source q)
    (hread : E.read .initial source = .ok e) {r : E.SearchRegex} (hr : E.search? source = .ok r) :
    q = (Regex.Program.ofExpr e).toPattern := by
  cases hq with
  | source => rw [source_eq_toPattern hr, h.search_eq_toPattern hread (build_of_search? hr)]
  | search hr' => exact h.search_eq_toPattern hread (build_of_search? hr')
  | anchored hr' =>
    have hread : E.read Settings.default.switches source = .ok e := hread
    exact h.anchored_eq_toPattern hread hr'

end LeftmostFirst

end Regex.Engine

/-- The pattern is the regular expression with the given source. -/
abbrev Pattern.IsRegex (source : Text) (p : Pattern) : Prop := Regex.engine.IsRegex source p

end TextScan
