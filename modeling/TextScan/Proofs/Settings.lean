import TextScan.Proofs.Regex.Anchored
import TextScan.Proofs.Regex.Opening

namespace TextScan

open Regex

/-!
# Settings and directives

The settings of a regular expression can be written down as a directive before its source. The two
ways lead to the same expression, or to none.

* `Regex.Settings.switched` is the directive for what settings switch, `Regex.Settings.directive` is
  how it is written.
* By `Regex.Settings.switches_eq_apply`, settings give the flags that the directive leads to.
* `AnchoredRegex.settings_eq_directive` is the result for regular expressions.
-/

namespace Regex

namespace Settings

/-- The directive for what the settings switch. -/
def switched (s : Settings) : Directive where
  on := (if s.caseless then [.caseless] else []) ++ (if s.multiLine then [.multiLine] else []) ++
    (if s.dotAll then [.dotAll] else []) ++ (if s.verbose then [.verbose] else [])
  off := if s.unicode then [] else [.unicode]

/-- The directive as it is written. There is none if nothing is switched. -/
def directive (s : Settings) : Text :=
  if s.switched.on.isEmpty && s.switched.off.isEmpty then [] else s.switched.text

variable (s : Settings)

/-- **Every setting** is the flag of its letter. -/
theorem switches_eq_apply : s.switches = Switches.initial.apply s.switched.settings := by
  obtain ⟨caseless, multiLine, dotAll, verbose, unicode, limit⟩ := s
  cases caseless <;> cases multiLine <;> cases dotAll <;> cases verbose <;> cases unicode <;> rfl

theorem nodup_switched : (s.switched.on ++ s.switched.off).Nodup := by
  obtain ⟨caseless, multiLine, dotAll, verbose, unicode, limit⟩ := s
  cases caseless <;> cases multiLine <;> cases dotAll <;> cases verbose <;> cases unicode <;>
    simp [switched]

/-- The settings switch nothing, or their directive is well-formed. -/
theorem directive_cases :
    (s.directive = [] ∧ s.switches = Switches.initial) ∨
      s.switched.WellFormed ∧ s.directive = s.switched.text := by
  have hswitches := s.switches_eq_apply
  unfold directive
  split
  · rename_i hempty
    obtain ⟨hon, hoff⟩ := Bool.and_eq_true_iff.1 hempty
    refine .inl ⟨rfl, ?_⟩
    rw [hswitches, Directive.settings, List.isEmpty_iff.1 hon, List.isEmpty_iff.1 hoff]
    rfl
  · rename_i hempty
    refine .inr ⟨⟨fun hnil => hempty ?_, s.nodup_switched⟩, rfl⟩
    obtain ⟨hon, hoff⟩ := List.append_eq_nil_iff.1 hnil
    rw [hon, hoff]
    rfl

end Settings

namespace Engine

variable {E : Engine} {settings : Settings} {source : Text}

/-- With the directive for settings before it, a source is read as under the settings. -/
theorem ReadsDirectives.read_directive (h : E.ReadsDirectives)
    (hdeep : E.Shallow settings.switches source)
    (hdeep' : E.Shallow .initial (settings.directive ++ source)) (e : Expr) :
    E.read .initial (settings.directive ++ source) = .ok e ↔
      E.read settings.switches source = .ok e := by
  obtain ⟨hdirective, hswitches⟩ | ⟨hwell, hdirective⟩ := settings.directive_cases
  · rw [hdirective, hswitches, List.nil_append]
  · rw [hdirective] at hdeep' ⊢
    rw [settings.switches_eq_apply] at hdeep ⊢
    exact h _ hwell .initial source hdeep' hdeep e

/-- Both are built alike, without a size of their own. -/
theorem ReadsDirectives.build_eq_ok_iff (h : E.ReadsDirectives)
    (hdeep : E.Shallow settings.switches source)
    (hdeep' : E.Shallow .initial (settings.directive ++ source)) (p : E.Program) :
    E.build .initial none (settings.directive ++ source) = .ok p ↔
      E.build settings.switches none source = .ok p := by
  have hread := h.read_directive hdeep hdeep'
  constructor
  · intro hbuild
    obtain ⟨e, he, hcompile⟩ := exists_of_bind_eq_ok hbuild
    rw [build, (hread e).1 he]
    exact hcompile
  · intro hbuild
    obtain ⟨e, he, hcompile⟩ := exists_of_bind_eq_ok hbuild
    rw [build, (hread e).2 he]
    exact hcompile

theorem anchored?_of_build {p : E.Program}
    (h : E.build settings.switches settings.sizeLimit source = .ok p) :
    E.anchored? source settings = .ok ⟨source, p⟩ := by
  rw [anchored?, h]

end Engine

end Regex

/-! ### Regular expressions -/

namespace AnchoredRegex

/-- **Settings and directives are the same.** Let an engine read directives as they are meant, and
    let the settings name no size. A source that is not nested too deeply is accepted under the
    settings exactly if it is accepted with the directive for them before it. The two regular
    expressions match alike in every text, at its start and anywhere, with the same captures. The
    engine of this library reads directives so, whatever properties of characters it knows. -/
theorem settings_eq_directive :
    (∀ E : Engine, E.ReadsDirectives → ∀ (settings : Settings) (source : Text),
      settings.sizeLimit = none → E.Shallow settings.switches source →
      E.Shallow .initial (settings.directive ++ source) →
      ((∃ r, E.anchored? source settings = .ok r) ↔
        ∃ r, E.anchored? (settings.directive ++ source) .default = .ok r) ∧
      ∀ r r', E.anchored? source settings = .ok r →
        E.anchored? (settings.directive ++ source) .default = .ok r' →
        ∀ text, r.toPattern.atStart text = r'.toPattern.atStart text ∧
          r.toPattern.anywhere text = r'.toPattern.anywhere text) ∧
    ∀ db : Unicode.Database, (Engine.ofDatabase db).ReadsDirectives := by
  refine ⟨fun E h settings source hlimit hdeep hdeep' => ?_, Engine.ofDatabase_readsDirectives⟩
  have hbuild := h.build_eq_ok_iff hdeep hdeep'
  refine ⟨⟨?_, ?_⟩, ?_⟩
  · rintro ⟨r, hr⟩
    have hr := Engine.build_of_anchored? hr
    rw [hlimit] at hr
    have hbuilt : E.build Settings.default.switches Settings.default.sizeLimit
        (settings.directive ++ source) = .ok r.program := (hbuild _).2 hr
    exact ⟨_, Engine.anchored?_of_build hbuilt⟩
  · rintro ⟨r, hr⟩
    have hr := (hbuild _).1 (Engine.build_of_anchored? hr)
    rw [← hlimit] at hr
    exact ⟨_, Engine.anchored?_of_build hr⟩
  · intro r r' hr hr' text
    have hr := Engine.build_of_anchored? hr
    have hr' := (hbuild _).1 (Engine.build_of_anchored? hr')
    rw [hlimit] at hr
    -- One program serves both.
    have hsame : r.program = r'.program := Except.ok.inj (hr.symm.trans hr')
    have hfound (anchored : Bool) : r.found? anchored text = r'.found? anchored text := by
      rw [Engine.AnchoredRegex.found?, Engine.AnchoredRegex.found?, hsame]
    exact ⟨congrArg Except.ok (hfound true), congrArg Except.ok (hfound false)⟩

/-- Settings for a source of several lines with remarks. -/
def remarkSettings : Settings := ⟨false, true, true, true, true, none⟩

/-- A source with a group that is not verbose, and with a remark. -/
def remarkSource : Text := "^ b (.) (?-x: a) # ) the end".toList

theorem settings_eq_directive_remarkSource :
    ∃ r r', withSettings? remarkSource remarkSettings = .ok r ∧
      remarkSettings.directive = "(?msx)".toList ∧
      new? ("(?msx)".toList ++ remarkSource) = .ok r' ∧
      r.toPattern.anywhere "é\nb\n a".toList =
        .ok (some ⟨3, "b\n a".toList, [some ['\n']]⟩) ∧
      r'.toPattern.anywhere "é\nb\n a".toList =
        .ok (some ⟨3, "b\n a".toList, [some ['\n']]⟩) := by
  have hbuild : ∃ r, withSettings? remarkSource remarkSettings = .ok r ∧
      r.toPattern.anywhere "é\nb\n a".toList =
        .ok (some ⟨3, "b\n a".toList, [some ['\n']]⟩) := ⟨_, rfl, rfl⟩
  obtain ⟨r, hr, hfound⟩ := hbuild
  have hdeep : engine.Shallow remarkSettings.switches remarkSource := fun _ h => by cases h
  have hdeep' : engine.Shallow .initial (remarkSettings.directive ++ remarkSource) :=
    fun _ h => by cases h
  obtain ⟨hdirectives, hengine⟩ := settings_eq_directive
  obtain ⟨hbuilds, hsame⟩ := hdirectives engine (hengine Unicode.database) _ _ rfl hdeep hdeep'
  obtain ⟨r', hr'⟩ := hbuilds.1 ⟨r, hr⟩
  exact ⟨r, r', hr, rfl, hr', hfound, ((hsame r r' hr hr' _).2).symm.trans hfound⟩

end AnchoredRegex

end TextScan
