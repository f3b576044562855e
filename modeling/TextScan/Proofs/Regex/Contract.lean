import TextScan.Pattern.Regex

namespace TextScan.Regex

/-!
# What is asked of an engine

Patterns rely on what engines document. Each promise is a statement about an engine, and what is
proved of patterns names the promises that it needs.

* `Engine.Leftmost` says which match is found: the preferred one of those that begin first, or the
  preferred one of those that begin at the start.
* `Engine.Aligned` says of the ranges of a match that their ends are ends of characters, and that
  groups lie within the match.
* `Engine.LeftmostFirst` says what is preferred: the engine finds what a run of the expression
  finds, in which earlier branches and more rounds are tried first. That an engine is then leftmost
  and aligned is proved with the runs.
* `Engine.FailsAtLimit` says that an expression is refused only for its size.
* `Engine.ReadsPlain` and `Engine.ReadsDirectives` say how certain sources are read: those in which
  no character has a meaning of its own, and those with a directive before them.
-/

/-! ### Matches -/

/-- The ranges of a match can be cut out of the text, those of the groups lie within the whole, and
    there are so many of them. -/
structure Spans.AlignedIn (s : Spans) (groups : Nat) (text : Text) : Prop where
  whole : ∃ x, s.whole.cut? text = some x
  group : ∀ r, some r ∈ s.groups →
    (∃ x, r.cut? text = some x) ∧ s.whole.start ≤ r.start ∧ r.stop ≤ s.whole.stop
  length : s.groups.length = groups

/-- With aligned ranges, cutting never fails. -/
theorem Spans.AlignedIn.found?_eq {s : Spans} {groups : Nat} {text : Text}
    (h : s.AlignedIn groups text) : s.found? text = some (s.found text) := by
  obtain ⟨whole, hwhole⟩ := h.whole
  have hcaptures : s.groups.map (fun r => r.bind fun r => r.cut? text) =
      s.groups.map fun r => r.map fun r => (r.cut? text).getD [] := by
    refine List.map_congr_left fun r hr => ?_
    cases r with
    | none => rfl
    | some r =>
      obtain ⟨⟨x, hx⟩, -⟩ := h.group r hr
      rw [Option.bind_some, Option.map_some, hx]
      rfl
  rw [found?, found, hwhole, hcaptures]
  rfl

/-! ### Directives -/

/-- The characters that have a meaning of their own in a source. -/
def marks : Text := "\\.+*?()|[]\x7b\x7d^$".toList

/-- No character of the source has a meaning of its own. -/
def Unmarked (source : Text) : Prop := ∀ c ∈ source, c ∉ marks

instance (source : Text) : Decidable (Unmarked source) :=
  List.decidableBAll (fun c => c ∉ marks) source

/-- The letter of a flag. -/
def Flag.letter : Flag → Char
  | caseless => 'i'
  | multiLine => 'm'
  | dotAll => 's'
  | swapGreed => 'U'
  | unicode => 'u'
  | crlf => 'R'
  | verbose => 'x'

/-- Flags to switch on, and flags to switch off. -/
structure Directive where
  on : List Flag
  off : List Flag
  deriving DecidableEq, Repr

namespace Directive

/-- What the directive switches, in order. -/
def settings (d : Directive) : FlagSettings := d.on.map (·, true) ++ d.off.map (·, false)

/-- The directive as it is written. What is switched off stands behind a hyphen. -/
def text (d : Directive) : Text :=
  "(?".toList ++ d.on.map Flag.letter ++
    (if d.off.isEmpty then [] else '-' :: d.off.map Flag.letter) ++ ")".toList

/-- A directive switches something, and nothing twice. -/
structure WellFormed (d : Directive) : Prop where
  ne_nil : d.on ++ d.off ≠ []
  nodup : (d.on ++ d.off).Nodup

end Directive

/-! ### Promises -/

namespace Engine

variable {E : Engine}

/-- The program is that of some source. -/
def Builds (E : Engine) (p : E.Program) : Prop := ∃ c limit source, E.build c limit source = .ok p

/-- For each text and byte, `preferred` is the match that is preferred among those that begin there,
    if there are any. A search finds the one that begins first, and an anchored search tries the
    start alone. -/
structure Prefers (E : Engine) (p : E.Program) (preferred : Text → Nat → Option Spans) : Prop where
  start_eq : ∀ t i s, preferred t i = some s → s.whole.start = i
  anchored : ∀ t, E.spans? p true t = preferred t 0
  first : ∀ t i s, preferred t i = some s → (∀ j < i, preferred t j = none) →
    E.spans? p false t = some s
  none : ∀ t, (∀ i, preferred t i = none) → E.spans? p false t = none

/-- Every program finds preferred matches, those that begin first. -/
def Leftmost (E : Engine) : Prop := ∀ p, E.Builds p → ∃ preferred, E.Prefers p preferred

/-- The ranges of every match are aligned, for as many groups in one text as in another. -/
def Aligned (E : Engine) : Prop :=
  ∀ p, E.Builds p → ∃ groups, ∀ anchored t s, E.spans? p anchored t = some s →
    s.AlignedIn groups t

/-- The program of a source finds what a run of its expression finds. -/
def LeftmostFirst (E : Engine) : Prop :=
  ∀ c source e, E.read c source = .ok e → ∀ limit p, E.compile limit e = .ok p →
    ∀ anchored t, E.spans? p anchored t = (Program.ofExpr e).spans? anchored t

/-- What has been read is compiled unless it is too large. -/
def FailsAtLimit (E : Engine) : Prop :=
  ∀ c source e, E.read c source = .ok e → ∀ limit f, E.compile limit e = .error f →
    E.isLimit f = true

/-- Without marks, a source stands for its characters, one behind another. -/
def ReadsPlain (E : Engine) : Prop :=
  ∀ source, Unmarked source →
    E.read .initial source = .ok (.seqOf (source.map fun c => .literal [c]))

/-- The source is not nested too deeply. -/
def Shallow (E : Engine) (c : Switches) (source : Text) : Prop :=
  ∀ f, E.read c source = .error f → E.isLimit f = false

/-- With a directive before it, a source is read as without it under the flags that the directive
    leads to. -/
def ReadsDirectives (E : Engine) : Prop :=
  ∀ (d : Directive), d.WellFormed → ∀ (c : Switches) (source : Text),
    E.Shallow c (d.text ++ source) → E.Shallow (c.apply d.settings) source →
    ∀ e, E.read c (d.text ++ source) = .ok e ↔ E.read (c.apply d.settings) source = .ok e

end Engine

end TextScan.Regex
