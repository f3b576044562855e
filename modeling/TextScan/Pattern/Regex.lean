import TextScan.Pattern
import TextScan.Regex.Build

namespace TextScan

open Regex

/-!
# Regular expressions as patterns

There are three ways to use a regular expression. They match alike and differ in when a malformed
source is reported, and in what the report says.

* `Engine.source` builds the program whenever it is asked, so a malformed source fails then.
* `Engine.SearchRegex` is built beforehand and only searches: what it finds at the start of a text
  is what it finds anywhere, dropped unless it starts there.
* `Engine.AnchoredRegex` is built beforehand under `Settings`. At the start of a text it tries no
  other place.

All of them are over any engine. `Pattern.source`, `SearchRegex` and `AnchoredRegex` are those over
the engine of this library.
-/

namespace Regex

/-! ### Matches -/

/-- The match with the given ranges. They are taken for ranges of the text. -/
def Spans.found (s : Spans) (text : Text) : Found where
  start := s.whole.start
  text := (s.whole.cut? text).getD []
  captures := s.groups.map fun r => r.map fun r => (r.cut? text).getD []

/-- The match with the given ranges, if the whole can be cut out of the text. A group that cannot
    counts as one that took no part. -/
def Spans.found? (s : Spans) (text : Text) : Option Found :=
  (s.whole.cut? text).map fun whole => {
    start := s.whole.start
    text := whole
    captures := s.groups.map fun r => r.bind fun r => r.cut? text }

namespace Engine

variable {E : Engine}

/-! ### Ways of use -/

/-- A regular expression that searches. -/
structure SearchRegex (E : Engine) where
  program : E.Program

/-- Builds the program for a source, of which the greatest size is fixed. A refusal is reported with
    the source. -/
def search? (E : Engine) (source : Text) : Except PatternError E.SearchRegex :=
  match E.build .initial (some usualLimit) source with
  | .ok p => .ok ⟨p⟩
  | .error e => .error (.malformed (E.report source e))

namespace SearchRegex

/-- The first match. -/
def found? (r : E.SearchRegex) (text : Text) : Option Found :=
  (E.spans? r.program false text).map (·.found text)

/-- The first match, if it starts where the text starts. -/
def foundAtStart? (r : E.SearchRegex) (text : Text) : Option Found :=
  (r.found? text).filter fun m => m.start = 0

/-- The regular expression as a pattern. -/
def toPattern (r : E.SearchRegex) : Pattern where
  atStart text := .ok (r.foundAtStart? text)
  anywhere text := .ok (r.found? text)

end SearchRegex

/-- The source of a regular expression as a pattern. -/
def source (E : Engine) (source : Text) : Pattern where
  atStart text := do return (← E.search? source).foundAtStart? text
  anywhere text := do return (← E.search? source).found? text

/-- A regular expression that can be tried at one place alone. -/
structure AnchoredRegex (E : Engine) where
  /-- The source as given. -/
  source : Text
  program : E.Program

/-- Builds the program for a source under settings. A refusal is reported in short form. -/
def anchored? (E : Engine) (source : Text) (settings : Settings) :
    Except PatternError E.AnchoredRegex :=
  match E.build settings.switches settings.sizeLimit source with
  | .ok p => .ok ⟨source, p⟩
  | .error e => .error (.malformed (E.summary e))

namespace AnchoredRegex

/-- The first match, or the one where the text starts. -/
def found? (r : E.AnchoredRegex) (anchored : Bool) (text : Text) : Option Found :=
  (E.spans? r.program anchored text).bind (·.found? text)

/-- The regular expression as a pattern. -/
def toPattern (r : E.AnchoredRegex) : Pattern where
  atStart text := .ok (r.found? true text)
  anywhere text := .ok (r.found? false text)

end AnchoredRegex

end Engine

end Regex

/-! ### The engine of this library -/

/-- A regular expression that searches. -/
abbrev SearchRegex : Type := engine.SearchRegex

/-- Builds the program for a source. A refusal is reported with the source. -/
abbrev SearchRegex.new? (source : Text) : Except PatternError SearchRegex := engine.search? source

/-- The source of a regular expression as a pattern. -/
abbrev Pattern.source (source : Text) : Pattern := engine.source source

/-- A regular expression that can be tried at one place alone. -/
abbrev AnchoredRegex : Type := engine.AnchoredRegex

namespace AnchoredRegex

/-- Builds the program for a source under settings. A refusal is reported in short form. -/
abbrev withSettings? (source : Text) (settings : Settings) : Except PatternError AnchoredRegex :=
  engine.anchored? source settings

/-- Builds the program for a source. -/
abbrev new? (source : Text) : Except PatternError AnchoredRegex :=
  withSettings? source Settings.default

end AnchoredRegex

end TextScan
