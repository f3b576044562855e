import TextScan.Regex.Tree

namespace TextScan.Regex

/-!
# Flags and settings

Every part of a regular expression stands under flags. Those that hold at the start of a source are
given beforehand, and directives change them from there on.

* `Flags` are the flags that say what a part means, `Flags.apply` takes in a directive.
* `Switches` adds the flag that says how a source is read. It has a value for every letter of a
  directive.
* `Settings` is what can be chosen for a source beforehand, `Settings.switches` are the flags of it.
-/

/-- The flags that hold at some place. -/
structure Flags where
  /-- Letters match in both cases. -/
  caseless : Bool
  /-- Tests of the ends of the text hold at the ends of lines too. -/
  multiLine : Bool
  /-- The dot matches line feeds too. -/
  dotAll : Bool
  /-- Repetitions prefer few rounds, and many with a question mark. -/
  swapGreed : Bool
  /-- Classes and case follow the character database and not ASCII. -/
  unicode : Bool
  /-- A carriage return ends a line too. -/
  crlf : Bool
  deriving DecidableEq, Repr

/-- Sets one flag. The verbose flag concerns reading only. -/
def Flags.put (f : Flags) : Flag → Bool → Flags
  | .caseless, on => { f with caseless := on }
  | .multiLine, on => { f with multiLine := on }
  | .dotAll, on => { f with dotAll := on }
  | .swapGreed, on => { f with swapGreed := on }
  | .unicode, on => { f with unicode := on }
  | .crlf, on => { f with crlf := on }
  | .verbose, _ => f

/-- The flags behind a directive. -/
def Flags.apply (f : Flags) (settings : FlagSettings) : Flags :=
  settings.foldl (fun f (flag, on) => f.put flag on) f

/-- The verbose flag of a directive, if it has one. -/
def FlagSettings.verbose? (flags : FlagSettings) : Option Bool := flags.lookup .verbose

/-- The value of every flag. -/
structure Switches extends Flags where
  /-- Blanks mean nothing and comments are allowed. -/
  verbose : Bool
  deriving DecidableEq, Repr

/-- The flags of an expression without directives. -/
def Switches.initial : Switches := ⟨⟨false, false, false, false, true, false⟩, false⟩

/-- The flags behind a directive. -/
def Switches.apply (s : Switches) (settings : FlagSettings) : Switches :=
  ⟨s.toFlags.apply settings, settings.verbose?.getD s.verbose⟩

/-- How a source is taken where it has no directives of its own, and how large it may be. -/
structure Settings where
  /-- Letters match in both cases. -/
  caseless : Bool
  /-- Tests of the ends of the text hold at the ends of lines too. -/
  multiLine : Bool
  /-- The dot matches line feeds too. -/
  dotAll : Bool
  /-- Blanks mean nothing and comments are allowed. -/
  verbose : Bool
  /-- Classes and case follow the character database and not ASCII. -/
  unicode : Bool
  /-- The greatest size in bytes, if it is not the usual one. -/
  sizeLimit : Option Nat
  deriving DecidableEq, Repr

/-- The settings of a source without any. -/
def Settings.default : Settings := ⟨false, false, false, false, true, none⟩

/-- The flags at the start of a source. Those that the settings do not name are as usual. -/
def Settings.switches (s : Settings) : Switches :=
  { Switches.initial with
    caseless := s.caseless
    multiLine := s.multiLine
    dotAll := s.dotAll
    verbose := s.verbose
    unicode := s.unicode }

end TextScan.Regex
