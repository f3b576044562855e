import TextScan.Regex.Expr
import TextScan.Regex.Switches

namespace TextScan.Regex

/-!
# Engines

A pattern does not care how its matches are found. It has a source read, it has what was read
compiled, and it asks for matches, which are told as ranges of bytes. What does this is an engine.

* `ByteRange` is a range of bytes, `Spans` the ranges of a match and of its groups.
* `Engine` lists what is asked of an engine. Nothing is said here about what it answers.
* `Engine.build` reads and compiles a source.
-/

/-- A range of bytes of a text. -/
structure ByteRange where
  start : Nat
  stop : Nat
  deriving DecidableEq, Repr

/-- The part of a text in the range, if there is one and its ends are ends of characters. -/
def ByteRange.cut? (r : ByteRange) (text : Text) : Option Text := text.slice? r.start r.stop

/-- Where a match lies. -/
structure Spans where
  whole : ByteRange
  /-- The ranges of the groups; nothing for a group that took no part. -/
  groups : List (Option ByteRange)
  deriving DecidableEq, Repr

/-- An engine for regular expressions. -/
structure Engine where
  /-- What an expression is compiled to. -/
  Program : Type
  /-- Why there is no program for a source. -/
  Fault : Type
  /-- What a source stands for, under the flags that hold where it starts. -/
  read : Switches → Text → Except Fault Expr
  /-- The program for an expression, which may have a greatest size in bytes. -/
  compile : Option Nat → Expr → Except Fault Program
  /-- The first match in a text, or the one at its start if `anchored`. -/
  spans? : Program → (anchored : Bool) → Text → Option Spans
  /-- Whether the fault is that the source is too large or nested too deeply. -/
  isLimit : Fault → Bool
  /-- The report on a source without a program. -/
  report : Text → Fault → Text
  /-- The short form of the report. -/
  summary : Fault → Text

/-- The program for a source. -/
def Engine.build (E : Engine) (c : Switches) (limit : Option Nat) (source : Text) :
    Except E.Fault E.Program := do
  E.compile limit (← E.read c source)

end TextScan.Regex
