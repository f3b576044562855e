import TextScan.Text

namespace TextScan

/-!
# The outcome of an attempt

* `Outcome` is what remains of the last attempt to match a pattern: the matched text with its
  captures, or nothing.
* `Outcome.failure` is the outcome of an attempt without a match, and of none at all.
-/

/-- The outcome of the last attempt. -/
structure Outcome where
  /-- The matched text, if there is a match. -/
  text : Option Text
  /-- The texts of the groups; nothing for a group that took no part. -/
  captures : List (Option Text)
  deriving DecidableEq, Repr, Inhabited

namespace Outcome

/-- The outcome without a match. -/
def failure : Outcome := ⟨none, []⟩

/-- The outcome of a match. -/
def success (text : Text) (captures : List (Option Text)) : Outcome := ⟨some text, captures⟩

/-- Whether there is a match. -/
def isSuccess (o : Outcome) : Bool := o.text.isSome

/-- The number of characters matched. -/
def length? (o : Outcome) : Option Nat := o.text.map List.length

/-- Gives an outcome up for the one without a match. -/
def clear (_ : Outcome) : Outcome := failure

@[simp] theorem text_failure : failure.text = none := rfl

@[simp] theorem isSuccess_failure : failure.isSuccess = false := rfl

@[simp] theorem text_success (t : Text) (cs : List (Option Text)) :
    (success t cs).text = some t := rfl

@[simp] theorem isSuccess_success (t : Text) (cs : List (Option Text)) :
    (success t cs).isSuccess = true := rfl

@[simp] theorem length?_success (t : Text) (cs : List (Option Text)) :
    (success t cs).length? = some t.length := rfl

@[simp] theorem clear_eq_failure (o : Outcome) : o.clear = failure := rfl

end Outcome

end TextScan
