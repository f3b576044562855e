import TextScan.Text

namespace TextScan

/-!
# Decimal numbers

* `Text.decimal` is the shortest decimal form of an integer, with a minus sign before the negative
  ones.
* `Fraction` is the type of numbers with digits behind a point, `Fraction.decimal` their decimal
  form.
-/

/-- The minus sign of negative numbers. -/
def Text.sign (negative : Bool) : Text := if negative then ['-'] else []

/-- The decimal form of an integer. -/
def Text.decimal : Int → Text
  | .ofNat n => Nat.toDigits 10 n
  | .negSucc n => '-' :: Nat.toDigits 10 (n + 1)

/-- Whether digits may stand behind the point. The last one must not be a zero, unless it is the only
    one. -/
def Text.isFractional (digits : Text) : Bool :=
  digits.all Char.isDigit && (digits == ['0'] || digits.getLast?.any fun d => d != '0')

/-- A number with digits behind the point. -/
structure Fraction where
  negative : Bool
  whole : Nat
  digits : Text
  isFractional : digits.isFractional
  deriving DecidableEq, Repr

/-- The decimal form of a fraction. -/
def Fraction.decimal (f : Fraction) : Text :=
  Text.sign f.negative ++ (Nat.toDigits 10 f.whole ++ '.' :: f.digits)

end TextScan
