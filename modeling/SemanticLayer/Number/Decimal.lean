import SemanticLayer.Number.Digits
import SemanticLayer.Text.Blank
import SemanticLayer.Text.LetterCase

/-!
# Decimal numbers

Numbers with a sign, decimal digits and a decimal exponent, so that `1.50` and `1.5` are different
decimals of one value. Besides finite decimals there are infinities and values that are no number.
-/

namespace SemanticLayer

inductive Decimal where
  /-- `coefficient * 10 ^ exponent`, with a sign also for zero. -/
  | finite (negative : Bool) (coefficient : Nat) (exponent : Int)
  | infinite (negative : Bool)
  /-- No number. The digits after it are kept. -/
  | nan (negative signaling : Bool) (payload : List Char)
  deriving DecidableEq, Repr

namespace Decimal

open Number

def withoutUnderscores (cs : List Char) : List Char := cs.filter (· != '_')

/-- The words for infinities and for values that are no number, in lower case. -/
def ofWord? (negative : Bool) (cs : List Char) : Option Decimal :=
  let word := cs.map Char.toLower
  if word == "inf".toList || word == "infinity".toList then some (.infinite negative)
  else
    let (signaling, word) := match word with
      | 's' :: rest => (true, rest)
      | _ => (false, word)
    match word with
    | 'n' :: 'a' :: 'n' :: payload =>
      if payload.all isDigit then
        some (.nan negative signaling (payload.dropWhile (· == '0')))
      else none
    | _ => none

/-- Reads a decimal; blanks around it and underscores in it do not matter. -/
def ofText? (s : String) : Option Decimal :=
  let cs := withoutUnderscores (Text.trim s.toList)
  match Scientific.ofChars? cs with
  | some n => some (.finite n.negative n.coefficient n.exponent)
  | none => let (negative, word) := splitSign cs; ofWord? negative word

/-- The text of an exponent, with its sign. -/
def exponentText (e : Int) : String := (if e < 0 then "E" else "E+") ++ showInt e

/-- The digits with a point after the first `place` of them; zeros fill what is missing. -/
def placePoint (digits : List Char) (place : Int) : List Char :=
  if place ≤ 0 then '0' :: '.' :: (List.replicate place.natAbs '0' ++ digits)
  else if digits.length ≤ place.natAbs then
    digits ++ List.replicate (place.natAbs - digits.length) '0'
  else digits.take place.natAbs ++ '.' :: digits.drop place.natAbs

/-- The text of a decimal. It shows the exponent if that is positive or the value is very small. -/
def toText : Decimal → String
  | finite negative coefficient exponent =>
    let digits := toDigits coefficient
    let before : Int := exponent + digits.length
    let plain := exponent ≤ 0 && -6 < before
    let place := if plain then before else 1
    (if negative then "-" else "") ++ String.ofList (placePoint digits place) ++
      (if before == place then "" else exponentText (before - place))
  | infinite negative => if negative then "-Infinity" else "Infinity"
  | nan negative signaling payload =>
    (if negative then "-" else "") ++ (if signaling then "sNaN" else "NaN") ++ String.ofList payload

/-- How many digits the result of an operation keeps. -/
def precision : Nat := 28

/-- The largest exponent that the first digit of a result can have. -/
def topExponent : Int := 999999

/-- The least exponent of a result. Digits below it are rounded away. -/
def leastExponent : Int := -1000026

/-- The exponent of the last digit that the result of an operation keeps. -/
def keptExponent (coefficient : Nat) (exponent : Int) : Int :=
  max exponent (max (exponent + (toDigits coefficient).length - precision) leastExponent)

/-- The coefficient above the last digit that is kept; a half goes to the even neighbour. -/
def nearest (coefficient : Nat) (exponent : Int) : Nat :=
  roundHalfEven coefficient (Nat.pow 10 (keptExponent coefficient exponent - exponent).toNat)

/-- The nearest decimal with the digits that are kept. There is none if the first digit has too
large an exponent. -/
def rounded? (negative : Bool) (coefficient : Nat) (exponent : Int) : Option Decimal :=
  -- Rounding up can give one digit too many. The last one is a zero then.
  let carry : Bool := Nat.pow 10 precision ≤ nearest coefficient exponent
  let c := if carry then nearest coefficient exponent / 10 else nearest coefficient exponent
  let e := keptExponent coefficient exponent + if carry then 1 else 0
  if topExponent < e + (toDigits c).length - 1 then none else some (.finite negative c e)

/-- The decimal with the other sign, rounded, if it is not too large. Zero becomes positive. -/
def negated? : Decimal → Option Decimal
  | finite negative coefficient exponent =>
    if coefficient == 0 then some (.finite false 0 (min (max exponent leastExponent) topExponent))
    else rounded? (!negative) coefficient exponent
  | infinite negative => some (.infinite (!negative))
  | nan negative signaling payload => some (.nan negative signaling payload)

/-- The whole number of a finite decimal whose exponent is not negative. -/
def toInt? : Decimal → Option Int
  | finite negative coefficient exponent =>
    if exponent < 0 then none
    else
      let n : Int := coefficient * Nat.pow 10 exponent.natAbs
      some (if negative then -n else n)
  | _ => none

end Decimal

end SemanticLayer
