import SemanticLayer.Number.Decimal

/-!
# Binary floating-point numbers of 64 bits

A finite number is `mantissa * 2 ^ exponent`. Decimals become the nearest such number. The text of a
number is the shortest decimal that becomes the number again, the nearest one if there are several.
-/

namespace SemanticLayer

/-- A binary floating-point number. The mantissa has 53 bits, fewer only if the exponent is the
least one. -/
inductive Binary64 where
  | finite (negative : Bool) (mantissa : Nat) (exponent : Int)
  | infinite (negative : Bool)
  | nan
  deriving DecidableEq, Repr

namespace Binary64

open Number

def minExponent : Int := -1074

def maxExponent : Int := 971

def zero (negative : Bool) : Binary64 := finite negative 0 minExponent

/-- `num / den` divided by `2 ^ e`, rounded. -/
def scaled (num den : Nat) (e : Int) : Nat :=
  let scale := Nat.pow 2 e.natAbs
  if e < 0 then roundHalfEven (num * scale) den else roundHalfEven num (den * scale)

/-- The exponent for which `num / den` divided by its power has 53 bits before the point. -/
def fittingExponent (num den : Nat) : Int :=
  let e : Int := (num.log2 : Int) - den.log2 - 52
  let scale := Nat.pow 2 e.natAbs
  -- The quotient lies between half and twice the power of two that the lengths give.
  let small :=
    if e < 0 then num * scale < den * Nat.pow 2 52 else num < den * scale * Nat.pow 2 52
  if small then e - 1 else e

/-- The number nearest to `num / den`. -/
def ofRatio (negative : Bool) (num den : Nat) : Binary64 :=
  if num == 0 || den == 0 then zero negative
  else
    let e := max (fittingExponent num den) minExponent
    let m := scaled num den e
    let (m, e) := if Nat.pow 2 53 ≤ m then (m / 2, e + 1) else (m, e)
    if maxExponent < e then infinite negative else finite negative m e

/-- Decimals with more digits before the point than this are infinite. -/
def mostDigits : Int := 400

/-- The number nearest to `coefficient * 10 ^ exponent`. -/
def ofScaled (negative : Bool) (coefficient : Nat) (exponent : Int) : Binary64 :=
  let before : Int := exponent + (toDigits coefficient).length
  if coefficient == 0 || before < -mostDigits then zero negative
  else if mostDigits < before then infinite negative
  else if exponent < 0 then ofRatio negative coefficient (Nat.pow 10 exponent.natAbs)
  else ofRatio negative (coefficient * Nat.pow 10 exponent.natAbs) 1

/-- The number nearest to a decimal; none for a decimal that signals. -/
def ofDecimal? : Decimal → Option Binary64
  | .finite negative coefficient exponent => some (ofScaled negative coefficient exponent)
  | .infinite negative => some (infinite negative)
  | .nan _ signaling _ => if signaling then none else some nan

/-- The number as a quotient, without its sign. -/
def ratio (mantissa : Nat) (exponent : Int) : Nat × Nat :=
  let scale := Nat.pow 2 exponent.natAbs
  if exponent < 0 then (mantissa, scale) else (mantissa * scale, 1)

/-! ## Shortest decimals -/

/-- The decimal exponent of the first digit of `num / den`, searched downward from `e`. -/
def leadingExponent (num den : Nat) : Nat → Int → Int
  | 0, e => e
  | fuel + 1, e =>
    let scale := Nat.pow 10 e.natAbs
    let fits := if e < 0 then den ≤ num * scale else den * scale ≤ num
    if fits then e else leadingExponent num den fuel (e - 1)

/-- The greatest exponent at which the search for the first digit begins. -/
def topExponent (num den : Nat) : Int := ((num.log2 : Int) - den.log2) * 30103 / 100000 + 2

/-- The neighbours of `num / den` among the multiples of `10 ^ step`, with the side that is nearer:
`lt` for the lower one. -/
def neighbours (num den : Nat) (step : Int) : Nat × Ordering :=
  let scale := Nat.pow 10 step.natAbs
  let (n, d) := if step < 0 then (num * scale, den) else (num, den * scale)
  (n / d, compare (2 * (n % d)) d)

/-- The coefficient of `step` that becomes the number `m * 2 ^ e` again, if there is one. Of two the
nearer, and of two at the same distance the even one. -/
def hit? (m : Nat) (e : Int) (step : Int) : Option Nat :=
  let (num, den) := ratio m e
  let (low, side) := neighbours num den step
  let reads (c : Nat) : Bool := ofScaled false c step == finite false m e
  match reads low, reads (low + 1), side with
  | true, true, .lt => some low
  | true, true, .gt => some (low + 1)
  | true, true, .eq => some (if low % 2 == 0 then low else low + 1)
  | true, false, _ => some low
  | false, true, _ => some (low + 1)
  | false, false, _ => none

/-- Tries `digits, digits + 1, …` digits until a decimal becomes the number again. -/
def search (m : Nat) (e lead : Int) : Nat → Nat → Nat × Int
  | 0, _ => (m, 0)
  | fuel + 1, digits =>
    let step := lead - digits + 1
    match hit? m e step with
    | some c => (c, step)
    | none => search m e lead fuel (digits + 1)

/-- The digits without zeros at their end, and the exponent of the last one. -/
def dropZeros : List Char → Int → List Char × Int
  | [], e => ([], e)
  | ds, e =>
    let kept := (ds.reverse.dropWhile (· == '0')).reverse
    (kept, e + (ds.length - kept.length))

/-- The shortest digits of `m * 2 ^ e`, and the exponent of the last one. -/
def shortest (m : Nat) (e : Int) : List Char × Int :=
  let (num, den) := ratio m e
  let lead := leadingExponent num den 8 (topExponent num den)
  let (c, step) := search m e lead 17 1
  dropZeros (toDigits c) step

/-! ## Text -/

/-- The text of an exponent: its sign and at least two digits. -/
def exponentText (e : Int) : String :=
  let digits := toString e.natAbs
  (if e < 0 then "e-" else "e+") ++ (if digits.length < 2 then "0" ++ digits else digits)

/-- Digits whose point stands after the first `place` of them. Numbers from `10 ^ -4` up to
`10 ^ 16` are positional and show a fraction, the others show an exponent. -/
def digitsText (digits : List Char) (place : Int) : String :=
  if -4 < place && place ≤ 16 then
    let text := String.ofList (Decimal.placePoint digits place)
    if (digits.length : Int) ≤ place then text ++ ".0" else text
  else
    let text := match digits with
      | d :: d' :: ds => d :: '.' :: d' :: ds
      | ds => ds
    String.ofList text ++ exponentText (place - 1)

def toText : Binary64 → String
  | finite negative m e =>
    let sign := if negative then "-" else ""
    if m == 0 then sign ++ "0.0"
    else
      let (digits, last) := shortest m e
      sign ++ digitsText digits (last + digits.length)
  | infinite negative => if negative then "-inf" else "inf"
  | nan => "nan"

/-- Reads a number in positional or exponential notation, or one of the words for the others. -/
def ofText? (s : String) : Option Binary64 :=
  match Scientific.ofChars? s.toList with
  | some n => some (ofScaled n.negative n.coefficient n.exponent)
  | none =>
    let (negative, word) := splitSign (s.toList.map Char.toLower)
    if word == "inf".toList || word == "infinity".toList then some (infinite negative)
    else if word == "nan".toList then some nan
    else none

/-- Whether the number is a zero of either sign. -/
def isZero : Binary64 → Bool
  | finite _ m _ => m == 0
  | _ => false

/-- Whether the number is less than zero. -/
def isNegative : Binary64 → Bool
  | finite negative m _ => negative && m != 0
  | infinite negative => negative
  | nan => false

/-- The whole number that a finite number is, if it is one. -/
def toInt? : Binary64 → Option Int
  | finite negative m e =>
    let (num, den) := ratio m e
    if num % den == 0 then
      some (if negative then -((num / den : Nat) : Int) else (num / den : Nat))
    else none
  | _ => none

end Binary64

end SemanticLayer
