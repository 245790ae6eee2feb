import SemanticLayer.Data.Json
import SemanticLayer.Data.Value
import SemanticLayer.Yaml.Cursor

/-!
# What scalars mean

A plain scalar without a tag is an empty value, a truth value, a number, a date or a text, by its
form. A tag says the kind whatever the form is; then the text may not fit.
-/

namespace SemanticLayer.Yaml

inductive Kind where
  | null
  | bool
  | int
  | float
  | moment
  | string
  | sequence
  | mapping
  /-- The key under which other mappings are taken over. -/
  | merge
  | defaultKey
  | unknown
  deriving DecidableEq, Repr

namespace Scalar

/-! ## Pieces of text -/

/-- The pieces of a text between separators. -/
def split (sep : Char) (cs : List Char) : List (List Char) :=
  let step (c : Char) : List (List Char) → List (List Char)
    | [] => [[c]]
    | p :: ps => if c == sep then [] :: p :: ps else (c :: p) :: ps
  cs.foldr step [[]]

/-- A text without a sign. -/
def unsigned : List Char → List Char
  | '+' :: cs | '-' :: cs => cs
  | cs => cs

/-- A digit or an underscore. -/
def isDigitOrBar (c : Char) : Bool := Number.isDigit c || c == '_'

/-- A digit and then digits and underscores. -/
def isDigits : List Char → Bool
  | [] => false
  | c :: cs => Number.isDigit c && cs.all isDigitOrBar

/-- Like `isDigits`, without a zero in front. -/
def isCount (cs : List Char) : Bool := isDigits cs && cs.head? != some '0'

/-- A number below 60. -/
def isSixtieth : List Char → Bool
  | [a] => Number.isDigit a
  | [a, b] => '0' ≤ a && a ≤ '5' && Number.isDigit b
  | _ => false

def dropBars (cs : List Char) : List Char := cs.filter (· != '_')

/-! ## Whole numbers -/

/-- Whether a text has the form of a whole number: binary, octal, decimal, hexadecimal, or with
sixtieths. -/
def isInt (cs : List Char) : Bool :=
  match unsigned cs with
  | '0' :: 'b' :: ds => !ds.isEmpty && ds.all fun c => c == '0' || c == '1' || c == '_'
  | '0' :: 'x' :: ds => !ds.isEmpty && ds.all fun c => (Json.hexValue? c).isSome || c == '_'
  | '0' :: ds => ds.all fun c => '0' ≤ c && c ≤ '7' || c == '_'
  | ds =>
    match split ':' ds with
    | [] => false
    | first :: rest => isCount first && rest.all isSixtieth

/-- The number that digits of a base write. -/
def ofBase (base : Nat) (cs : List Char) : Except Error Nat :=
  let step (n : Nat) (c : Char) : Option Nat := do
    let d ← Json.hexValue? c
    if d < base then some (base * n + d) else none
  match cs.isEmpty, cs.foldlM step 0 with
  | false, some n => .ok n
  | _, _ => .error .badNumber

/-- The whole number that a text writes. -/
def intOf (s : String) : Except Error Int := do
  let cs := dropBars s.toList
  let digits := unsigned cs
  let n ← match digits with
    | [] => throw (if cs.isEmpty then .emptyNumber else .badNumber)
    | ['0'] => pure 0
    | '0' :: 'b' :: ds => ofBase 2 ds
    | '0' :: 'x' :: ds => ofBase 16 ds
    | '0' :: ds => ofBase 8 ('0' :: ds)
    | ds => do
      let parts ← (split ':' ds).mapM (ofBase 10)
      pure (parts.foldl (fun n part => 60 * n + part) 0)
  return if cs.head? == some '-' then -n else n

/-! ## Numbers with a point -/

/-- Whether nothing or an exponent follows. -/
def isExponent : List Char → Bool
  | [] => true
  | e :: sign :: ds =>
    (e == 'e' || e == 'E') && (sign == '+' || sign == '-') && !ds.isEmpty && ds.all Number.isDigit
  | _ => false

/-- Whether a text has the form of a number with a point. -/
def isFloat (cs : List Char) : Bool :=
  let number := unsigned cs
  let whole := number.takeWhile (· != '.')
  match number.drop whole.length with
  | [] => false
  | _ :: fraction =>
    let tail := fraction.dropWhile isDigitOrBar
    match split ':' whole with
    | [[]] =>
      (cs.head? == some '.' && isDigits (fraction.takeWhile isDigitOrBar) && isExponent tail) ||
        ["inf", "Inf", "INF"].contains (String.ofList fraction) ||
        (cs.head? == some '.' && ["nan", "NaN", "NAN"].contains (String.ofList fraction))
    | [first] => isDigits first && isExponent tail
    | first :: rest => isDigits first && rest.all isSixtieth && tail.isEmpty
    | [] => false

/-- A number as a quotient. -/
def quotient : Binary64 → Nat × Nat
  | .finite _ m e => Binary64.ratio m e
  | _ => (0, 1)

/-- `a + b * scale`, rounded after each operation. -/
def plusScaled (a b : Binary64) (scale : Nat) : Binary64 :=
  let (n, d) := quotient b
  let (m, k) := quotient a
  let (n, d) := quotient (Binary64.ofRatio false (n * scale) d)
  Binary64.ofRatio false (m * d + n * k) (k * d)

/-- The sum of sixtieths, the last part first. -/
def sumSixtieths : Nat → Binary64 → List Binary64 → Binary64
  | _, sum, [] => sum
  | scale, sum, part :: parts => sumSixtieths (60 * scale) (plusScaled sum part scale) parts

/-- The number with the sign of a text. -/
def withSign (negative : Bool) : Binary64 → Binary64
  | .finite _ m e => .finite negative m e
  | .infinite _ => .infinite negative
  | .nan => .nan

/-- A number of a text without a sign. -/
def unsignedFloat (cs : List Char) : Except Error Binary64 :=
  match Binary64.ofText? (String.ofList cs) with
  | some x => .ok x
  | none => .error .badNumber

/-- The number with a point that a text writes. -/
def floatOf (s : String) : Except Error Binary64 := do
  let cs := (dropBars s.toList).map Char.toLower
  if cs.isEmpty then throw .emptyNumber
  let digits := unsigned cs
  let x ←
    if digits == ".inf".toList then pure (Binary64.infinite false)
    else if digits == ".nan".toList then pure Binary64.nan
    else
      match split ':' digits with
      | [ds] => unsignedFloat ds
      | parts => do
        let parts ← parts.mapM unsignedFloat
        pure (sumSixtieths 1 (Binary64.zero false) parts.reverse)
  return withSign (cs.head? == some '-') x

/-! ## Dates -/

/-- A number with at least and at most so many digits, and the text after it. -/
def digitsUpTo (least most : Nat) (cs : List Char) : Option (Nat × List Char) :=
  let ds := (cs.take most).takeWhile Number.isDigit
  if least ≤ ds.length then some (Number.ofDigits ds, cs.drop ds.length) else none

/-- The text after a character. -/
def after? (c : Char) : List Char → Option (List Char)
  | d :: cs => if d == c then some cs else none
  | [] => none

/-- The distance from universal time in minutes, and the text after it. Nothing may stand here. -/
def offset? (cs : List Char) : Option (Option Int × List Char) :=
  match cs.dropWhile fun c => c == ' ' || c == '\t' with
  | 'Z' :: rest => some (some 0, rest)
  | sign :: rest =>
    if sign == '+' || sign == '-' then do
      let (hours, rest) ← digitsUpTo 1 2 rest
      let (minutes, rest) := ((after? ':' rest).bind (digitsUpTo 2 2)).getD (0, rest)
      let total : Int := 60 * hours + minutes
      some (some (if sign == '-' then -total else total), rest)
    else some (none, cs)
  | [] => some (none, cs)

/-- The time of day that a text writes. -/
def time? (cs : List Char) : Option TimeOfDay := do
  let (hour, cs) ← digitsUpTo 1 2 cs
  let (minute, cs) ← digitsUpTo 2 2 (← after? ':' cs)
  let (second, cs) ← digitsUpTo 2 2 (← after? ':' cs)
  let (fraction, cs) := match after? '.' cs with
    | some rest => Number.spanDigits rest
    | none => ([], cs)
  let microsecond := Number.ofDigits ((fraction ++ List.replicate 6 '0').take 6)
  let (offset, cs) ← offset? cs
  if cs.isEmpty then some { hour, minute, second, microsecond, offset } else none

/-- The date that a text writes, perhaps with a time of day; it need not exist. -/
def moment? (cs : List Char) : Option Moment := do
  let (year, cs) ← digitsUpTo 4 4 cs
  let (month, cs) ← digitsUpTo 1 2 (← after? '-' cs)
  let (day, cs) ← digitsUpTo 1 2 (← after? '-' cs)
  match cs with
  | [] => some { year, month, day }
  | c :: rest =>
    if c == 'T' || c == 't' then return { year, month, day, time := some (← time? rest) }
    else if c == ' ' || c == '\t' then
      let rest := rest.dropWhile fun c => c == ' ' || c == '\t'
      return { year, month, day, time := some (← time? rest) }
    else none

/-- Whether a text has the form of a date: one alone has two digits for its month and its day. -/
def isMoment (cs : List Char) : Bool :=
  match moment? cs with
  | some m => m.time.isSome || cs.length == 10
  | none => false

def dayMinutes : Nat := 24 * 60

/-- The date that a text writes. -/
def momentOf (s : String) : Except Error Moment :=
  match moment? s.toList with
  | none => .error .noMoment
  | some m =>
    let isNear := (m.time.bind TimeOfDay.offset).all fun o => o.natAbs < dayMinutes
    if m.isValid && isNear then .ok m else .error .badMoment

/-! ## Kinds -/

def truths : List (String × Bool) :=
  [("yes", true), ("no", false), ("true", true), ("false", false), ("on", true), ("off", false)]

/-- A word in lower case, with a capital, or in capitals. -/
def spellings (s : String) : List String := [s, s.capitalize, s.toUpper]

/-- The kind of a plain scalar without a tag. -/
def kindOf (s : String) : Kind :=
  let cs := s.toList
  if (truths.flatMap fun t => spellings t.1).contains s then .bool
  else if s == "" || s == "~" || (spellings "null").contains s then .null
  else if s == "<<" then .merge
  else if s == "=" then .defaultKey
  else if isFloat cs then .float
  else if isInt cs then .int
  else if isMoment cs then .moment
  else .string

def value (kind : Kind) (s : String) : Except Error Value :=
  match kind with
  | .null => .ok .null
  | .bool =>
    match truths.lookup s.toLower with
    | some b => .ok (.bool b)
    | none => .error .badTruth
  | .int => .int <$> intOf s
  | .float => .float <$> floatOf s
  | .moment => .moment <$> momentOf s
  | .string => .ok (.string s)
  | _ => .error .malformed

end Scalar

end SemanticLayer.Yaml
