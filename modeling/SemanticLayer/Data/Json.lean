import SemanticLayer.Data.Value

/-!
# JSON

Values written as JSON, in ASCII and on one line, and JSON read as values. Numbers without a point
and an exponent are whole. Besides JSON proper, the words `NaN`, `Infinity` and `-Infinity` are
numbers. The members of an object keep their order.
-/

namespace SemanticLayer.Json

/-! ## Writing -/

/-- The escape of a code unit of 16 bits. -/
def unitEscape (n : Nat) : List Char := '\\' :: 'u' :: Value.hex 4 n

/-- A character inside a string. -/
def escape (c : Char) : List Char :=
  if c == '\x22' || c == '\\' then ['\\', c]
  else if c == '\n' then ['\\', 'n']
  else if c == '\r' then ['\\', 'r']
  else if c == '\t' then ['\\', 't']
  else if c == '\x0c' then ['\\', 'f']
  else if c == '\x08' then ['\\', 'b']
  else if 0x20 ≤ c.toNat && c.toNat < 0x7f then [c]
  else if c.toNat < 0x10000 then unitEscape c.toNat
  else
    let n := c.toNat - 0x10000
    unitEscape (0xd800 + n / 0x400) ++ unitEscape (0xdc00 + n % 0x400)

/-- A text as a string. -/
def quoted (s : String) : String :=
  String.ofList ('\x22' :: s.toList.flatMap escape ++ ['\x22'])

/-- The text of a floating-point number. -/
def floatText : Binary64 → String
  | .nan => "NaN"
  | .infinite negative => if negative then "-Infinity" else "Infinity"
  | x => x.toText

/-- A key as the text of a member's name, if it has one. -/
def keyText? : Value → Option String
  | .string s => some s
  | .null => some "null"
  | .bool b => some (if b then "true" else "false")
  | .int n => some (Number.showInt n)
  | .float x => some (floatText x)
  | _ => none

mutual

/-- Writes a value, unless something in it has no JSON form. -/
def write? : Value → Option String
  | .null => some "null"
  | .bool b => some (if b then "true" else "false")
  | .int n => some (Number.showInt n)
  | .float x => some (floatText x)
  | .string s => some (quoted s)
  | .tuple items => (writeItems? items).map fun ts => "[" ++ ", ".intercalate ts ++ "]"
  | .list items => (writeItems? items).map fun ts => "[" ++ ", ".intercalate ts ++ "]"
  | .mapping entries =>
    (writeMembers? entries).map fun ts => "\x7b" ++ ", ".intercalate ts ++ "\x7d"
  | .decimal _ | .bytes _ | .reader _ | .moment _ => none

/-- Writes the items of an array. -/
def writeItems? : List Value → Option (List String)
  | [] => some []
  | v :: vs => do
    let t ← write? v
    let ts ← writeItems? vs
    return t :: ts

/-- Writes the members of an object. -/
def writeMembers? : List (Value × Value) → Option (List String)
  | [] => some []
  | (k, v) :: es => do
    let name ← keyText? k
    let t ← write? v
    let ts ← writeMembers? es
    return (quoted name ++ ": " ++ t) :: ts

end

/-! ## Reading -/

/-- Blanks between tokens. -/
def isSpace (c : Char) : Bool := c == ' ' || c == '\t' || c == '\n' || c == '\r'

/-- The text without blanks in front. -/
def skipSpace (cs : List Char) : List Char := cs.dropWhile isSpace

/-- The number of a digit in base 16. -/
def hexValue? (c : Char) : Option Nat :=
  if '0' ≤ c && c ≤ '9' then some (c.toNat - '0'.toNat)
  else if 'a' ≤ c && c ≤ 'f' then some (c.toNat - 'a'.toNat + 10)
  else if 'A' ≤ c && c ≤ 'F' then some (c.toNat - 'A'.toNat + 10)
  else none

/-- The number that digits in base 16 stand for. -/
def ofHex? (cs : List Char) : Option Nat :=
  cs.foldlM (fun n c => (hexValue? c).map fun d => 16 * n + d) 0

/-- The character that a letter after a backslash stands for. -/
def escaped? (c : Char) : Option Char :=
  [('\x22', '\x22'), ('\\', '\\'), ('/', '/'), ('b', '\x08'), ('f', '\x0c'), ('n', '\n'),
    ('r', '\r'), ('t', '\t')].lookup c

/-- The code units of a string up to its closing quote, and the rest of the text. -/
def readUnits? : List Char → Option (List Nat × List Char)
  | [] => none
  | '\x22' :: cs => some ([], cs)
  | '\\' :: 'u' :: a :: b :: c :: d :: cs => do
    let n ← ofHex? [a, b, c, d]
    let (ns, rest) ← readUnits? cs
    return (n :: ns, rest)
  | '\\' :: e :: cs => do
    let c ← escaped? e
    let (ns, rest) ← readUnits? cs
    return (c.toNat :: ns, rest)
  | c :: cs =>
    if c.toNat < 0x20 then none
    else do
      let (ns, rest) ← readUnits? cs
      return (c.toNat :: ns, rest)

/-- Characters of code units: two halves of a pair are one character. -/
def joinPairs : List Nat → List Char
  | [] => []
  | [n] => [Char.ofNat n]
  | h :: l :: ns =>
    if 0xd800 ≤ h && h < 0xdc00 && 0xdc00 ≤ l && l < 0xe000 then
      Char.ofNat (0x10000 + (h - 0xd800) * 0x400 + (l - 0xdc00)) :: joinPairs ns
    else Char.ofNat h :: joinPairs (l :: ns)

/-- Reads a string after its opening quote. -/
def readString? (cs : List Char) : Option (String × List Char) :=
  (readUnits? cs).map fun (ns, rest) => (String.ofList (joinPairs ns), rest)

/-- Digits after a point, which must be there. -/
def readFraction? : List Char → List Char × List Char
  | '.' :: d :: cs => if Number.isDigit d then Number.spanDigits (d :: cs) else ([], '.' :: d :: cs)
  | cs => ([], cs)

/-- An exponent after its mark. -/
def readPower? (cs : List Char) : Option (Int × List Char) :=
  match cs with
  | e :: rest =>
    if e == 'e' || e == 'E' then
      let (negative, digits) := Number.splitSign rest
      let (ds, rest) := Number.spanDigits digits
      if ds.isEmpty then none
      else some (if negative then -(Number.ofDigits ds : Int) else Number.ofDigits ds, rest)
    else none
  | [] => none

/-- Reads a number. A zero in front ends the digits before the point. -/
def readNumber? (cs : List Char) : Option (Value × List Char) :=
  let (negative, digits) := match cs with
    | '-' :: rest => (true, rest)
    | _ => (false, cs)
  let (whole, rest) := match digits with
    | '0' :: rest => (['0'], rest)
    | _ => Number.spanDigits digits
  if whole.isEmpty then none
  else
    let (fraction, rest) := readFraction? rest
    let c := Number.ofDigits (whole ++ fraction)
    match readPower? rest with
    | some (e, rest) => some (.float (.ofScaled negative c (e - fraction.length)), rest)
    | none =>
      if fraction.isEmpty then some (.int (if negative then -(c : Int) else c), rest)
      else some (.float (.ofScaled negative c (-(fraction.length : Int))), rest)

/-- The words that are values. -/
def words : List (String × Value) :=
  [("null", .null), ("true", .bool true), ("false", .bool false), ("NaN", .float .nan),
    ("Infinity", .float (.infinite false)), ("-Infinity", .float (.infinite true))]

def readWord? (cs : List Char) : Option (Value × List Char) :=
  (words.find? fun w => w.1.toList.isPrefixOf cs).map fun w => (w.2, cs.drop w.1.length)

mutual

/-- Reads a value at the beginning of a text, up to a depth. -/
def readValue? : Nat → List Char → Option (Value × List Char)
  | 0, _ => none
  | fuel + 1, cs =>
    match cs with
    | '\x22' :: rest => (readString? rest).map fun (s, rest) => (.string s, rest)
    | '[' :: rest =>
      match skipSpace rest with
      | ']' :: rest => some (.list [], rest)
      | rest => (readItems? fuel rest).map fun (vs, rest) => (.list vs, rest)
    | '\x7b' :: rest =>
      match skipSpace rest with
      | '\x7d' :: rest => some (.mapping [], rest)
      | rest => (readMembers? fuel rest).map fun (es, rest) => (Value.ofEntries es, rest)
    | _ => (readWord? cs).or (readNumber? cs)

/-- Reads the items of an array up to its end. -/
def readItems? : Nat → List Char → Option (List Value × List Char)
  | 0, _ => none
  | fuel + 1, cs => do
    let (v, rest) ← readValue? fuel cs
    match skipSpace rest with
    | ',' :: rest =>
      let (vs, rest) ← readItems? fuel (skipSpace rest)
      return (v :: vs, rest)
    | ']' :: rest => return ([v], rest)
    | _ => none

/-- Reads the members of an object up to its end. -/
def readMembers? : Nat → List Char → Option (List (Value × Value) × List Char)
  | 0, _ => none
  | fuel + 1, cs => do
    match cs with
    | '\x22' :: rest =>
      let (name, rest) ← readString? rest
      match skipSpace rest with
      | ':' :: rest =>
        let (v, rest) ← readValue? fuel (skipSpace rest)
        match skipSpace rest with
        | ',' :: rest =>
          let (es, rest) ← readMembers? fuel (skipSpace rest)
          return ((.string name, v) :: es, rest)
        | '\x7d' :: rest => return ([(.string name, v)], rest)
        | _ => none
      | _ => none
    | _ => none

end

/-- Reads a text that is one JSON value. -/
def read? (s : String) : Option Value := do
  let cs := s.toList
  let (v, rest) ← readValue? (cs.length + 1) (skipSpace cs)
  if (skipSpace rest).isEmpty then return v else none

end SemanticLayer.Json
