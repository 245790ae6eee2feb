import SemanticLayer.Check.Problem
import SemanticLayer.Data.Value
import SemanticLayer.Text.LetterCase

/-!
# Reading documents

How fields are read from values: texts, choices, lists, records, whole numbers and truth values.
-/

namespace SemanticLayer

/-- Reads a value. -/
abbrev Reader (α : Type) := Value → Checked α

/-- The fields of a record. -/
abbrev Fields := List (Value × Value)

namespace Reader

/-- The text that bytes stand for. -/
def ofUtf8? (bs : List UInt8) : Option String := String.fromUTF8? ⟨bs.toArray⟩

def text : Reader String
  | .string s => .valid s
  | .bytes bs =>
    match ofUtf8? bs with
    | some s => .valid s
    | none => .fault .notText
  | _ => .fault .notString

/-- A value that may be missing. -/
def optional {α : Type} (r : Reader α) : Reader (Option α)
  | .null => .valid none
  | v => some <$> r v

/-- One of several choices by name. Texts are compared in lower case. -/
def oneOf {α : Type} (choices : List (String × α)) : Reader α := fun v =>
  let name := match v with
    | .string s => some (Text.lower s)
    | .bytes bs => ofUtf8? bs
    | _ => none
  match name.bind fun s => choices.lookup s with
  | some a => .valid a
  | none => .fault (.notOneOf (choices.map Prod.fst))

def list {α : Type} (r : Reader α) : Reader (List α)
  | .list items | .tuple items => Checked.all 0 (items.map r)
  | _ => .fault .notList

/-- A list of items, empty if it is missing. -/
def listOrNull {α : Type} (r : Reader α) : Reader (List α)
  | .null => .valid []
  | v => list r v

def record {α : Type} (kind : String) (r : Fields → Checked α) : Reader α
  | .mapping fields => r fields
  | _ => .fault (.notRecord kind)

/-! ## Whole numbers -/

/-- Blanks around a number. -/
def isNumberBlank (c : Char) : Bool := Text.isBlank c && !(28 ≤ c.toNat && c.toNat ≤ 31)

/-- A text without blanks around it. -/
def trimNumber (cs : List Char) : List Char :=
  ((cs.dropWhile isNumberBlank).reverse.dropWhile isNumberBlank).reverse

/-- Digits without zeros in front; a minus sign stays as it is, and nothing else may come first. One
zero is left before a point or at the end. -/
def dropLeadingZeros : List Char → Option (List Char)
  | '0' :: cs =>
    match cs.dropWhile fun c => c == '0' || c == '_' with
    | [] => some [(('0' :: cs).getLast?).getD '0']
    | c :: rest =>
      if Number.isDigit c then some (c :: rest)
      else if c == '.' then
        let before := ('0' :: cs).takeWhile fun c => c == '0' || c == '_'
        some ((before.getLast?).getD '0' :: '.' :: rest)
      else none
  | c :: cs => if Number.isDigit c || c == '-' then some (c :: cs) else none
  | [] => none

/-- The digits before a point after which only zeros stand. -/
def dropZeroFraction (cs : List Char) : List Char :=
  let whole := cs.takeWhile (· != '.')
  if (cs.drop (whole.length + 1)).all (· == '0') then whole else cs

/-- A text without single underscores between its characters. -/
def dropSeparators (cs : List Char) : List Char :=
  let doubled := (cs.zip (cs.drop 1)).any fun p => p.1 == '_' && p.2 == '_'
  if cs.head? == some '_' || cs.getLast? == some '_' || doubled then cs else cs.filter (· != '_')

/-- A whole number in plain form: an optional minus sign and digits without a zero in front. -/
def plainInt? (cs : List Char) : Option Int :=
  let digits := match cs with
    | '-' :: ds => ds
    | ds => ds
  match digits with
  | '0' :: _ :: _ => none
  | '+' :: _ => none
  | _ => if cs.head? == some '+' then none else Number.readInt? cs

/-- A text in plain form: without blanks, a plus sign, zeros in front, a fraction of zeros and
separators. -/
def plainForm? (cs : List Char) : Option (List Char) := do
  let cs := trimNumber cs
  let cs ← match cs with
    | '+' :: '-' :: _ => none
    | '+' :: rest => some rest
    | _ => some cs
  let cs ← dropLeadingZeros cs
  return dropSeparators (dropZeroFraction cs)

/-- The most digits that a whole number may have in a text. -/
def mostDigits : Nat := 4300

/-- The whole number that a text says. -/
def intOfText (s : String) : Checked Int :=
  if mostDigits < s.length then .fault .hugeInteger
  else
    match (plainInt? s.toList).or ((plainForm? s.toList).bind plainInt?) with
    | some n => .valid n
    | none => .fault .unreadableInteger

/-- A bound on floating-point numbers that are read as whole numbers. -/
def floatBound : Int := Nat.pow 2 63

/-- A whole number: also a floating-point number or decimal without a fraction, a truth value, or a
text that says it. -/
def int : Reader Int
  | .int n => .valid n
  | .bool b => .valid (if b then 1 else 0)
  | .string s => intOfText s
  | .bytes bs =>
    match ofUtf8? bs with
    | some s => intOfText s
    | none => .fault .unreadableInteger
  | .float x =>
    match x with
    | .finite .. =>
      match x.toInt? with
      | some n => if -floatBound < n && n < floatBound then .valid n else .fault .hugeInteger
      | none => .fault .fractionalInteger
    | _ => .fault .notFinite
  | .decimal d =>
    match d with
    | .finite .. =>
      match (Value.decimal d).keyNumber? with
      | some n => .valid n
      | none => .fault .fractionalInteger
    | _ => .fault .notFinite
  | _ => .fault .notInteger

/-- A whole number that is not less than a bound. -/
def intFrom (least : Int) : Reader Int := fun v =>
  (int v).andThen fun n => if n < least then .fault (.tooSmall least) else .valid n

/-- A whole number that is greater than a bound. -/
def intAbove (bound : Int) : Reader Int := fun v =>
  (int v).andThen fun n => if n ≤ bound then .fault (.notAbove bound) else .valid n

/-! ## Truth values -/

def truthWords : List (String × Bool) :=
  [("true", true), ("t", true), ("yes", true), ("y", true), ("on", true), ("1", true),
    ("false", false), ("f", false), ("no", false), ("n", false), ("off", false), ("0", false)]

/-- The truth value that a text says. -/
def boolOfText (s : String) : Checked Bool :=
  match truthWords.lookup (String.ofList (s.toList.map Char.toLower)) with
  | some b => .valid b
  | none => .fault .unreadableBoolean

/-- The truth value of a number, which must be zero or one. -/
def boolOfInt (n : Int) : Checked Bool :=
  if n == 0 then .valid false else if n == 1 then .valid true else .fault .unreadableBoolean

/-- A truth value: also a word for it, or zero or one. -/
def bool : Reader Bool
  | .bool b => .valid b
  | .string s => boolOfText s
  | .bytes bs =>
    match ofUtf8? bs with
    | some s => boolOfText s
    | none => .fault .unreadableBoolean
  | .int n => boolOfInt n
  | .float x =>
    match x.toInt? with
    | some n => boolOfInt n
    | none => .fault .notBoolean
  | .decimal d =>
    match (Value.decimal d).keyNumber? with
    | some n => boolOfInt n
    | none => .fault .notBoolean
  | _ => .fault .notBoolean

end Reader

namespace Fields

/-- A field that must be there. -/
def need {α : Type} (fields : Fields) (name : String) (r : Reader α) : Checked α :=
  match Value.lookup? name fields with
  | some v => (r v).within (.field name)
  | none => Checked.within (.field name) (.fault .required)

def get {α : Type} (fields : Fields) (name : String) (default : α) (r : Reader α) : Checked α :=
  match Value.lookup? name fields with
  | some v => (r v).within (.field name)
  | none => .valid default

end Fields

end SemanticLayer
