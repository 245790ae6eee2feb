import SemanticLayer.Data.Moment
import SemanticLayer.Number.Binary64
import SemanticLayer.Text.Printable

/-!
# Values

Data as it comes from a file, a request or a database, before anything is known about its meaning.
Every value has a *text*, which stands in messages, and a *literal*, its text inside the text of a
collection. The two differ where quotes matter.
-/

namespace SemanticLayer

/-- A value of any kind. -/
inductive Value where
  | null
  | bool (b : Bool)
  | int (n : Int)
  | float (x : Binary64)
  | decimal (d : Decimal)
  | string (s : String)
  | bytes (bs : List UInt8)
  | tuple (items : List Value)
  | list (items : List Value)
  | mapping (entries : List (Value × Value))
  /-- A text that has to be read first. -/
  | reader (text : String)
  | moment (m : Moment)
  deriving Repr, BEq, Inhabited

namespace Value

/-! ## Literals -/

/-- A number in base 16 with zeros in front up to a width. -/
def hex (width n : Nat) : List Char :=
  let digits := Nat.toDigits 16 n
  List.replicate (width - digits.length) '0' ++ digits

/-- A character inside a literal with quotes of the kind `quote`. -/
def literalChar (quote c : Char) : List Char :=
  if c == quote || c == '\\' then ['\\', c]
  else if c == '\n' then ['\\', 'n']
  else if c == '\r' then ['\\', 'r']
  else if c == '\t' then ['\\', 't']
  else if Text.isPrintable c then [c]
  else if c.toNat < 0x100 then '\\' :: 'x' :: hex 2 c.toNat
  else if c.toNat < 0x10000 then '\\' :: 'u' :: hex 4 c.toNat
  else '\\' :: 'U' :: hex 8 c.toNat

/-- The quotes of a literal: single ones, unless they occur and double ones do not. -/
def literalQuote (cs : List Char) : Char :=
  if cs.contains '\x27' && !cs.contains '\x22' then '\x22' else '\x27'

/-- A text as a literal. -/
def stringLiteral (s : String) : String :=
  let quote := literalQuote s.toList
  String.ofList (quote :: s.toList.flatMap (literalChar quote) ++ [quote])

/-- Bytes as a literal: characters of ASCII show as themselves. -/
def bytesLiteral (bs : List UInt8) : String :=
  let cs := bs.map fun b => Char.ofNat b.toNat
  let quote := literalQuote cs
  let shown (c : Char) : List Char :=
    if c.toNat < 0x7f then literalChar quote c else '\\' :: 'x' :: hex 2 c.toNat
  String.ofList ('b' :: quote :: cs.flatMap shown ++ [quote])

mutual

/-- The text of a value inside the text of a collection. -/
def literal : Value → String
  | null => "None"
  | bool b => if b then "True" else "False"
  | int n => Number.showInt n
  | float x => x.toText
  | decimal d => "Decimal('" ++ d.toText ++ "')"
  | string s => stringLiteral s
  | bytes bs => bytesLiteral bs
  | tuple items =>
    match literals items with
    | [one] => "(" ++ one ++ ",)"
    | all => "(" ++ ", ".intercalate all ++ ")"
  | list items => "[" ++ ", ".intercalate (literals items) ++ "]"
  | mapping entries => "\x7b" ++ ", ".intercalate (entryLiterals entries) ++ "\x7d"
  | reader text => text
  | moment m => m.literal

def literals : List Value → List String
  | [] => []
  | v :: vs => literal v :: literals vs

/-- The literals of the entries of a mapping. -/
def entryLiterals : List (Value × Value) → List String
  | [] => []
  | (k, v) :: es => (literal k ++ ": " ++ literal v) :: entryLiterals es

end

def text : Value → String
  | string s => s
  | decimal d => d.toText
  | moment m => m.toText
  | v => v.literal

/-! ## Truth, keys and entries -/

/-- Whether the value counts as present: no zero, and nothing empty. -/
def isTruthy : Value → Bool
  | null => false
  | bool b => b
  | int n => n != 0
  | float x => !x.isZero
  | decimal (.finite _ c _) => c != 0
  | decimal _ => true
  | string s => !s.isEmpty
  | bytes bs => !bs.isEmpty
  | tuple items => !items.isEmpty
  | list items => !items.isEmpty
  | mapping entries => !entries.isEmpty
  | reader _ => true
  | moment _ => true

/-- The whole number that a value counts as where keys are compared. -/
def keyNumber? : Value → Option Int
  | bool b => some (if b then 1 else 0)
  | int n => some n
  | float x => x.toInt?
  | decimal (.finite n c e) =>
    if 0 ≤ e then Decimal.toInt? (.finite n c e)
    else if c % Nat.pow 10 e.natAbs == 0 then
      let q : Int := (c / Nat.pow 10 e.natAbs : Nat)
      some (if n then -q else q)
    else none
  | _ => none

/-- Whether two values are the same key: numbers of one value are, whatever their kind. -/
def sameKey (a b : Value) : Bool :=
  match a.keyNumber?, b.keyNumber? with
  | some m, some n => m == n
  | none, none => a == b
  | _, _ => false

mutual

/-- Whether a value can be a key. Collections that can change cannot. -/
def isKey : Value → Bool
  | list _ | mapping _ => false
  | tuple items => areKeys items
  | _ => true

/-- Whether all values can be keys. -/
def areKeys : List Value → Bool
  | [] => true
  | v :: vs => isKey v && areKeys vs

end

/-- Entries with a further one: a key that is there keeps its place and gets the new value. -/
def putEntry (key value : Value) : List (Value × Value) → List (Value × Value)
  | [] => [(key, value)]
  | (k, v) :: es => if sameKey k key then (k, value) :: es else (k, v) :: putEntry key value es

/-- A mapping from entries in their order; of equal keys the last value counts. -/
def ofEntries (es : List (Value × Value)) : Value :=
  mapping (es.foldl (fun acc e => putEntry e.1 e.2 acc) [])

def lookup? (name : String) (es : List (Value × Value)) : Option Value :=
  (es.find? fun e => match e.1 with | string s => s == name | _ => false).map Prod.snd

/-- Why a value is no mapping. -/
inductive EntriesError where
  /-- The value, or an item of it, is no collection, or a key cannot be one. -/
  | notCollection
  /-- An item is no pair. -/
  | notPair
  deriving DecidableEq, Repr

/-- The items of a collection in their order; characters are the items of a text. -/
def items? : Value → Option (List Value)
  | tuple items => some items
  | list items => some items
  | string s => some (s.toList.map fun c => string (String.singleton c))
  | bytes bs => some (bs.map fun b => int b.toNat)
  | mapping es => some (es.map Prod.fst)
  | _ => none

/-- One entry from an item that must be a pair. -/
def pair (v : Value) : Except EntriesError (Value × Value) :=
  match v.items? with
  | none => .error .notCollection
  | some [k, x] => if k.isKey then .ok (k, x) else .error .notCollection
  | some _ => .error .notPair

/-- The entries of a mapping, or of a collection of pairs. -/
def entries : Value → Except EntriesError (List (Value × Value))
  | mapping es => .ok es
  | v =>
    match v.items? with
    | none => .error .notCollection
    | some items => do
      let pairs ← items.mapM pair
      return pairs.foldl (fun acc e => putEntry e.1 e.2 acc) []

end Value

end SemanticLayer
