import SemanticLayer.Text.Blank
import SemanticLayer.Text.Word
import SemanticLayer.Sql.Parser.Column

/-!
# Operands

What stands between operators: intervals, literals with a type in front, and columns.
-/

namespace SemanticLayer.Sql.Parser

/-- A number of an interval: leading zeros are dropped. -/
def intervalCount (s : String) : String :=
  if s.toList.all Text.isDigit then
    match s.toList.dropWhile (· == '0') with
    | [] => "0"
    | cs => String.ofList cs
  else s

/-- The number a node is, if it is one, possibly with a sign. -/
def numberText? : Node → Option String
  | .mk (.number s) _ _ => some (intervalCount s)
  | .mk (.unary .minus) _ [.mk (.number s) _ _] => some ("-" ++ intervalCount s)
  | _ => none

/-- The longest `-?digits[.digits]` and blanks in front of a unit's letters. -/
def amountAndUnit? (cs : List Char) : Option ((List Char × List Char) × List Char) :=
  let cs := cs.dropWhile Text.isBlank
  let (sign, cs) := match cs with
    | '-' :: rest => (['-'], rest)
    | _ => ([], cs)
  let whole := cs.takeWhile Char.isDigit
  let cs := cs.drop whole.length
  let (part, cs) := match cs with
    | '.' :: rest =>
      let digits := rest.takeWhile Char.isDigit
      if digits.isEmpty then ([], cs) else ('.' :: digits, rest.drop digits.length)
    | _ => ([], cs)
  let cs := cs.dropWhile Text.isBlank
  let unit := cs.takeWhile Char.isAlpha
  if whole.isEmpty || unit.isEmpty then none
  else some ((sign ++ whole ++ part, unit), (cs.drop unit.length).dropWhile Text.isBlank)

/-- The amounts with units in the text of an interval. -/
def amounts : Nat → List Char → List (List Char × List Char)
  | 0, _ => []
  | _, [] => []
  | n + 1, c :: cs =>
    match amountAndUnit? (c :: cs) with
    | some (found, rest) => found :: amounts n rest
    | none => amounts n cs

/-- The unit after the value of an interval, unless the value has units inside. -/
def intervalUnit (value : Node) : Rule .operand (Option String) := orBack do
  match ← peek with
  | some t =>
    if t.key != "AS" && isAnyName t then
      advance
      let inside := match numberText? value, value.head with
        | none, .string s => !(amounts s.length s.toList).isEmpty
        | _, _ => false
      return if inside then none else some (Text.upper t.text)
    else return none
  | none => return none

/-- The value and the unit of an interval, the unit perhaps from inside the value. -/
def settleInterval (value : Node) (unit : Option String) : Node × Option String :=
  match numberText? value, value.head with
  | some s, _ => (.of (.string s) [], unit)
  | none, .string s =>
    match amounts s.length s.toList with
    | [] => (value, unit)
    | [(amount, u)] =>
      (.of (.string (String.ofList amount)) [], some (Text.upper (String.ofList u)))
    | _ => (value, none)
  | none, _ => (value, unit)

/-- An interval. Its unit may stand after its text or inside it. Several intervals in a row are a
sum. -/
def interval (R : Rules) (keyword : Bool) : Rule .operand (Option Node) := orBack do
  let marked ← accept "INTERVAL"
  if keyword && !marked then return none
  let isString := (← peek).any fun t => t.kind == .string
  let value ← if isString then strings else R.term
  match value with
  | none => return none
  | some value =>
    let notValue := match value.head with
      | .column [id] => !id.quoted && ["IS", "ROWS"].contains (Text.upper id.name)
      | _ => false
    if notValue then return none
    let (value, unit) := settleInterval value (← intervalUnit value)
    let unit ← do
      if ← accept "TO" then
        match ← peek with
        | some t =>
          advance
          pure (unit.map fun u => u ++ " TO " ++ Text.upper t.text)
        | none => reject
      else pure unit
    let whole ← node (.interval unit) [value]
    let more ← orBack do
      let _ ← accept "+"
      if (← peek).any fun t => t.kind == .string || t.kind == .number then
        match ← R.interval false with
        | some rest => return some rest
        | none => reject
      else return none
    match more with
    | some rest => return some (← node (.binary .add) [whole, rest])
    | none => return some whole

/-- A literal with its type in front, such as `DATE '2020-01-01'`. -/
def typedLiteral (R : Rules) : Rule .operand (Option Node) := orBack do
  let start := (← here).position
  match ← dataType R true false with
  | none => return none
  | some type =>
    let afterType := (← here).position
    match ← literal R with
    | some n =>
      match n.head with
      | .string _ | .number _ =>
        let value ← columnOps R n
        let called? := match type.head with
          | .dataType name _ => R.grammar.literalCall name
          | _ => none
        match called? with
        | some (called, format) =>
          return some (.of (.call (.known called called)) [value, .of (.string format) []])
        | none => return some (← node (.cast false) [value, type])
      | _ => return none
    | none =>
      if !type.parts.isEmpty && afterType > start + 1 then return some (← columnOps R type)
      else return none

/-- An operand: an interval, a typed literal, or a column with what follows it. -/
def operand (R : Rules) : Rule .operand (Option Node) := do
  match ← interval R true with
  | some n => return some (← columnOps R n)
  | none =>
    match ← typedLiteral R with
    | some n => return some n
    | none => column R

end SemanticLayer.Sql.Parser
