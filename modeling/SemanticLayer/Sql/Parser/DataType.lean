import SemanticLayer.Sql.Parser.Name

/-!
# Data types

A type is a name with its sizes, or with the types of what it holds. Where an expression may stand,
a type with parentheses is told from a call by the string that must follow it.
-/

namespace SemanticLayer.Sql.Parser

/-- One size of a data type: a string, or a number or a word with a word after it. -/
def typeSize : Rule .operand (Option Node) := do
  match ← peek with
  | some t =>
    if t.kind == .string then
      advance
      return some (.of (.string t.text) [])
    else if t.kind == .number || t.isWord then
      advance
      let first := if t.isWord then t.key else t.text
      match ← peek with
      | some u =>
        if u.isWord then
          advance
          return some (.of (.typeSize (first ++ " " ++ u.text)) [])
        else return some (.of (.typeSize first) [])
      | none => return some (.of (.typeSize first) [])
    else return none
  | none => return none

/-- A field of a record type: its name and its type, or only its type. -/
def typeField (R : Rules) : Rule .operand (Option Node) := do
  let found ← orBack do
    let named ← name false R.grammar.isName
    let _ ← accept ":"
    match named.bind identOf with
    | none => return some none
    | some id => return (← R.dataType false R.grammar.userTypes).map fun type => some (id, type)
  match found with
  | some (some (id, type)) => return some (.of (.typeField id) [type])
  | _ => R.dataType false true

/-- What a type holds: fields, other types or sizes. -/
def typePart (R : Rules) (checkCall : Bool) (type : String) : Rule .operand (Option Node) :=
  if Vocabulary.recordTypes.contains type then typeField R
  else if Vocabulary.nestedTypes.contains type then R.dataType checkCall R.grammar.userTypes
  else typeSize

/-- What stands in parentheses or angle brackets after the name of a type; `none` if the parentheses
hold something else. -/
def typeParts (R : Rules) (checkCall : Bool) (type : String) :
    Rule .operand (Option (List Node)) := do
  if Vocabulary.nestedTypes.contains type && (← peekKey) == "<" then
    advance
    let parts ← list (typePart R false type)
    expect ">"
    return some parts
  else if (← peekKey) == "(" then
    let (parts, isClosed) ← opened .round (list (typePart R checkCall type))
    return if isClosed && !parts.isEmpty then some parts else none
  else return some []

/-- Types that may be followed by a time zone. -/
def zonedTypes : List String :=
  ["TIME", "TIMETZ", "TIMESTAMP", "TIMESTAMPTZ", "TIMESTAMPLTZ", "TIMESTAMPNTZ"]

/-- The type that a time zone after its name makes of a type; `none` if nothing is said. -/
def zoneType (type : String) : Rule .operand (Option String) := do
  if !zonedTypes.contains type then return none
  else if ← acceptAll ["WITH", "TIME", "ZONE"] then
    return some (if type == "TIME" || type == "TIMETZ" then "TIMETZ" else "TIMESTAMPTZ")
  else if ← acceptAll ["WITH", "LOCAL", "TIME", "ZONE"] then return some "TIMESTAMPLTZ"
  else if ← acceptAll ["WITHOUT", "TIME", "ZONE"] then return some type
  else return none

/-- The unit of an interval type. -/
def intervalParts (type : String) : Rule .operand (List Node) := do
  match ← peek with
  | some t =>
    if type == "INTERVAL" && t.isWord && t.key != "AS" && t.key != "FROM" then
      advance
      if ← accept "TO" then
        match ← placeholderName with
        | some s => return [.of (.typeSize (Text.upper t.text ++ " TO " ++ Text.upper s)) []]
        | none => reject
      return [.of (.typeSize (Text.upper t.text)) []]
    else return []
  | none => return []

/-- The type without negative numbers, if the word for it follows. -/
def unsigned (type : String) : Rule .operand String := do
  if (← peekKey) == "UNSIGNED" then
    match Vocabulary.unsignedTypes.lookup type with
    | some u =>
      advance
      return u
    | none => reject
  else return type

/-- Brackets after a type, or the word ARRAY, make it the type of an array. -/
def arrayOf (R : Rules) (type : Node) : Rule .operand Node := do
  let type ← do
    if ← accept "ARRAY" then pure (Node.of (.dataType "ARRAY" true) [type]) else pure type
  chain (fun type => orBack do
    if (← peekKey) != "[" then return none
    let (size, isClosed) ← opened .square typeSize
    if isClosed && (size.isNone || R.grammar.sizedArrays) then
      return some (.of (.dataType "ARRAY" true) (type :: size.toList))
    else return none) type

/-- What a type that was read is taken for. -/
def settleType (g : Grammar) : Node → Node
  | .mk (.dataType name true) c ps =>
    if g.unsizedTypes.contains name then .mk (.dataType name true) c []
    else if ps.isEmpty then
      .mk (.dataType name true) c
        (((g.typeDefaults.lookup name).getD []).map fun s => .of (.typeSize s) [])
    else .mk (.dataType name true) c ps
  | n => n

/-- A data type. With `checkCall`, a name with parentheses is a type only if a string follows, so
that calls of functions with a type's name stay calls. With `userDefined`, an unknown name is a type
of its own. -/
def dataType (R : Rules) (checkCall userDefined : Bool) : Rule .operand (Option Node) := orBack do
  match ← peek with
  | none => return none
  | some t =>
    match if t.isWord then R.grammar.typeName? t.key else none with
    | none =>
      if userDefined && (t.isWord && R.grammar.isName t.key || t.kind == .quotedName) then
        advance
        match ← typeParts R checkCall "" with
        | some parts => return some (← arrayOf R (.of (.dataType t.text false) parts))
        | none => reject
      else return none
    | some type =>
      advance
      match ← typeParts R checkCall type with
      | none => return none
      | some parts =>
        let zoned ← zoneType type
        let more ← if parts.isEmpty && !checkCall then intervalParts type else pure []
        if !parts.isEmpty && zoned.isNone && checkCall &&
            !((← peek).any fun u => u.kind == .string) then
          return none
        let type ← unsigned (zoned.getD type)
        let whole ← arrayOf R (.of (.dataType type true) (parts ++ more))
        return some (settleType R.grammar whole)

end SemanticLayer.Sql.Parser
