import SemanticLayer.Sql.Arithmetic
import SemanticLayer.Sql.Parser.Call

/-!
# Columns

Literals, calls and names, with the casts, fields, positions and JSON paths that follow them.
-/

namespace SemanticLayer.Sql.Parser

/-- Whether a node is a call or a window over one. -/
def isCallLike (n : Node) : Bool :=
  match n.head with
  | .call _ | .window _ | .caseOf | .ifThen | .filter | .anyOf => true
  | _ => false

/-- A column as names joined by dots. -/
def dotted : Node → Node
  | .mk (.column (first :: rest)) c _ =>
    let path := rest.foldl (fun n id => Node.of .dot [n, .of (.name id) []]) (.of (.name first) [])
    path.addComments c
  | n => n

/-- What a dot and a field after an operand make. -/
def qualify (this field : Node) : Rule .operand Node := do
  let this := if isCallLike field then dotted this else this
  match this.head, field.head with
  | .column path, .name id =>
    if path.length < 4 then
      return .mk (.column (path ++ [id])) (this.comments ++ field.comments) []
    else return .mk .dot field.comments [this, field.setComments []]
  | .column path, .star [] =>
    return .mk (.star path) (this.comments ++ field.comments) field.parts
  | _, .window _ =>
    match field.parts with
    | f :: ps => return .mk field.head field.comments (.of .dot [this, f] :: ps)
    | [] => reject
  | _, _ => return (← node .dot [this, field.setComments []]).addComments field.comments

/-- One item in brackets or braces: an expression, perhaps with what stands after a colon. -/
def bracketItem (R : Rules) (fields : Bool) : Rule .clause (Option Node) := do
  let first ← if (← peekKey) == ":" then pure none else aliased R true (← R.assignment)
  if ← accept ":" then
    let second ← R.assignment
    let orBlank (n : Option Node) : Node := n.getD (.of (.keyword "") [])
    return some (← node (if fields then .recordField else .slice) [orBlank first, orBlank second])
  else return first

/-- The words in front of brackets that make an array. -/
def makesArray (n : Node) : Bool :=
  match n.head with
  | .column [id] => !id.quoted && ["ARRAY", "LIST"].contains (Text.upper id.name)
  | _ => false

/-- A pair of a map, whose key is a name or any value. -/
def mapPart (n : Node) : Node :=
  match n with
  | .mk .recordField c [.mk (.column path) _ _, value] =>
    .mk .recordField c [.of (.name (path.getLast?.getD ⟨"", false⟩)) [], value]
  | n => n

/-- What stands in brackets after an operand, or in brackets alone. A record in braces takes the
place of an operand before it. -/
def bracket (R : Rules) (this : Option Node) : Rule .operand (Option Node) := do
  if (← peekKey) == "[" then
    let items ← within .square (list (bracketItem R false))
    match this with
    | none => return some (← node .array items)
    | some n =>
      if makesArray n then return some (← node .array items)
      else
        return some (← nodeWith n.comments .index
          (n.setComments [] :: Arithmetic.moved (-R.grammar.firstIndex) items))
  else if (← peekKey) == "\x7b" then
    let items ← within .curly (list (bracketItem R true))
    return some (← node .record (items.map recordPart))
  else return none

/-- MAP, after its keyword: the pairs in braces, or the keys and the values in parentheses. -/
def mapBody (R : Rules) : Rule .operand Node := do
  if (← peekKey) == "\x7b" then
    let items ← within .curly (list (bracketItem R true))
    let pairs ← node .record (items.map mapPart)
    node (.leadingWord "MAP") [← chain (fun n => bracket R (some n)) pairs]
  else
    node (.call (.known "MAP" "MAP")) ((← wrapped (list R.assignment)).take 2)

/-- A call, or a map where the grammar has maps. -/
def callOrMap (R : Rules) : Rule .operand (Option Node) := do
  if R.grammar.labels && (← peekKey) == "MAP" then
    advance
    return some (← windowed R (← mapBody R))
  else call R {}

/-- A literal, a call or a column. -/
def field (R : Rules) : Rule .operand (Option Node) := do
  match ← literal R with
  | some n => return some n
  | none =>
    match ← parenthesized R with
    | some n =>
      match n.first?.map Node.head with
      | some (.call (.known kind _)) =>
        if n.head == .paren && Signature.aggregates.contains kind then return some (← windowed R n)
        else return some n
      | _ => return some n
    | none =>
      match ← callOrMap R with
      | some n => return some n
      | none =>
        let valuesName := (← peekKey) == "VALUES" && (← peekSecondKey) != "("
        match ← name valuesName R.grammar.isName with
        | some n => return some (.mk (.column (identsOf [n])) n.comments [])
        | none =>
          match ← placeholder R.grammar with
          | some n => return some n
          | none => bracket R none

/-- The JSON operators that take a path: whether they give a plain value. -/
def jsonOperators : List (String × Bool) := [("->", false), ("->>", true)]

/-- The other JSON operators. -/
def keyOperators : List (String × BinaryOp) :=
  [("#>", .atPath), ("#>>", .textAtPath), ("?", .hasKey)]

/-- The names after a column that is the right operand of a JSON operator. -/
def dots (R : Rules) (this : Node) : Rule .operand Node :=
  match this.head with
  | .column _ => chain (fun this => do
      if ← accept "." then return some (← qualify this (← need (← name true R.grammar.isName)))
      else return none) this
  | _ => return this

/-- The right operand of a JSON operator. -/
def jsonOperand (R : Rules) : Rule .operand Node := do
  match ← field R with
  | some n => dots R n
  | none => need (← R.bitwise)

def fieldAfterDot (R : Rules) : Rule .operand Node := do
  let found ← if R.grammar.labels && (← peekKey) == "MAP" then callOrMap R
    else call R { anonymous := true, anyName := true }
  match found with
  | some n => return n
  | none =>
    match ← literal R with
    | some n => return n
    | none =>
      match ← parenthesized R with
      | some n => return n
      | none => need (← name true R.grammar.isName)

/-- The part of a JSON value that an arrow names. In PostgreSQL a literal is one step of a path. -/
def arrowed (g : Grammar) (scalar : Bool) (this path : Node) : Rule .operand Node :=
  if g.calls != .postgres then node (.jsonExtract scalar false) [this, JsonPath.ofLiteral path]
  else
    let step? : Option PathStep := match path.head with
      | .string s => some (.key s)
      | .number s => some ((s.toInt?.map PathStep.index).getD (.key s))
      | _ => none
    match step? with
    | some step => node (.jsonExtract scalar true) [this, .of (.jsonPath [step]) []]
    | none => node (.jsonExtract scalar false) [this, path]

/-- Casts, fields, positions and JSON paths after an operand. -/
def columnOps (R : Rules) (this : Node) : Rule .operand Node :=
  chain (fun this => do
    let key ← peekKey
    match jsonOperators.lookup key, keyOperators.lookup key with
    | some scalar, _ =>
      advance
      return some (← arrowed R.grammar scalar this (← jsonOperand R))
    | none, some op =>
      advance
      return some (← node (.binary op) [this, ← jsonOperand R])
    | none, none =>
      if ← accept "::" then
        match ← dataType R false R.grammar.userTypes with
        | some type => return some (← node (.cast false) [this, type])
        | none => reject
      else if ← accept "." then return some (← qualify this (← fieldAfterDot R))
      else bracket R (some this)) this

/-- The mark of an outer join after a column. After anything else the mark says nothing. -/
def outerMarked (R : Rules) (n : Node) : Rule .operand Node := do
  if ← acceptIf R.grammar.outerMarks "(+)" then
    match n.head with
    | .column _ => node .outerMark [n]
    | _ => return n
  else return n

/-- A literal, a call or a column, with casts and fields after it. -/
def column (R : Rules) : Rule .operand (Option Node) := do
  match ← field R with
  | some n => return some (← outerMarked R (← columnOps R n))
  | none => return none

end SemanticLayer.Sql.Parser
