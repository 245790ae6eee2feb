import SemanticLayer.Sql.Parser.Name

/-!
# Order and limits

The clauses ORDER BY, LIMIT, FETCH and OFFSET, which stand after queries and inside calls, and the
aliases that must leave them alone.
-/

namespace SemanticLayer.Sql.Parser

/-- Whether nulls come first in an order that does not say. -/
def nullsFirstByDefault (order : NullOrder) (descending : Bool) : Bool :=
  match order with
  | .small => !descending
  | .large => descending
  | .last => false

/-- The word ALL stands for all columns where the grammar has such an order. -/
def settleOrderKey (g : Grammar) (n : Node) : Node :=
  match n.head with
  | .column [id] =>
    if g.ordersAll && Text.upper id.name == "ALL" then .mk (.keyword "ALL") n.comments [] else n
  | _ => n

/-- A bound of the rows that fill the gaps of an order. -/
def fillBound (R : Rules) (keyword : String) : Rule .clause (List Node) := do
  if ← accept keyword then return [.of (.fillBound keyword) [← need (← R.bitwise)]] else return []

/-- WITH FILL and its bounds. -/
def fill (R : Rules) : Rule .clause (List Node) := do
  if ← acceptAll ["WITH", "FILL"] then
    let start ← fillBound R "FROM"
    let stop ← fillBound R "TO"
    let step ← fillBound R "STEP"
    return [← node .fill (start ++ stop ++ step)]
  else return []

/-- A value with the direction of its order. -/
def ordering (R : Rules) (n : Node) : Rule .clause Node := do
  let ascending ← accept "ASC"
  let descending ← accept "DESC"
  let direction := if descending then some true else if ascending then some false else none
  let first ← acceptAll ["NULLS", "FIRST"]
  let last ← acceptAll ["NULLS", "LAST"]
  let nullsFirst :=
    if first || last then first else nullsFirstByDefault R.grammar.nullOrder descending
  node (.ordered direction nullsFirst) (n :: (← fill R))

def orderKey (R : Rules) : Rule .clause (Option Node) := do
  ((← R.assignment).map (settleOrderKey R.grammar)).mapM (ordering R)

def orderBy (R : Rules) : Rule .clause (Option Node) := do
  if ← accept "ORDER BY" then
    let comments ← pending
    let keys ← list (orderKey R)
    return some (← nodeWith comments .orderBy keys)
  else return none

/-- The count after LIMIT. A percent sign without an operand after it is no operator. -/
def limitCount (R : Rules) : Rule .clause Node := do
  match ← attempt R.term with
  | some n => return n
  | none => need (← R.unary)

/-- What may stand after a number of rows. -/
def rowOptions : Rule .clause RowOptions := do
  let percent := (← acceptOne ["PERCENT", "%"]).isSome
  let rows := (← acceptOne ["ROW", "ROWS"]).isSome
  let _ ← accept "ONLY"
  let ties ← acceptAll ["WITH", "TIES"]
  return { percent, rows, ties }

/-- LIMIT, with its offset in front of the count if there is one. -/
def limit (R : Rules) : Rule .clause (Option (Node × Option Node)) := do
  if ← accept "LIMIT" then
    let comments ← pending
    let first ← limitCount R
    let options ← rowOptions
    let second ← if ← accept "," then pure (some (← need (← R.term))) else pure none
    let keys ← if ← accept "BY" then list R.bitwise else pure []
    let (count, start) := match second with
      | some n => (n, some first)
      | none => (first, none)
    return some (← nodeWith comments (.limit options) (count :: keys), start)
  else return none

/-- The number of rows of FETCH. -/
def fetchCount (R : Rules) : Rule .clause (Option Node) := do
  match ← peek with
  | some t =>
    if ["ROW", "ROWS", "PERCENT", "ONLY"].contains t.key then return none
    else if t.kind == .number then
      advance
      return some (← node (.number t.text) [])
    else if t.key == "(" then R.unary
    else match ← name false R.grammar.isName with
      | some n => return some (← nodeWith n.comments (.column (identsOf [n])) [])
      | none => return none
  | none => return none

def fetch (R : Rules) : Rule .clause (Option Node) := do
  if ← accept "FETCH" then
    let direction := ((← acceptOne ["FIRST", "NEXT"]).map Token.key).getD "FIRST"
    let count ← fetchCount R
    return some (← node (.fetch direction (← rowOptions)) count.toList)
  else return none

def offset (R : Rules) : Rule .clause (Option Node) := do
  if ← accept "OFFSET" then
    let count ← need (← R.term)
    let _ ← acceptOne ["ROW", "ROWS"]
    return some (← node .offset [count])
  else return none

def limitOrOffset (R : Rules) : Rule .clause (Option Node) := do
  match ← limit R with
  | some (n, _) => return some n
  | none => offset R

/-- Whether a LIMIT or OFFSET clause stands at the cursor. Without one, these words are names. -/
def limitFollows {scope : Scope} (R : Rules) : Rule scope Bool := do
  let key ← peekKey
  if key == "LIMIT" || key == "OFFSET" then finds (limitOrOffset R) else return false

/-- An expression with the alias at the cursor. After AS almost any token may be one. Comments of
the expression move to its alias if the alias has none. -/
def named {scope : Scope} (R : Rules) (marked : Bool) (found : Option Node) :
    Rule scope (Option Node) := do
  let comments ← pending
  if (← peekKey) == "(" then
    return some (← closed do
      let names ← list (name marked R.grammar.isName)
      if names.isEmpty then reject
      let this ← need found
      nodeWith comments (.aliases (identsOf names)) [this])
  let chosen ← do
    match ← name marked R.grammar.isName with
    | some n => pure (some n)
    | none => if R.grammar.stringAliases then stringName else pure none
  match chosen.bind identOf with
  | none => return found
  | some id =>
    let this ← need found
    let comments := comments ++ (chosen.map Node.comments).getD []
    let whole ← nodeWith comments (.aliased id) [this]
    if whole.comments.isEmpty then
      return some (.mk (.aliased id) this.comments [this.setComments []])
    else return some whole

/-- An expression with an alias that has no AS before it. -/
def bareAlias (R : Rules) (found : Option Node) : Rule .operand (Option Node) := named R false found

/-- An expression with the alias that follows it. With `explicit`, only AS brings one. -/
def aliased (R : Rules) (explicit : Bool) (found : Option Node) : Rule .clause (Option Node) := do
  if ← limitFollows R then return found
  else if ← accept "AS" then named R true found
  else if explicit then return found
  else bareAlias R found

/-- The names of columns in parentheses after the alias of a table. -/
def aliasColumns (R : Rules) : Rule .clause (Option (List Node)) := orBack do
  if (← peekKey) != "(" then return none
  let (columns, isClosed) ← opened .round (list (name true R.grammar.isName))
  if columns.isEmpty then return none
  else if isClosed then return some columns
  else reject

/-- The alias of a table, with the names of its columns. -/
def tableAlias (R : Rules) (allowed : String → Bool) : Rule .clause (Option TableAlias) := do
  if ← limitFollows R then return none
  let anything ← accept "AS"
  let found ← do
    match ← name anything allowed with
    | some n => pure (some n)
    | none => stringName
  let columns := (← aliasColumns R).getD []
  match found, columns with
  | none, [] => return none
  | _, _ =>
    return some {
      name := found.bind identOf
      columns := identsOf columns
      comments := (found.map Node.comments).getD [] }

end SemanticLayer.Sql.Parser
