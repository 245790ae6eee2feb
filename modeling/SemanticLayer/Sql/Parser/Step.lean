import SemanticLayer.Sql.Parser.Query

/-!
# Steps after a query

The mark `|>` hands the rows of a query to a step: a condition, an order, a limit, a join, columns,
totals, a name or a set operation. A step that changes the columns or names the rows turns the query
so far into an item of WITH and reads all of it.
-/

namespace SemanticLayer.Sql.Parser

/-- The query so far as the item `label` of WITH, and a query of all its columns from `source`. -/
def handOver (label : TableAlias) (source n : Node) : Node :=
  let items := (n.filter Head.isWith).flatMap Node.parts
  let body := n.setParts (n.parts.filter fun p => !p.head.isWith)
  (selectAll (.of .fromClause [source])).addPart
    (.of (.withClause false) (items ++ [.of (.cte label none) [body]]))

/-- The query so far as an item of WITH with a name that is made up. -/
def handOn (n : Node) : Rule .clause Node := do
  let id : Ident := ⟨"__tmp" ++ toString (← makeUp), false⟩
  return handOver { name := some id } (.of (.table [id] none) []) n

/-- The columns of a query. -/
def columnsOf (n : Node) : List Node := (n.filter Head.isProjections).flatMap Node.parts

/-- The query with other columns. -/
def setColumns (columns : List Node) (n : Node) : Node :=
  n.setParts (n.parts.map fun p =>
    if p.head.isProjections then .of .projections columns else p)

/-- The query with another clause of a kind. -/
def replaceClause (same : Head → Bool) (clause n : Node) : Node :=
  (n.setParts (n.parts.filter fun p => !same p.head)).addPart clause

/-- A condition in parentheses if it is a conjunction or disjunction. -/
def guarded (n : Node) : Node :=
  match n.head with
  | .binary .and | .binary .or | .binary .xor => .of .paren [n]
  | _ => n

/-- The query with a further condition. -/
def addCondition (clause n : Node) : Node :=
  match (n.find? Head.isWhere).bind Node.first?, clause.first? with
  | some old, some new =>
    replaceClause Head.isWhere (.of .whereClause [.of (.binary .and) [guarded old, guarded new]]) n
  | _, _ => n.addPart clause

/-- The number that a clause holds. -/
def rowCount (n : Node) : Option Nat :=
  match n.first?.map Node.head with
  | some (.number s) => s.toNat?
  | _ => none

/-- The query with a limit, unless it has a smaller one. -/
def addLimit (clause n : Node) : Node :=
  match (n.find? Head.isLimit).bind rowCount, rowCount clause with
  | some old, some new => if new ≤ old then replaceClause Head.isLimit clause n else n
  | _, _ => replaceClause Head.isLimit clause n

/-- The query with further rows left out. -/
def addOffset (clause n : Node) : Node :=
  let old := ((n.find? Head.isOffset).bind rowCount).getD 0
  match rowCount clause with
  | some new => setOffset (.of .offset [.of (.number (toString (old + new))) []]) n
  | none => setOffset clause n

def limitStep (R : Rules) (n : Node) : Rule .clause Node := do
  let limited := match ← limit R with
    | some (clause, _) => addLimit clause n
    | none => n
  match ← offset R with
  | some clause => return addOffset clause limited
  | none => return limited

/-- A total or a key of AGGREGATE, with the order it asks for. -/
def aggregateItem (R : Rules) : Rule .clause (Option Node) := do
  let this ← R.assignment
  if ((← here).rest.take 2).map Token.key == ["GROUP", "AND"] then return this
  match ← aliased R false this with
  | none => return none
  | some n =>
    if ["ASC", "DESC"].contains (← peekKey) then return some (← ordering R n) else return some n

/-- What an item of AGGREGATE is called in the clauses after it. -/
def nameOf (n : Node) : Node :=
  match n.head with
  | .aliased id => .of (.name id) []
  | _ => n

/-- The items of a part of AGGREGATE and the keys of the order that they ask for. -/
def splitOrders (items : List Node) : List Node × List Node :=
  let parts := items.map fun n =>
    match n with
    | .mk (.ordered d f) c (this :: _) => (this, [Node.mk (.ordered d f) c [nameOf this]])
    | n => (n, [])
  (parts.map Prod.fst, parts.flatMap Prod.snd)

/-- The query in the order of the keys, if there are some. -/
def inOrder (keys : List Node) (n : Node) : Node :=
  if keys.isEmpty then n else replaceClause Head.isOrder (.of .orderBy keys) n

/-- AGGREGATE, after its keyword. -/
def aggregateStep (R : Rules) (n : Node) : Rule .clause Node := do
  let (totals, orders) := splitOrders (← list (aggregateItem R))
  let n := inOrder orders (setColumns totals n)
  let grouped ← do
    if ← accept "GROUP BY" then pure true else acceptAll ["GROUP", "AND", "ORDER BY"]
  if grouped then
    let (keys, orders) := splitOrders (← list (aggregateItem R))
    let n := setColumns (columnsOf n ++ keys) n
    let n := replaceClause Head.isGroup (.of (.groupBy "") (keys.map nameOf)) n
    handOn (inOrder orders n)
  else handOn n

/-- A set operation as a step, with queries in parentheses. -/
def setStep (R : Rules) (op : String) (n : Node) : Rule .clause Node := do
  let isDistinct ← isDistinctOperation
  let byName ← acceptAll ["BY", "NAME"]
  let others ← list (parenthesized R)
  let queries ← others.mapM fun o => match o with
    | .mk (.subquery _) _ (q :: _) => pure q
    | _ => reject
  if queries.isEmpty then reject
  let left ← handOn n
  let body := left.setParts (left.parts.filter fun p => !p.head.isWith)
  let whole := queries.foldl
    (fun this q => .of (.setOperation op isDistinct byName) [this, q]) body
  handOn (whole.setParts (whole.parts ++ left.filter Head.isWith))

/-- The query after the step at the cursor. -/
def step (R : Rules) (n : Node) : Rule .clause Node := do
  if n.head != .select then reject
  match ← peekKey with
  | "WHERE" => do
    advance
    return addCondition (← condition R .whereClause) n
  | "ORDER BY" => do return replaceClause Head.isOrder (← need (← orderBy R)) n
  | "LIMIT" => limitStep R n
  | "SELECT" => do
    let chosen ← need (← R.query { pipes := false })
    handOn (setColumns (columnsOf chosen) n)
  | "EXTEND" => do
    advance
    handOn (setColumns (.of (.star []) [] :: (← list R.expression)) n)
  | "AGGREGATE" => do
    advance
    aggregateStep R n
  | "AS" => do
    match ← tableAlias R R.grammar.isTableAlias with
    | some label =>
      return handOver label (.of (.name (label.name.getD ⟨"", false⟩)) []) n
    | none => reject
  | _ =>
    match ← acceptOne ["UNION", "EXCEPT", "INTERSECT"] with
    | some t => setStep R t.key n
    | none =>
      match ← joinWith R (joinsWithin R ((← left) + 1)) with
      | some j => return n.addPart j
      | none => reject

/-- A query with the steps after it. -/
def steppedQuery (R : Rules) (place : QueryPlace) : Rule .clause (Option Node) := do
  match ← query R place with
  | none => return none
  | some n =>
    if place.pipes && !place.table && n.head.isQuery then
      return some (← chain (fun n => do
        if ← accept "|>" then return some (← step R n) else return none) n)
    else return some n

end SemanticLayer.Sql.Parser
