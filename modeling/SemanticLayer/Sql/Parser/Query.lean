import SemanticLayer.Sql.Lexer
import SemanticLayer.Sql.Parser.Table

/-!
# Queries

SELECT with its clauses, WITH in front of a query, and the operations that combine queries.
-/

namespace SemanticLayer.Sql.Parser

/-! ## Clauses -/

/-- A condition after its keyword. -/
def condition (R : Rules) (h : Head) : Rule .clause Node := do
  let comments ← pending
  nodeWith comments h [← need (← R.assignment)]

/-- ROLLUP or CUBE, with its items unless `bare`. -/
def cubeOrRollup (R : Rules) (bare : Bool) : Rule .clause (Option Node) := do
  match ← acceptOne ["ROLLUP", "CUBE"] with
  | none => return none
  | some t =>
    if bare then return some (.of (.grouping ("WITH " ++ t.key)) [])
    else return some (.of (.grouping t.key) (← wrapped (list R.bitwise)))

/-- ROLLUP, CUBE, GROUPING SETS or WITH TOTALS. -/
def grouping (R : Rules) : Rule .clause (Option Node) := do
  let found ← orBack do
    let bare ← accept "WITH"
    if ← acceptIf bare "TOTALS" then return some (.of (.grouping "WITH TOTALS") [])
    cubeOrRollup R bare
  match found with
  | some n => return some n
  | none =>
    if ← accept "GROUPING SETS" then
      let sets ← wrapped (list do
        match ← cubeOrRollup R false with
        | some n => return some n
        | none => R.bitwise)
      return some (.of (.grouping "GROUPING SETS") sets)
    else return none

def groupItem (R : Rules) : Rule .clause (Option Node) := do
  match ← grouping R with
  | some n => return some n
  | none => R.assignment

def clauseKeywords : List String :=
  ["WHERE", "GROUP BY", "HAVING", "QUALIFY", "WINDOW", "ORDER BY", "LIMIT", "FETCH", "OFFSET",
    "FOR", "LOCK", "TABLESAMPLE", "USING", "CLUSTER BY", "DISTRIBUTE BY", "SORT BY", "START WITH",
    "CONNECT BY"]

def groupBy (R : Rules) : Rule .clause Node := do
  let comments ← pending
  let modifier ← do
    if ← accept "ALL" then pure "ALL"
    else if ← accept "DISTINCT" then pure "DISTINCT"
    else pure ""
  if clauseKeywords.contains (← peekKey) then nodeWith comments (.groupBy modifier) []
  else
    let items ← list (groupItem R)
    let more ← many (grouping R)
    nodeWith comments (.groupBy modifier) (items ++ more)

def windowDefinition (R : Rules) : Rule .clause (Option Node) := do
  match (← name true R.grammar.isName).bind identOf with
  | none => reject
  | some id =>
    let _ ← accept "AS"
    if (← peekKey) == "(" then
      let (base, parts) ← wrapped (windowBody R)
      return some (← node (.windowDefinition id base) parts)
    else
      let base ← name false R.grammar.isName
      return some (← node (.windowDefinition id (base.bind identOf)) [])

/-- The words that begin a lock, and the lock they stand for. -/
def lockWords : List (List String × String) :=
  [(["FOR", "UPDATE"], "FOR UPDATE"), (["FOR", "SHARE"], "FOR SHARE"),
    (["LOCK", "IN", "SHARE", "MODE"], "FOR SHARE"), (["FOR", "KEY", "SHARE"], "FOR KEY SHARE"),
    (["FOR", "NO", "KEY", "UPDATE"], "FOR NO KEY UPDATE")]

/-- What a lock does about rows that are locked already. -/
def lockWait (R : Rules) : Rule .clause String := do
  if ← accept "NOWAIT" then return " NOWAIT"
  else if ← acceptAll ["SKIP", "LOCKED"] then return " SKIP LOCKED"
  else if ← accept "WAIT" then
    match (← literal R).map Node.head with
    | some (.number s) => return " WAIT " ++ s
    | _ => reject
  else return ""

/-- A lock on the rows of a query, or on those of some of its tables. -/
def lock (R : Rules) : Rule .clause (Option Node) := do
  match ← lockWords.findSomeM? fun (words, kind) => do
    return if ← acceptAll words then some kind else none with
  | none => return none
  | some kind =>
    let tables ← if ← accept "OF" then list (do return some (← namedTable R false)) else pure []
    let wait ← lockWait R
    return some (.of (.lock kind wait) tables)

/-- START WITH and CONNECT BY, in either order. -/
def connect (R : Rules) : Rule .clause (List Node) := do
  let before ← if ← accept "START WITH" then pure (← R.assignment).toList else pure []
  let _ ← accept "CONNECT BY"
  let noCycle ← accept "NOCYCLE"
  let step ← need (← inHierarchy R.assignment)
  let after ← do
    if ← acceptIf before.isEmpty "START WITH" then pure (← R.assignment).toList else pure []
  return (before ++ after).map (fun n => Node.of .startWith [n]) ++
    [.of (.connectBy noCycle) [step]]

/-- The node with a further clause. A query has each clause once. -/
def addClause (same : Head → Bool) (clause this : Node) : Rule .clause Node :=
  if (this.find? same).isSome then reject else return this.addPart clause

def setOffset (offset this : Node) : Node :=
  (this.setParts (this.parts.filter fun p => !p.head.isOffset)).addPart offset

/-- The query with the clause at the cursor, if there is one. -/
def clause (R : Rules) (this : Node) : Rule .clause (Option Node) := do
  let key ← peekKey
  match key with
  | "WHERE" => do
    advance
    return some (← addClause Head.isWhere (← condition R .whereClause) this)
  | "GROUP BY" => do
    advance
    return some (← addClause Head.isGroup (← groupBy R) this)
  | "HAVING" => do
    advance
    return some (← addClause Head.isHaving (← condition R .having) this)
  | "QUALIFY" => do
    advance
    return some (← addClause Head.isQualify (← condition R .qualify) this)
  | "WINDOW" => do
    advance
    let windows ← list (windowDefinition R)
    return some (← addClause (· == .windows) (.of .windows windows) this)
  | "ORDER BY" => do
    match ← orderBy R with
    | some n => return some (← addClause Head.isOrder n this)
    | none => return none
  | "CLUSTER BY" | "DISTRIBUTE BY" | "SORT BY" | "ORDER SIBLINGS BY" => do
    advance
    let keys ← list (orderKey R)
    return some (← addClause (· == .sortClause key) (.of (.sortClause key) keys) this)
  | "LIMIT" => do
    match ← limit R with
    | some (n, start) =>
      let this ← addClause Head.isLimit n this
      return some (match start with
        | some s => setOffset (.of .offset [s]) this
        | none => this)
    | none => return none
  | "FETCH" => do
    match ← fetch R with
    | some n => return some (← addClause Head.isLimit n this)
    | none => return none
  | "OFFSET" => do
    match ← offset R with
    | some n => return some (← addClause Head.isOffset n this)
    | none => return none
  | "FOR" | "LOCK" => do
    match ← many (lock R) with
    | [] => return none
    | locks => return some (this.setParts (this.parts ++ locks))
  | "TABLESAMPLE" | "USING" => do
    match ← sample R true with
    | some n => return some (← addClause Head.isSample n this)
    | none => return none
  | "START WITH" | "CONNECT BY" => do
    let found ← connect R
    return some (this.setParts (this.parts ++ found))
  | _ => return none

/-- The joins and clauses after a query or a table. -/
def clauses (R : Rules) (this : Node) : Rule .clause Node := do
  if !this.head.takesClauses then return this
  let joined ← joins R
  let laterals ← many (lateral R)
  chain (clause R) (this.setParts (this.parts ++ joined ++ laterals))

/-! ## WITH -/

/-- A query for rows of values, which a WITH item needs. -/
def selectValues (n : Node) : Node :=
  let source := match n with
    | .mk (.values none) c ps => .mk (.values (some { name := some ⟨"_values", false⟩ })) c ps
    | n => n
  .of .select [.of .projections [.of (.star []) []], .of .fromClause [source]]

def withItem (R : Rules) : Rule .clause (Option Node) := orBack do
  match ← tableAlias R R.grammar.isName with
  | none => reject
  | some label =>
    if label.name.isNone then reject
    if !(← accept "AS") then return none
    let comments ← pending
    let materialized ← do
      if ← acceptAll ["NOT", "MATERIALIZED"] then pure (some false)
      else if ← accept "MATERIALIZED" then pure (some true)
      else pure none
    let body ← need (← wrapped (nested R.statement))
    let body := match body.head with
      | .values _ => selectValues body
      | _ => body
    return some (← nodeWith comments (.cte label materialized) [body])

/-- The items of WITH after the first one. The comments before an item go to it. -/
def withItems (R : Rules) : Nat → List String → Rule .clause (List Node)
  | 0, _ => return []
  | n + 1, before => do
    let item ← withItem R
    let item := (item.map fun i => i.addComments before).toList
    if (← acceptOne [",", "WITH"]).isSome then
      let _ ← accept "WITH"
      let comments ← pending
      return item ++ (← withItems R n comments)
    else return item

def withClause (R : Rules) : Rule .clause (Option Node) := do
  if !(← accept "WITH") then return none
  let comments ← pending
  let recursive ← accept "RECURSIVE"
  let items ← withItems R ((← left) + 1) []
  if items.isEmpty then reject
  return some (← nodeWith comments (.withClause recursive) items)

/-- Whether WITH may stand in front of the statement. -/
def takesWith : Head → Bool
  | .insert .. | .update | .delete | .create _ | .statement "MERGE" => true
  | h => h.isQuery

/-! ## SELECT -/

/-- DISTINCT after SELECT, or another word for it. -/
def distinct (R : Rules) : Rule .clause (List Node) := do
  if (← acceptOne ("DISTINCT" :: R.grammar.distinctWords)).isSome then
    if ← accept "ON" then
      return [← node .distinct (← row R).toList]
    else return [← node .distinct []]
  else return []

/-- A word of a hint that is no keyword. -/
def hintWord (R : Rules) : Rule .clause (Option Token) := do
  match ← peek with
  | some t =>
    if t.isWord && R.grammar.isPlainWord t.key then
      advance
      return some t
    else return none
  | none => return none

/-- A call in a hint. In Oracle any word may be called, and its arguments are words. -/
def hintCall (R : Rules) : Rule .clause (Option Node) := do
  if R.grammar.calls != .oracle then call R {}
  else if (← peekSecondKey) == "(" then
    let name := ((← peek).map Token.text).getD ""
    advance
    return some (← closed do
      let args ← many do return (← hintWord R).map fun t => .of (.keyword t.text) []
      return .of (.hintCall name) args)
  else return none

/-- The items of a hint: calls and words in upper case. -/
def hintItems (R : Rules) : Rule .clause (List Node) :=
  let item : Rule .clause (Option Node) := do
    match ← hintCall R with
    | some n => return some n
    | none => return (← hintWord R).map fun t => .of (.keyword (Text.upper t.text)) []
  chain (fun ns => do
    match ← list item with
    | [] => return none
    | found => return some (ns ++ found)) []

/-- A hint after SELECT. One that does not consist of calls and words is kept as it is. -/
def hint (R : Rules) : Rule .clause (List Node) := do
  match ← acceptOne ["/*+"] with
  | none => return []
  | some t =>
    let kept := [Node.of .hint [.of (.keyword (Text.strip t.text)) []]]
    match Lexer.tokenize R.grammar t.text with
    | none => reject
    | some tokens =>
      match (hintItems R).run { rest := tokens } with
      | .ok (items, c) => return if c.rest.isEmpty then [.of .hint items] else kept
      | .error .rejected => return kept
      | .error .exhausted => exhaust

/-- INTO with the table that takes the rows. -/
def into (R : Rules) : Rule .clause (List Node) := do
  if ← accept "INTO" then
    let _ ← accept "TABLE"
    return [← node .into [← namedTable R false]]
  else return []

/-- AS after SELECT. With STRUCT or VALUE it says what a row is; without them it says nothing. -/
def rowKind : Rule .clause (List Node) := do
  if ← accept "AS" then
    return ((← acceptOne ["STRUCT", "VALUE"]).map fun t => .of (.rowKind t.key) []).toList
  else return []

/-- Words about how the query is run. -/
def runOptions (R : Rules) : Rule .clause (List Node) :=
  many do
    match ← acceptOne R.grammar.runOptions with
    | some t => return some (.of (.runOption t.key) [])
    | none => return none

/-- TOP after SELECT with a number of rows. -/
def top (R : Rules) : Rule .clause (List Node) := do
  if ← acceptIf R.grammar.hasTop "TOP" then
    let comments ← pending
    let count ← do
      if (← peekKey) == "(" then
        let (n, _) ← opened .round R.term
        pure n
      else if (← peek).any fun t => t.kind == .number then literal R
      else pure none
    let options ← rowOptions
    let count ← if ← accept "," then R.term else pure count
    return [← nodeWith comments (.limit options) [← need count]]
  else return []

/-- ALL or DISTINCT after SELECT. Before a point these words are names. -/
def uniqueness (R : Rules) : Rule .clause (List Node) := do
  if ((← here).rest.drop 1).head?.any fun t => t.key != "." then
    let all ← accept "ALL"
    let unique ← distinct R
    if all && !unique.isEmpty then reject
    return unique
  else return []

/-- The FROM clause that stood before SELECT, or the one at the cursor. -/
def sourceClause (R : Rules) (source : Option Node) : Rule .clause (Option Node) :=
  match source with
  | some s => return some s
  | none => fromClause R false

/-- What follows SELECT. `source` is a FROM clause that stood before it. -/
def selectBody (R : Rules) (source : Option Node) : Rule .clause Node := do
  let comments ← pending
  let hints ← hint R
  let unique ← uniqueness R
  let kind ← rowKind
  let options ← runOptions R
  let count ← top R
  let items ← list R.expression
  let taker ← into R
  let source ← sourceClause R source
  R.clauses (.mk .select comments
    (hints ++ unique ++ kind ++ options ++ count ++ [.of .projections items] ++ taker ++
      source.toList))

/-- A query that selects everything from a FROM clause. -/
def selectAll (source : Node) : Node :=
  .of .select [.of .projections [.of (.star []) []], source]

/-- A query in parentheses with its pivots, its alias and its sample. -/
def aliasedSubquery (R : Rules) (n : Node) : Rule .clause Node := do
  let pivots ← many (pivot R)
  let label ← tableAlias R R.grammar.isTableAlias
  let sampled ← sample R false
  node (.subquery label) ([n] ++ pivots ++ sampled.toList)

/-- Rows of values with an alias, as a table that may have joins. -/
def tableOfValues (place : QueryPlace) (n : Node) : Node :=
  match place.table, n with
  | true, .mk (.values (some a)) c ps =>
    .of (.tableCall [] (some a) false) [.mk (.values none) c ps]
  | _, n => n

/-- A column that is turned, with its values or its alias. -/
def pivotKey (R : Rules) : Rule .clause (Option Node) := do
  match ← R.bitwise with
  | none => return none
  | some this =>
    if ← accept "IN" then return some (← inBody R this)
    else if (← peekKey) == "AS" then aliased R false (some this)
    else return some this

/-- A clause of PIVOT or UNPIVOT, if its word stands here. -/
def pivotClause (word : String) (items : Rule .clause (List Node)) : Rule .clause (List Node) := do
  if ← accept word then return [.of (.pivotClause word) (← items)] else return []

/-- PIVOT or UNPIVOT as a query of its own, after its keyword. -/
def pivotQuery (R : Rules) (back : Bool) : Rule .clause Node := do
  let source ← need (← R.table)
  let keys ← pivotClause "ON" (list (pivotKey R))
  let names ← pivotClause "INTO" do
    let named ← if ← accept "NAME" then column R else pure none
    let values ← if ← accept "VALUE" then list (column R) else pure []
    return named.toList ++ values
  let totals ← pivotClause "USING" (list do aliased R false (← column R))
  let grouped ← if ← accept "GROUP BY" then pure [← groupBy R] else pure []
  node (.pivotQuery back) (source :: keys ++ names ++ totals ++ grouped)

/-- What stands in parentheses where a table or a query may stand. -/
def nestedQuery (R : Rules) (place : QueryPlace) : Rule .clause (Option Node) := do
  if ← accept "PIVOT" then return some (← pivotQuery R false)
  else if ← accept "UNPIVOT" then return some (← pivotQuery R true)
  else if ← accept "FROM" then
    let source ← fromTable R false
    match ← R.query {} with
    | some n =>
      let bare := n.head == .select && (n.find? Head.isFrom).isNone
      return some (if bare then n.addPart source else n)
    | none => return some (← R.clauses (← R.setOperations (selectAll source)))
  else
    let inner ← if place.table then R.table else R.query { nested := true, setOperations := false }
    match inner with
    | none => return none
    | some n => return some (← R.clauses (← R.setOperations (tableOfValues place n)))

/-- What stands in parentheses, with the comments of the opening one. -/
def commentedQuery (R : Rules) (place : QueryPlace) : Rule .clause (Option Node) := do
  let comments ← pending
  return (← nestedQuery R place).map fun n => n.setComments (comments ++ n.comments)

def query (R : Rules) (place : QueryPlace) : Rule .clause (Option Node) := do
  match ← withClause R with
  | some w =>
    let n ← need (← nested R.statement)
    if takesWith n.head then return some (n.addPart w) else reject
  | none =>
    let source ← fromClause R true
    let mayNest := source.isNone && (place.table || place.nested)
    if ← accept "SELECT" then
      let n ← selectBody R source
      if place.setOperations then return some (← R.setOperations n) else return some n
    else if mayNest && (← peekKey) == "(" then
      match ← wrapped (commentedQuery R place) with
      | none => return none
      | some n => return some (← aliasedSubquery R n)
    else
      let found ← do
        match source with
        | some s => pure (some (← R.clauses (selectAll s)))
        | none => if (← peekKey) == "VALUES" then values R else pure none
      match found with
      | none => return none
      | some n => if place.setOperations then return some (← R.setOperations n) else return some n

/-! ## Set operations -/

/-- Moves the order and the limits of the last query to the set operation as a whole. -/
def liftClauses : Node → Node
  | .mk h c [left, right] =>
    let moves (p : Node) : Bool := p.head.isOrder || p.head.isLimit || p.head.isOffset
    if right.head.isQuery then
      .mk h c ([left, right.setParts (right.parts.filter fun p => !moves p)] ++
        right.parts.filter moves)
    else .mk h c [left, right]
  | n => n

/-- Whether a set operation leaves out rows that it has already: unless it says ALL. -/
def isDistinctOperation : Rule .clause Bool := do
  if ← accept "DISTINCT" then return true
  else return !(← accept "ALL")

/-- UNION, EXCEPT and INTERSECT after a query. -/
def setOperations (R : Rules) (this : Node) : Rule .clause Node := do
  let whole ← chain (fun this => do
    match ← acceptOne ["UNION", "EXCEPT", "INTERSECT"] with
    | none => return none
    | some t =>
      let isDistinct ← isDistinctOperation
      let byName ← acceptAll ["BY", "NAME"]
      let right ← need (← R.query { nested := true, setOperations := false, pipes := false })
      return some (← nodeWith t.comments (.setOperation t.key isDistinct byName) [this, right]))
    this
  match whole.head with
  | .setOperation .. => return liftClauses whole
  | _ => return whole

end SemanticLayer.Sql.Parser
