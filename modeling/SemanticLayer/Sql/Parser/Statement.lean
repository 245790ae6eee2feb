import SemanticLayer.Sql.Parser.Definition

/-!
# Statements

Queries and expressions are statements; so are the ones that change data, tables or the session,
which are read as far as their shape and their tables need.
-/

namespace SemanticLayer.Sql.Parser

/-! ## Changes of data -/

/-- Column names in parentheses, unless the parentheses hold a query. -/
def columnNames (R : Rules) : Rule .statement (List Ident) := do
  if (← peekKey) == "(" && !(["SELECT", "WITH", "("].contains (← peekSecondKey)) then
    return identsOf (← wrapped (list (name true R.grammar.isName)))
  else return []

/-- What a change of data gives back. -/
def returning (R : Rules) : Rule .statement (List Node) := do
  if ← accept "RETURNING" then return [.of .returning (← list R.expression)] else return []

/-- INSERT, after its keyword. -/
def insertBody (R : Rules) : Rule .statement Node := do
  let overwrite ← accept "OVERWRITE"
  if ← accept "OR" then advance
  let _ ← accept "INTO"
  let _ ← accept "TABLE"
  let target ← targetTable R
  let columns ← columnNames R
  let label ← do
    if (← peekKey) == "AS" then tableAlias R R.grammar.isTableAlias else pure none
  let target := if label.isSome then setAlias label target else target
  let early ← returning R
  let _ ← acceptAll ["BY", "NAME"]
  let _ ← acceptAll ["DEFAULT", "VALUES"]
  let source ← sourceQuery R
  if ← accept "ON" then
    if !(["CONFLICT", "DUPLICATE"].contains (← peekKey)) then reject
    skipRest
  let late ← returning R
  node (.insert overwrite columns) (target :: source.toList ++ early ++ late)

def whereClause (R : Rules) : Rule .statement (Option Node) := do
  if ← accept "WHERE" then return some (← condition R .whereClause) else return none

/-- UPDATE, after its keyword. -/
def updateBody (R : Rules) : Rule .statement Node := do
  let target ← aliasedTable R fun k => R.grammar.isTableAlias k && k != "SET"
  let target := target.setParts (target.parts ++ (← joins R))
  let settings ← do
    if ← accept "SET" then pure [Node.of .setClause (← list R.equality)] else pure []
  let source ← fromClause R true
  let condition ← whereClause R
  let order ← orderBy R
  let result ← returning R
  node .update (target :: settings ++ source.toList ++ condition.toList ++ order.toList ++ result)

/-- DELETE, after its keyword. -/
def deleteBody (R : Rules) : Rule .statement Node := do
  let named ← do
    if (← peekKey) == "FROM" then pure [] else list do return some (← need (← R.table))
  let target ← do
    if ← accept "FROM" then
      let t ← need (← R.table)
      pure [t.setParts (t.parts ++ (← joins R))]
    else pure []
  let others ← if ← accept "USING" then list R.table else pure []
  let condition ← whereClause R
  let result ← returning R
  node .delete (target ++ named ++ others ++ condition.toList ++ result)

/-- MERGE, after its keyword. -/
def mergeBody (R : Rules) : Rule .statement Node := do
  let _ ← accept "INTO"
  let target ← need (← R.table)
  let _ ← accept "USING"
  let source ← need (← R.table)
  let condition ← if ← accept "ON" then R.assignment else pure none
  if (← peekKey) != "WHEN" then reject
  skipRest
  return .of (.statement "MERGE") ([target, source] ++ condition.toList)

/-- COPY, after its keyword. -/
def copyBody (R : Rules) : Rule .statement Node := do
  let _ ← accept "INTO"
  let target ← do
    if (← peekKey) == "(" then need (← R.query { nested := true }) else targetTable R
  skipGroup
  if !(← accept "FROM") then
    let _ ← accept "TO"
  skipRest
  return .of (.statement "COPY") [target]

/-- LOAD, after its keyword. -/
def loadBody (R : Rules) : Rule .statement Node := do
  if ← accept "DATA" then
    let _ ← accept "LOCAL"
    let _ ← accept "INPATH"
    if (← peek).any fun t => t.kind == .string then advance
    let _ ← accept "OVERWRITE"
    let _ ← acceptAll ["INTO", "TABLE"]
    let target ← targetTable R
    return .of (.statement "LOADDATA") [target]
  else keptAsText "LOAD"

/-! ## The session -/

/-- One setting after SET; `none` if it is none. -/
def setting (R : Rules) : Rule .statement (Option Node) := do
  let found ← orBack do
    let _ ← acceptOne ["GLOBAL", "LOCAL", "SESSION"]
    if ← accept "TRANSACTION" then
      skipRest
      return some (some (.of .paren []))
    else
      match ← R.unary with
      | none => return some none
      | some left =>
        if (← acceptOne ["=", ":=", "TO"]).isNone then return none
        match ← R.statement with
        | some right => return some (some (.of (.binary .equal) [left, right]))
        | none => reject
  return found.join

/-- SET, after its keyword. -/
def setBody (R : Rules) : Rule .statement Node := wholeOr "SET" do
  return some (.of (.statement "SET") (← list (setting R)))

/-- KILL, after its keyword. -/
def killBody : Rule .statement Node := do
  let _ ← acceptOne ["CONNECTION", "QUERY"]
  match ← peek with
  | some t =>
    if t.kind == .number || t.kind == .string then
      advance
      return .of (.statement "KILL") []
    else reject
  | none => reject

/-- CACHE, after its keyword. -/
def cacheBody (R : Rules) : Rule .statement Node := do
  let _ ← accept "LAZY"
  let _ ← accept "TABLE"
  let target ← targetTable R
  if ← accept "OPTIONS" then skipGroup
  let _ ← accept "AS"
  let source ← R.query { nested := true }
  return .of (.statement "CACHE") (target :: source.toList)

/-- UNCACHE, after its keyword. -/
def uncacheBody (R : Rules) : Rule .statement Node := do
  expect "TABLE"
  let _ ← acceptAll ["IF", "EXISTS"]
  return .of (.statement "UNCACHE") [← targetTable R]

/-- ANALYZE, after its keyword. -/
def analyzeBody (R : Rules) : Rule .statement Node := do
  let _ ← chain (fun (_ : Unit) =>
    return (← acceptOne ["FULL", "VERBOSE", "SKIP_LOCKED"]).map fun _ => ()) ()
  if (← here).rest.isEmpty then return .of (.statement "ANALYZE") []
  else
    let _ ← acceptOne ["TABLE", "INDEX"]
    let target ← targetTable R
    skipRest
    return .of (.statement "ANALYZE") [target]

/-- USE, after its keyword. -/
def useBody (R : Rules) : Rule .statement Node := do
  let kind := ((← acceptOne ["ROLE", "WAREHOUSE", "DATABASE", "SCHEMA", "CATALOG"]).map
    Token.key).getD ""
  let target ← targetTable R
  node (.use kind) [target]

/-- DESCRIBE, after its keyword. -/
def describeBody (R : Rules) : Rule .statement Node := do
  if creatables.contains (← peekKey) && (← peekSecondKey) != "." then advance
  if ["ANALYZE", "EXTENDED", "FORMATTED", "HISTORY"].contains (← peekKey) &&
      !(["", "."].contains (← peekSecondKey)) then advance
  match ← R.query {} with
  | some n => node .describe [n]
  | none => node .describe [← targetTable R]

/-- A statement kept as text, after its keyword. -/
def commandBody (keyword : String) : Rule .statement Node := do
  match ← peek with
  | some t =>
    if t.kind == .string then
      advance
      node (.command keyword t.text) []
    else node (.command keyword "") []
  | none => node (.command keyword "") []

/-- The rest of BEGIN: how the transaction runs. -/
def beginBody : Rule .statement Node := do
  let _ ← acceptOne ["DEFERRED", "IMMEDIATE", "EXCLUSIVE"]
  let _ ← acceptOne ["TRANSACTION", "WORK"]
  let _ ← chain (fun (_ : Unit) => do
    match ← peek with
    | some t => if t.isWord || t.key == "," then advance; return some () else return none
    | none => return none) ()
  node .transaction []

/-- The rest of COMMIT or ROLLBACK. -/
def endBody (R : Rules) (h : Head) : Rule .statement Node := do
  let _ ← acceptOne ["TRANSACTION", "WORK"]
  if ← accept "TO" then
    let _ ← accept "SAVEPOINT"
    let _ ← name false R.grammar.isName
  if ← accept "AND" then
    let _ ← accept "NO"
    let _ ← accept "CHAIN"
  node h []

/-- The rest of a statement that begins with `keyword`; `none` if it is no such keyword. -/
def statementBody? (R : Rules) (keyword : String) : Option (Rule .statement Node) :=
  match keyword with
  | "INSERT" => some (insertBody R)
  | "UPDATE" => some (updateBody R)
  | "DELETE" => some (deleteBody R)
  | "MERGE" => some (mergeBody R)
  | "COPY" => some (copyBody R)
  | "LOAD" => some (loadBody R)
  | "CREATE" => some (createBody R)
  | "ALTER" => some (alterBody R)
  | "DROP" => some (dropBody R)
  | "TRUNCATE" => some (truncateBody R)
  | "COMMENT" => some (commentBody R)
  | "GRANT" => some (rightsBody R "GRANT" "TO")
  | "REVOKE" => some (rightsBody R "REVOKE" "FROM")
  | "DESCRIBE" | "DESC" => some (describeBody R)
  | "ANALYZE" => some (analyzeBody R)
  | "PRAGMA" => some do return .of (.statement "PRAGMA") [← need (← R.expression)]
  | "PIVOT" => some (pivotQuery R false)
  | "UNPIVOT" => some (pivotQuery R true)
  | "USE" => some (useBody R)
  | "SET" => some (setBody R)
  | "KILL" => some killBody
  | "CACHE" => some (cacheBody R)
  | "UNCACHE" => some (uncacheBody R)
  | "COMMIT" => some (endBody R .commit)
  | "ROLLBACK" => some (endBody R .rollback)
  | "BEGIN" => some beginBody
  | "CALL" | "EXPLAIN" | "OPTIMIZE" | "PREPARE" | "VACUUM" | "EXECUTE" | "FETCH" | "SHOW"
  | "RENAME" => some (commandBody keyword)
  | _ => none

/-- Whether the word at the cursor is called rather than the keyword of a statement. -/
def isCalled (keyword : String) : Rule .statement Bool := do
  return keyword == "TRUNCATE" && (← peekSecondKey) == "("

def statement (R : Rules) : Rule .statement (Option Node) := do
  match ← peek with
  | none => return none
  | some t =>
    let body := if t.isWord && !(← isCalled t.key) then statementBody? R t.key else none
    match body with
    | some body =>
      advance
      let n ← body
      return some (n.setComments (t.comments ++ n.comments))
    | none =>
      let found ← do
        match ← R.expression with
        | some n => pure (some (← R.setOperations n))
        | none => R.query {}
      found.mapM fun n => R.clauses n

end SemanticLayer.Sql.Parser
