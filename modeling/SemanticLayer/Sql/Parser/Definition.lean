import SemanticLayer.Sql.Parser.Step

/-!
# Statements about tables and their like

CREATE, ALTER, DROP and the other statements that define things or say who may use them. They are
read as far as their kind and their tables need. One whose rest is not understood is kept as text.
-/

namespace SemanticLayer.Sql.Parser

/-- A table by name without an alias. -/
def targetTable (R : Rules) : Rule .statement Node := namedTable R false

/-- Moves over all that is left. -/
def skipRest : Rule .statement Unit := do ((← here).rest).forM fun _ => advance

/-- A statement whose rest is kept as text. -/
def keptAsText (keyword : String) : Rule .statement Node := do
  let texts := (← here).rest.map Token.text
  skipRest
  return .of (.command keyword (" ".intercalate texts)) []

/-- What a rule reads if nothing is left after it; otherwise the statement's text. -/
def wholeOr (keyword : String) (r : Rule .statement (Option Node)) : Rule .statement Node := do
  let found ← orBack do
    let n ← r
    return if (← here).rest.isEmpty then n else none
  match found with
  | some n => return n
  | none => keptAsText keyword

/-- Moves over everything up to the parenthesis that closes the open one, `depth` levels up. -/
def skipParens : Nat → Nat → Rule .statement Unit
  | 0, _ => reject
  | n + 1, depth => do
    match ← peek with
    | none => reject
    | some t =>
      advance
      if t.key == "(" then skipParens n (depth + 1)
      else if t.key == ")" then
        match depth with
        | 0 => return
        | d + 1 => skipParens n d
      else skipParens n depth

/-- Moves over what stands in parentheses, if they follow. -/
def skipGroup : Rule .statement Unit := do
  if ← accept "(" then skipParens ((← left) + 1) 0

/-- The unqualified tables that tokens refer to: the names after REFERENCES. -/
def referredTables : List Token → List Node
  | [] => []
  | t :: ts =>
    let others := referredTables ts
    match t.key == "REFERENCES", ts with
    | true, n :: rest =>
      if rest.head?.any fun m => m.key == "." then others
      else .of (.table [⟨n.text, n.kind == .quotedName⟩] none) [] :: others
    | _, _ => others

/-- Things that can be created and dropped. -/
def creatables : List String :=
  ["COLUMN", "CONSTRAINT", "DATABASE", "FOREIGN KEY", "FUNCTION", "INDEX", "NAMESPACE", "PROCEDURE",
    "SCHEMA", "SEQUENCE", "TABLE", "VIEW"]

/-- Rows or a query after the table of INSERT or CREATE. -/
def sourceQuery (R : Rules) : Rule .statement (Option Node) := do
  match ← values R with
  | some n => return some n
  | none =>
    match ← R.query { nested := true } with
    | some n => return some (← R.clauses (← R.setOperations n))
    | none => return none

/-! ## CREATE -/

/-- Words between CREATE and what is created. -/
def creationWords : List String :=
  ["TEMP", "TEMPORARY", "EXTERNAL", "GLOBAL", "MATERIALIZED", "TRANSIENT", "UNLOGGED", "VOLATILE",
    "SECURE", "DYNAMIC", "MULTISET", "SET"]

/-- Properties of a table with one value, perhaps after an equals sign. -/
def valueProperties : List String :=
  ["ENGINE", "COMMENT", "LOCATION", "AUTO_INCREMENT", "CHARSET", "CHARACTER SET", "COLLATE",
    "USING", "LANGUAGE"]

/-- Properties of a table with values in parentheses. -/
def groupProperties : List String :=
  ["PARTITION BY", "PARTITIONED_BY", "TBLPROPERTIES", "OPTIONS", "WITH", "CLUSTER BY"]

/-- Moves over one property of a table. -/
def skipProperty : Rule .statement Bool := do
  if ← acceptAll ["WITH", "NO", "DATA"] then return true
  else if ← acceptAll ["WITH", "DATA"] then return true
  else if ← acceptAll ["STORED", "AS"] then
    advance
    return true
  else if ← acceptAll ["ON", "COMMIT"] then
    skipRest
    return true
  else if groupProperties.contains (← peekKey) && (← peekSecondKey) == "(" then
    advance
    skipGroup
    return true
  else
    let _ ← accept "DEFAULT"
    match ← acceptOne valueProperties with
    | some _ =>
      let _ ← accept "="
      advance
      return true
    | none => return false

/-- Moves over properties of a table. -/
def skipProperties : Rule .statement Unit := do
  let _ ← chain (fun (_ : Unit) => do if ← skipProperty then return some () else return none) ()

/-- A table or view that is created, after its name: its columns, its properties and its rows. -/
def createdRows (R : Rules) (kind : String) (target : Node) : Rule .statement Node := do
  let columns ← do
    if (← peekKey) == "(" && !(["SELECT", "WITH"].contains (← peekSecondKey)) then
      let before := (← here).rest
      skipGroup
      pure (before.take (before.length - (← left)))
    else pure []
  skipProperties
  let sample ← do
    match ← acceptOne ["LIKE", "CLONE", "COPY"] with
    | some _ => pure [← targetTable R]
    | none => pure []
  let _ ← accept "AS"
  let source ← sourceQuery R
  skipProperties
  return .of (.create kind) (target :: source.toList ++ sample ++ referredTables columns)

/-- An index that is created, after its keyword. -/
def createdIndex (R : Rules) : Rule .statement Node := do
  if !(← accept "ON") then
    let _ ← need (← name false R.grammar.isName)
    expect "ON"
  let _ ← accept "TABLE"
  let target ← targetTable R
  skipRest
  return .of (.statement "CREATE") [target]

/-- CREATE, after its keyword. -/
def createBody (R : Rules) : Rule .statement Node := wholeOr "CREATE" do
  if !(← acceptAll ["OR", "REPLACE"]) then
    let _ ← acceptAll ["OR", "ALTER"]
  let _ ← accept "UNIQUE"
  let _ ← chain (fun (_ : Unit) => return (← acceptOne creationWords).map fun _ => ()) ()
  match ← acceptOne creatables with
  | none => return none
  | some kind =>
    let _ ← accept "CONCURRENTLY"
    let _ ← acceptAll ["IF", "NOT", "EXISTS"]
    match kind.key with
    | "TABLE" | "VIEW" => do return some (← createdRows R kind.key (← targetTable R))
    | "INDEX" => do return some (← createdIndex R)
    | "FUNCTION" | "PROCEDURE" | "SEQUENCE" => do
      let target ← targetTable R
      skipRest
      return some (.of (.statement "CREATE") [target])
    | "SCHEMA" => do
      let _ ← targetTable R
      return some (.of (.statement "CREATE") [])
    | "DATABASE" | "NAMESPACE" => do
      let target ← targetTable R
      skipProperties
      return some (.of (.statement "CREATE") [target])
    | _ => do return some (← keptAsText "CREATE")

/-! ## DROP, ALTER and TRUNCATE -/

/-- A name that is no table's. -/
def asColumn : Node → Node
  | .mk (.table path _) c _ => .mk (.column path) c []
  | n => n

/-- DROP, after its keyword. -/
def dropBody (R : Rules) : Rule .statement Node := do
  let found ← orBack do
    let _ ← acceptOne ["TEMP", "TEMPORARY"]
    let _ ← accept "MATERIALIZED"
    acceptOne creatables
  match found with
  | none => keptAsText "DROP"
  | some kind =>
    let _ ← accept "CONCURRENTLY"
    let ifExists ← acceptAll ["IF", "EXISTS"]
    let target ← targetTable R
    if ← accept "ON" then
      let _ ← targetTable R
    skipGroup
    let _ ← accept "CASCADE"
    let _ ← accept "CONSTRAINTS"
    let _ ← accept "PURGE"
    let isTable := kind.key != "COLUMN" && (kind.key != "SCHEMA" || ifExists)
    let what := kind.key ++ if ifExists then " IF EXISTS" else ""
    return .of (.drop what) [if isTable then target else asColumn target]

/-- What ALTER may do to a table. -/
def alterations : List String :=
  ["ADD", "ALTER", "CLUSTER BY", "DELETE", "DROP", "SET"]

/-- What ALTER does to a table, with the tables that it refers to; `none` if it is not
understood. -/
def alteration (R : Rules) : Rule .statement (Option (List Node)) := do
  if ← accept "AS" then return some (← R.query {}).toList
  else if ← acceptAll ["RENAME", "TO"] then return some [← targetTable R]
  else if ← acceptAll ["RENAME", "COLUMN"] then
    skipRest
    return some []
  else if ← acceptAll ["SWAP", "WITH"] then return some [← targetTable R]
  else if (← acceptOne alterations).isSome && !(← here).rest.isEmpty then
    let others := referredTables (← here).rest
    skipRest
    return some others
  else return none

/-- ALTER, after its keyword. -/
def alterBody (R : Rules) : Rule .statement Node := wholeOr "ALTER" do
  if (← acceptOne ["TABLE", "VIEW"]).isNone then return none
  else
    let _ ← acceptAll ["IF", "EXISTS"]
    let _ ← accept "ONLY"
    let target ← targetTable R
    return (← alteration R).map fun found => .of (.statement "ALTER") (target :: found)

/-- TRUNCATE, after its keyword. -/
def truncateBody (R : Rules) : Rule .statement Node := wholeOr "TRUNCATE" do
  let _ ← accept "DATABASE"
  let _ ← accept "TABLE"
  let _ ← acceptAll ["IF", "EXISTS"]
  let targets ← list do return some (← targetTable R)
  if !(← acceptAll ["RESTART", "IDENTITY"]) then
    let _ ← acceptAll ["CONTINUE", "IDENTITY"]
  let _ ← acceptOne ["CASCADE", "RESTRICT"]
  return some (← node .truncate targets)

/-! ## Notes and rights -/

/-- COMMENT, after its keyword. -/
def commentBody (R : Rules) : Rule .statement Node := do
  let _ ← acceptAll ["IF", "EXISTS"]
  let _ ← accept "ON"
  let _ ← accept "MATERIALIZED"
  match ← acceptOne creatables with
  | none => keptAsText "COMMENT"
  | some kind =>
    let target ← targetTable R
    if ["FUNCTION", "PROCEDURE"].contains kind.key then skipGroup
    let _ ← accept "IS"
    match ← peek with
    | some t => if t.kind == .string then advance else reject
    | none => reject
    let isTable := ["FUNCTION", "PROCEDURE", "TABLE"].contains kind.key
    return .of (.statement "COMMENT") (if isTable then [target] else [])

/-- Moves over rights up to ON, with the columns they are for. -/
def skipRights : Nat → Rule .statement Unit
  | 0 => return
  | n + 1 => do
    match ← peekKey with
    | "ON" | "" => return
    | "(" => do
      skipGroup
      skipRights n
    | _ => do
      advance
      skipRights n

/-- GRANT or REVOKE, after its keyword: rights on a thing, and after `word` who has them. -/
def rightsBody (R : Rules) (keyword word : String) : Rule .statement Node := wholeOr keyword do
  skipRights ((← left) + 1)
  let _ ← accept "ON"
  let _ ← acceptOne creatables
  match ← attempt do return some (← targetTable R) with
  | none => return none
  | some target =>
    if ← accept word then
      let _ ← list do
        let _ ← acceptOne ["ROLE", "GROUP"]
        name false R.grammar.isName
      if keyword == "GRANT" then
        let _ ← acceptAll ["WITH", "GRANT", "OPTION"]
      else
        let _ ← acceptOne ["CASCADE", "RESTRICT"]
      return some (.of (.statement keyword) [target])
    else return none

end SemanticLayer.Sql.Parser
