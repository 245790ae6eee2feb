import SemanticLayer.Sql.Parser.Operator

/-!
# Tables

What may stand in a FROM clause: tables, table functions, rows of values, queries in parentheses,
and their joins.
-/

namespace SemanticLayer.Sql.Parser

/-! ## Rows -/

def row (R : Rules) : Rule .clause (Option Node) := do
  if (← peekKey) == "(" then
    let items ← wrapped (list R.expression)
    return some (← node .tuple items)
  else
    match ← R.expression with
    | some n => return some (← node .tuple [n])
    | none => return none

/-- VALUES with its rows and their alias, if the keyword is there. -/
def plainValues (R : Rules) : Rule .clause (Option (List Node × Option TableAlias)) := do
  if ← accept "VALUES" then
    let rows ← list (row R)
    return some (rows, ← tableAlias R R.grammar.isTableAlias)
  else return none

/-- VALUES with its rows and its alias, possibly in parentheses. -/
def values (R : Rules) : Rule .clause (Option Node) := do
  let inParens := (← peekKey) == "(" && (← peekSecondKey) == "VALUES"
  match ← if inParens then wrapped (plainValues R) else plainValues R with
  | none => return none
  | some (rows, inner) =>
    let label ← match inner with
      | some a => pure (some a)
      | none => tableAlias R R.grammar.isTableAlias
    return some (← node (.values label) rows)

/-- The alias of a table with a further column. -/
def addColumn (label : TableAlias) (column : Ident) : TableAlias :=
  { label with columns := label.columns ++ [column] }

/-- WITH OFFSET after UNNEST: the name of the column of positions. -/
def positionColumn (R : Rules) : Rule .clause (Option Ident) := do
  if ← acceptAll ["WITH", "OFFSET"] then
    let _ ← accept "AS"
    let named ← name false R.grammar.isTableAlias
    return some ((named.bind identOf).getD ⟨"offset", false⟩)
  else return none

/-- UNNEST with its alias. Positions that have a name are a further column of the alias. -/
def unnest (R : Rules) : Rule .clause (Option Node) := do
  if (← peekKey) == "UNNEST" && (← peekSecondKey) == "(" then
    advance
    let items ← wrapped (list R.equality)
    let ordinality ← acceptAll ["WITH", "ORDINALITY"]
    let label ← tableAlias R R.grammar.isTableAlias
    let position ← if ordinality then pure none else positionColumn R
    let label := match position with
      | some column => label.map (addColumn · column)
      | none => label
    return some (← node (.unnest label (ordinality || position.isSome)) items)
  else return none

/-! ## LATERAL -/

/-- The node without its alias, and the alias. -/
def takeAlias : Node → Node × Option TableAlias
  | .mk (.subquery a) c ps => (.mk (.subquery none) c ps, a)
  | .mk (.unnest a o) c ps => (.mk (.unnest none o) c ps, a)
  | n => (n, none)

/-- A table function or a name after LATERAL. -/
def lateralSource (R : Rules) : Rule .clause Node := do
  match ← unnest R with
  | some n => return n
  | none =>
    match ← call R {} with
    | some n => return n
    | none => need (← name false R.grammar.isName)

/-- The join that an APPLY at the cursor stands for. -/
def apply : Rule .clause (Option String) := do
  if ← acceptAll ["CROSS", "APPLY"] then return some "INNER JOIN"
  else if ← acceptAll ["OUTER", "APPLY"] then return some "LEFT JOIN"
  else return none

/-- APPLY or LATERAL with a query or a table function. The alias of the query becomes its own. -/
def lateral (R : Rules) : Rule .clause (Option Node) := do
  let applied ← apply
  if applied.isNone then
    if !(← accept "LATERAL") then return none
  let query ← R.query { table := true }
  let view ← if applied.isSome then pure false else accept "VIEW"
  let outer ← accept "OUTER"
  let source ← match query with
    | some q => pure q
    | none => lateralSource R
  if view then
    let named ← name false R.grammar.isName
    let columns ← do if ← accept "AS" then list (name true R.grammar.isName) else pure []
    let label : TableAlias := { name := named.bind identOf, columns := identsOf columns }
    return some (← node (.lateralView outer label) [source])
  else
    let (bare, own) := takeAlias source
    match own with
    | some a => return some (← node (.lateral applied (some a)) [bare])
    | none =>
      let label ← tableAlias R R.grammar.isTableAlias
      return some (← node (.lateral applied label) [source])

/-! ## Tables by name -/

/-- One part of a table's name: a call, a name or a value that is filled in later. -/
def tablePart (R : Rules) (calls : Bool) : Rule .clause (Option Node) := do
  match ← if calls then call R { bare := false } else pure none with
  | some n => return some n
  | none =>
    match ← name false R.grammar.isName with
    | some n => return some n
    | none =>
      match ← stringName with
      | some n => return some n
      | none => placeholder R.grammar

/-- The parts of a table's name after the first one. -/
def tableParts (R : Rules) (calls : Bool) (first : Node) : Rule .clause (List Node) :=
  chain (fun parts => do
    if ← accept "." then
      return some (parts ++ [← need (← tablePart R calls)])
    else return none) [first]

/-- A table by its name, or a table function, without an alias. The comments of the name go to the
table. -/
def namedTable (R : Rules) (calls : Bool) : Rule .clause Node := do
  let parts ← tableParts R calls (← need (← tablePart R calls))
  let path := identsOf parts
  match parts.getLast? with
  | none => reject
  | some last =>
    match last.head with
    | .name _ => nodeWith last.comments (.table path none) []
    | _ => nodeWith last.comments (.tableCall path none false) [last.setComments []]

def setAlias (label : Option TableAlias) : Node → Node
  | .mk (.table path _) c ps => .mk (.table path label) c ps
  | .mk (.tableCall q _ o) c ps => .mk (.tableCall q label o) c ps
  | n => n

/-- WITH ORDINALITY after a table function, with its alias. -/
def withOrdinality (R : Rules) (n : Node) : Rule .clause Node := do
  if ← acceptAll ["WITH", "ORDINALITY"] then
    let label ← tableAlias R R.grammar.isTableAlias
    match n with
    | .mk (.tableCall q _ _) c ps => return .mk (.tableCall q label true) c ps
    | n => return setAlias label n
  else return n

/-- How a sample is taken, if it says so. -/
def sampleMethod : Rule .clause (Option String) := do
  match ← peek with
  | some t =>
    if t.isWord then
      advance
      return some (Text.upper t.text)
    else return none
  | none => return none

/-- A number in parentheses. -/
def seed (R : Rules) : Rule .clause Node := do wrapped (do need (← literal R))

def sampleUnit (g : Grammar) : Rule .clause SampleUnit := do
  if (← acceptOne ["PERCENT", "%"]).isSome then return .percent
  else if ← accept "ROWS" then return .rows
  else return if g.samplesPercent then .percent else .rows

def sampleSize (R : Rules) : Rule .clause (Option Node × SampleUnit) := do
  let size ← do
    if (← peek).any fun t => t.kind == .number then factor R
    else match ← literal R with
      | some n => pure (some n)
      | none => placeholder R.grammar
  return (size, ← sampleUnit R.grammar)

/-- A sample of rows. After a query its keyword is USING SAMPLE. -/
def sample (R : Rules) (afterQuery : Bool) : Rule .clause (Option Node) := do
  let found ← do
    if ← accept "TABLESAMPLE" then pure true
    else if !afterQuery then pure false
    else if ← acceptAll ["USING", "SAMPLE"] then pure true
    else acceptAll ["USING", "TABLESAMPLE"]
  if !found then return none
  let method ← sampleMethod
  let (size, unit) ← if (← peekKey) == "(" then wrapped (sampleSize R) else sampleSize R
  let (method, seeds) ← do
    if (← peekKey) == "(" then
      wrapped do
        let method ← sampleMethod
        let seeds ← if ← accept "," then pure (← literal R).toList else pure []
        pure (method, seeds)
    else if (← acceptOne ["SEED", "REPEATABLE"]).isSome then pure (method, [← seed R])
    else pure (method, [])
  let usual := R.grammar.sampleMethods.map fun m => if unit == .rows then m.1 else m.2
  return some (← node (.sample (method.or usual) unit) ([← need size] ++ seeds))

/-! ## Pivots and hints -/

/-- One value of a pivoted column, with its alias. -/
def pivotValue (R : Rules) : Rule .clause (Option Node) := do
  match ← inItem R with
  | none => return none
  | some value =>
    let _ ← accept "AS"
    match ← R.bitwise with
    | none => return some value
    | some called =>
      match called.head with
      | .column [id] => return some (← nodeWith called.comments (.aliased id) [value])
      | .string s => return some (← nodeWith called.comments (.aliased (.ofText s)) [value])
      | _ => reject

/-- A pivoted column and its values. -/
def pivotField (R : Rules) : Rule .clause (Option Node) := do
  match ← column R with
  | none => return none
  | some this =>
    expect "IN"
    if (← peekKey) == "(" then
      let values ← wrapped (list (pivotValue R))
      return some (← node .pivotField [this, .of .tuple values])
    else return some (← node .pivotField [this, ← need (← name false R.grammar.isName)])

/-- PIVOT or UNPIVOT after a table. Without a parenthesis after them the words are names. -/
def pivot (R : Rules) : Rule .clause (Option Node) := orBack do
  match ← acceptOne ["PIVOT", "UNPIVOT"] with
  | none => return none
  | some t =>
    let back := t.key == "UNPIVOT"
    let nulls ← do
      if !back then pure none
      else if ← acceptAll ["INCLUDE", "NULLS"] then pure (some true)
      else if ← acceptAll [R.grammar.keyword "EXCLUDE", "NULLS"] then pure (some false)
      else pure none
    if (← peekKey) != "(" then return none
    let (values, fields) ← wrapped do
      let values ← list (if back then column R else do aliased R false (← call R {}))
      if values.isEmpty then reject
      expect "FOR"
      return (values, ← many (attempt (pivotField R)))
    let more := ["PIVOT", "UNPIVOT"].contains (← peekKey)
    let label ← if more then pure none else tableAlias R R.grammar.isTableAlias
    return some (← node (.pivot back nulls label) (values ++ fields))

/-- The pivots after a table that has none yet. -/
def pivoted (R : Rules) (n : Node) : Rule .clause Node := do
  if (n.find? Head.isPivot).isSome then return n
  else return n.setParts (n.parts ++ (← many (pivot R)))

/-- What a hint after a table names. -/
def hintItem (R : Rules) : Rule .clause (Option Node) := do
  match ← call R {} with
  | some n => return some n
  | none =>
    match ← peek with
    | some t =>
      if isAnyName t then
        advance
        return some (← node (.keyword t.text) [])
      else return none
    | none => return none

/-- A hint about the indexes of a table. -/
def indexHint (R : Rules) : Rule .clause (Option Node) := do
  let own := ["FORCE", "IGNORE"].filter fun k => !R.grammar.isName k
  match ← acceptOne ("USE" :: own) with
  | none => return none
  | some t =>
    let _ ← acceptOne ["INDEX", "KEY"]
    let use ← do
      if ← accept "FOR" then
        match ← peek with
        | some u =>
          advance
          pure (" FOR " ++ Text.upper u.text)
        | none => reject
      else pure ""
    let names ← wrapped (list (name true R.grammar.isName))
    return some (← node (.tableHint (t.key ++ " INDEX" ++ use)) names)

def tableHints (R : Rules) : Rule .clause (List Node) := do
  if (← peekKey) == "WITH" && (← peekSecondKey) == "(" then
    advance
    let items ← wrapped (list (hintItem R))
    return [← node (.tableHint "WITH") items]
  else many (indexHint R)

/-- The moment at which a table is read, in parentheses. -/
def momentValue (R : Rules) : Rule .clause (Option (Token × Node)) := do
  let kind ← acceptOne ["OFFSET", "STATEMENT", "STREAM", "TIMESTAMP", "VERSION"]
  match kind, ← accept "=>" with
  | some k, true => return some (k, ← need (← R.bitwise))
  | _, _ => return none

def tableMoment (R : Rules) : Rule .clause (List Node) := do
  let found ← orBack do
    match ← acceptOne ["AT", "BEFORE", "END"] with
    | none => return none
    | some t =>
      if (← peekKey) != "(" then return none
      match ← opened .round (momentValue R) with
      | (some (k, value), true) =>
        return some (← takePending (.of (.tableMoment t.key k.key) [value]))
      | (some _, false) => reject
      | (none, _) => return none
  return found.toList

def tableVersion (R : Rules) : Rule .clause (List Node) := do
  match ← acceptOne ["FOR TIMESTAMP", "FOR VERSION"] with
  | none => return []
  | some t =>
    let words (s : String) : Head := .tableVersion (t.key ++ " " ++ s)
    match ← acceptOne ["FROM", "BETWEEN"] with
    | some u =>
      let start ← need (← R.bitwise)
      let _ ← acceptOne ["TO", "AND"]
      let stop ← need (← R.bitwise)
      return [← node (words u.key) [.of .tuple [start, stop]]]
    | none =>
      if ← acceptAll ["CONTAINED", "IN"] then
        return [← node (words "CONTAINED IN") [.of .tuple (← wrapped (list R.bitwise))]]
      else if ← accept "ALL" then return [← node (words "ALL") []]
      else
        let _ ← acceptAll ["AS", "OF"]
        return [← node (words "AS OF") [← need (← R.unary)]]

def tablePartition (R : Rules) : Rule .clause (List Node) := do
  if ← acceptIf R.grammar.partitions "PARTITION" then
    return [← node .tablePartition (← wrapped (list R.assignment))]
  else return []

/-! ## Anything in a FROM clause -/

/-- A table by name, with its alias, its hints, its pivots and its sample. -/
def aliasedTable (R : Rules) (allowed : String → Bool) : Rule .clause Node := do
  let only ← do if R.grammar.isName "ONLY" then pure false else accept "ONLY"
  let named ← namedTable R true
  let pivots ← pivoted R (named.setParts (named.parts ++ (← tableMoment R)))
  let whole ← chain (fun n => bracket R (some n)) pivots
  let scope := if only then [Node.of .tableOnly []] else []
  let _ ← accept "*"
  let states := (← tablePartition R) ++ (← tableVersion R)
  let early ← if R.grammar.samplesFirst then sample R false else pure none
  let bare := whole.setParts (whole.parts ++ scope ++ states ++ early.toList)
  let named ← do
    match ← tableAlias R allowed with
    | some a => pure (setAlias (some a) bare)
    | none => pure bare
  let hints ← tableHints R
  let whole ← pivoted R (named.setParts (named.parts ++ hints))
  let late ← if R.grammar.samplesFirst then pure none else sample R false
  return whole.setParts (whole.parts ++ late.toList)

/-- What stands in a FROM clause before its joins, without an alias in front. -/
def plainTable (R : Rules) : Rule .clause (Option Node) := do
  match ← lateral R with
  | some n => return some n
  | none =>
    match ← unnest R with
    | some n => return some n
    | none =>
      match ← values R with
      | some n => return some n
      | none =>
        match ← R.query { table := true } with
        | some n => return some (← pivoted R n)
        | none => return some (← withOrdinality R (← aliasedTable R R.grammar.isTableAlias))

/-- What stands in a FROM clause before its joins. -/
def table (R : Rules) : Rule .clause (Option Node) := do
  let label ← do
    if R.grammar.labels && (← peekSecondKey) == ":" then
      let label ← tableAlias R R.grammar.isTableAlias
      let _ ← accept ":"
      pure label
    else pure none
  let found ← plainTable R
  return if label.isSome then found.map (setAlias label) else found

/-! ## Joins -/

/-- A join after a comma. A comma without a table after it says nothing. -/
def commaJoin (R : Rules) : Rule .clause (Option Node) := do
  match ← attempt R.table with
  | some t => return some (← node (.join "" "" "") [t])
  | none => return none

/-- ON or USING after a joined table. -/
def joinCondition (R : Rules) : Rule .clause (Option Node) := do
  if ← accept "ON" then
    return some (.of .onClause [← need (← R.assignment)])
  else if ← accept "USING" then
    let names ← wrapped (list do
      match ← column R with
      | some (.mk (.column path) c _) =>
        return some (.mk (.name (path.getLast?.getD ⟨"", false⟩)) c [])
      | other => return other)
    return some (.of .usingClause names)
  else return none

/-- Whether a join of this kind may wait for its condition after the joins that follow it. -/
def mayNest (method kind : String) (n : Node) : Bool :=
  let isUnnest := match n.head with
    | .unnest .. => true
    | _ => false
  method.isEmpty && kind != "CROSS" && !isUnnest

/-- The words of a join: its method, its side and its kind. -/
def joinWords : Rule .clause (Option (Option Token × Option Token × Option Token)) := orBack do
  let method ← acceptOne ["NATURAL", "ASOF", "POSITIONAL"]
  let side ← acceptOne ["LEFT", "RIGHT", "FULL"]
  let kind ← acceptOne ["ANTI", "CROSS", "INNER", "OUTER", "SEMI", "STRAIGHT_JOIN"]
  let straight := (kind.map Token.key) == some "STRAIGHT_JOIN"
  let joins ← if straight then pure true else accept "JOIN"
  return if joins then some (method, side, kind) else none

/-- A join. `inner` reads the joins that may stand before the condition of this one. -/
def joinWith (R : Rules) (inner : Rule .clause (List Node)) : Rule .clause (Option Node) := do
  if ← accept "," then commaJoin R
  else match ← joinWords with
    | none =>
      let applies := ["CROSS", "OUTER"].contains (← peekKey) && (← peekSecondKey) == "APPLY"
      if applies then return some (← node (.join "" "" "") [← need (← R.table)])
      else return none
    | some (method, side, kind) =>
      let tokens := method.toList ++ side.toList ++ kind.toList
      let comments := (← pending) ++ tokens.flatMap Token.comments
      let key (t : Option Token) : String := (t.map Token.key).getD ""
      let joined ← need (← R.table)
      let (joined, condition) ← do
        match ← joinCondition R with
        | some c => pure (joined, some c)
        | none =>
          let found ← orBack do
            if !mayNest (key method) (key kind) joined then return none
            let nested ← inner
            if nested.isEmpty then return none
            return (← joinCondition R).map fun c => (nested, c)
          match found with
          | some (nested, c) => pure (joined.setParts (joined.parts ++ nested), some c)
          | none => pure (joined, none)
      return some (← nodeWith comments (.join (key method) (key side) (key kind))
        (joined :: condition.toList))

/-- Joins that may nest `n` deep before their conditions. -/
def joinsWithin (R : Rules) : Nat → Rule .clause (List Node)
  | 0 => return []
  | n + 1 => many (joinWith R (joinsWithin R n))

def joins (R : Rules) : Rule .clause (List Node) := do joinsWithin R ((← left) + 1)

/-- FROM with its table; its joins belong to the table if `joined`. -/
def fromTable (R : Rules) (joined : Bool) : Rule .clause Node := do
  let comments ← pending
  let source ← need (← R.table)
  let source ← do
    if joined then pure (source.setParts (source.parts ++ (← joins R))) else pure source
  nodeWith comments .fromClause [source]

def fromClause (R : Rules) (joined : Bool) : Rule .clause (Option Node) := do
  if ← accept "FROM" then return some (← fromTable R joined) else return none

end SemanticLayer.Sql.Parser
