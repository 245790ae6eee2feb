import SemanticLayer.Sql.Lowering.Array

/-!
# Fitting queries to a target

Clauses that a target lacks, spelled out by clauses that it has: QUALIFY and DISTINCT ON by a query
around the query, joins that only test for a match by a condition, a full join by a union.
-/

namespace SemanticLayer.Sql.Lowering

/-! ## Names -/

/-- A column by an unquoted name. -/
def columnNamed (s : String) : Node := .of (.column [⟨s, false⟩]) []

/-- The name under which an item of a select list is known outside: its alias, or the name of a
column; a literal is known by its text. -/
def outerName? (n : Node) : Option String :=
  match n.head with
  | .aliased id => some id.name
  | .column path => path.getLast?.map Ident.name
  | .star _ => some "*"
  | .string s | .number s => some s
  | _ => none

/-- The items of the select list of a query. -/
def items (parts : List Node) : List Node :=
  (parts.filter fun p => p.head.isProjections).flatMap Node.parts

/-- The parts of a query with another select list. -/
def setItems (new parts : List Node) : List Node :=
  parts.map fun p => if p.head.isProjections then p.setParts new else p

/-- The first of `base_2`, `base_3`, … from `base_i` on that is not taken; `n` names are tried. -/
def nextName (taken : List String) (base : String) : Nat → Nat → String
  | 0, i => base ++ "_" ++ toString i
  | n + 1, i =>
    let name := base ++ "_" ++ toString i
    if taken.contains name then nextName taken base n (i + 1) else name

/-- The first of `base`, `base_2`, `base_3`, … that is not taken. -/
def freshName (taken : List String) (base : String) : String :=
  if taken.contains base then nextName taken base taken.length 2 else base

/-- A query around a query, which is called `_t` there. -/
def aroundQuery (list : List Node) (inner condition : Node) : Node :=
  .of .select [.of .projections list,
    .of .fromClause [.of (.subquery (some { name := some ⟨"_t", false⟩ })) [inner]],
    .of .whereClause [condition]]

/-! ## Groups by alias -/

/-- The alias of a column of a select list. -/
def aliasName? (n : Node) : Option String :=
  match n.head with
  | .aliased id => some id.name
  | _ => none

/-- The positions of the aliases of a select list, the last one first. -/
def aliasPositions (items : List Node) : List (String × Nat) :=
  (items.zipIdx.filterMap fun (n, i) => (aliasName? n).map fun a => (a, i + 1)).reverse

/-- An item of GROUP BY with an alias replaced by its position. -/
def groupItemByPosition (positions : List (String × Nat)) (n : Node) : Node :=
  match n.head with
  | .column [id] =>
    match positions.lookup id.name with
    | some i => .num (toString i)
    | none => n
  | _ => n

/-- The parts of a query with the aliases in its GROUP BY replaced by positions. -/
def groupByPosition (parts : List Node) : List Node :=
  parts.map fun p =>
    if p.head.isGroup then
      p.setParts (p.parts.map (groupItemByPosition (aliasPositions (items parts))))
    else p

/-! ## Limits, locks and samples -/

/-- A limit in the target's syntax. -/
def limitPart (t : Target) (n : Node) : Node :=
  let n := match n.head with
    | .limit _ | .offset =>
      if t.literalLimits then n.setParts (n.parts.map Arithmetic.folded) else n
    | _ => n
  match n.head, t.limits with
  | .fetch .., .limit => .of (.limit {}) n.parts
  | .limit _, .fetch => .of (.fetch "FIRST" { rows := true }) (n.parts.take 1)
  | _, _ => n

/-- A sample taken in a way that the target has for its size. -/
def samplePart (t : Target) (n : Node) : Node :=
  match n with
  | .mk (.sample (some method) .rows) c ps =>
    let own := (t.samples.bind SampleSyntax.rowMethod).getD method
    .mk (.sample (some own) .rows) c ps
  | n => n

/-- Whether a target has a clause at all. -/
def hasClause (t : Target) (h : Head) : Bool :=
  (t.hasLocks || !h.isLock) && (t.hasHints || !h.isHint) && (t.samples.isSome || !h.isSample) &&
    (t.hasPivots || !h.isPivot) && (t.tableHints || !h.isTableHint)

/-- The parts of a query in the target's syntax. -/
def queryParts (t : Target) (parts : List Node) : List Node :=
  let parts := if t.groupsByAlias then parts else groupByPosition parts
  (parts.filter fun p => hasClause t p.head).map fun p => samplePart t (limitPart t p)

/-! ## Conditions -/

/-- Two conditions that must both hold; a chain of conditions stands in parentheses. -/
def both (a b : Node) : Node :=
  let guard (n : Node) : Node := if n.head.isConnector then .of .paren [n] else n
  .of (.binary .and) [guard a, guard b]

/-- The parts of a query with a further condition. -/
def addCondition (condition : Node) (parts : List Node) : List Node :=
  if parts.any fun p => p.head.isWhere then
    parts.map fun p => match p with
      | .mk .whereClause c [old] => .mk .whereClause c [both old condition]
      | p => p
  else parts ++ [.of .whereClause [condition]]

/-- The query that asks for a row with a match. -/
def matchQuery (source : Node) (condition : Node) : Node :=
  .of .exists [.of .select [.of .projections [.num "1"], source, .of .whereClause [condition]]]

/-! ## Joins that only test for a match -/

/-- The condition that stands for a join which only tests for a match. -/
def matchCondition? (join : Node) : Option Node :=
  match join with
  | .mk (.join _ _ kind) _ [table, .mk .onClause _ [condition]] =>
    let found := matchQuery (.of .fromClause [table]) condition
    if kind == "SEMI" then some found
    else if kind == "ANTI" then some (.of (.unary .not) [found])
    else none
  | _ => none

/-- The joins without the ones that only test for a match, and the conditions for those. The join
after one that was taken out is kept as it is. -/
def takeMatches : List Node → List Node × List Node
  | [] => ([], [])
  | j :: js =>
    match matchCondition? j with
    | none =>
      let (kept, conditions) := takeMatches js
      (j :: kept, conditions)
    | some condition =>
      match js with
      | [] => ([], [condition])
      | k :: rest =>
        let (kept, conditions) := takeMatches rest
        (k :: kept, condition :: conditions)

/-- The parts of a query with conditions in place of the joins that only test for a match. -/
def semiJoinsAsConditions (parts : List Node) : List Node :=
  let (kept, conditions) := takeMatches (parts.filter fun p => p.head.isJoin)
  if conditions.isEmpty then parts
  else
    let front := parts.takeWhile fun p => !p.head.isJoin
    let back := (parts.drop front.length).filter fun p => !p.head.isJoin
    conditions.foldl (fun ps c => addCondition c ps) (front ++ kept ++ back)

/-- A join that only tests for a match, without its side. -/
def withoutSide : Node → Node
  | .mk (.join m side kind) c ps =>
    .mk (.join m (if kind == "SEMI" || kind == "ANTI" then "" else side) kind) c ps
  | n => n

/-! ## Full joins -/

/-- The name by which the columns of a table are qualified. -/
def tableName? (n : Node) : Option Ident :=
  match n.head with
  | .table path label => (label.bind TableAlias.name).or path.getLast?
  | .subquery label => label.bind TableAlias.name
  | _ => none

/-- The condition of a join; for USING, that the columns of the two tables are equal. -/
def joinCondition (left right : Option Ident) (join : Node) : Option Node :=
  match join.parts.drop 1 with
  | [.mk .onClause _ [c]] => some c
  | [.mk .usingClause _ names] =>
    let sides := names.filterMap fun n => match n.head with
      | .name id =>
        let side (table : Option Ident) : Node := .of (.column (table.toList ++ [id])) []
        some (Node.of (.binary .equal) [side left, side right])
      | _ => none
    match sides with
    | [] => none
    | s :: ss => some (ss.foldl (fun a b => .of (.binary .and) [a, b]) s)
  | _ => none

/-- Whether a join keeps the unmatched rows of both sides. -/
def isFullJoin (n : Node) : Bool :=
  match n.head with
  | .join _ "FULL" _ => true
  | _ => false

/-- A full join that keeps the unmatched rows of one side only. -/
def oneSided (side : String) (n : Node) : Node :=
  match n with
  | .mk (.join m "FULL" k) c ps => .mk (.join m side k) c ps
  | n => n

/-- The full join of a query with only one. -/
def soleFullJoin? (parts : List Node) : Option Node :=
  match parts.filter isFullJoin with
  | [j] => some j
  | _ => none

/-- A query with one full join, as the union of the query with a left join and the unmatched rows of
the query with a right join. -/
def splitFullJoin (comments : List String) (parts : List Node) : Option Node := do
  let full ← soleFullJoin? parts
  let source ← parts.find? fun p => p.head.isFrom
  let condition ← joinCondition (source.first?.bind tableName?) (full.first?.bind tableName?) full
  let left := (parts.filter fun p => !p.head.isLimit && !p.head.isOrder).map (oneSided "LEFT")
  let unmatched := Node.of (.unary .not) [matchQuery source condition]
  let right := addCondition unmatched
    ((parts.filter fun p => !p.head.isWith).map (oneSided "RIGHT"))
  return .of (.setOperation "UNION" false false) [.mk .select comments left, .of .select right]

/-! ## DISTINCT ON -/

/-- Whether an item of a select list is a star. -/
def isStar (n : Node) : Bool :=
  match n.head with
  | .star _ => true
  | _ => false

def distinctKeys? (n : Node) : Option (List Node) :=
  match n.parts with
  | [.mk .tuple _ keys] => some keys
  | _ => none

/-- The items of a select list with aliases of their own, and the names outside. -/
def aliasItems (taken : List String) : List Node → List (Node × Ident)
  | [] => []
  | n :: ns =>
    match n.head with
    | .aliased id => (n, id) :: aliasItems (id.name :: taken) ns
    | .column path =>
      let last := path.getLast?.getD ⟨"_col", false⟩
      let id : Ident := ⟨freshName taken last.name, last.quoted⟩
      (.of (.aliased id) [n], id) :: aliasItems (id.name :: taken) ns
    | _ =>
      let id : Ident := ⟨freshName taken ((outerName? n).getD "_col"), false⟩
      (.of (.aliased id) [n], id) :: aliasItems (id.name :: taken) ns

/-- The number of a row among the rows with equal values. -/
def rowNumber (partition : List Node) (order : Node) : Node :=
  .of (.window none) [.known "ROWNUMBER" "ROW_NUMBER" [], .of .partitionBy partition, order]

/-- The order of a query, or the order by some keys. -/
def orderOr (keys parts : List Node) : Node :=
  (parts.find? fun p => p.head.isOrder).getD (.of .orderBy keys)

/-- A select list whose items have names, and the list of the query around it. -/
def namedItems (label : String) (list : List Node) : List Node × List Node :=
  if list.any isStar then (list, [.of (.star []) []])
  else
    let named := aliasItems [label] list
    (named.map Prod.fst, named.map fun p => .of (.column [p.2]) [])

/-- A query with DISTINCT ON, as the first rows of a query with numbered rows. -/
def numberDistinct (comments : List String) (parts : List Node) : Option Node := do
  let distinct ← parts.find? fun p => p.head.isDistinct
  let keys ← distinctKeys? distinct
  let list := items parts
  let label := freshName (list.filterMap outerName?) "_row_number"
  let number := Node.of (.aliased ⟨label, false⟩) [rowNumber keys (orderOr keys parts)]
  let rest := parts.filter fun p => !p.head.isDistinct && !p.head.isOrder
  let (inner, outer) := namedItems label list
  return aroundQuery outer (.mk .select comments (setItems (inner ++ [number]) rest))
    (.of (.binary .equal) [columnNamed label, .num "1"])

/-! ## QUALIFY -/

/-- The lists of two lists of lists, joined one by one. -/
def zipLevels (a b : List (List Node)) : List (List Node) :=
  match a, b with
  | [], b => b
  | a, [] => a
  | x :: xs, y :: ys => (x ++ y) :: zipLevels xs ys

mutual

/-- The nodes of a tree by their depth. The keys of a partition are as deep as their list. -/
def levels : Node → List (List Node)
  | .mk h c ps => if h == .partitionBy then levelsAll ps else [.mk h c ps] :: levelsAll ps

/-- The nodes of some trees by their depth. -/
def levelsAll : List Node → List (List Node)
  | [] => []
  | n :: ns => zipLevels (levels n) (levelsAll ns)

end

mutual

/-- A tree with columns replaced by the expressions they are aliases of. -/
def resolveAliases (aliases : List (String × Node)) : Node → Node
  | .mk (.column path) c ps =>
    match path.getLast?.bind fun id => aliases.lookup id.name with
    | some n => n
    | none => .mk (.column path) c ps
  | .mk h c ps => .mk h c (resolveAliasesAll aliases ps)

/-- Trees with columns replaced by the expressions they are aliases of. -/
def resolveAliasesAll (aliases : List (String × Node)) : List Node → List Node
  | [] => []
  | n :: ns => resolveAliases aliases n :: resolveAliasesAll aliases ns

end

mutual

/-- A condition with its windows replaced by columns, and the windows with their names, from the
left to the right. -/
def nameWindows (names : List String) : Node → Node × List String
  | .mk (.window base) c ps =>
    match names with
    | name :: rest => (columnNamed name, rest)
    | [] => (.mk (.window base) c ps, [])
  | .mk h c ps =>
    let (qs, rest) := nameWindowsAll names ps
    (.mk h c qs, rest)

/-- Conditions with their windows replaced by columns. -/
def nameWindowsAll (names : List String) : List Node → List Node × List String
  | [] => ([], names)
  | n :: ns =>
    let (m, rest) := nameWindows names n
    let (ms, rest) := nameWindowsAll rest ns
    (m :: ms, rest)

end

def isWindow (n : Node) : Bool :=
  match n.head with
  | .window _ => true
  | _ => false

/-- The column that a node is, by its last name. -/
def columnName? (n : Node) : Option String :=
  match n.head with
  | .column path => path.getLast?.map Ident.name
  | _ => none

/-- A select list with what a condition on windows needs besides: the windows under names of their
own and, unless the list has a star, the columns it lacks. The names of the windows are given in the
order in which they are met. -/
def extendItems (aliases : List (String × Node)) (star : Bool) :
    List Node → List Node → List Node × List String
  | list, [] => (list, [])
  | list, n :: ns =>
    let names := list.filterMap outerName?
    if isWindow n then
      let name := freshName names "_w"
      let item := Node.of (.aliased ⟨name, false⟩) [resolveAliases aliases n]
      let (list, more) := extendItems aliases star (list ++ [item]) ns
      (list, name :: more)
    else match columnName? n with
      | some name =>
        if star || names.contains name then extendItems aliases star list ns
        else extendItems aliases star (list ++ [n]) ns
      | none => extendItems aliases star list ns

/-- The items of a select list, those without a name under fresh ones. -/
def nameItems (taken : List String) : List Node → List Node
  | [] => []
  | n :: ns =>
    match outerName? n with
    | some _ => n :: nameItems taken ns
    | none =>
      let name := freshName taken "_c"
      .of (.aliased ⟨name, false⟩) [n] :: nameItems (name :: taken) ns

/-- An item of a select list as a column of the query around it. -/
def outerItem (n : Node) : Node :=
  match n.head with
  | .aliased id => .of (.column [id]) []
  | .column path => .of (.column path.getLast?.toList) []
  | .star _ => .of (.star []) []
  | h => .of h []

/-- An alias of a select list and what it stands for. -/
def aliasOf? : Node → Option (String × Node)
  | .mk (.aliased id) _ [this] => some (id.name, this)
  | _ => none

/-- A query with QUALIFY, as a query with a condition on the windows of the query inside it. -/
def qualifyOutside (comments : List String) (parts : List Node) : Option Node := do
  let clause ← parts.find? fun p => p.head.isQualify
  let condition ← clause.first?
  let list := nameItems ((items parts).filterMap outerName?) (items parts)
  let aliases := list.filterMap aliasOf?
  let candidates := (levels condition).flatten.filter fun n => isWindow n || (columnName? n).isSome
  let (inner, names) := extendItems aliases (list.any isStar) list candidates
  let rest := parts.filter fun p => !p.head.isQualify
  return aroundQuery (list.map outerItem) (.mk .select comments (setItems inner rest))
    (nameWindows names condition).1

/-! ## Pivots -/

mutual

/-- A tree with its columns named by their last names alone. -/
def unqualified : Node → Node
  | .mk (.column path) c ps => .mk (.column path.getLast?.toList) c ps
  | .mk h c ps => .mk h c (unqualifiedAll ps)

/-- Trees with their columns named by their last names alone. -/
def unqualifiedAll : List Node → List Node
  | [] => []
  | n :: ns => unqualified n :: unqualifiedAll ns

end

/-- A view of the items of an array, as a join with the items. -/
def unnestView (label : TableAlias) (n : Node) : Option Node :=
  match n with
  | .mk (.call (.known kind _)) _ (this :: _) =>
    let withPosition := kind == "POSEXPLODE"
    if withPosition || kind == "EXPLODE" then
      some (.of (.join "" "" "CROSS") [.of (.unnest (some label) withPosition) [this]])
    else none
  | _ => none

/-! ## The query as a whole -/

/-- A query whose rows are taken by a table, as a table that is made from the query. -/
def tableOfQuery (taker query : Node) : Node := .of (.create "TABLE") (taker.parts ++ [query])

/-- A SELECT fitted to the target, apart from the table that takes its rows. -/
def fitBareSelect (t : Target) (c : List String) (ps : List Node) : Node :=
  let ps := match t.semiJoins with
    | .sided => ps
    | .unsided => ps.map withoutSide
    | .missing => semiJoinsAsConditions ps
  let plain := Node.mk .select c ps
  let numbered := if t.hasDistinctOn then none else numberDistinct c ps
  let qualified := if t.hasQualify then none else qualifyOutside c ps
  let split := if t.hasFullJoin then none else splitFullJoin c ps
  (numbered <|> qualified <|> split).getD plain

/-- A column of a select list as a field of a record. -/
def fieldOfItem : Node → Node
  | .mk (.aliased id) _ [value] => .of .recordField [.of (.name id) [], value]
  | n => n

/-- The parts of a query whose rows are lists of columns: a row that is a record becomes a column
that holds it. -/
def rowsOfColumns (t : Target) (ps : List Node) : List Node :=
  let rest := ps.filter fun p => !p.head.isRowKind
  if ps.any fun p => p.head == .rowKind "STRUCT" then
    setItems [fitRecord t [] ((items ps).map fieldOfItem)] rest
  else rest

def fitSelect (t : Target) (c : List String) (ps : List Node) : Node :=
  let ps := queryParts t ps
  let ps := if t.functions == .duckdb then
      rowsOfColumns t (setItems ((items ps).flatMap splitPositions) ps)
    else ps
  match if t.selectsInto then none else ps.find? fun p => p.head.isInto with
  | some taker => tableOfQuery taker (fitBareSelect t c (ps.filter fun p => !p.head.isInto))
  | none => fitBareSelect t c ps

/-- Rows of values as a union of queries, the first one with the names of the columns. -/
def valuesUnion (label : Option TableAlias) (rows : List Node) : Option Node :=
  let columns := (label.map TableAlias.columns).getD []
  let query (named : Bool) (row : Node) : Node :=
    let list := if named && !columns.isEmpty then
        (row.parts.zip columns).map fun (n, id) => Node.of (.aliased id) [n]
      else row.parts
    .of .select [.of .projections list]
  match rows with
  | [] => none
  | first :: rest =>
    let union := (rest.map (query false)).foldl
      (fun a b => Node.of (.setOperation "UNION" false false) [a, b]) (query true first)
    some (.of (.subquery (label.map fun a => { a with columns := [] })) [union])

end SemanticLayer.Sql.Lowering
