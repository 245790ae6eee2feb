import SemanticLayer.Sql.Lowering
import SemanticLayer.Sql.Printer.Query

/-!
# Writing SQL text

`Printer.print` writes a tree for a target: it fits the tree to the target and then writes every
node from the texts of its parts.
-/

namespace SemanticLayer.Sql

namespace Printer

/-- Where a node stands, as far as its text depends on it. -/
structure Context where
  /-- The nearest query or window around is a window with a frame. -/
  framed : Bool := false
  /-- The node is the table of a FROM clause. -/
  isSource : Bool := false
  deriving DecidableEq, Repr

namespace Context

/-- Where the parts of a node stand. -/
def inside (ctx : Context) (h : Head) (ps : List Node) : Context :=
  match h with
  | .select => { framed := false, isSource := false }
  | .window _ | .keep .. | .windowDefinition .. =>
    { framed := ps.any fun n => n.head.isFrame, isSource := false }
  | .fromClause | .tableCall .. => { framed := ctx.framed, isSource := true }
  | _ => { framed := ctx.framed, isSource := false }

end Context

/-- Whether the comments of a node stand in front of it. -/
def separates : Head → Bool
  | .select | .setOperation .. | .fromClause | .join .. | .whereClause | .groupBy _ | .having
  | .orderBy | .withClause _ | .insert .. | .update | .delete | .create _ | .drop _ | .describe
  | .command .. => true
  | _ => false

/-- The text of a node from the texts of its parts, apart from queries and operations, whose
comments have a place of their own. -/
def plainText (p : Printer) (ctx : Context) (h : Head) (parts : List Part) : Layout :=
  let ps := parts.map Part.node
  let rs := parts.map Part.rendered
  let args := rs.map p.full
  let first := args.headD .empty
  let second := (args.drop 1).headD .empty
  let firstNode := ps.headD (.of .null [])
  match h with
  | .name id => p.ident id
  | .column ids => p.path ids
  | .star ids =>
    let stars := if ids.isEmpty then .atom "*" else p.path ids ++ ".*"
    stars ++ .concat (args.map fun a => p.gap ++ a)
  | .starClause keyword =>
    .atom (if keyword == "EXCEPT" then p.target.starExcept else keyword) ++ " (" ++ p.flat rs ++ ")"
  | .string s => p.string s
  | .taggedString tag s => .atom (String.singleton tag.toUpper) ++ p.string s
  | .number s => .atom s
  | .null => "NULL"
  | .boolean b => if b then "TRUE" else "FALSE"
  | .placeholder name => p.placeholder name
  | .parameter => .atom p.target.parameterMark ++ first
  | .systemVariable scope => .atom ("@@" ++ (scope.map (· ++ ".")).getD "") ++ first
  | .keyword s => .atom s
  | .paren => "(" ++ p.tight ++ p.pad first ++ p.tight ++ ")"
  | .tuple => p.group rs
  | .unary op => unary op first
  | .between symmetric _ => p.between symmetric first second ((args.drop 2).headD .empty)
  | .inList => first ++ " IN " ++ p.group (rs.drop 1)
  | .inQuery => first ++ " IN " ++ second
  | .inField => first ++ " IN " ++ second
  | .caseOf =>
    let operand := (select (· == .caseOperand) parts).map fun q => p.full q.rendered
    let start : Layout := match operand with
      | a :: _ => "CASE " ++ a
      | [] => "CASE"
    p.caseText ([start] ++ parts.flatMap (fun q => q.rendered.pieces) ++ [Layout.atom "END"])
  | .caseOperand => first
  | .caseArm | .caseElse => .concatSep " " (casePieces h args)
  | .ifThen => p.call "IF" args
  | .cast lenient =>
    .atom (if lenient then "TRY_CAST(" else "CAST(") ++ first ++ " AS " ++ second ++
      .concat ((args.drop 2).map fun a => " FORMAT " ++ a) ++ ")"
  | .dataType name known => p.dataType name known args
  | .typeSize s => .atom s
  | .typeField id => p.ident id ++ " " ++ first
  | .call f => p.functionCall f ps args
  | .distinctArgs => "DISTINCT " ++ p.flat rs
  | .orderedArg => first ++ second
  | .orderedArgs => first ++ ", " ++ second ++ .concat (args.drop 2)
  | .limitedArg => first ++ second
  | .namedArg name => .atom name ++ " => " ++ first
  | .lambda names worded => p.lambda names worded first
  | .nullsArg keyword => first ++ " " ++ .atom keyword
  | .wordedArg words =>
    first ++ " " ++ .atom words ++ .concat ((args.drop 1).map fun a => " " ++ a)
  | .leadingWord word => .atom (word ++ " ") ++ first
  | .filter => first ++ " FILTER(" ++ second.trim ++ ")"
  | .withinGroup =>
    if p.target.ordersInCall then first.openEnd ++ second ++ ")"
    else first ++ " WITHIN GROUP (" ++ second.trim ++ ")"
  | .window base => first ++ " OVER " ++ p.windowRows base none (args.drop 1)
  | .keep base word => first ++ " KEEP " ++ p.windowRows base word (args.drop 1)
  | .windowDefinition name base => p.ident name ++ " AS " ++ p.windowRows base none args
  | .partitionBy => "PARTITION BY " ++ p.flat rs
  | .frame kind start stop exclude => frame kind start stop exclude args
  | .exists => "EXISTS" ++ p.wrap first
  | .anyOf =>
    match firstNode.head with
    | .paren => "ANY" ++ first
    | h => if h.isBareQuery then "ANY" ++ p.wrap first else "ANY " ++ first
  | .allOf =>
    match firstNode.head with
    | .paren | .tuple => "ALL " ++ first
    | _ => "ALL " ++ p.wrap first
  | .interval unit => p.interval unit firstNode first
  | .extract => "EXTRACT(" ++ first ++ " FROM " ++ second ++ ")"
  | .atTimeZone => first ++ " AT TIME ZONE " ++ second
  | .prior => "PRIOR " ++ first
  | .connectRoot => "CONNECT_BY_ROOT " ++ first
  | .nextValue =>
    let order : List Layout := (args.drop 1).map fun a => " OVER (" ++ a.trim ++ ")"
    "NEXT VALUE FOR " ++ first ++ .concat order
  | .memberOf => first ++ " MEMBER OF(" ++ second ++ ")"
  | .outerMark => first ++ " (+)"
  | .search mode => p.search mode args
  | .dot => first ++ "." ++ second
  | .index => first ++ "[" ++ .concatSep ", " (args.drop 1) ++ "]"
  | .slice => first ++ ":" ++ second
  | .array => p.array ps args
  | .comprehension =>
    first ++ " FOR " ++ .concatSep " IN " ((args.drop 1).take 2) ++
      .concat ((args.drop 3).map fun a => " IF " ++ a)
  | .record => "\x7b" ++ p.flat rs ++ "\x7d"
  | .recordField => first ++ ": " ++ second
  | .jsonPair => first ++ .atom p.target.jsonPairMark ++ " " ++ second
  | .jsonTable handling => p.jsonTable handling parts
  | .jsonColumns => p.call "COLUMNS" args
  | .jsonColumn name ordinality => p.jsonColumn name ordinality parts
  | .jsonExtract scalar _ => first ++ .atom (if scalar then " ->> " else " -> ") ++ second
  | .jsonPath steps => p.string (JsonPath.write steps)
  | .aliased id => first ++ " AS " ++ p.ident id
  | .aliases ids => first ++ " AS (" ++ .concatSep ", " (ids.map p.ident) ++ ")"
  | .subquery label => p.subquery label parts
  | .table ids label =>
    tableScope parts ++ p.path ids ++ p.tableStates parts ++ p.sampledAlias label parts ++
      p.tableSuffixes parts ++ p.lateSamples parts ++ p.ownJoins parts
  | .tableCall qualifier label ordinality =>
    let front := if qualifier.isEmpty then .empty else p.path qualifier ++ "."
    let marked := p.sampledAlias label (parts.drop 1) ++ p.tableSuffixes (parts.drop 1) ++
      p.lateSamples (parts.drop 1)
    front ++ first ++ p.tableStates (parts.drop 1) ++
      (if ordinality then " WITH ORDINALITY" ++ marked ++ p.ownJoins (parts.drop 1)
        else marked ++ p.ownJoins (parts.drop 1))
  | .values label => p.values label ctx.isSource parts
  | .unnest label ordinality =>
    p.call "UNNEST" args ++ .atom (if ordinality then " WITH ORDINALITY" else "") ++
      p.markedAlias label true
  | .lateral apply label =>
    .atom ((apply.map fun s => s ++ " ").getD "") ++ "LATERAL " ++ first ++ p.markedAlias label true
  | .lateralView outer label => p.lateralView outer label parts
  | .tableHint keyword => .atom (keyword ++ " (") ++ p.flat rs ++ ")"
  | .tableOnly => .empty
  | .tablePartition => p.call "PARTITION" args
  | .tableVersion words => .atom (words ++ " ") ++ first
  | .tableMoment word kind => .atom (word ++ " (" ++ kind ++ " => ") ++ first ++ ")"
  | .pivot back nulls label => p.pivot back nulls label parts
  | .pivotField => first ++ " IN " ++ second
  | .pivotQuery back => p.pivotQuery back parts
  | .pivotClause word => p.pivotClause word rs
  | .withClause recursive =>
    .atom (if recursive then "WITH RECURSIVE " else "WITH ") ++ p.flat rs
  | .hint => p.hint args
  | .hintCall name => .atom name ++ "(" ++ p.arguments " " args ++ ")"
  | .distinct => if args.isEmpty then "DISTINCT" else "DISTINCT ON " ++ first
  | .runOption word => .atom word
  | .rowKind keyword => .atom ("AS " ++ keyword)
  | .projections => p.block rs
  | .into => p.gap ++ "INTO " ++ first
  | .fromClause => p.gap ++ "FROM " ++ first
  | .join method side kind => p.join method side kind parts
  | .onClause => "ON " ++ p.padRest first
  | .usingClause => "USING (" ++ .concatSep ", " args ++ ")"
  | .whereClause => p.clause "WHERE" first
  | .startWith => p.gap ++ "START WITH " ++ first
  | .connectBy noCycle =>
    p.gap ++ .atom (if noCycle then "CONNECT BY NOCYCLE " else "CONNECT BY ") ++ first
  | .groupBy modifier => p.groupBy modifier parts
  | .grouping keyword =>
    if args.isEmpty then .atom keyword else .atom (keyword ++ " ") ++ p.wrap (p.rows rs)
  | .having => p.clause "HAVING" first
  | .qualify => p.clause "QUALIFY" first
  | .windows => p.gap ++ "WINDOW " ++ p.flat rs
  | .orderBy => p.listClause "ORDER BY" rs
  | .sortClause keyword => p.listClause keyword rs
  | .ordered direction nullsFirst =>
    p.ordered ctx.framed direction nullsFirst firstNode first ++
      .concat ((args.drop 1).map fun a => " " ++ a)
  | .fill => "WITH FILL" ++ .concat args
  | .fillBound keyword => .atom (" " ++ keyword ++ " ") ++ first
  | .limit options => p.limit options args
  | .fetch direction options => p.fetch direction options args
  | .offset => p.gap ++ "OFFSET " ++ first ++ .atom (if p.target.offsetRows then " ROWS" else "")
  | .lock kind wait =>
    .atom kind ++ (if args.isEmpty then .empty else " OF " ++ p.flat rs) ++ .atom wait
  | .sample method unit => p.sample method unit args
  | .insert overwrite columns => p.insert overwrite columns parts
  | .update => p.update parts
  | .setClause => " SET " ++ p.flat rs
  | .delete => p.delete parts
  | .create kind =>
    let source : Layout := match args.drop 1 with
      | a :: _ => " AS" ++ p.gap ++ a
      | [] => .empty
    p.afterWith parts ("CREATE " ++ .atom kind ++ " " ++ first ++ source)
  | .drop kind => "DROP " ++ .atom kind ++ " " ++ first
  | .truncate => "TRUNCATE TABLE " ++ p.flat rs
  | .statement kind => .concatSep " " (.atom kind :: args)
  | .returning => p.gap ++ "RETURNING " ++ p.flat rs
  | .describe => "DESCRIBE " ++ first
  | .use kind => .atom (if kind.isEmpty then "USE " else "USE " ++ kind ++ " ") ++ first
  | .commit => "COMMIT"
  | .rollback => "ROLLBACK"
  | .transaction => "BEGIN"
  | .command word s => .atom (if s.isEmpty then word else word ++ " " ++ s)
  | .semicolon => .empty
  | .select | .setOperation .. | .binary _ | .cte .. => .empty

/-- An order inside a window or a call stands on one line. -/
def flatOrder (parent : Head) (q : Part) : Part :=
  let keys := Layout.concatSep ", " q.rendered.pieces
  match parent, q.node.head with
  | .window _, .orderBy | .keep .., .orderBy | .windowDefinition .., .orderBy =>
    { q with rendered := { q.rendered with body := "ORDER BY " ++ keys } }
  | .orderedArg, .orderBy =>
    { q with rendered := { q.rendered with body := " ORDER BY " ++ keys } }
  | _, _ => q

/-- What a node around this one may lay out in its own way. -/
def piecesOf (h : Head) (args : List Layout) : List Layout :=
  match h with
  | .orderBy => args.filter fun a => !a.isEmpty
  | _ => casePieces h args

/-- The text of a node, written in another way if there is a writer for it. -/
def nodeText (p : Printer) (ctx : Context) (h : Head) (c : List String) (parts : List Part) :
    Layout :=
  match (Replaceable.ofHead? h).bind p.writers with
  | some write =>
    write p.target p.style (.mk h c (parts.map Part.node)) (parts.map fun q => p.full q.rendered)
  | none => p.plainText ctx h parts

/-- A node from its parts. -/
def compose (p : Printer) (ctx : Context) (h : Head) (c : List String) (parts : List Part) :
    Rendered :=
  match h, parts with
  | .select, _ => p.selectQuery c parts
  | .setOperation op distinct byName, _ => p.setOperation op distinct byName c parts
  | .binary .modulo, [l, r] =>
    if p.target.percentIsModulo then p.binary .modulo c l.rendered r.rendered
    else { body := p.call "MOD" [p.full l.rendered, p.full r.rendered] }
  | .binary op, [l, r] => p.binary op c l.rendered r.rendered
  | .cte label materialized, _ => { body := p.withItem label materialized c parts }
  | _, _ =>
    { body := p.nodeText ctx h c parts
      comments := if h == .dot then [] else c
      separated := separates h
      pieces := piecesOf h (parts.map fun q => p.full q.rendered) }

mutual

/-- A node with the texts of its parts. -/
def render (p : Printer) (ctx : Context) : Node → Rendered
  | .mk h c ps => p.compose ctx h c (renderAll p (ctx.inside h ps) h ps)

/-- The parts of a node with head `parent`. -/
def renderAll (p : Printer) (ctx : Context) (parent : Head) : List Node → List Part
  | [] => []
  | n :: ns => flatOrder parent ⟨n, render p ctx n⟩ :: renderAll p ctx parent ns

end

/-- The text of a tree that is fitted to the target. -/
def layout (p : Printer) (n : Node) : Layout := p.full (p.render {} n)

/-- Writes a tree. -/
def print (p : Printer) (n : Node) : String :=
  Text.strip (p.layout (n.lower p.target)).toText

end Printer

end SemanticLayer.Sql
