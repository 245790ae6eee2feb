import SemanticLayer.Sql.Printer.Expression

/-!
# Writing queries

How queries, their clauses and the other statements are written, given their written parts.
-/

namespace SemanticLayer.Sql

/-- A part of a node with its text. -/
structure Part where
  node : Node
  rendered : Rendered

namespace Printer

/-- The parts whose heads satisfy `h`. -/
def select (h : Head → Bool) (parts : List Part) : List Part := parts.filter fun q => h q.node.head

/-- The texts of the parts whose heads satisfy `h`, side by side. -/
def texts (p : Printer) (h : Head → Bool) (parts : List Part) : Layout :=
  .concat ((select h parts).map fun q => p.full q.rendered)

/-- A clause whose keyword and body stand on lines of their own. -/
def clause (p : Printer) (keyword : String) (body : Layout) : Layout :=
  p.gap ++ .atom keyword ++ p.gap ++ p.pad body

def listClause (p : Printer) (keyword : String) (rs : List Rendered) : Layout :=
  let items := p.block rs
  p.gap ++ .atom keyword ++ (if items.isEmpty then .empty else p.gap ++ items)

/-- A join. Without a condition and a kind it is a comma. -/
def join (p : Printer) (method side kind : String) (parts : List Part) : Layout :=
  let words := " ".intercalate ([method, side, kind].filter fun s => !s.isEmpty)
  match parts with
  | [] => .empty
  | joined :: rest =>
    let this := p.full joined.rendered
    let line : Layout :=
      if p.style.pretty then .newline ++ .atom (String.ofList (List.replicate p.style.pad ' '))
      else " "
    let condition := (rest.map fun q => line ++ p.full q.rendered).head?
    let applies := match joined.node.head with
      | .lateral (some _) _ => true
      | _ => false
    match condition with
    | none => if words.isEmpty then .atom (if applies then " " else ", ") ++ this
      else
        p.gap ++ .atom (if words == "STRAIGHT_JOIN" then words else words ++ " JOIN") ++ " " ++ this
    | some c =>
      let op := if words.isEmpty then "JOIN"
        else if words == "STRAIGHT_JOIN" then words else words ++ " JOIN"
      p.gap ++ .atom op ++ " " ++ this ++ c

/-- The GROUPING SETS, CUBE, ROLLUP and TOTALS of a GROUP BY, in this order. -/
def groupings (p : Printer) (parts : List Part) : List Layout :=
  let ofKind (keywords : List String) : List Layout :=
    let found := select (fun h => keywords.any fun k => h == .grouping k) parts
    if found.isEmpty then [] else [p.gap ++ p.block (found.map Part.rendered)]
  ofKind ["GROUPING SETS"] ++ ofKind ["CUBE", "WITH CUBE"] ++ ofKind ["ROLLUP", "WITH ROLLUP"] ++
    ofKind ["WITH TOTALS"]

/-- Whether the only grouping has no items of its own and goes with the other items. -/
def isBareGrouping (parts : List Part) : Bool :=
  match select Head.isGrouping parts with
  | [q] => q.node.parts.isEmpty && q.node.head != .grouping "WITH TOTALS"
  | _ => false

/-- GROUP BY with its items and its groupings. -/
def groupBy (p : Printer) (modifier : String) (parts : List Part) : Layout :=
  let items := (select (fun h => !h.isGrouping) parts).map Part.rendered
  let keyword := if modifier.isEmpty then "GROUP BY" else "GROUP BY " ++ modifier
  let groupings := p.groupings parts
  let comma : Layout :=
    if items.isEmpty || groupings.isEmpty || isBareGrouping parts then .empty else ","
  p.listClause keyword items ++ comma ++ .concatSep "," groupings

/-- LIMIT, for each of some keys if there are any. -/
def limit (p : Printer) (options : RowOptions) (args : List Layout) : Layout :=
  let keys : Layout := match args.drop 1 with
    | [] => .empty
    | keys => " BY " ++ .concatSep ", " keys
  p.gap ++ "LIMIT " ++ args.headD .empty ++ .atom options.text ++ keys

def fetch (p : Printer) (direction : String) (options : RowOptions) (args : List Layout) :
    Layout :=
  let count : Layout := match args with
    | a :: _ => " " ++ a
    | [] => .empty
  let words := if options.text.isEmpty then " ROWS ONLY" else options.text
  p.gap ++ .atom ("FETCH " ++ direction) ++ count ++ .atom words

/-- The number of rows and where they begin: OFFSET goes before FETCH and after LIMIT. -/
def limits (p : Printer) (parts : List Part) : Layout :=
  let isFetch := parts.any fun q => q.node.head.isFetch
  let limit := p.texts Head.isLimit parts
  let offset := p.texts Head.isOffset parts
  if isFetch then offset ++ limit else limit ++ offset

/-- The locks of a query, further ones on lines of their own. -/
def locks (p : Printer) (parts : List Part) : Layout :=
  match (select Head.isLock parts).map fun q => p.full q.rendered with
  | [] => .empty
  | found => " " ++ p.pad (.concatSep p.gap found)

/-- The size of a sample, how it is taken, and its seed. -/
def sample (p : Printer) (method : Option String) (unit : SampleUnit) (args : List Layout) :
    Layout :=
  let word := match unit with
    | .rows => if p.target.samples.all SampleSyntax.rowsWord then " ROWS" else ""
    | .percent => if p.target.samples.all SampleSyntax.percentWord then " PERCENT" else ""
  let seed := (p.target.samples.map SampleSyntax.seed).getD "SEED"
  .atom ((method.map fun s => s ++ " ").getD "") ++ "(" ++ args.headD .empty ++
    .atom word ++ ")" ++
    .concat ((args.drop 1).map fun a => .atom (" " ++ seed ++ " (") ++ a ++ ")")

/-- The samples of a table or of a whole query. -/
def samples (p : Printer) (ofQuery : Bool) (parts : List Part) : Layout :=
  let keyword := match p.target.samples with
    | some s => if ofQuery then s.queryKeyword else s.keyword
    | none => ""
  .concat ((select Head.isSample parts).map fun q =>
    .atom (" " ++ keyword ++ " ") ++ p.full q.rendered)

/-- The alias of a table or of a query in parentheses, with the samples that stand before it. -/
def sampledAlias (p : Printer) (label : Option TableAlias) (parts : List Part) : Layout :=
  (if p.target.samples.any SampleSyntax.first then p.samples false parts else .empty) ++
    p.markedAlias label p.target.tableAliasMark

/-- The samples of a table that stand after its alias. -/
def lateSamples (p : Printer) (parts : List Part) : Layout :=
  if p.target.samples.any SampleSyntax.first then .empty else p.samples false parts

/-- The clauses after the beginning of a query, in their order. -/
def modifiers (p : Printer) (isSelect : Bool) (parts : List Part) : Layout :=
  p.texts Head.isJoin parts ++ p.texts Head.isLateral parts ++ p.texts Head.isWhere parts ++
    p.texts (· == .startWith) parts ++ p.texts Head.isConnectBy parts ++
    p.texts Head.isGroup parts ++ p.texts Head.isHaving parts ++
    .concat (["CLUSTER BY", "DISTRIBUTE BY", "SORT BY", "ORDER SIBLINGS BY"].map fun key =>
      p.texts (· == .sortClause key) parts) ++
    p.texts (· == .windows) parts ++
    p.texts Head.isQualify parts ++ p.texts Head.isOrder parts ++ p.limits parts ++
    p.locks parts ++ (if isSelect then p.samples true parts else p.lateSamples parts)

/-- A query with its WITH in front. -/
def afterWith (p : Printer) (parts : List Part) (a : Layout) : Layout :=
  match select Head.isWith parts with
  | w :: _ => p.full w.rendered ++ p.gap ++ a
  | [] => a

/-- The words about how a query is run. In broken text each has a line. -/
def runOptions (p : Printer) (parts : List Part) : Layout :=
  match (select Head.isRunOption parts).map fun q => p.full q.rendered with
  | [] => .empty
  | words =>
    if p.style.pretty then p.gap ++ p.pad (.concatSep .newline words)
    else " " ++ .concatSep " " words

/-- SELECT. With a WITH in front, its comments stand between the two. -/
def selectQuery (p : Printer) (comments : List String) (parts : List Part) : Rendered :=
  let hints := .concat ((select Head.isHint parts).map fun q => " " ++ p.full q.rendered)
  let distinct := .concat ((select Head.isDistinct parts).map fun q => " " ++ p.full q.rendered)
  let options := p.runOptions parts
  let kind := .concat ((select Head.isRowKind parts).map fun q => " " ++ p.full q.rendered)
  let items := p.texts Head.isProjections parts
  let body := .atom "SELECT" ++ hints ++ distinct ++ options ++ kind ++
    (if items.isEmpty then .empty else p.gap ++ items) ++ p.texts Head.isInto parts ++
    p.texts Head.isFrom parts ++ p.modifiers true parts
  if (select Head.isWith parts).isEmpty then { body, comments, separated := true }
  else { body := p.afterWith parts (p.afterComments comments body) }

/-- A set operation on two queries. -/
def setOperation (p : Printer) (op : String) (distinct byName : Bool) (comments : List String)
    (parts : List Part) : Rendered :=
  let word := op ++ (if distinct then "" else " ALL") ++ (if byName then " BY NAME" else "")
  match parts with
  | l :: r :: rest =>
    let body := p.full l.rendered ++ p.gap ++ p.afterComments comments (.atom word) ++ p.gap ++
      p.full r.rendered ++ p.modifiers false rest
    { body := p.afterWith rest body }
  | _ => { body := .empty }

/-- A query in parentheses with its alias and clauses. -/
def subquery (p : Printer) (label : Option TableAlias) (parts : List Part) : Layout :=
  match parts with
  | [] => .empty
  | q :: rest =>
    p.afterWith rest
      (p.wrap (p.full q.rendered) ++ p.sampledAlias label rest ++ p.texts Head.isPivot rest ++
        p.modifiers false rest)

/-- The joins that belong to a table. -/
def ownJoins (p : Printer) (parts : List Part) : Layout := p.padRest (p.texts Head.isJoin parts)

/-- PIVOT or UNPIVOT after a table. -/
def pivot (p : Printer) (back : Bool) (nulls : Option Bool) (label : Option TableAlias)
    (parts : List Part) : Layout :=
  let word := match nulls with
    | some true => " INCLUDE NULLS "
    | some false => " EXCLUDE NULLS "
    | none => ""
  let values := (select (fun h => !h.isPivotField) parts).map Part.rendered
  let fields := (select Head.isPivotField parts).map fun q => p.full q.rendered
  p.gap ++ .atom ((if back then "UNPIVOT" else "PIVOT") ++ word) ++ "(" ++ p.flat values ++
    " FOR " ++ p.arguments " " fields ++ ")" ++ p.markedAlias label true

/-- What PIVOT as a query of its own turns, names or computes. -/
def pivotClause (p : Printer) (word : String) (rs : List Rendered) : Layout :=
  let args := rs.map p.full
  if word == "INTO" then
    p.gap ++ "INTO NAME " ++ args.headD .empty ++ " VALUE " ++ .concatSep ", " (args.drop 1)
  else p.gap ++ .atom (word ++ " ") ++ p.flat rs

/-- PIVOT or UNPIVOT as a query of its own. -/
def pivotQuery (p : Printer) (back : Bool) (parts : List Part) : Layout :=
  let source := Layout.concat ((parts.take 1).map fun q => p.full q.rendered)
  let clause (word : String) : Layout := p.texts (· == .pivotClause word) parts
  if !p.target.hasPivots then .empty
  else if (select (· == .pivotClause "ON") parts).isEmpty then "UNPIVOT " ++ source
  else
    .atom (if back then "UNPIVOT " else "PIVOT ") ++ source ++ clause "ON" ++ clause "INTO" ++
      clause "USING" ++ p.texts Head.isGroup parts

/-- A hint after SELECT. In broken text each item has a line. -/
def hint (p : Printer) (items : List Layout) : Layout :=
  let mark : Layout := if p.style.leadingComma then .newline ++ " " else .newline
  let body := if p.style.pretty then p.pad (.concatSep mark items) else .concatSep " " items
  "/*+ " ++ body.trim ++ " */"

/-- A table made of a JSON value. -/
def jsonTable (p : Printer) (handling : String) (parts : List Part) : Layout :=
  let isColumns (h : Head) : Bool := h == .jsonColumns
  "JSON_TABLE(" ++ .concatSep ", " ((select (fun h => !isColumns h) parts).map fun q =>
    p.full q.rendered) ++ .atom handling ++ " " ++ p.texts isColumns parts ++ ")"

/-- A column of a table made of a JSON value. -/
def jsonColumn (p : Printer) (name : Option Ident) (ordinality : Bool) (parts : List Part) :
    Layout :=
  let path : Layout :=
    .concat ((select Head.isString parts).map fun q => " PATH " ++ p.full q.rendered)
  let type : Layout :=
    .concat ((select Head.isDataType parts).map fun q => " " ++ p.full q.rendered)
  match name with
  | none => "NESTED" ++ path ++ " " ++ p.texts (· == .jsonColumns) parts
  | some id => p.ident id ++ type ++ path ++ .atom (if ordinality then " FOR ORDINALITY" else "")

/-- The word in front of a table of which only the rows themselves are read. -/
def tableScope (parts : List Part) : Layout :=
  if (select (· == .tableOnly) parts).isEmpty then .empty else "ONLY "

/-- Which state of a table is read. -/
def tableStates (p : Printer) (parts : List Part) : Layout :=
  .concat ((select Head.isTableState parts).map fun q => " " ++ p.full q.rendered)

/-- The hints and pivots of a table. -/
def tableSuffixes (p : Printer) (parts : List Part) : Layout :=
  .concat ((select Head.isTableHint parts).map fun q => " " ++ p.full q.rendered) ++
    p.texts Head.isPivot parts

/-- Rows of values, in parentheses if they stand for a table. -/
def values (p : Printer) (label : Option TableAlias) (isSource : Bool) (parts : List Part) :
    Layout :=
  let body := "VALUES" ++ p.gap ++ p.block (parts.map Part.rendered)
  let body := if label.isSome || isSource then "(" ++ body ++ ")" else body
  body ++ p.markedAlias label true

def withItem (p : Printer) (label : TableAlias) (materialized : Option Bool)
    (comments : List String) (parts : List Part) : Layout :=
  let word := match materialized with
    | some true => "MATERIALIZED "
    | some false => "NOT MATERIALIZED "
    | none => ""
  let body := (parts.head?.map fun q => p.full q.rendered).getD .empty
  let label := { label with comments := label.comments ++ comments }
  p.tableAlias label ++ " AS " ++ .atom word ++ p.wrap body

def lateralView (p : Printer) (outer : Bool) (label : TableAlias) (parts : List Part) : Layout :=
  let this := .concat (parts.map fun q => p.full q.rendered)
  let name := (label.name.map fun id => " " ++ id.name).getD ""
  let columns : Layout := if label.columns.isEmpty then .empty
    else " AS " ++ Layout.concatSep ", " (label.columns.map p.ident)
  p.gap ++ .atom (if outer then "LATERAL VIEW OUTER" else "LATERAL VIEW") ++ p.gap ++ this ++
    .atom name ++ columns

def insert (p : Printer) (overwrite : Bool) (columns : List Ident) (parts : List Part) : Layout :=
  match select (fun h => !h.isWith && h != .returning) parts with
  | [] => .empty
  | target :: source =>
    let names : Layout := if columns.isEmpty then .empty
      else
        " (" ++ p.tight ++ p.block (columns.map fun id => { body := p.ident id }) ++ p.tight ++ ")"
    let rows : Layout := .concat (source.map fun q => p.gap ++ p.full q.rendered)
    p.afterWith parts
      (.atom (if overwrite then "INSERT OVERWRITE TABLE " else "INSERT INTO ") ++
        p.full target.rendered ++ names ++ rows ++ p.texts (· == .returning) parts)

def update (p : Printer) (parts : List Part) : Layout :=
  match parts with
  | [] => .empty
  | target :: rest =>
    p.afterWith rest ("UPDATE " ++ p.full target.rendered ++ p.texts (· == .setClause) rest ++
      p.texts Head.isFrom rest ++ p.texts Head.isWhere rest ++ p.texts Head.isOrder rest ++
      p.texts (· == .returning) rest)

def delete (p : Printer) (parts : List Part) : Layout :=
  match parts with
  | [] => .empty
  | target :: rest =>
    p.afterWith rest ("DELETE FROM " ++ p.full target.rendered ++ p.texts Head.isWhere rest ++
      p.texts (· == .returning) rest)

end Printer

end SemanticLayer.Sql
