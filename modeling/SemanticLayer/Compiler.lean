import SemanticLayer.Dialect.Backends
import SemanticLayer.Query.Extension
import SemanticLayer.Query.References
import SemanticLayer.Query.Shape
import SemanticLayer.Registry

/-!
# Compilation

Semantic SQL is ordinary SQL whose table names may be names of semantic models. Compiling a query
finds the models that it reads, puts one WITH item per model in front of its own, each with the
statement behind the model, and writes the result for a dialect:

`SELECT * FROM orders` becomes `WITH orders AS (SELECT … FROM raw_orders) SELECT * FROM orders`.
-/

namespace SemanticLayer

open Sql (Node ParseError)

/-- Why a query cannot be compiled. -/
inductive CompileError where
  /-- The query cannot be read. -/
  | unreadable (cause : ParseError) (text : String)
  /-- Text cannot be read in the grammar of the dialect for which it is to be laid out. -/
  | unformattable (dialect : String) (cause : ParseError) (text : String)
  /-- The statement is no query. -/
  | unsupported (kind : String)
  /-- No table of the query is a model. -/
  | noModel (candidates : List String)
  /-- The statement behind a model cannot be read. -/
  | badModel (name : String) (cause : ParseError)
  /-- A time dimension has nothing to cut. -/
  | badArgument (cause : ArgumentError)
  deriving Repr

/-- Why a text is not one statement, in words. `detail` stands for what is wrong with a text that is
no SQL. -/
def Sql.ParseError.message (detail : String) : ParseError → String
  | invalid => "Failed to parse SQL: " ++ detail
  | empty => "Failed to parse SQL: empty statement"
  | several n => "Failed to parse SQL: expected one statement, found " ++ toString n

def CompileError.message (detail : String) : CompileError → String
  | unreadable cause _ => cause.message detail
  | unformattable dialect cause _ =>
    "SQL is not valid " ++ dialect ++ " SQL: " ++ cause.message detail
  | unsupported kind =>
    "Unsupported SQL statement: " ++ kind ++
      ". Only SELECT, ORDER BY and WITH queries are supported"
  | noModel candidates =>
    let listed := if candidates.isEmpty then "none" else ", ".intercalate (Query.sorted candidates)
    "No matching semantic model was found (referenced tables: " ++ listed ++ ")"
  | badModel name cause =>
    "Failed to render semantic model '" ++ name ++ "': " ++ cause.message detail
  | badArgument cause => cause.message

/-- A statement without blanks around it and without one semicolon at its end. -/
def stripTerminator (s : String) : String :=
  match (Text.trim s.toList).reverse with
  | ';' :: rest => String.ofList rest.reverse
  | rest => String.ofList rest.reverse

/-! ## Views -/

namespace View

/-- The name of the statement behind a model inside its view. -/
def innerName : String := "__semql_model"

/-- The statement behind a model, read and written in the dialect. -/
def innerSelect (d : Dialect) (o : Sql.Overrides) (m : SemanticModel) :
    Except CompileError String :=
  match Sql.parseOne d.grammar (Text.strip m.select) with
  | .ok n => .ok (d.render o n)
  | .error cause => .error (.badModel m.name cause)

/-- The expression of a dimension; a time is cut to its granularity. -/
def dimensionExpr (d : Dialect) (dim : Dimension) : Except ArgumentError String :=
  match dim.kind, dim.granularity with
  | .time, some g => d.truncate dim.sqlExpr g
  | _, _ => .ok dim.sqlExpr

/-- The columns of a view: the expression and the name of each element. -/
def columns (d : Dialect) (m : SemanticModel) : Except ArgumentError (List (String × String)) := do
  let times ← m.dimensions.mapM fun dim => do return (← dimensionExpr d dim, dim.name)
  return m.entities.map (fun e => (e.sqlExpr, e.name)) ++ times ++
    m.measures.map fun e => (e.sqlExpr, e.name)

def columnText (d : Dialect) (c : String × String) : String := c.1 ++ " AS " ++ d.quoteName c.2

/-- The text of a view. -/
def selectText (d : Dialect) (columns : List (String × String)) (inner : String) : String :=
  "SELECT " ++ ", ".intercalate (columns.map (columnText d)) ++ " FROM (" ++ inner ++ ") AS " ++
    d.quoteName innerName

/-- The SELECT that stands for a model: its elements as columns over the statement behind it, or
that statement itself if the model has no elements. -/
def text (d : Dialect) (o : Sql.Overrides) (m : SemanticModel) : Except CompileError String := do
  let inner ← innerSelect d o m
  if m.hasElements then
    return selectText d (← (columns d m).mapError .badArgument) inner
  else return inner

end View

/-! ## Formats -/

/-- How SQL is laid out over lines. -/
structure FormatOptions where
  /-- Blanks per level. -/
  indent : Nat := 2
  /-- Longer lists, calls and conditions are broken. -/
  width : Nat := 100
  /-- Commas stand at the beginning of the next line. -/
  leadingComma : Bool := false
  deriving DecidableEq, Repr

/-- The style of SQL that is laid out over lines. -/
def FormatOptions.style (f : FormatOptions) : Sql.Style where
  pretty := true
  indent := f.indent
  pad := f.indent
  width := f.width
  leadingComma := f.leadingComma

/-- Lays out SQL of a dialect over lines. -/
def formatSql (d : Dialect) (o : Sql.Overrides) (f : FormatOptions) (sql : String) :
    Except CompileError String :=
  match Sql.parseOne d.grammar sql with
  | .ok n => .ok ((d.printer o f.style).print n)
  | .error cause => .error (.unformattable d.name cause sql)

/-! ## Compilers -/

/-- What queries are compiled with. -/
structure Compiler where
  registry : Registry
  dialect : Dialect
  overrides : Sql.Overrides := .standard
  /-- The SELECT that stands for a model. -/
  view : SemanticModel → Except CompileError String := View.text dialect overrides
  format : FormatOptions := {}

structure Compiled where
  sql : String
  /-- WITH items of the query that have the name of a model that it reads. -/
  shadowed : List String
  deriving DecidableEq, Repr

/-- The warning about a WITH item with the name of a model. -/
def shadowWarning (name : String) : String :=
  "WITH item '" ++ name ++ "' has the same name as a semantic model; both CTEs are emitted and " ++
    "the model CTE comes first"

namespace Compiler

def modelItem (c : Compiler) (m : SemanticModel) : Except CompileError Node := do
  match Sql.parseOne c.dialect.grammar (← c.view m) with
  | .ok n => return Query.item m.name n
  | .error cause => throw (.badModel m.name cause)

def readQuery (text : String) : Except CompileError Node := do
  match Sql.parseOne .standard (stripTerminator text) with
  | .ok n =>
    match Query.shape n with
    | .ok _ => return n
    | .error kind => throw (.unsupported kind)
  | .error cause => throw (.unreadable cause (stripTerminator text))

/-- The models that a query reads. -/
def modelsOf (c : Compiler) (n : Node) : Except CompileError (List SemanticModel) :=
  match c.registry.resolveOrdered (Query.tableNames n) with
  | [] => .error (.noModel (Query.tableNames n))
  | ms => .ok ms

/-- The query with the models that it reads. -/
def extend (c : Compiler) (n : Node) : Except CompileError Node := do
  let ms ← c.modelsOf n
  return Query.prepend (← ms.mapM c.modelItem) n

/-- The WITH items of a query that have the name of a model that it reads. -/
def shadowed (c : Compiler) (n : Node) : List String :=
  let names := (c.registry.resolveOrdered (Query.tableNames n)).map SemanticModel.name
  ((Query.items n).filterMap Query.itemName?).filter names.contains

def compile (c : Compiler) (text : String) : Except CompileError Compiled := do
  let n ← readQuery text
  let extended ← c.extend n
  return { sql := c.dialect.render c.overrides extended, shadowed := c.shadowed n }

/-- Compiles a query and lays out the result over lines. -/
def compileFormatted (c : Compiler) (text : String) : Except CompileError Compiled := do
  let compiled ← c.compile text
  let sql ← formatSql c.dialect c.overrides c.format compiled.sql
  return { compiled with sql }

/-- The SELECT that stands for the model of a name. -/
def modelSql (c : Compiler) (name : String) : Except CompileError String :=
  match c.registry.get? name with
  | some m => c.view m
  | none => .error (.noModel [name])

end Compiler

end SemanticLayer
