import SemanticLayer.Sql.Lowering.Value

/-!
# Fitting arrays to a target

Functions of arrays by the functions that a target has, or by a query over the items of the array.
-/

namespace SemanticLayer.Sql.Lowering

/-- The name of an item where the function of an item gives it none. -/
def itemName : Ident := ⟨"_u", false⟩

/-- The items of an array that satisfy a condition, by DuckDB. -/
def listFilter (this condition : Node) : Node :=
  .known "ARRAYFILTER" "LIST_FILTER" [this, condition]

/-- The items of an array that satisfy a condition, as a query. -/
def filterQuery (this : Node) (item : Ident) (condition : Node) : Node :=
  let source := Node.of (.unnest (some { name := none, columns := [item] }) false) [this]
  .of .array [.of .select [.of .projections [.of (.name item) []], .of .fromClause [source],
    .of .whereClause [condition]]]

/-- Whether an item of an array satisfies a condition; also if the array has no items. -/
def someItem (this condition : Node) : Node :=
  let size (n : Node) : Node := .known "ARRAYSIZE" "ARRAY_LENGTH" [n]
  .of .paren [.of (.binary .or) [.of (.binary .equal) [size this, .num "0"],
    .of (.binary .notEqual) [size (listFilter this condition), .num "0"]]]

/-- The items of an array as texts, with a text for the ones that are null. -/
def itemsOr (this other : Node) : Node :=
  let item : Ident := ⟨"x", false⟩
  .known "TRANSFORM" "LIST_TRANSFORM" [this, .of (.lambda [item] false)
    [.known "COALESCE" "COALESCE" [.of (.name item) [], other]]]

/-- The name of a field given as a literal. -/
def fieldName? (n : Node) : Option Ident :=
  match n.head with
  | .string s | .number s => some (.ofText s)
  | .column path => path.getLast?
  | _ => none

/-- A function of arrays or records in the target's way. `none` is one that is written in the usual
way. -/
def arrayForm? (t : Target) (c : List String) (kind : String) (ps : List Node) : Option Node :=
  match kind, t.functions, ps with
  | "ARRAYANY", .duckdb, [this, condition] => some (someItem this condition)
  | "ARRAYREMOVE", .duckdb, [this, value] =>
    some (listFilter this (.of (.lambda [itemName] false)
      [.of (.binary .notEqual) [.of (.name itemName) [], value]]))
  | "ARRAYFILTER", .postgres, [this, .mk (.lambda [item] _) _ [condition]] =>
    some (filterQuery this item condition)
  | "ARRAYTOSTRING", .duckdb, this :: separator :: other :: _ =>
    some (.mk (.call (.known kind "ARRAY_TO_STRING")) c [itemsOr this other, separator])
  | "ARRAYUNIQUEAGG", .duckdb, [this] => some (plainCall "LIST" [.of .distinctArgs [this]])
  | "GENERATEDATEARRAY", .duckdb, start :: stop :: step =>
    let days := Node.of (.dataType "ARRAY" true) [.type "DATE"]
    let series := plainCall "GENERATE_SERIES" ([asDate start, asDate stop] ++ step)
    some (.of (.cast false) [series, days])
  | "JSONEXTRACTARRAY", .duckdb, [this, path] =>
    let values := Node.of (.dataType "ARRAY" true) [.type "JSON"]
    some (.of (.cast false) [.of (.jsonExtract false true) [this, path], values])
  | "STRUCTEXTRACT", .postgres, [this, field] =>
    (fieldName? field).map fun id => .of .dot [this, .of (.name id) []]
  | _, _, _ => none

/-- The positions and the items of an array, each a column of its own. -/
def positionedItems (this : Node) (position item : Ident) : List Node :=
  let subscripts := plainCall "GENERATE_SUBSCRIPTS" [this, .num "1"]
  [.of (.aliased position) [.of (.binary .subtract) [subscripts, .num "1"]],
    .of (.aliased item) [plainCall "UNNEST" [this]]]

/-- An item of a select list, or the two columns that it stands for. -/
def splitPositions (n : Node) : List Node :=
  match n with
  | .mk (.call (.known "POSEXPLODE" _)) _ [this] =>
    positionedItems this ⟨"pos", false⟩ ⟨"col", false⟩
  | .mk (.aliases [position, item]) _ [.mk (.call (.known "POSEXPLODE" _)) _ [this]] =>
    positionedItems this position item
  | n => [n]

end SemanticLayer.Sql.Lowering
