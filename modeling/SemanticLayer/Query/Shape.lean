import SemanticLayer.Sql.Tree

/-!
# Shapes of statements

A statement can be compiled if it is a SELECT, perhaps with an order, or a query with a WITH clause.
Other statements are named by their kind.
-/

namespace SemanticLayer.Query

open Sql

/-- The shapes of queries that can be compiled. -/
inductive Shape where
  | select
  | orderedSelect
  | withQuery
  deriving DecidableEq, Repr

def Shape.name : Shape → String
  | select => "select"
  | orderedSelect => "order_by"
  | withQuery => "with"

/-- The kind of an operation with one operand. -/
def unaryKind : UnaryOp → String
  | .not => "NOT"
  | .minus => "NEG"
  | .bitNot => "BITWISENOT"

/-- The kind of an operation with two operands. -/
def binaryKind : BinaryOp → String
  | .and => "AND"
  | .or => "OR"
  | .xor => "XOR"
  | .equal => "EQ"
  | .notEqual => "NEQ"
  | .nullSafeEqual => "NULLSAFEEQ"
  | .distinctFrom => "NULLSAFENEQ"
  | .less => "LT"
  | .lessEqual => "LTE"
  | .greater => "GT"
  | .greaterEqual => "GTE"
  | .is => "IS"
  | .like => "LIKE"
  | .ilike => "ILIKE"
  | .glob => "GLOB"
  | .matchesPattern => "REGEXPLIKE"
  | .matchesAnyCase => "REGEXPILIKE"
  | .overlaps => "OVERLAPS"
  | .containsAll => "ARRAYCONTAINSALL"
  | .sharesItem => "ARRAYOVERLAPS"
  | .extendsLeft => "EXTENDSLEFT"
  | .extendsRight => "EXTENDSRIGHT"
  | .adjacent => "ADJACENT"
  | .atPath => "JSONBEXTRACT"
  | .textAtPath => "JSONBEXTRACTSCALAR"
  | .hasKey => "JSONBCONTAINS"
  | .hasAnyKey => "JSONBCONTAINSANYTOPKEYS"
  | .hasAllKeys => "JSONBCONTAINSALLTOPKEYS"
  | .withoutPath => "JSONBDELETEATPATH"
  | .named _ => "OPERATOR"
  | .similarTo => "SIMILARTO"
  | .escape => "ESCAPE"
  | .bitAnd => "BITWISEAND"
  | .bitOr => "BITWISEOR"
  | .bitXor => "BITWISEXOR"
  | .shiftLeft => "BITWISELEFTSHIFT"
  | .shiftRight => "BITWISERIGHTSHIFT"
  | .join => "DPIPE"
  | .add => "ADD"
  | .subtract => "SUB"
  | .modulo => "MOD"
  | .collate => "COLLATE"
  | .multiply => "MUL"
  | .divide .. => "DIV"
  | .intDivide => "INTDIV"
  | .distance => "DISTANCE"
  | .power => "POW"
  | .assign => "PROPERTYEQ"

def functionKind : Function → String
  | .known kind _ => kind
  | .unknown .. => "ANONYMOUS"
  | .constant kind _ => kind
  | .currentTimestamp => "CURRENTTIMESTAMP"
  | .length _ => "LENGTH"
  | .substring => "SUBSTRING"
  | .trim _ => "TRIM"
  | .concat => "CONCAT"
  | .joinGroup => "GROUPCONCAT"
  | .dateTrunc timestamp => if timestamp then "TIMESTAMPTRUNC" else "DATETRUNC"

/-- The kind of a string with a letter in front. -/
def taggedKind (tag : Char) : String :=
  match tag.toUpper with
  | 'N' => "NATIONAL"
  | 'B' => "BITSTRING"
  | 'X' => "HEXSTRING"
  | _ => "BYTESTRING"

/-- The longest path that names a column. -/
def columnParts : Nat := 4

def kind : Head → String
  | .name _ => "IDENTIFIER"
  | .column path => if path.length ≤ columnParts then "COLUMN" else "DOT"
  | .star qualifier => if qualifier.isEmpty then "STAR" else "COLUMN"
  | .string _ | .number _ => "LITERAL"
  | .taggedString tag _ => taggedKind tag
  | .null => "NULL"
  | .boolean _ => "BOOLEAN"
  | .placeholder _ => "PLACEHOLDER"
  | .parameter => "PARAMETER"
  | .systemVariable _ => "SESSIONPARAMETER"
  | .starClause _ | .keyword _ => "VAR"
  | .paren => "PAREN"
  | .tuple => "TUPLE"
  | .unary op => unaryKind op
  | .binary op => binaryKind op
  | .between .. => "BETWEEN"
  | .memberOf => "JSONARRAYCONTAINS"
  | .outerMark => "COLUMN"
  | .inList | .inQuery | .inField => "IN"
  | .caseOf | .caseOperand | .caseElse => "CASE"
  | .caseArm | .ifThen => "IF"
  | .cast lenient => if lenient then "TRYCAST" else "CAST"
  | .dataType .. => "DATATYPE"
  | .typeSize _ => "DATATYPEPARAM"
  | .typeField _ => "COLUMNDEF"
  | .call f => functionKind f
  | .distinctArgs | .distinct => "DISTINCT"
  | .orderedArg | .orderedArgs | .orderBy => "ORDER"
  | .namedArg _ => "KWARG"
  | .lambda .. => "LAMBDA"
  | .limitedArg | .limit _ => "LIMIT"
  | .nullsArg keyword => if keyword == "IGNORE NULLS" then "IGNORENULLS" else "RESPECTNULLS"
  | .wordedArg _ | .leadingWord _ => "VAR"
  | .filter => "FILTER"
  | .withinGroup => "WITHINGROUP"
  | .window _ | .keep .. | .windowDefinition .. | .partitionBy => "WINDOW"
  | .frame .. => "WINDOWSPEC"
  | .exists => "EXISTS"
  | .anyOf => "ANY"
  | .allOf => "ALL"
  | .interval _ => "INTERVAL"
  | .extract => "EXTRACT"
  | .atTimeZone => "ATTIMEZONE"
  | .prior => "PRIOR"
  | .connectRoot => "CONNECTBYROOT"
  | .nextValue => "NEXTVALUEFOR"
  | .search _ => "MATCHAGAINST"
  | .dot => "DOT"
  | .index => "BRACKET"
  | .slice => "SLICE"
  | .array => "ARRAY"
  | .comprehension => "COMPREHENSION"
  | .record => "STRUCT"
  | .recordField => "PROPERTYEQ"
  | .jsonPair => "JSONKEYVALUE"
  | .jsonTable _ => "JSONTABLE"
  | .jsonColumns => "JSONSCHEMA"
  | .jsonColumn .. => "JSONCOLUMNDEF"
  | .jsonExtract scalar _ => if scalar then "JSONEXTRACTSCALAR" else "JSONEXTRACT"
  | .jsonPath _ => "JSONPATH"
  | .aliased _ => "ALIAS"
  | .aliases _ => "ALIASES"
  | .select => "SELECT"
  | .setOperation op _ _ => op
  | .subquery _ => "SUBQUERY"
  | .table .. | .tableCall .. => "TABLE"
  | .values _ => "VALUES"
  | .unnest .. => "UNNEST"
  | .lateral .. | .lateralView .. => "LATERAL"
  | .tableHint keyword => if keyword == "WITH" then "WITHTABLEHINT" else "INDEXTABLEHINT"
  | .tableOnly | .tablePartition => "PARTITION"
  | .tableVersion _ => "VERSION"
  | .tableMoment .. => "HISTORICALDATA"
  | .pivot .. | .pivotQuery _ | .pivotClause _ => "PIVOT"
  | .pivotField => "IN"
  | .withClause _ => "WITH"
  | .cte .. => "CTE"
  | .hint => "HINT"
  | .hintCall _ => "ANONYMOUS"
  | .runOption _ | .rowKind _ => "VAR"
  | .projections => "EXPRESSIONS"
  | .into => "INTO"
  | .fromClause => "FROM"
  | .join .. => "JOIN"
  | .onClause => "ON"
  | .usingClause => "USING"
  | .whereClause => "WHERE"
  | .startWith | .connectBy _ => "CONNECT"
  | .groupBy _ => "GROUP"
  | .grouping keyword => keyword
  | .having => "HAVING"
  | .qualify => "QUALIFY"
  | .windows => "WINDOWS"
  | .sortClause _ => "SORT"
  | .ordered .. => "ORDERED"
  | .fill => "WITHFILL"
  | .fillBound _ => "VAR"
  | .fetch .. => "FETCH"
  | .offset => "OFFSET"
  | .lock .. => "LOCK"
  | .sample .. => "TABLESAMPLE"
  | .insert .. => "INSERT"
  | .update => "UPDATE"
  | .setClause => "SET"
  | .delete => "DELETE"
  | .create _ => "CREATE"
  | .drop _ => "DROP"
  | .truncate => "TRUNCATETABLE"
  | .statement kind => kind
  | .returning => "RETURNING"
  | .describe => "DESCRIBE"
  | .use _ => "USE"
  | .commit => "COMMIT"
  | .rollback => "ROLLBACK"
  | .transaction => "TRANSACTION"
  | .command .. => "COMMAND"
  | .semicolon => "SEMICOLON"

/-- The shape of a statement, or its kind if it cannot be compiled. -/
def shape (n : Node) : Except String Shape :=
  if n.head.isBareQuery && (n.find? Head.isWith).isSome then .ok .withQuery
  else if n.head == .select then
    .ok (if (n.find? Head.isOrder).isSome then .orderedSelect else .select)
  else .error (kind n.head)

end SemanticLayer.Query
