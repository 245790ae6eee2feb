import SemanticLayer.Sql.Grammar

/-!
# Targets of rendering

A *target* says how SQL is written for one database: its quotes, its reserved words, the syntax it
has and lacks, and its names for functions and data types.
-/

namespace SemanticLayer.Sql

/-- How the number of rows is limited. -/
inductive LimitSyntax where
  | limit
  | fetch
  /-- Both forms are understood. -/
  | either
  deriving DecidableEq, Repr

inductive SubstringSyntax where
  | commas (name : String)
  /-- `SUBSTRING(x FROM a FOR b)`. -/
  | keywords
  deriving DecidableEq, Repr

/-- How dates are cut to a unit. -/
inductive TruncSyntax where
  /-- `DATE_TRUNC(unit, x)`. -/
  | unitFirst
  /-- `TRUNC(x, unit)`. -/
  | unitLast
  | byParts
  deriving DecidableEq, Repr

/-- How the place of a text in a text is asked for. -/
inductive PositionSyntax where
  /-- `POSITION(x IN s)`. -/
  | keywords
  /-- A call with the text first, and how many arguments it takes. -/
  | textFirst (name : String) (most : Nat)
  /-- A call with what is looked for first. -/
  | textLast (name : String)
  deriving DecidableEq, Repr

inductive IntegerDivision where
  | operator (word : String)
  | call (name : String)
  /-- A quotient that is converted. -/
  | quotient
  deriving DecidableEq, Repr

/-- How a text is compared with a pattern. -/
inductive PatternSyntax where
  /-- The operators with and without regard to letter case. -/
  | operators (exact anyCase : String)
  /-- A call, with a flag if letter case does not matter. -/
  | flagged (name : String)
  /-- A call for each comparison. -/
  | calls (exact anyCase : String)
  deriving DecidableEq, Repr

/-- How the texts of a group are joined. -/
inductive JoinSyntax where
  /-- The order of the texts stands after the arguments. -/
  | orderLast (name : String)
  /-- The separator stands after its keyword. -/
  | separator
  | plain
  deriving DecidableEq, Repr

/-- Joins that keep the rows of one table which have a match, or have none. -/
inductive SemiJoins where
  | sided
  | unsided
  /-- There are none: a condition says the same. -/
  | missing
  deriving DecidableEq, Repr

/-- How values that are filled in later are written. -/
inductive PlaceholderSyntax where
  | marked (mark : String)
  /-- `%s` and `%(name)s`. -/
  | percent
  deriving DecidableEq, Repr

/-- How samples of rows are written. -/
structure SampleSyntax where
  keyword : String
  /-- The keyword of a sample of a whole query. -/
  queryKeyword : String
  seed : String := "SEED"
  /-- ROWS is written after a number of rows. -/
  rowsWord : Bool := true
  /-- PERCENT is written after a share of the rows. -/
  percentWord : Bool := true
  /-- The sample of a table stands before its alias. -/
  first : Bool := false
  /-- The one way in which a number of rows is sampled. -/
  rowMethod : Option String := none
  deriving DecidableEq, Repr

inductive ArraySyntax where
  | brackets
  /-- `ARRAY[…]`. -/
  | keyword
  | call
  deriving DecidableEq, Repr

/-- How SQL is written for one database. -/
structure Target where
  /-- Whose functions are written. -/
  functions : Catalogue
  nameQuote : Char := '\x22'
  /-- Words that are never plain names, in lower case. -/
  reserved : List String := []
  /-- Names may begin with a digit. -/
  digitNames : Bool := false
  /-- Control characters and backslashes in strings are escaped by a backslash. -/
  backslashEscapes : Bool := false
  nestedComments : Bool := true
  nullOrder : NullOrder
  /-- NULLS FIRST and NULLS LAST are understood. -/
  nullOrderSyntax : Bool := true
  limits : LimitSyntax
  /-- OFFSET is followed by ROWS. -/
  offsetRows : Bool := false
  /-- SYMMETRIC and ASYMMETRIC are understood. -/
  betweenFlags : Bool := false
  /-- The alias of a table is marked by AS. -/
  tableAliasMark : Bool := true
  /-- `/` on integers gives an integer. -/
  typedDivision : Bool := false
  /-- Division by zero gives null. -/
  safeDivision : Bool := false
  /-- `||` joins strings. -/
  pipesJoin : Bool := true
  /-- `%` is a remainder. -/
  percentIsModulo : Bool := true
  hasIlike : Bool := true
  /-- IS DISTINCT FROM is understood. -/
  hasDistinctFrom : Bool := true
  /-- DISTINCT takes several arguments. -/
  manyDistinct : Bool := true
  /-- Aliases may be used in GROUP BY. -/
  groupsByAlias : Bool := true
  hasFullJoin : Bool := true
  hasLocks : Bool := true
  /-- VALUES may stand for a table. -/
  valuesAsTable : Bool := true
  /-- The unit of an interval stands in its string. -/
  intervalInString : Bool := false
  /-- `TRIM` takes the characters to remove before FROM. -/
  trimKeywords : Bool := true
  /-- Texts are trimmed at one side by functions of their own. -/
  sideTrims : Bool := false
  /-- The function that counts characters. -/
  characterLength : String := "LENGTH"
  keepsNvl : Bool := false
  currentTimestamp : String := "CURRENT_TIMESTAMP"
  substrings : SubstringSyntax := .commas "SUBSTRING"
  truncation : TruncSyntax
  integerDivision : IntegerDivision := .quotient
  /-- The operator or else the function of exclusive bits. -/
  bitXor : String := "^"
  bitXorIsCall : Bool := false
  /-- There is a cast that gives null where it fails. -/
  tryCast : Bool := true
  /-- LIKE takes ANY and ALL. -/
  likeQuantifiers : Bool := true
  patterns : PatternSyntax := .calls "REGEXP_LIKE" "REGEXP_I_LIKE"
  /-- AT TIME ZONE is understood. -/
  hasTimeZones : Bool := true
  placeholders : PlaceholderSyntax := .marked ":"
  /-- The mark of a variable of the session. -/
  parameterMark : String := "@"
  hasQualify : Bool := false
  hasDistinctOn : Bool := false
  semiJoins : SemiJoins := .sided
  /-- LIMIT takes only numbers. -/
  literalLimits : Bool := false
  samples : Option SampleSyntax := none
  hasHints : Bool := true
  /-- Tables may be followed by hints. -/
  tableHints : Bool := false
  hasPivots : Bool := false
  /-- INTO names a table that takes the rows of a query. -/
  selectsInto : Bool := false
  hasXor : Bool := true
  /-- Keys of JSON values are asked for by operators. -/
  jsonOperators : Bool := false
  /-- The mark between a key and its value in a JSON object. -/
  jsonPairMark : String := ":"
  /-- Units of intervals are written in the singular. -/
  singularUnits : Bool := false
  /-- Frames of windows may leave rows out. -/
  frameExclusion : Bool := true
  /-- What is said about nulls stands inside a call. -/
  nullsInCall : Bool := false
  /-- The order of a group stands inside a call. -/
  ordersInCall : Bool := false
  /-- The keyword for columns that a star leaves out. -/
  starExcept : String := "EXCEPT"
  positions : PositionSyntax
  joins : JoinSyntax := .plain
  arrays : ArraySyntax := .call
  /-- The first position in an array. -/
  firstIndex : Nat := 0
  /-- Functions of rows that also compare their arguments have another name for the latter. -/
  namesExtremes : Bool := false
  /-- The words of a pad must be given. -/
  padsWithText : Bool := false
  hasMedian : Bool := true
  hasNvl2 : Bool := false
  hasDecode : Bool := false
  /-- Names of functions that differ from the common ones, by kind. -/
  functionNames : List (String × String) := []
  /-- Values named without parentheses that are written as calls here. -/
  calledConstants : List String := []
  /-- Parts of a date are written under their usual names. -/
  usualDateParts : Bool := false
  /-- Names of data types that differ from the common ones. -/
  types : List (String × String) := []
  /-- Words after a data type and its sizes. -/
  typeSuffixes : List (String × String) := []
  /-- Data types that take no sizes. -/
  unsizedTypes : List String := []
  /-- Binary numbers with a size have a type of their own. -/
  sizedFloat : Option String := none
  /-- The name of texts of varying length without a size. -/
  unsizedVarchar : Option String := none
  /-- The types of arrays are written with brackets. -/
  arrayTypes : Bool := false
  /-- The marks around what a type holds. -/
  nestedMarks : String × String := ("<", ">")
  /-- Names of data types in casts. -/
  castTypes : List (String × String) := []
  /-- Casts to these types are calls of a function. -/
  castCalls : List (String × String) := []
  deriving DecidableEq, Repr

namespace Target

/-- Names of data types that most databases do not know, and what they use instead. -/
def commonTypes : List (String × String) :=
  [("DATETIME2", "TIMESTAMP"), ("NCHAR", "CHAR"), ("NVARCHAR", "VARCHAR"), ("MEDIUMTEXT", "TEXT"),
    ("LONGTEXT", "TEXT"), ("TINYTEXT", "TEXT"), ("BLOB", "VARBINARY"), ("MEDIUMBLOB", "BLOB"),
    ("LONGBLOB", "BLOB"), ("TINYBLOB", "BLOB"), ("INET", "INET"),
    ("SMALLDATETIME", "TIMESTAMP")]

def duckdb : Target where
  functions := .duckdb
  reserved := ["all", "analyse", "analyze", "and", "any", "array", "as", "asc_p", "asymmetric",
    "both", "case", "cast", "check_p", "collate", "column", "constraint", "create_p",
    "current_catalog", "current_date", "current_role", "current_time", "current_timestamp",
    "current_user", "default", "deferrable", "desc_p", "distinct", "do", "else", "end_p", "except",
    "false_p", "fetch", "for", "foreign", "from", "grant", "group_p", "having", "in_p", "initially",
    "intersect", "into", "lateral_p", "leading", "limit", "localtime", "localtimestamp", "not",
    "null_p", "offset", "on", "only", "or", "order", "placing", "primary", "references",
    "returning", "select", "session_user", "some", "symmetric", "table", "then", "to", "trailing",
    "true_p", "union", "unique", "user", "using", "variadic", "when", "where", "window", "with"]
  nullOrder := .last
  limits := .limit
  safeDivision := true
  manyDistinct := false
  hasLocks := false
  trimKeywords := false
  truncation := .unitFirst
  integerDivision := .operator "//"
  bitXor := "XOR"
  bitXorIsCall := true
  likeQuantifiers := false
  patterns := .flagged "REGEXP_MATCHES"
  placeholders := .marked "$"
  parameterMark := "$"
  hasQualify := true
  hasDistinctOn := true
  semiJoins := .unsided
  samples := some { keyword := "TABLESAMPLE", queryKeyword := "USING SAMPLE", seed := "REPEATABLE",
                    rowMethod := some "RESERVOIR" }
  hasHints := false
  hasPivots := true
  hasXor := false
  jsonPairMark := ","
  nullsInCall := true
  ordersInCall := true
  starExcept := "EXCLUDE"
  positions := .textFirst "STRPOS" 2
  joins := .orderLast "LISTAGG"
  arrays := .brackets
  firstIndex := 1
  padsWithText := true
  functionNames := [("APPROXDISTINCT", "APPROX_COUNT_DISTINCT"), ("VARIANCEPOP", "VAR_POP"),
    ("LOGICALAND", "BOOL_AND"), ("LOGICALOR", "BOOL_OR"), ("PERCENTILECONT", "QUANTILE_CONT"),
    ("PERCENTILEDISC", "QUANTILE_DISC"), ("RAND", "RANDOM"), ("SHA", "SHA1"),
    ("SPLIT", "STR_SPLIT"), ("DAYOFWEEK", "DAYOFWEEK"), ("DAYOFWEEKISO", "ISODOW"),
    ("DAYOFMONTH", "DAYOFMONTH"), ("DAYOFYEAR", "DAYOFYEAR"), ("WEEKOFYEAR", "WEEKOFYEAR"),
    ("DATEFROMPARTS", "MAKE_DATE"), ("ARRAYCONCAT", "LIST_CONCAT"), ("PARSEJSON", "JSON"),
    ("ARRAYSIZE", "ARRAY_LENGTH"), ("EXPLODE", "UNNEST"), ("ISNAN", "ISNAN"), ("ISINF", "ISINF"),
    ("ARRAYFILTER", "LIST_FILTER"), ("TRANSFORM", "LIST_TRANSFORM"),
    ("REGEXPSPLIT", "STR_SPLIT_REGEX"), ("COSINEDISTANCE", "LIST_COSINE_DISTANCE"),
    ("EUCLIDEANDISTANCE", "LIST_DISTANCE"), ("JSONOBJECTAGG", "JSON_GROUP_OBJECT"),
    ("TIMEFROMPARTS", "MAKE_TIME"), ("TIMESTAMPFROMPARTS", "MAKE_TIMESTAMP"),
    ("TIMETOUNIX", "EPOCH"), ("UNIXTOTIME", "TO_TIMESTAMP"), ("ARRAYSUM", "LIST_SUM"),
    ("BITWISEANDAGG", "BIT_AND"), ("BITWISEORAGG", "BIT_OR"), ("BITWISEXORAGG", "BIT_XOR"),
    ("DATEBIN", "TIME_BUCKET"), ("JSONBEXISTS", "JSON_EXISTS"), ("UNIXMILLIS", "EPOCH_MS"),
    ("UNIXMICROS", "EPOCH_US")]
  calledConstants := ["CURRENT_USER"]
  usualDateParts := true
  types := [("BINARY", "BLOB"), ("BPCHAR", "TEXT"), ("CHAR", "TEXT"), ("DATETIME", "TIMESTAMP"),
    ("FLOAT", "REAL"), ("JSONB", "JSON"), ("NCHAR", "TEXT"), ("NVARCHAR", "TEXT"),
    ("UINT", "UINTEGER"), ("VARBINARY", "BLOB"), ("ROWVERSION", "BLOB"), ("VARCHAR", "TEXT"),
    ("TIMESTAMPLTZ", "TIMESTAMPTZ"), ("TIMESTAMPNTZ", "TIMESTAMP"), ("TIMESTAMP_US", "TIMESTAMP")]
    ++ commonTypes
  unsizedTypes := ["TIME", "TIMETZ", "TIMESTAMPTZ"]
  arrayTypes := true
  nestedMarks := ("(", ")")

def postgres : Target where
  functions := .postgres
  nullOrder := .large
  limits := .either
  betweenFlags := true
  typedDivision := true
  manyDistinct := false
  intervalInString := true
  substrings := .keywords
  truncation := .unitFirst
  integerDivision := .call "DIV"
  bitXor := "#"
  tryCast := false
  patterns := .operators "~" "~*"
  placeholders := .percent
  parameterMark := "$"
  hasDistinctOn := true
  semiJoins := .missing
  samples := some { keyword := "TABLESAMPLE", queryKeyword := "TABLESAMPLE", seed := "REPEATABLE",
                    rowsWord := false, percentWord := false }
  hasHints := false
  selectsInto := true
  hasXor := false
  jsonOperators := true
  positions := .keywords
  joins := .orderLast "STRING_AGG"
  arrays := .keyword
  firstIndex := 1
  namesExtremes := true
  hasMedian := false
  functionNames := [("VARIANCE", "VAR_SAMP"), ("VARIANCEPOP", "VAR_POP"),
    ("LOGICALAND", "BOOL_AND"), ("LOGICALOR", "BOOL_OR"), ("RAND", "RANDOM"),
    ("UUID", "GEN_RANDOM_UUID"), ("UNICODE", "ASCII"), ("ARRAYSIZE", "ARRAY_LENGTH"),
    ("EXPLODE", "UNNEST"), ("ARRAYCONCAT", "ARRAY_CAT"), ("BITWISEANDAGG", "BIT_AND"),
    ("BITWISEORAGG", "BIT_OR"), ("BITWISEXORAGG", "BIT_XOR"),
    ("JSONOBJECTAGG", "JSON_OBJECT_AGG"), ("TIMEFROMPARTS", "MAKE_TIME"),
    ("TIMESTAMPFROMPARTS", "MAKE_TIMESTAMP"), ("UNIXTOTIME", "TO_TIMESTAMP")]
  calledConstants := ["CURRENT_TIME"]
  types := [("TINYINT", "SMALLINT"), ("FLOAT", "REAL"), ("DOUBLE", "DOUBLE PRECISION"),
    ("BINARY", "BYTEA"), ("VARBINARY", "BYTEA"), ("ROWVERSION", "BYTEA"), ("BLOB", "BYTEA"),
    ("DATETIME", "TIMESTAMP"), ("TIMESTAMPNTZ", "TIMESTAMP")] ++ commonTypes
  sizedFloat := some "FLOAT"
  arrayTypes := true

def mysql : Target where
  functions := .mysql
  nameQuote := '\x60'
  reserved := ["accessible", "add", "all", "alter", "analyze", "and", "as", "asc", "asensitive",
    "before", "between", "bigint", "binary", "blob", "both", "by", "call", "cascade", "case",
    "change", "char", "character", "check", "collate", "column", "condition", "constraint",
    "continue", "convert", "create", "cross", "cube", "cume_dist", "current_date", "current_time",
    "current_timestamp", "current_user", "cursor", "database", "databases", "day_hour",
    "day_microsecond", "day_minute", "day_second", "dec", "decimal", "declare", "default",
    "delayed", "delete", "dense_rank", "desc", "describe", "deterministic", "distinct",
    "distinctrow", "div", "double", "drop", "dual", "each", "else", "elseif", "empty", "enclosed",
    "escaped", "except", "exists", "exit", "explain", "false", "fetch", "first_value", "float",
    "float4", "float8", "for", "force", "foreign", "from", "fulltext", "function", "generated",
    "get", "grant", "group", "grouping", "groups", "having", "high_priority", "hour_microsecond",
    "hour_minute", "hour_second", "if", "ignore", "in", "index", "infile", "inner", "inout",
    "insensitive", "insert", "int", "int1", "int2", "int3", "int4", "int8", "integer", "intersect",
    "interval", "into", "io_after_gtids", "io_before_gtids", "is", "iterate", "join", "json_table",
    "key", "keys", "kill", "lag", "last_value", "lateral", "lead", "leading", "leave", "left",
    "like", "limit", "linear", "lines", "load", "localtime", "localtimestamp", "lock", "long",
    "longblob", "longtext", "loop", "low_priority", "master_bind", "master_ssl_verify_server_cert",
    "match", "maxvalue", "mediumblob", "mediumint", "mediumtext", "middleint", "minute_microsecond",
    "minute_second", "mod", "modifies", "natural", "not", "no_write_to_binlog", "nth_value",
    "ntile", "null", "numeric", "of", "on", "optimize", "optimizer_costs", "option", "optionally",
    "or", "order", "out", "outer", "outfile", "over", "partition", "percent_rank", "precision",
    "primary", "procedure", "purge", "range", "rank", "read", "reads", "read_write", "real",
    "recursive", "references", "regexp", "release", "rename", "repeat", "replace", "require",
    "resignal", "restrict", "return", "revoke", "right", "rlike", "row", "rows", "row_number",
    "schema", "schemas", "second_microsecond", "select", "sensitive", "separator", "set", "show",
    "signal", "smallint", "spatial", "specific", "sql", "sqlexception", "sqlstate", "sqlwarning",
    "sql_big_result", "sql_calc_found_rows", "sql_small_result", "ssl", "starting", "stored",
    "straight_join", "system", "table", "terminated", "then", "tinyblob", "tinyint", "tinytext",
    "to", "trailing", "trigger", "true", "undo", "union", "unique", "unlock", "unsigned", "update",
    "usage", "use", "using", "utc_date", "utc_time", "utc_timestamp", "values", "varbinary",
    "varchar", "varcharacter", "varying", "virtual", "when", "where", "while", "window", "with",
    "write", "xor", "year_month", "zerofill"]
  digitNames := true
  backslashEscapes := true
  nestedComments := false
  nullOrder := .small
  nullOrderSyntax := false
  limits := .limit
  safeDivision := true
  pipesJoin := false
  hasIlike := false
  hasDistinctFrom := false
  hasFullJoin := false
  valuesAsTable := false
  characterLength := "CHAR_LENGTH"
  currentTimestamp := "CURRENT_TIMESTAMP()"
  truncation := .byParts
  tryCast := false
  hasTimeZones := false
  semiJoins := .missing
  literalLimits := true
  tableHints := true
  jsonPairMark := ","
  singularUnits := true
  frameExclusion := false
  positions := .textLast "LOCATE"
  joins := .separator
  namesExtremes := true
  padsWithText := true
  hasMedian := false
  functionNames := [("LOGICALAND", "MIN"), ("LOGICALOR", "MAX"), ("CHR", "CHAR"),
    ("ARRAYAGG", "GROUP_CONCAT"), ("DAYOFWEEK", "DAYOFWEEK"), ("DAYOFMONTH", "DAYOFMONTH"),
    ("DAYOFYEAR", "DAYOFYEAR"), ("WEEKOFYEAR", "WEEKOFYEAR"), ("TIMETOSTR", "DATE_FORMAT"),
    ("STRTOTIME", "STR_TO_DATE"), ("ARRAYSIZE", "ARRAY_LENGTH"), ("STUFF", "INSERT"),
    ("NUMBERTOSTR", "FORMAT"), ("TIMEFROMPARTS", "MAKETIME"), ("TIMESTRTOUNIX", "UNIX_TIMESTAMP"),
    ("UNIXTOTIME", "FROM_UNIXTIME"), ("TSORDSTODATE", "DATE"), ("BITWISEANDAGG", "BIT_AND"),
    ("BITWISEORAGG", "BIT_OR"), ("BITWISEXORAGG", "BIT_XOR")]
  calledConstants := ["CURRENT_TIME", "CURRENT_USER"]
  types := [("NCHAR", "CHAR"), ("NVARCHAR", "VARCHAR"), ("TIMESTAMP", "DATETIME"),
    ("TIMESTAMPNTZ", "DATETIME"), ("TIMESTAMPTZ", "TIMESTAMP"), ("TIMESTAMPLTZ", "TIMESTAMP"),
    ("DATETIME2", "DATETIME"), ("SMALLDATETIME", "DATETIME"), ("BLOB", "BLOB"),
    ("UBIGINT", "BIGINT"), ("UINT", "INT"), ("UMEDIUMINT", "MEDIUMINT"),
    ("USMALLINT", "SMALLINT"), ("UTINYINT", "TINYINT"), ("UDECIMAL", "DECIMAL"),
    ("UDOUBLE", "DOUBLE")]
  typeSuffixes := [("UBIGINT", " UNSIGNED"), ("UINT", " UNSIGNED"), ("UMEDIUMINT", " UNSIGNED"),
    ("USMALLINT", " UNSIGNED"), ("UTINYINT", " UNSIGNED"), ("UDECIMAL", " UNSIGNED"),
    ("UDOUBLE", " UNSIGNED")]
  unsizedVarchar := some "TEXT"
  castTypes := [("TEXT", "CHAR"), ("VARCHAR", "CHAR"), ("LONGTEXT", "CHAR"),
    ("MEDIUMTEXT", "CHAR"), ("TINYTEXT", "CHAR"), ("LONGBLOB", "CHAR"), ("MEDIUMBLOB", "CHAR"),
    ("TINYBLOB", "CHAR"), ("BIGINT", "SIGNED"), ("BOOLEAN", "SIGNED"), ("INT", "SIGNED"),
    ("MEDIUMINT", "SIGNED"), ("SMALLINT", "SIGNED"), ("TINYINT", "SIGNED"),
    ("UBIGINT", "UNSIGNED")]
  castCalls := [("TIMESTAMPTZ", "TIMESTAMP"), ("TIMESTAMPLTZ", "TIMESTAMP")]

def oracle : Target where
  functions := .oracle
  nestedComments := false
  nullOrder := .large
  limits := .fetch
  offsetRows := true
  tableAliasMark := false
  percentIsModulo := false
  hasIlike := false
  groupsByAlias := false
  sideTrims := true
  keepsNvl := true
  substrings := .commas "SUBSTR"
  truncation := .unitLast
  samples := some { keyword := "SAMPLE", queryKeyword := "SAMPLE", percentWord := false,
                    first := true }
  hasPivots := true
  selectsInto := true
  positions := .textFirst "INSTR" 4
  hasNvl2 := true
  hasDecode := true
  functionNames := [("LOGICALAND", "MIN"), ("LOGICALOR", "MAX"), ("RAND", "DBMS_RANDOM.VALUE"),
    ("TIMETOSTR", "TO_CHAR"), ("STRTODATE", "TO_DATE"), ("STRTOTIME", "TO_TIMESTAMP"),
    ("ARRAYSIZE", "ARRAY_LENGTH"), ("EUCLIDEANDISTANCE", "L2_DISTANCE")]
  calledConstants := ["CURRENT_TIME", "CURRENT_USER"]
  types := [("TINYINT", "SMALLINT"), ("BIGINT", "INT"), ("DECIMAL", "NUMBER"),
    ("DOUBLE", "DOUBLE PRECISION"), ("VARCHAR", "VARCHAR2"), ("NVARCHAR", "NVARCHAR2"),
    ("TEXT", "CLOB"), ("TIMETZ", "TIME"), ("TIMESTAMPNTZ", "TIMESTAMP"),
    ("TIMESTAMPTZ", "TIMESTAMP"), ("BINARY", "BLOB"), ("VARBINARY", "BLOB"),
    ("ROWVERSION", "BLOB"), ("NCHAR", "NCHAR")] ++ commonTypes
  typeSuffixes := [("TIMETZ", " WITH TIME ZONE"), ("TIMESTAMPTZ", " WITH TIME ZONE")]

def typeName (t : Target) (name : String) : String := (t.types.lookup name).getD name

/-- The name of a function of a kind that is usually called `name`. -/
def functionName (t : Target) (kind name : String) : String :=
  (t.functionNames.lookup kind).getD name

end Target

end SemanticLayer.Sql
