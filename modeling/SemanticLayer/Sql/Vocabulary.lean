/-!
# Words of SQL

Which words and marks the reader knows, whatever the dialect: the marks that stand alone, the
operators of several marks, the keywords of several words, the words that are never names, the
keywords that are no function names, and the names of data types.
-/

namespace SemanticLayer.Sql.Vocabulary

/-- Marks that end a word and are tokens of their own. -/
def marks : List Char :=
  ['(', ')', '[', ']', '\x7b', '\x7d', '&', '^', ':', ',', '-', '.', '=', '>', '<', '%', '!', '/',
    '\\', '+', ';', '*', '~', '?', '@', '#', '|', '\x27', '\x22', '\x60']

/-- Operators of more than one mark, longest first, with the marks of template blocks, which no rule
takes. -/
def operators : List String :=
  ["\x7b%+", "\x7b%-", "\x7b\x7b+", "\x7b\x7b-", "+%\x7d", "-%\x7d", "+\x7d\x7d", "-\x7d\x7d",
    "\x7b%", "%\x7d", "<=>", "->>", "#>>", "<->", "~~~", "~~*", "-|-",
    "==", "::", "||", "|>", ">=", "<=", "<>", "!=", ":=", "->", "=>", "#>", "&&", "??", "~~", "~*",
    "&<", "&>"]

/-- Keywords of several words. Any run of blanks may stand between the words. -/
def phrases : List (List String) :=
  [["GROUP", "BY"], ["ORDER", "BY"], ["PARTITION", "BY"],
    ["CLUSTER", "BY"], ["DISTRIBUTE", "BY"], ["SORT", "BY"], ["CONNECT", "BY"], ["START", "WITH"],
    ["PRIMARY", "KEY"], ["FOREIGN", "KEY"], ["GROUPING", "SETS"], ["SIMILAR", "TO"],
    ["DOUBLE", "PRECISION"], ["CHAR", "VARYING"], ["CHARACTER", "VARYING"], ["CHARACTER", "SET"],
    ["FOR", "TIMESTAMP"], ["FOR", "VERSION"]]

/-- Words that are never plain names. -/
def reserved : List String :=
  ["AND", "AS", "BETWEEN", "UNCACHE", "CREATE", "CROSS", "DISTINCT", "DROP", "ELSE", "EXCEPT",
    "FETCH", "FOR", "FROM", "GLOB", "HAVING", "ILIKE", "IN", "INNER", "INSERT", "INTERSECT", "INTO",
    "JOIN", "LATERAL", "LIKE", "NOT", "NOTNULL", "ON", "OR", "XOR", "OUT", "OUTER", "OVER",
    "QUALIFY", "REGEXP", "RETURNING", "RLIKE", "ROLLBACK", "SELECT", "STRAIGHT_JOIN", "TABLESAMPLE",
    "THEN", "UNION", "USING", "VALUES", "WHEN", "WHERE", "WITH", "ALTER", "ANALYZE", "GRANT",
    "GROUP BY", "ORDER BY", "PARTITION BY", "CLUSTER BY", "DISTRIBUTE BY", "SORT BY",
    "CONNECT BY", "START WITH", "PRIMARY KEY", "FOREIGN KEY", "GROUPING SETS",
    "SIMILAR TO", "CHARACTER SET", "FOR TIMESTAMP", "FOR VERSION"]

/-- Words that are names elsewhere but do not name a table of a FROM clause: they begin its joins
and locks. -/
def notTableAliases : List String :=
  ["ANTI", "ASOF", "FULL", "LEFT", "LOCK", "NATURAL", "RIGHT", "SEMI", "WINDOW"]

/-- Keywords that name no function, even before a parenthesis. -/
def notFunctions : List String :=
  ["AND", "ANTI", "ASC", "AS", "ASOF", "AUTOINCREMENT", "AUTO_INCREMENT", "BEGIN", "BETWEEN",
    "CACHE", "UNCACHE", "CASE", "COLUMN", "COMMENT", "COMMIT", "CONSTRAINT", "COPY", "CREATE",
    "CROSS", "CUBE", "DATABASE", "DEFAULT", "DELETE", "DESC", "DESCRIBE", "DISTINCT", "DIV", "DROP",
    "ELSE", "END", "ESCAPE", "EXCEPT", "EXECUTE", "FALSE", "FETCH", "FULL", "FUNCTION", "FOR",
    "FROM", "HAVING", "IN", "INNER", "INTERSECT", "INTO", "IS", "JOIN", "KEEP", "KILL", "LATERAL",
    "LIMIT", "LOAD", "LOCK", "NAMESPACE", "NATURAL", "NOT", "NOTNULL", "ON", "OR", "ORDINALITY",
    "OUT", "OUTER", "OVER", "OVERLAPS", "OVERWRITE", "PARTITION", "PERCENT", "PIVOT", "PRAGMA",
    "PROCEDURE", "OPERATOR", "QUALIFY", "RECURSIVE", "RENAME", "RETURNING", "REFERENCES",
    "ROLLBACK", "ROLLUP", "ROWS", "SCHEMA", "SELECT", "SEMI", "SET", "SETTINGS", "SHOW",
    "STRAIGHT_JOIN", "TABLESAMPLE", "TEMP", "TEMPORARY", "THEN", "TRUE", "UNION", "UNIQUE",
    "UNPIVOT", "UPDATE", "USE", "USING", "VALUES", "VIEW", "VOLATILE", "WHEN", "WHERE", "WITH",
    "APPLY", "ALTER", "ANALYZE", "GRANT", "GROUP BY", "ORDER BY", "PARTITION BY",
    "CLUSTER BY", "DISTRIBUTE BY", "SORT BY", "CONNECT BY", "START WITH",
    "PRIMARY KEY", "FOREIGN KEY", "GROUPING SETS", "SIMILAR TO", "CHARACTER SET", "FOR TIMESTAMP",
    "FOR VERSION"]

/-- Keywords that may be names and may name functions. -/
def softKeywords : List String :=
  ["ALL", "ANY", "CALL", "COLLATE", "CURRENT_DATE", "CURRENT_DATETIME", "CURRENT_SCHEMA",
    "CURRENT_TIME", "CURRENT_TIMESTAMP", "CURRENT_USER", "ENUM", "EXISTS", "EXPLAIN", "FILTER",
    "FINAL", "FIRST", "FORMAT", "GET", "INDEX", "ISNULL", "LEFT", "LOCALTIME", "LOCALTIMESTAMP",
    "MERGE", "MODEL", "NEXT", "OFFSET", "PUT", "RANGE", "REFRESH", "REPLACE", "RIGHT", "ROW",
    "SEQUENCE", "SOME", "SUMMARIZE", "TABLE", "TAG", "TOP", "TRUNCATE", "UNIQUE", "UNNEST",
    "WINDOW"]

/-- Words that name the character set of the string after them. -/
def characterSets : List String :=
  ["_ARMSCII8", "_ASCII", "_BIG5", "_BINARY", "_CP1250", "_CP1251", "_CP1256", "_CP1257", "_CP850",
    "_CP852", "_CP866", "_CP932", "_DEC8", "_EUCJPMS", "_EUCKR", "_GB18030", "_GB2312", "_GBK",
    "_GEOSTD8", "_GREEK", "_HEBREW", "_HP8", "_KEYBCS2", "_KOI8R", "_KOI8U", "_LATIN1", "_LATIN2",
    "_LATIN5", "_LATIN7", "_MACCE", "_MACROMAN", "_SJIS", "_SWE7", "_TIS620", "_UCS2", "_UJIS",
    "_UTF8", "_UTF16", "_UTF16LE", "_UTF32", "_UTF8MB3", "_UTF8MB4"]

/-- Names of data types and the type each stands for. -/
def types : List (String × String) :=
  [("BIT", "BIT"), ("BOOL", "BOOLEAN"), ("BOOLEAN", "BOOLEAN"),
    ("BYTE", "TINYINT"), ("TINYINT", "TINYINT"), ("INT1", "TINYINT"), ("INT8", "TINYINT"),
    ("SHORT", "SMALLINT"), ("SMALLINT", "SMALLINT"), ("INT2", "SMALLINT"), ("INT16", "SMALLINT"),
    ("MEDIUMINT", "MEDIUMINT"), ("INT", "INT"), ("INTEGER", "INT"), ("INT4", "INT"),
    ("INT32", "INT"), ("LONG", "BIGINT"), ("BIGINT", "BIGINT"), ("INT64", "BIGINT"),
    ("HUGEINT", "INT128"), ("INT128", "INT128"), ("INT256", "INT256"),
    ("UINT", "UINT"), ("UHUGEINT", "UINT128"), ("UINT128", "UINT128"), ("UINT256", "UINT256"),
    ("DEC", "DECIMAL"), ("DECIMAL", "DECIMAL"), ("NUMBER", "DECIMAL"), ("NUMERIC", "DECIMAL"),
    ("FIXED", "DECIMAL"), ("DECIMAL32", "DECIMAL32"), ("DECIMAL64", "DECIMAL64"),
    ("DECIMAL128", "DECIMAL128"), ("DECIMAL256", "DECIMAL256"), ("BIGDECIMAL", "BIGDECIMAL"),
    ("BIGNUMERIC", "BIGDECIMAL"), ("REAL", "FLOAT"), ("FLOAT", "FLOAT"), ("FLOAT4", "FLOAT"),
    ("FLOAT8", "DOUBLE"), ("DOUBLE", "DOUBLE"), ("DOUBLE PRECISION", "DOUBLE"),
    ("JSON", "JSON"), ("JSONB", "JSONB"),
    ("CHAR", "CHAR"), ("CHARACTER", "CHAR"), ("NCHAR", "NCHAR"), ("BPCHAR", "BPCHAR"),
    ("VARCHAR", "VARCHAR"), ("VARCHAR2", "VARCHAR"), ("CHAR VARYING", "VARCHAR"),
    ("CHARACTER VARYING", "VARCHAR"), ("NVARCHAR", "NVARCHAR"), ("NVARCHAR2", "NVARCHAR"),
    ("STR", "TEXT"), ("STRING", "TEXT"), ("TEXT", "TEXT"), ("CLOB", "TEXT"),
    ("LONGVARCHAR", "TEXT"), ("LONGTEXT", "LONGTEXT"), ("MEDIUMTEXT", "MEDIUMTEXT"),
    ("TINYTEXT", "TINYTEXT"), ("LONGBLOB", "LONGBLOB"), ("MEDIUMBLOB", "MEDIUMBLOB"),
    ("TINYBLOB", "TINYBLOB"), ("BINARY", "BINARY"), ("BLOB", "VARBINARY"),
    ("BYTEA", "VARBINARY"), ("VARBINARY", "VARBINARY"),
    ("TIME", "TIME"), ("TIMETZ", "TIMETZ"), ("TIME_NS", "TIME_NS"), ("TIMESTAMP", "TIMESTAMP"),
    ("TIMESTAMPTZ", "TIMESTAMPTZ"), ("TIMESTAMPLTZ", "TIMESTAMPLTZ"),
    ("TIMESTAMP_LTZ", "TIMESTAMPLTZ"), ("TIMESTAMPNTZ", "TIMESTAMPNTZ"),
    ("TIMESTAMP_NTZ", "TIMESTAMPNTZ"), ("DATE", "DATE"), ("DATETIME", "DATETIME"),
    ("INTERVAL", "INTERVAL"), ("UUID", "UUID"), ("GEOGRAPHY", "GEOGRAPHY"),
    ("GEOMETRY", "GEOMETRY"), ("INET", "INET"), ("VARIANT", "VARIANT"),
    ("INT4RANGE", "INT4RANGE"), ("INT8RANGE", "INT8RANGE"), ("NUMRANGE", "NUMRANGE"),
    ("TSRANGE", "TSRANGE"), ("TSTZRANGE", "TSTZRANGE"), ("DATERANGE", "DATERANGE"),
    ("INT4MULTIRANGE", "INT4MULTIRANGE"), ("INT8MULTIRANGE", "INT8MULTIRANGE"),
    ("NUMMULTIRANGE", "NUMMULTIRANGE"), ("TSMULTIRANGE", "TSMULTIRANGE"),
    ("TSTZMULTIRANGE", "TSTZMULTIRANGE"), ("DATEMULTIRANGE", "DATEMULTIRANGE"),
    ("VECTOR", "VECTOR"),
    ("ARRAY", "ARRAY"), ("LIST", "LIST"), ("MAP", "MAP"), ("STRUCT", "STRUCT"),
    ("OBJECT", "OBJECT"), ("RANGE", "RANGE"), ("NULL", "NULL"), ("UNKNOWN", "UNKNOWN")]

/-- Types that hold values of other types. -/
def nestedTypes : List String := ["ARRAY", "LIST", "MAP", "STRUCT", "OBJECT", "RANGE"]

/-- Types that hold fields with names. -/
def recordTypes : List String := ["STRUCT", "OBJECT"]

/-- Whole number types and the type without negative numbers of the same size. -/
def unsignedTypes : List (String × String) :=
  [("BIGINT", "UBIGINT"), ("INT", "UINT"), ("MEDIUMINT", "UMEDIUMINT"), ("SMALLINT", "USMALLINT"),
    ("TINYINT", "UTINYINT"), ("DECIMAL", "UDECIMAL"), ("DOUBLE", "UDOUBLE")]

end SemanticLayer.Sql.Vocabulary
