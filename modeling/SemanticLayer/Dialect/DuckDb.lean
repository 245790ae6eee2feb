import SemanticLayer.Dialect.Basic

/-!
# DuckDB

Names are not quoted, and numbers in a boolean column are truth values.
-/

namespace SemanticLayer.Dialect

namespace DuckDb

/-- Column types by name. -/
def nativeTypes : List (String × AnsiType) :=
  [("TINYINT", .tinyint), ("UTINYINT", .tinyint), ("SMALLINT", .smallint),
    ("USMALLINT", .smallint), ("INTEGER", .integer), ("INT", .integer), ("UINTEGER", .integer),
    ("BIGINT", .bigint), ("INT8", .bigint), ("LONG", .bigint), ("UBIGINT", .bigint),
    ("HUGEINT", .bigint), ("DECIMAL", .decimal), ("NUMERIC", .decimal), ("REAL", .float),
    ("FLOAT", .float), ("FLOAT4", .float), ("DOUBLE", .double), ("FLOAT8", .double),
    ("BOOLEAN", .boolean), ("BOOL", .boolean), ("LOGICAL", .boolean), ("CHAR", .char),
    ("VARCHAR", .varchar), ("BPCHAR", .varchar), ("STRING", .varchar), ("TEXT", .text),
    ("BINARY", .binary), ("VARBINARY", .varbinary), ("BLOB", .blob), ("BYTEA", .blob),
    ("DATE", .date), ("TIME", .time), ("TIMESTAMP", .timestamp), ("DATETIME", .timestamp),
    ("TIMESTAMPTZ", .timestamp), ("INTERVAL", .varchar), ("UUID", .varchar), ("JSON", .text),
    ("BIT", .binary), ("BITSTRING", .binary), ("ARRAY", .text), ("LIST", .text),
    ("STRUCT", .struct), ("MAP", .text), ("UNION", .text), ("ENUM", .varchar)]

def booleanTypes : List String := ["BOOLEAN", "BOOL", "LOGICAL"]

/-- Numbers in a boolean column are true unless they are zero. -/
def convert (native : String) (v : Value) : Except ConversionError Value :=
  if booleanTypes.contains (Text.upper native) then
    match v with
    | .int n => .ok (.bool (n != 0))
    | .float x => .ok (.bool !x.isZero)
    | v => .ok v
  else .ok v

end DuckDb

def duckdb : Dialect where
  name := "duckdb"
  label := "DuckDBAdapter()"
  grammarName := "duckdb"
  grammar := .duckdb
  target := .duckdb
  quote := none
  nativeTypes := DuckDb.nativeTypes
  cut expr g := "DATE_TRUNC('" ++ g.name ++ "', " ++ expr ++ ")"
  convert := DuckDb.convert

end SemanticLayer.Dialect
