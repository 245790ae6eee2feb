import SemanticLayer.Dialect.Basic

/-!
# MySQL

A `TINYINT` of one digit is a boolean, as is a `BIT`. MySQL has no function that cuts a time: it is
formatted without its finer parts.
-/

namespace SemanticLayer.Dialect

namespace MySql

/-- Column types by name. -/
def nativeTypes : List (String × AnsiType) :=
  [("SMALLINT", .smallint), ("MEDIUMINT", .integer), ("INT", .integer), ("INTEGER", .integer),
    ("BIGINT", .bigint), ("DECIMAL", .decimal), ("DEC", .decimal), ("NUMERIC", .decimal),
    ("FLOAT", .float), ("DOUBLE", .double), ("DOUBLE PRECISION", .double), ("REAL", .double),
    ("BIT", .boolean), ("BOOL", .boolean), ("BOOLEAN", .boolean), ("CHAR", .char),
    ("VARCHAR", .varchar), ("TEXT", .text), ("TINYTEXT", .text), ("MEDIUMTEXT", .text),
    ("LONGTEXT", .text), ("BINARY", .binary), ("VARBINARY", .varbinary), ("BLOB", .blob),
    ("TINYBLOB", .blob), ("MEDIUMBLOB", .blob), ("LONGBLOB", .blob), ("DATE", .date),
    ("TIME", .time), ("DATETIME", .timestamp), ("TIMESTAMP", .timestamp), ("YEAR", .smallint),
    ("JSON", .text), ("GEOMETRY", .varbinary), ("POINT", .varbinary), ("LINESTRING", .varbinary),
    ("POLYGON", .varbinary), ("MULTIPOINT", .varbinary), ("MULTILINESTRING", .varbinary),
    ("MULTIPOLYGON", .varbinary), ("GEOMETRYCOLLECTION", .varbinary)]

/-- The name of a type as it is compared. -/
def typeKey (native : String) : String := Text.upper (Text.strip native)

/-- A `TINYINT` is a boolean unless it has more than one digit. -/
def specialType (c : ColumnType) : Option AnsiType :=
  if ["TINYINT", "TINYINT UNSIGNED"].contains (typeKey (c.native.getD "")) then
    some (if c.precision.all (· == 1) then .boolean else .tinyint)
  else none

/-- The format that keeps a time down to a granularity. -/
def formatted (expr format : String) : String := "DATE_FORMAT(" ++ expr ++ ", '" ++ format ++ "')"

/-- The first day of the quarter of a time. -/
def quarterStart (expr : String) : String :=
  let arm (n month : String) : String :=
    "WHEN " ++ n ++ " THEN CONCAT(YEAR(" ++ expr ++ "), '-" ++ month ++ "-01') "
  "CASE QUARTER(" ++ expr ++ ") " ++ arm "1" "01" ++ arm "2" "04" ++ arm "3" "07" ++ arm "4" "10" ++
    "END"

def cut (expr : String) : Granularity → String
  | .year => formatted expr "%Y-01-01"
  | .quarter => quarterStart expr
  | .month => formatted expr "%Y-%m-01"
  | .week => "DATE_SUB(" ++ expr ++ ", INTERVAL WEEKDAY(" ++ expr ++ ") DAY)"
  | .day => formatted expr "%Y-%m-%d"
  | .hour => formatted expr "%Y-%m-%d %H:00:00"
  | .minute => formatted expr "%Y-%m-%d %H:%i:00"
  | .second => formatted expr "%Y-%m-%d %H:%i:%s"

/-- Bits are true if their first byte is not zero, small integers if they are not zero. -/
def convert (native : String) (v : Value) : Except ConversionError Value :=
  match typeKey native, v with
  | "BIT", .bytes bs => .ok (.bool (bs.head?.any (· != 0)))
  | "TINYINT", .int n => .ok (.bool (n != 0))
  | _, v => .ok v

end MySql

def mysql : Dialect where
  name := "mysql"
  label := "MySQLAdapter()"
  grammarName := "mysql"
  grammar := .mysql
  target := .mysql
  quote := some '\x60'
  nativeTypes := MySql.nativeTypes
  specialType := MySql.specialType
  cut := MySql.cut
  convert := MySql.convert

end SemanticLayer.Dialect
