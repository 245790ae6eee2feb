import SemanticLayer.Dialect.Basic

/-!
# Oracle

A `NUMBER` is an integer type as wide as its precision if it has no scale. `TRUNC` cuts times, but
it has no unit for seconds. Values of fixed width lose the blanks that fill them up, and large texts
are read.
-/

namespace SemanticLayer.Dialect

namespace Oracle

/-- Column types by name. -/
def nativeTypes : List (String × AnsiType) :=
  [("NUMBER", .integer), ("BINARY_FLOAT", .real), ("BINARY_DOUBLE", .double), ("FLOAT", .float),
    ("VARCHAR2", .varchar), ("NVARCHAR2", .varchar), ("CHAR", .char), ("NCHAR", .char),
    ("CLOB", .text), ("NCLOB", .text), ("BLOB", .blob), ("RAW", .varbinary),
    ("LONG RAW", .varbinary), ("DATE", .timestamp), ("TIMESTAMP", .timestamp),
    ("TIMESTAMP WITH TIME ZONE", .timestamp), ("TIMESTAMP WITH LOCAL TIME ZONE", .timestamp),
    ("INTERVAL YEAR TO MONTH", .varchar), ("INTERVAL DAY TO SECOND", .varchar),
    ("XMLTYPE", .text), ("ROWID", .varchar), ("UROWID", .varchar), ("BFILE", .varchar),
    ("LONG", .text)]

/-- The name of a type as it is compared. -/
def typeKey (native : String) : String := Text.upper (Text.strip native)

def numberType (precision : Int) (scale : Option Int) : AnsiType :=
  if scale == some 0 && 0 < precision then
    if precision ≤ 3 then .tinyint
    else if precision ≤ 5 then .smallint
    else if precision ≤ 10 then .integer
    else .bigint
  else .decimal

/-- A `NUMBER` with a precision. -/
def specialType (c : ColumnType) : Option AnsiType :=
  if typeKey (c.native.getD "") == "NUMBER" then c.precision.map fun p => numberType p c.scale
  else none

/-- The unit of `TRUNC`, if there is one. -/
def unit? : Granularity → Option String
  | .year => some "YEAR"
  | .quarter => some "Q"
  | .month => some "MONTH"
  | .week => some "WW"
  | .day => some "DD"
  | .hour => some "HH24"
  | .minute => some "MI"
  | .second => none

/-- An expression cut to a granularity. Whole seconds are added to the minute. -/
def cut (expr : String) (g : Granularity) : String :=
  match unit? g with
  | some unit => "TRUNC(" ++ expr ++ ", '" ++ unit ++ "')"
  | none => "TRUNC(" ++ expr ++ ", 'MI') + TRUNC(EXTRACT(SECOND FROM " ++ expr ++ ")) / 86400"

def decimalTypes : List String := ["NUMBER", "DECIMAL", "NUMERIC"]

/-- A decimal as a whole number if its exponent is not negative, and as a floating-point number
otherwise. -/
def ofDecimal (d : Decimal) : Except ConversionError Value :=
  match d.toInt? with
  | some n => .ok (.int n)
  | none =>
    match Binary64.ofDecimal? d with
    | some x => .ok (.float x)
    | none => .error .signaling

/-- Decimals become numbers, padded texts lose their blanks, and large texts are read. -/
def convert (native : String) (v : Value) : Except ConversionError Value :=
  let key := typeKey native
  match v with
  | .decimal d => if decimalTypes.contains key then ofDecimal d else .ok v
  | .string s => if ["CHAR", "NCHAR"].contains key then .ok (.string (Text.strip s)) else .ok v
  | .reader text => if ["CLOB", "NCLOB"].contains key then .ok (.string text) else .ok v
  | v => .ok v

end Oracle

def oracle : Dialect where
  name := "oracle"
  label := "OracleAdapter()"
  grammarName := "oracle"
  grammar := .oracle
  target := .oracle
  nativeTypes := Oracle.nativeTypes
  specialType := Oracle.specialType
  limitText n := "FETCH FIRST " ++ n ++ " ROWS ONLY"
  cut := Oracle.cut
  convert := Oracle.convert

end SemanticLayer.Dialect
