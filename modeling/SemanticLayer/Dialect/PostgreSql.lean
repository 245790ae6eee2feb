import SemanticLayer.Data.Json
import SemanticLayer.Dialect.Basic

/-!
# PostgreSQL

Type names are compared in lower case. Values of types that have no common counterpart become texts;
money becomes a decimal.
-/

namespace SemanticLayer.Dialect

namespace PostgreSql

/-- Column types by name, in lower case. -/
def nativeTypes : List (String × AnsiType) :=
  [("int2", .smallint), ("smallint", .smallint), ("smallserial", .smallint), ("int4", .integer),
    ("int", .integer), ("integer", .integer), ("serial", .integer), ("int8", .bigint),
    ("bigint", .bigint), ("bigserial", .bigint), ("float4", .real), ("real", .real),
    ("float8", .double), ("double precision", .double), ("float", .double),
    ("numeric", .decimal), ("decimal", .decimal), ("money", .decimal), ("bpchar", .char),
    ("char", .char), ("character", .char), ("varchar", .varchar),
    ("character varying", .varchar), ("text", .text), ("bytea", .varbinary), ("bool", .boolean),
    ("boolean", .boolean), ("date", .date), ("time", .time), ("time without time zone", .time),
    ("timetz", .time), ("time with time zone", .time), ("timestamp", .timestamp),
    ("timestamp without time zone", .timestamp), ("timestamptz", .timestamp),
    ("timestamp with time zone", .timestamp), ("interval", .varchar), ("uuid", .varchar),
    ("json", .text), ("jsonb", .text), ("xml", .text), ("inet", .varchar), ("cidr", .varchar),
    ("macaddr", .varchar), ("macaddr8", .varchar), ("bit", .varbinary), ("varbit", .varbinary),
    ("bit varying", .varbinary), ("tsvector", .text), ("tsquery", .text)]

def geometricTypes : List String := ["point", "line", "lseg", "box", "path", "polygon", "circle"]

/-- The names of the types of network addresses. -/
def networkTypes : List String := ["inet", "cidr", "macaddr", "macaddr8"]

def bitTypes : List String := ["bit", "varbit", "bit varying"]

/-- The names of the types of text search. -/
def searchTypes : List String := ["tsvector", "tsquery"]

/-- The name of a type as it is compared. -/
def typeKey (native : String) : String := Text.lower (Text.strip native)

/-- Column types by name; shapes, and arrays, whose names begin with an underscore, are texts. -/
def specialType (c : ColumnType) : Option AnsiType :=
  let key := typeKey (c.native.getD "")
  match nativeTypes.lookup key with
  | some t => some t
  | none => if geometricTypes.contains key || key.toList.head? == some '_' then some .text else none

/-- The characters of an amount that count. -/
def countsInMoney (c : Char) : Bool := Number.isDigit c || c == '.' || c == '-'

/-- The amount that a text says; parentheses around it make it negative. A text without an amount
stays as it is. -/
def moneyOfText (s : String) : Except ConversionError Value :=
  let cs := Text.trim s.toList
  let negative := cs.head? == some '(' && cs.getLast? == some ')'
  match Decimal.ofText? (String.ofList (cs.filter countsInMoney)) with
  | some d =>
    match if negative then d.negated? else some d with
    | some d => .ok (.decimal d)
    | none => .error .overflow
  | none => .ok (.string (String.ofList cs))

/-- An amount of money as a decimal. A number is the decimal that its text says; the text of a truth
value says none. -/
def money (v : Value) : Except ConversionError Value :=
  match v with
  | .bool _ | .int _ | .float _ | .decimal _ =>
    match Decimal.ofText? v.text with
    | some d => .ok (.decimal d)
    | none => .error .noDecimal
  | v => moneyOfText v.text

/-- The eight bits of a byte. -/
def byteBits (b : UInt8) : List Char :=
  (List.range 8).reverse.map fun i => if b.toNat.testBit i then '1' else '0'

/-- A value of a column as a common one. -/
def convert (native : String) (v : Value) : Except ConversionError Value :=
  let key := typeKey native
  if key == "json" || key == "jsonb" then
    match v with
    | .string s => .ok (.string s)
    | v =>
      match Json.write? v with
      | some s => .ok (.string s)
      | none => .error .noJson
  else if key == "money" then money v
  else if bitTypes.contains key then
    match v with
    | .bytes bs => .ok (.string (String.ofList (bs.flatMap byteBits)))
    | v => .ok (.string v.text)
  else if key == "uuid" || geometricTypes.contains key || networkTypes.contains key ||
      searchTypes.contains key then .ok (.string v.text)
  else .ok v

end PostgreSql

def postgresql : Dialect where
  name := "postgresql"
  label := "PostgreSQLAdapter()"
  grammarName := "postgres"
  grammar := .postgres
  target := .postgres
  specialType := PostgreSql.specialType
  cut expr g := "DATE_TRUNC('" ++ g.name ++ "', " ++ expr ++ ")"
  convert := PostgreSql.convert

end SemanticLayer.Dialect
