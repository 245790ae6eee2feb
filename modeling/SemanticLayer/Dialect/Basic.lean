import SemanticLayer.Dialect.AnsiType
import SemanticLayer.Granularity
import SemanticLayer.Sql.Override
import SemanticLayer.Sql.Parser

/-!
# Dialects

A *dialect* bundles what depends on the database: the grammar in which its SQL is read, how SQL is
written for it, how names are quoted, rows limited and times cut, and how its column types and
values are brought to common ones. A new database is a new value of `Dialect`; every field without
which a database can do has a default.
-/

namespace SemanticLayer

/-- Why an argument of a dialect is refused. -/
inductive ArgumentError where
  /-- There is no expression to cut. -/
  | blankExpression
  | unknownGranularity (given : Value)
  | negativeLimit (given : Value)
  /-- A limit that cannot be compared with zero. -/
  | limitNotNumber
  /-- A limit that is a decimal but no number. -/
  | limitNotComparable
  deriving Repr

def ArgumentError.message : ArgumentError → String
  | blankExpression => "Date expression cannot be null or empty"
  | unknownGranularity given => "Unsupported time granularity: " ++ given.literal
  | negativeLimit given => "Limit must be non-negative, got " ++ given.text
  | limitNotNumber => "Limit is not a number"
  | limitNotComparable => "Limit cannot be compared"

/-- Why a value cannot be brought to a common one. -/
inductive ConversionError where
  /-- The value has no JSON form. -/
  | noJson
  /-- The value is no decimal. -/
  | noDecimal
  /-- The decimal signals that it is no number. -/
  | signaling
  /-- The decimal is too large for the result of an operation. -/
  | overflow
  deriving DecidableEq, Repr

/-- What depends on one database. -/
structure Dialect where
  name : String
  /-- How the dialect shows itself. -/
  label : String
  grammarName : String
  /-- The grammar in which its SQL is read. -/
  grammar : Sql.Grammar
  /-- How SQL is written for it. -/
  target : Sql.Target
  /-- The quote around names. Without one, names are left as they are. -/
  quote : Option Char := some '\x22'
  /-- Column types by the names that the database gives them, in upper case. -/
  nativeTypes : List (String × AnsiType) := []
  /-- Column types that depend on more than such a name. They come first. -/
  specialType : ColumnType → Option AnsiType := fun _ => none
  /-- The clause that limits the rows to a number. -/
  limitText : String → String := fun n => "LIMIT " ++ n
  cut : String → Granularity → String
  /-- A value of a column, by the name of its type, as a common one. -/
  convert : String → Value → Except ConversionError Value := fun _ v => .ok v

namespace Dialect

/-- Whether every name is put in quotes where SQL is written. -/
def identify (d : Dialect) : Bool := d.quote.isSome

/-- A name in quotes. -/
def quoteName (d : Dialect) (s : String) : String :=
  match d.quote with
  | some q => Text.quoted q s
  | none => s

/-- An expression cut to a granularity; there must be an expression. -/
def truncate (d : Dialect) (expr : String) (g : Granularity) : Except ArgumentError String :=
  if (Text.strip expr).isEmpty then .error .blankExpression else .ok (d.cut expr g)

/-- The granularity that a value names. -/
def granularityOf (v : Value) : Except ArgumentError Granularity :=
  match v with
  | .string s =>
    match Granularity.ofName? s with
    | some g => .ok g
    | none => .error (.unknownGranularity v)
  | _ => .error (.unknownGranularity v)

/-- An expression cut to the granularity that a value names. The expression is looked at first. -/
def truncateTo (d : Dialect) (expr : Option String) (v : Value) : Except ArgumentError String := do
  let expr := expr.getD ""
  if (Text.strip expr).isEmpty then throw .blankExpression
  d.truncate expr (← granularityOf v)

/-- Whether a limit is less than zero. -/
def isNegative : Value → Except ArgumentError Bool
  | .bool _ => .ok false
  | .int n => .ok (n < 0)
  | .float x => .ok x.isNegative
  | .decimal (.finite negative c _) => .ok (negative && c != 0)
  | .decimal (.infinite negative) => .ok negative
  | .decimal (.nan ..) => .error .limitNotComparable
  | _ => .error .limitNotNumber

/-- The clause that limits the rows to a number. -/
def limitClause (d : Dialect) (limit : Value) : Except ArgumentError String := do
  if ← isNegative limit then throw (.negativeLimit limit)
  return d.limitText limit.text

/-- The type of a column; none if its code is needed and is no text. -/
def columnType? (d : Dialect) (c : ColumnType) : Option AnsiType :=
  match d.specialType c with
  | some t => some t
  | none =>
    match d.nativeTypes.lookup (Text.upper (Text.strip (c.native.getD ""))) with
    | some t => some t
    | none => AnsiType.ofCode? c.code

/-- A value of a column as a common one. A missing value stays missing. -/
def normalize (d : Dialect) (native : Option String) (v : Value) : Except ConversionError Value :=
  match v with
  | .null => .ok .null
  | v => d.convert (native.getD "") v

/-- How SQL is written for the dialect in a style, with the overrides of its database. -/
def printer (d : Dialect) (o : Sql.Overrides) (style : Sql.Style) : Sql.Printer :=
  { target := d.target, style, writers := o.get? d.name }

/-- Writes a tree; names are quoted as the dialect wants. -/
def render (d : Dialect) (o : Sql.Overrides) (n : Sql.Node) : String :=
  (d.printer o { identify := d.identify }).print n

end Dialect

end SemanticLayer
