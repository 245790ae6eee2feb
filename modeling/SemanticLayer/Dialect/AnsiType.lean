import SemanticLayer.Data.Value
import SemanticLayer.Text.LetterCase

/-!
# Column types

The types to which the columns of all databases are brought.
-/

namespace SemanticLayer

/-- The type of a column, whatever its database calls it. -/
inductive AnsiType where
  | char
  | varchar
  | text
  | tinyint
  | smallint
  | integer
  | bigint
  | decimal
  | real
  | double
  | float
  | boolean
  | date
  | time
  | timestamp
  | binary
  | varbinary
  | blob
  | struct
  | unknown
  deriving DecidableEq, Repr

namespace AnsiType

def name : AnsiType → String
  | char => "CHAR"
  | varchar => "VARCHAR"
  | text => "TEXT"
  | tinyint => "TINYINT"
  | smallint => "SMALLINT"
  | integer => "INTEGER"
  | bigint => "BIGINT"
  | decimal => "DECIMAL"
  | real => "REAL"
  | double => "DOUBLE"
  | float => "FLOAT"
  | boolean => "BOOLEAN"
  | date => "DATE"
  | time => "TIME"
  | timestamp => "TIMESTAMP"
  | binary => "BINARY"
  | varbinary => "VARBINARY"
  | blob => "BLOB"
  | struct => "STRUCT"
  | unknown => "UNKNOWN"

/-- Types by the codes that do not depend on a database. -/
def codes : List (String × AnsiType) :=
  [("CHAR", char), ("NCHAR", char), ("VARCHAR", varchar), ("NVARCHAR", varchar),
    ("LONGVARCHAR", text), ("LONGNVARCHAR", text), ("CLOB", text), ("NCLOB", text),
    ("TINYINT", tinyint), ("SMALLINT", smallint), ("INTEGER", integer), ("BIGINT", bigint),
    ("DECIMAL", decimal), ("NUMERIC", decimal), ("REAL", real), ("DOUBLE", double),
    ("FLOAT", float), ("BOOLEAN", boolean), ("BIT", boolean), ("DATE", date), ("TIME", time),
    ("TIME_WITH_TIMEZONE", time), ("TIMESTAMP", timestamp), ("TIMESTAMP_WITH_TIMEZONE", timestamp),
    ("BINARY", binary), ("VARBINARY", varbinary), ("LONGVARBINARY", blob), ("BLOB", blob),
    ("STRUCT", struct)]

/-- The type of a code in any letter case; none if the value is no text. Bytes are a text that is no
code. -/
def ofCode? : Value → Option AnsiType
  | .null => some unknown
  | .string s => some ((codes.lookup (Text.upper s)).getD unknown)
  | .bytes _ => some unknown
  | _ => none

end AnsiType

/-- What a database says about the type of a column. -/
structure ColumnType where
  /-- The name that the database gives the type. -/
  native : Option String
  /-- A code that does not depend on the database. -/
  code : Value := .null
  precision : Option Int := none
  scale : Option Int := none

end SemanticLayer
