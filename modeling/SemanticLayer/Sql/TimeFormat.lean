import SemanticLayer.Sql.Grammar
import SemanticLayer.Sql.Tree

/-!
# Formats of time

Databases write the format of a date in codes of their own. `common` reads such a format into the
common codes, and `written` writes the common codes in the codes of a database: of several codes for
one thing the last one of the table.
-/

namespace SemanticLayer.Sql.TimeFormat

/-- Codes of MySQL and the common codes they stand for. -/
def mysqlCodes : List (String × String) :=
  [("%M", "%B"), ("%c", "%-m"), ("%e", "%-d"), ("%h", "%I"), ("%i", "%M"), ("%s", "%S"),
    ("%u", "%W"), ("%k", "%-H"), ("%l", "%-I"), ("%T", "%H:%M:%S"), ("%W", "%A")]

/-- Codes of PostgreSQL and the common codes they stand for. -/
def postgresCodes : List (String × String) :=
  [("d", "%u"), ("D", "%u"), ("dd", "%d"), ("DD", "%d"), ("ddd", "%j"), ("DDD", "%j"),
    ("FMDD", "%-d"), ("FMDDD", "%-j"), ("FMHH12", "%-I"), ("FMHH24", "%-H"), ("FMMI", "%-M"),
    ("FMMM", "%-m"), ("FMSS", "%-S"), ("HH12", "%I"), ("HH24", "%H"), ("mi", "%M"), ("MI", "%M"),
    ("mm", "%m"), ("MM", "%m"), ("OF", "%z"), ("ss", "%S"), ("SS", "%S"), ("TMDay", "%A"),
    ("TMDy", "%a"), ("TMMon", "%b"), ("TMMonth", "%B"), ("TZ", "%Z"), ("US", "%f"), ("ww", "%U"),
    ("WW", "%U"), ("yy", "%y"), ("YY", "%y"), ("yyyy", "%Y"), ("YYYY", "%Y")]

/-- Codes of Oracle and the common codes they stand for. -/
def oracleCodes : List (String × String) :=
  [("D", "%u"), ("DAY", "%A"), ("DD", "%d"), ("DDD", "%j"), ("DY", "%a"), ("HH", "%I"),
    ("HH12", "%I"), ("HH24", "%H"), ("IW", "%V"), ("MI", "%M"), ("MM", "%m"), ("MON", "%b"),
    ("MONTH", "%B"), ("SS", "%S"), ("WW", "%W"), ("YY", "%y"), ("YYYY", "%Y"), ("FF6", "%f")]

/-- The codes of a database. -/
def codes : Catalogue → List (String × String)
  | .mysql => mysqlCodes
  | .postgres => postgresCodes
  | .oracle => oracleCodes
  | .standard | .duckdb => []

/-- The longest code at the start of a text; of equal ones the last. -/
def longest? (table : List (List Char × List Char)) (cs : List Char) :
    Option (List Char × List Char) :=
  table.foldl (fun best p =>
    if p.1.isPrefixOf cs && best.all fun b => b.1.length ≤ p.1.length then some p else best) none

/-- Replaces the codes of a text from left to right, at most `n` times. -/
def recode (table : List (List Char × List Char)) : Nat → List Char → List Char
  | 0, cs => cs
  | _, [] => []
  | n + 1, c :: cs =>
    match longest? table (c :: cs) with
    | some p => p.2 ++ recode table n ((c :: cs).drop p.1.length)
    | none => c :: recode table n cs

/-- A format with the codes of a table replaced. -/
def replace (table : List (String × String)) (s : String) : String :=
  String.ofList (recode (table.map fun p => (p.1.toList, p.2.toList)) s.length s.toList)

/-- A format of a database in the common codes. -/
def common (database : Catalogue) (s : String) : String := replace (codes database) s

/-- A format in the common codes, written for a database. -/
def written (database : Catalogue) (s : String) : String :=
  replace ((codes database).map fun p => (p.2, p.1)) s

/-- A format argument, changed by `f`. -/
def mapArgument (f : String → String) : Node → Node
  | .mk (.string s) c ps => .mk (.string (f s)) c ps
  | n => n

end SemanticLayer.Sql.TimeFormat
