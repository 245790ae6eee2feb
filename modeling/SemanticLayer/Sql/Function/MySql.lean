import SemanticLayer.Sql.Function.Standard

/-!
# Functions of MySQL
-/

namespace SemanticLayer.Sql.Calls

/-- A format argument in the common codes. -/
def mysqlFormat : Node → Node := TimeFormat.mapArgument (TimeFormat.common .mysql)

/-- A date moved by an interval. -/
def mysqlMoved (kind name : String) (args : List Node) : Reading :=
  match args with
  | [this, .mk (.interval unit) c ps] =>
    let unit := Node.of (.keyword (unit.getD "DAY")) []
    some (some (.mk (.call (.known kind name)) c (this :: ps ++ [unit])))
  | _ => some none

/-- A call with a meaning of its own in MySQL. -/
def mysqlCall (name : String) (args : List Node) : Reading :=
  match name, args with
  | "LENGTH", _ => counted args 1 1 (.of (.call (.length true)) args)
  | "DATE_FORMAT", this :: format :: rest =>
    some (if rest.isEmpty then
      some (.known "TIMETOSTR" "TIME_TO_STR" [this, mysqlFormat format]) else none)
  | "STR_TO_DATE", this :: format :: rest =>
    some (if rest.isEmpty then
      some (.known "STRTODATE" "STR_TO_DATE" [this, mysqlFormat format]) else none)
  | "DATE_FORMAT", _ | "STR_TO_DATE", _ => some none
  | "DATE_ADD", _ => mysqlMoved "DATEADD" name args
  | "DATE_SUB", _ => mysqlMoved "DATESUB" name args
  | "LOG", [a] => some (some (.known "LN" "LN" [a]))
  | "ISNULL", [] | "MONTHNAME", [] | "TO_DAYS", [] => some none
  | "ISNULL", a :: _ => some (some (.of .paren [.of (.binary .is) [a, .of .null []]]))
  | "DATABASE", _ | "SCHEMA", _ => some (some (asWritten "SCHEMA" []))
  | "CURTIME", _ => bareConstant "CURRENTTIME" "CURRENT_TIME" args
  | "CURDATE", _ => bareConstant "CURRENTDATE" "CURRENT_DATE" args
  | "TIMESTAMPDIFF", [unit, a, b] =>
    some (some (.known "TIMESTAMPDIFF" "TIMESTAMPDIFF" [b, a, unitWord unit]))
  | "TO_DAYS", a :: _ =>
    let days := Node.known "DATEDIFF" "DATEDIFF" [a, .text "0000-01-01"]
    some (some (.of .paren [.of (.binary .add) [days, .num "1"]]))
  | "MONTHNAME", a :: _ => some (some (.known "TIMETOSTR" "TIME_TO_STR" [a, .text "%B"]))
  | _, _ => none

end SemanticLayer.Sql.Calls
