import SemanticLayer.Sql.Function.Standard

/-!
# Functions of Oracle
-/

namespace SemanticLayer.Sql.Calls

/-- A format argument in the common codes. -/
def oracleFormat : Node → Node := TimeFormat.mapArgument (TimeFormat.common .oracle)

/-- Whether a node is known to be a date or a time. -/
def isTime (n : Node) : Bool :=
  match n.head with
  | .cast _ => n.parts.any fun p => match p.head with
    | .dataType name _ => ["DATE", "TIME", "DATETIME"].contains name || name.startsWith "TIMESTAMP"
    | _ => false
  | .call (.constant kind _) => ["CURRENTDATE", "CURRENTTIME", "CURRENTTIMESTAMP"].contains kind
  | .call .currentTimestamp => true
  | .call (.known kind _) => ["STRTODATE", "STRTOTIME", "TO_DATE", "TO_TIMESTAMP"].contains kind
  | _ => false

/-- A call with a meaning of its own in Oracle. -/
def oracleCall (name : String) (args : List Node) : Reading :=
  match name, args with
  | "TRUNC", [] => some none
  | "TRUNC", this :: rest =>
    let unit := rest.headD (.text "DD")
    counted args 1 3 (.of (.call (.dateTrunc false)) [this, truncUnit false unit])
  | "NVL", a :: rest => some (some (.known "COALESCE" "NVL" (a :: rest)))
  | "TO_CHAR", [this, format] =>
    some (some (if isTime this then .known "TIMETOSTR" "TIME_TO_STR" [this, oracleFormat format]
      else .known "TOCHAR" "TO_CHAR" args))
  | "TO_DATE", this :: format :: _ =>
    counted args 2 3 (.known "STRTODATE" "STR_TO_DATE" [this, oracleFormat format])
  | "TO_TIMESTAMP", this :: format :: _ =>
    counted args 2 4 (.known "STRTOTIME" "STR_TO_TIME" [this, oracleFormat format])
  | "TO_DATE", [_] => some (some (asWritten name args))
  | "TO_DATE", _ | "TO_TIMESTAMP", _ => some none
  | "SQUARE", a :: _ => some (some (.known "POW" "POWER" [a, .num "2"]))
  | "SQUARE", [] => some none
  | _, _ => none

end SemanticLayer.Sql.Calls
