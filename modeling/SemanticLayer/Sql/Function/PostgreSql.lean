import SemanticLayer.Sql.Function.Standard

/-!
# Functions of PostgreSQL
-/

namespace SemanticLayer.Sql.Calls

/-- A format argument in the common codes. -/
def postgresFormat : Node → Node := TimeFormat.mapArgument (TimeFormat.common .postgres)

/-- A step of a path given as an argument of its own: a position if it is a number. -/
def pathStep? (n : Node) : Option PathStep :=
  match n.head with
  | .string s | .number s => some (match s.toInt? with
    | some i => .index i
    | none => .key s)
  | _ => none

/-- A part of a JSON value, with each step of its path as an argument. -/
def jsonSteps (scalar : Bool) (args : List Node) : Reading :=
  match args with
  | this :: steps =>
    match steps.mapM pathStep? with
    | some path => some (some (.of (.jsonExtract scalar false) [this, .of (.jsonPath path) []]))
    | none => jsonPart scalar args
  | [] => some none

/-- The step of a series: a text with a number and a unit is an interval. -/
def stepOf (n : Node) : Node :=
  match n.head with
  | .string s =>
    match (s.splitOn " ").filter fun w => !w.isEmpty with
    | [count, unit] =>
      if count.toInt?.isSome && unit.toList.all Char.isAlpha then
        .of (.interval (some (Text.upper unit))) [.text count]
      else n
    | _ => n
  | _ => n

/-- A call with a meaning of its own in PostgreSQL. -/
def postgresCall (name : String) (args : List Node) : Reading :=
  match name, args with
  | "DATE_TRUNC", unit :: this :: _ =>
    counted args 2 3
      (if isDateCast this then .of (.call (.dateTrunc false)) [this, truncUnit true unit]
        else .of (.call (.dateTrunc true)) [this, timestampUnit unit])
  | "NOW", _ => counted args 0 1 (.of (.call .currentTimestamp) [])
  | "DIV", a :: b :: _ => some (some (.castTo "DECIMAL" (.of (.binary .intDivide) [a, b])))
  | "TO_CHAR", this :: format :: _ =>
    counted args 2 4 (.known "TIMETOSTR" "TIME_TO_STR" [this, postgresFormat format])
  | "TO_DATE", this :: format :: _ =>
    counted args 2 3 (.known "STRTODATE" "STR_TO_DATE" [this, postgresFormat format])
  | "TO_TIMESTAMP", this :: format :: _ =>
    counted args 2 4 (.known "STRTOTIME" "STR_TO_TIME" [this, postgresFormat format])
  | "TO_DATE", [_] | "TO_TIMESTAMP", [_] => some (some (asWritten name args))
  | "DIV", _ | "TO_CHAR", _ | "TO_DATE", _ | "TO_TIMESTAMP", _ => some none
  | "GENERATE_SERIES", _ => some (some (asWritten name (args.take 2 ++ (args.drop 2).map stepOf)))
  | "REGEXP_REPLACE", _ => some (some (asWritten name args))
  | "SHA256", [a] => some (some (.known "SHA2" "SHA2" [a]))
  | "JSON_EXTRACT_PATH", _ => jsonSteps false args
  | "JSON_EXTRACT_PATH_TEXT", _ => jsonSteps true args
  | "LENGTH", [_, _] => some (some (asWritten name args))
  | _, _ => none

end SemanticLayer.Sql.Calls
