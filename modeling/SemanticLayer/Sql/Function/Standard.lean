import SemanticLayer.Sql.Grammar
import SemanticLayer.Sql.JsonPath
import SemanticLayer.Sql.Signature
import SemanticLayer.Sql.TimeFormat
import SemanticLayer.Sql.TimeUnit
import SemanticLayer.Text.Word

/-!
# Functions with a meaning of their own

Calls whose arguments are put in another order or completed, and calls that stand for something
that is no call, whatever the database.
-/

namespace SemanticLayer.Sql

/-- What a call stands for. The outer `none` is a name without a meaning of its own, the inner
`none` a call with the wrong arguments. -/
abbrev Reading := Option (Option Node)

/-- A name that is quoted only if it has to be. -/
def Ident.ofText (s : String) : Ident :=
  let plain := match s.toList with
    | c :: cs => (c.isAlpha || c == '_') && cs.all Text.isWordChar
    | [] => false
  ⟨s, !plain⟩

/-- A call of a known function. -/
def Node.known (kind name : String) (args : List Node) : Node :=
  .of (.call (.known kind name)) args

/-- A known data type without sizes. -/
def Node.type (name : String) : Node := .of (.dataType name true) []

/-- A conversion to a known data type. -/
def Node.castTo (type : String) (n : Node) : Node := .of (.cast false) [n, .type type]

def Node.text (s : String) : Node := .of (.string s) []

def Node.num (s : String) : Node := .of (.number s) []

namespace Calls

/-- A reading that takes only calls with `least` to `most` arguments. -/
def counted (args : List Node) (least most : Nat) (n : Node) : Reading :=
  some (if least ≤ args.length && args.length ≤ most then some n else none)

/-- A call that keeps its name. -/
def asWritten (name : String) (args : List Node) : Node := .of (.call (.unknown name false)) args

/-- An operand put into parentheses if it is an operation itself. -/
def guardOperand (n : Node) : Node := if n.head.isBinary then .of .paren [n] else n

/-- Whether a node converts to a date. -/
def isDateCast : Node → Bool
  | .mk (.cast _) _ [_, .mk (.dataType name _) _ _] => name == "DATE"
  | _ => false

/-- A place of a text in a text: the text, what is looked for, and where to begin. -/
def position (args : List Node) (turned : Bool) : Reading :=
  let args := match turned, args with
    | true, a :: b :: rest => b :: a :: rest
    | _, args => args
  counted args 2 (if turned then 3 else 4) (.known "STRPOSITION" "STR_POSITION" args)

/-- A difference of dates, with its unit as a word. -/
def difference (kind name : String) (args : List Node) : Reading :=
  match args with
  | [a, b] => some (some (.known kind name [a, b]))
  | [a, b, unit] => some (some (.known kind name [a, b, unitWord unit]))
  | _ => some none

/-- A text made longer at one side: the text, the length, and what it is filled with. -/
def pad (name : String) (args : List Node) : Reading :=
  counted args 2 3 (.known "PAD" name args)

/-- A constant of a database that may be called with parentheses. -/
def bareConstant (kind name : String) (args : List Node) : Reading :=
  counted args 0 1 (if args.isEmpty then .of (.call (.constant kind name)) []
    else .known kind name args)

/-- A part of a JSON value. -/
def jsonPart (scalar : Bool) (args : List Node) : Reading :=
  match args with
  | this :: path :: more =>
    let further := if scalar then [] else more
    some (some (.of (.jsonExtract scalar false) ([this, JsonPath.ofLiteral path] ++ further)))
  | _ => some none

/-- A comparison with a pattern, called with the pattern in front. -/
def likeCall (args : List Node) : Reading :=
  match args with
  | [pattern, this] => some (some (.of (.binary .like) [this, pattern]))
  | [pattern, this, mark] =>
    some (some (.of (.binary .escape) [.of (.binary .like) [this, pattern], mark]))
  | _ => some none

/-- The keys and the values of a list in which they take turns. -/
def pairs : List Node → List Node × List Node
  | key :: value :: rest => ((key :: (pairs rest).1), (value :: (pairs rest).2))
  | _ => ([], [])

/-- The days from one to another, a day apart unless a step is given. -/
def dayArray (args : List Node) : Reading :=
  let step := Node.of (.interval (some "DAY")) [.text "1"]
  counted args 2 3 (.known "GENERATEDATEARRAY" "GENERATE_DATE_ARRAY"
    (if args.length == 2 then args ++ [step] else args))

/-- A call of a function with a meaning of its own. -/
def standardCall (name : String) (args : List Node) : Reading :=
  match name, args with
  | "MOD", a :: b :: _ => some (some (.of (.binary .modulo) [guardOperand a, guardOperand b]))
  | "MOD", _ => some none
  | "LENGTH", _ | "CHAR_LENGTH", _ | "CHARACTER_LENGTH", _ | "LEN", _ =>
    counted args 1 1 (.of (.call (.length false)) args)
  | "SUBSTR", _ => counted args 1 3 (.of (.call .substring) args)
  | "LTRIM", a :: rest => some (some (.of (.call (.trim (some "LEADING"))) (a :: rest.take 1)))
  | "RTRIM", a :: rest => some (some (.of (.call (.trim (some "TRAILING"))) (a :: rest.take 1)))
  | "LTRIM", [] | "RTRIM", [] => some none
  | "CONCAT", [] => some none
  | "CONCAT", args => some (some (.of (.call .concat) args))
  | "DATE_TRUNC", unit :: this :: _ =>
    counted args 2 3 (.of (.call (.dateTrunc false)) [this, truncUnit true unit])
  | "DATE_TRUNC", _ => some none
  | "TIMESTAMP_TRUNC", this :: unit :: _ =>
    counted args 2 3 (.of (.call (.dateTrunc true)) [this, timestampUnit unit])
  | "TIMESTAMP_TRUNC", _ => some none
  | "LOG", _ => counted args 1 2 (.known "LOG" "LOG" args)
  | "LOG2", [a] => some (some (.known "LOG" "LOG" [.num "2", a]))
  | "LOG10", [a] => some (some (.known "LOG" "LOG" [.num "10", a]))
  | "LOG2", _ | "LOG10", _ => some none
  | "STRPOS", _ | "INSTR", _ | "STR_POSITION", _ => position args false
  | "LOCATE", _ | "CHARINDEX", _ => position args true
  | "LPAD", _ | "LEFTPAD", _ => pad "LPAD" args
  | "RPAD", _ | "RIGHTPAD", _ => pad "RPAD" args
  | "CHR", _ | "CHAR", _ => some (some (.known "CHR" "CHR" args))
  | "IIF", _ => counted args 2 3 (.of .ifThen args)
  | "REGEXP_LIKE", [a, b] => some (some (.of (.binary .matchesPattern) [a, b]))
  | "REGEXP_LIKE", _ => counted args 2 3 (.known "REGEXPLIKE" "REGEXP_LIKE" args)
  | "REGEXP_I_LIKE", [a, b] => some (some (.of (.binary .matchesAnyCase) [a, b]))
  | "LIKE", _ => likeCall args
  | "GLOB", [pattern, this] => some (some (.of (.binary .glob) [this, pattern]))
  | "GLOB", _ => some none
  | "UPPER", [.mk (.call (.known "HEX" name)) c ps] =>
    some (some (.mk (.call (.known "HEX" name)) c ps))
  | "ARRAY_CONTAINS_ALL", _ | "ARRAY_HAS_ALL", _ =>
    counted args 2 2 (.of (.binary .containsAll) args)
  | "ARRAY_OVERLAPS", _ => counted args 2 2 (.of (.binary .sharesItem) args)
  | "VAR_MAP", _ =>
    some (some (.known "VARMAP" "MAP" [.of .array (pairs args).1, .of .array (pairs args).2]))
  | "DATEDIFF", _ | "DATE_DIFF", _ => difference "DATEDIFF" "DATEDIFF" args
  | "TIMESTAMPDIFF", _ | "TIMESTAMP_DIFF", _ => difference "TIMESTAMPDIFF" "TIMESTAMPDIFF" args
  | "DATE_ADD", _ => difference "DATEADD" "DATE_ADD" args
  | "DATE_SUB", _ => difference "DATESUB" "DATE_SUB" args
  | "TIMESTAMP_ADD", _ => difference "TIMESTAMPADD" "TIMESTAMP_ADD" args
  | "TIMESTAMP_SUB", _ => difference "TIMESTAMPSUB" "TIMESTAMP_SUB" args
  | "DATETIME_ADD", _ => difference "DATETIMEADD" "DATETIME_ADD" args
  | "DATETIME_SUB", _ => difference "DATETIMESUB" "DATETIME_SUB" args
  | "DATETIME_DIFF", _ => difference "DATETIMEDIFF" "DATETIME_DIFF" args
  | "TIME_ADD", _ => difference "TIMEADD" "TIME_ADD" args
  | "TIME_SUB", _ => difference "TIMESUB" "TIME_SUB" args
  | "TIME_DIFF", _ => difference "TIMEDIFF" "TIME_DIFF" args
  | "DATETIME_TRUNC", this :: unit :: zone =>
    counted args 2 3 (.known "DATETIMETRUNC" "DATETIME_TRUNC" ([this, unitWord unit] ++ zone))
  | "TIME_TRUNC", this :: unit :: zone =>
    counted args 2 3 (.known "TIMETRUNC" "TIME_TRUNC" ([this, unitWord unit] ++ zone))
  | "DATETIME_TRUNC", _ | "TIME_TRUNC", _ => some none
  | "DATE_BIN", this :: start :: unit :: rest =>
    counted args 2 5 (.known "DATEBIN" "DATE_BIN" ([this, start, unitWord unit] ++ rest))
  | "DATE_BIN", _ => counted args 2 5 (.known "DATEBIN" "DATE_BIN" args)
  | "TIME_SLICE", this :: length :: unit :: rest =>
    counted args 3 4 (.known "TIMESLICE" "TIME_SLICE" ([this, length, unitWord unit] ++ rest))
  | "TIME_SLICE", _ => some none
  | "GENERATE_DATE_ARRAY", _ => dayArray args
  | "TS_OR_DS_ADD", _ => difference "TSORDSADD" "TS_OR_DS_ADD" args
  | "TS_OR_DS_DIFF", _ => difference "TSORDSDIFF" "TS_OR_DS_DIFF" args
  | "DATE_TO_DATE_STR", this :: _ | "TIME_TO_TIME_STR", this :: _ =>
    some (some (.castTo "TEXT" this))
  | "TS_OR_DS_TO_DATE_STR", this :: _ =>
    some (some (.of (.call .substring) [.castTo "TEXT" this, .num "1", .num "10"]))
  | "DATE_TO_DATE_STR", _ | "TIME_TO_TIME_STR", _ | "TS_OR_DS_TO_DATE_STR", _ => some none
  | "CONVERT_TIMEZONE", _ =>
    counted args 2 4 (.known "CONVERTTIMEZONE" "CONVERT_TIMEZONE" args)
  | "LAST_DAY", [a, unit] | "LAST_DAY_OF_MONTH", [a, unit] =>
    some (some (.known "LASTDAY" "LAST_DAY" [a, unitWord unit]))
  | "GROUP_CONCAT", _ => counted args 1 3 (.of (.call .joinGroup) args)
  | "ARRAY", _ => some (some (.of .array args))
  | "UUID", _ | "GEN_RANDOM_UUID", _ | "GENERATE_UUID", _ | "UUID_STRING", _ =>
    some (some (.known "UUID" "UUID" []))
  | "JSONB_EXTRACT", _ => counted args 2 2 (.of (.binary .atPath) args)
  | "JSONB_EXTRACT_SCALAR", _ => counted args 2 2 (.of (.binary .textAtPath) args)
  | "JSONB_CONTAINS", _ => counted args 2 2 (.of (.binary .hasKey) args)
  | "JSON_EXTRACT", _ => jsonPart false args
  | "JSON_EXTRACT_SCALAR", _ | "JSON_EXTRACT_PATH_TEXT", _ => jsonPart true args
  | "CURRENT_DATE", _ => bareConstant "CURRENTDATE" "CURRENT_DATE" args
  | "CURRENT_TIME", _ => bareConstant "CURRENTTIME" "CURRENT_TIME" args
  | "CURRENT_USER", _ => bareConstant "CURRENTUSER" "CURRENT_USER" args
  | "CURRENT_TIMESTAMP", _ => counted args 0 1 (.of (.call .currentTimestamp) args)
  | "XOR", _ => counted args 2 2 (.of (.binary .xor) args)
  | _, _ => none

end Calls

end SemanticLayer.Sql
