import SemanticLayer.Sql.Lowering.Array
import SemanticLayer.Sql.ValueType

/-!
# Fitting calls to a target

Known functions under the names and with the arguments that a target expects, and what stands for
the functions that a target lacks.
-/

namespace SemanticLayer.Sql.Lowering

open Calls (guardOperand)

/-! ## Choices -/

/-- CASE from its arms and its last value. -/
def caseNode (arms : List (Node × Node)) (otherwise : Option Node) : Node :=
  .of .caseOf (arms.map (fun (condition, value) => .of .caseArm [condition, value]) ++
    (otherwise.map fun n => Node.of .caseElse [n]).toList)

/-- The choice between two values by whether a third one is null. -/
def byNull (this value : Node) (otherwise : Option Node) : Node :=
  caseNode [(.of (.unary .not) [isNullTest this], value)] otherwise

/-- Whether two values are equal or both null, as DECODE compares them. -/
def decodes (this sought : Node) : Node :=
  match sought.head with
  | .string _ | .number _ => .of (.binary .equal) [guardOperand this, sought]
  | .null => isNullTest this
  | _ =>
    let sought := guardOperand sought
    .of (.binary .or) [.of (.binary .equal) [guardOperand this, sought],
      .of .paren [.of (.binary .and) [isNullTest this, isNullTest sought]]]

/-- The arms of a DECODE and its last value. -/
def decodeArms (this : Node) : List Node → List (Node × Node) × Option Node
  | sought :: value :: rest =>
    let (arms, otherwise) := decodeArms this rest
    ((decodes this sought, value) :: arms, otherwise)
  | [otherwise] => ([], some otherwise)
  | [] => ([], none)

/-- DECODE spelled out. -/
def decodeCase : List Node → Option Node
  | this :: rest =>
    let (arms, otherwise) := decodeArms this rest
    some (caseNode arms otherwise)
  | [] => none

/-! ## Texts -/

/-- The place of a text in the rest of a text, counted from the beginning of the whole text. -/
def positionLater (found : Node → Node) (this start : Node) : Node :=
  let later := found (.of (.call .substring) [this, start])
  caseNode [(.of (.binary .equal) [later, .num "0"], .num "0")]
    (some (.of (.binary .subtract) [.of (.binary .add) [later, start], .num "1"]))

/-- The place of a text in a text. -/
def position (t : Target) (c : List String) (this sought : Node) (rest : List Node) : Node :=
  let write (this : Node) : Node := match t.positions with
    | .keywords => .mk (.call (.known "STRPOSITION" "POSITION")) c [sought, this]
    | .textFirst name _ => .mk (.call (.known "STRPOSITION" name)) c [this, sought]
    | .textLast name => .mk (.call (.known "STRPOSITION" name)) c [sought, this]
  match t.positions, rest with
  | _, [] => write this
  | .textFirst name most, rest =>
    if 2 < most then .mk (.call (.known "STRPOSITION" name)) c (this :: sought :: rest)
    else positionLater write this (rest.headD (.num "1"))
  | .textLast name, start :: _ =>
    .mk (.call (.known "STRPOSITION" name)) c [sought, this, start]
  | .keywords, start :: _ => positionLater write this start

/-- An argument without its limit, and the limit. -/
def splitLimit : Node → Node × List Node
  | .mk .limitedArg _ [n, l] => (n, [l])
  | n => (n, [])

/-- An argument without its order, and the order. -/
def splitOrder : Node → Node × List Node
  | .mk .orderedArg _ [n, o] => (n, [o])
  | n => (n, [])

def joinGroup (t : Target) (c : List String) (ps : List Node) : Node :=
  match ps with
  | [] => .mk (.call .joinGroup) c ps
  | this :: rest =>
    let separator := rest.headD (.text ",")
    match t.joins with
    | .plain => .mk (.call (.known "GROUPCONCAT" "GROUP_CONCAT")) c ps
    | .separator => .mk (.call .joinGroup) c [this, separator]
    | .orderLast name =>
      let (this, limits) := splitLimit this
      let (this, orders) := splitOrder this
      .mk (.call (.known "GROUPCONCAT" name)) c
        [.of .orderedArgs ([this, separator] ++ orders ++ limits)]

/-- A replacement of the matches of a pattern: of all of them, unless one is chosen. -/
def replaceAll (t : Target) (c : List String) (ps : List Node) : Node :=
  let chosen := ((ps.drop 4).head?).any fun n => n.head != .number "0"
  let given := (ps.drop 5).head?
  let modifiers := if chosen then given else match given with
    | some (.mk (.string s) _ _) => some (Node.text (s ++ "g"))
    | some n => some n
    | none => some (.text "g")
  let args := match t.functions with
    | .duckdb => ps.take 3 ++ modifiers.toList
    | .postgres => ps.take 5 ++ modifiers.toList
    | _ => ps
  .mk (.call (.known "REGEXPREPLACE" "REGEXP_REPLACE")) c args

/-- The match of a pattern by the function of DuckDB, which knows groups but no positions. The whole
match is the group that it gives by itself. -/
def firstMatch (c : List String) (ps : List Node) : Node :=
  let flags := ((ps.drop 4).head?).toList
  let group := match (ps.drop 5).head? with
    | some n => if flags.isEmpty && n.head == .number "0" then [] else [n]
    | none => []
  .mk (.call (.known "REGEXPEXTRACT" "REGEXP_EXTRACT")) c (ps.take 2 ++ group ++ flags)

/-- The number of the first character of a text. `none` is a call in the usual way. -/
def codePoint? (t : Target) (c : List String) (this : Node) : Option Node :=
  match t.functions with
  | .mysql => some (.mk (.call (.known "UNICODE" "ORD")) c [.known "CONVERTUSING" "utf32" [this]])
  | .oracle => some (.mk (.call (.known "UNICODE" "ASCII")) c [.known "UNISTR" "UNISTR" [this]])
  | _ => none

/-! ## Times -/

/-- The unit among the arguments of a call, if it is there. -/
def unitOf? (rest : List Node) : Option String := rest.head?.bind unitName?

/-- An interval of an amount, by days unless another unit is given. -/
def intervalOf (amount : Node) (rest : List Node) : Node :=
  .of (.interval (some ((unitOf? rest).getD "DAY"))) [amount]

/-- The text in a node that stands for an amount. -/
def amountText : Node → String
  | .mk (.interval _) _ [.mk (.string s) _ _] => s
  | .mk (.interval _) _ [.mk (.number s) _ _] => s
  | .mk (.string s) _ _ => s
  | .mk (.number s) _ _ => s
  | .mk (.unary .minus) _ [.mk (.number s) _ _] => "-" ++ s
  | .mk (.column path) _ _ => (path.getLast?.map Ident.name).getD ""
  | _ => ""

/-- A date or timestamp moved by an amount. -/
def moved (t : Target) (c : List String) (kind name : String) (ps : List Node) : Node :=
  let op : BinaryOp := if kind.endsWith "SUB" then .subtract else .add
  let isText := kind == "TSORDSADD"
  match t.functions, ps with
  | .duckdb, this :: amount :: rest =>
    let this := if isText then castOnce t "DATE" this else match this.head with
      | .string _ => Node.castTo (if kind.startsWith "DATETIME" then "TIMESTAMP" else "DATE") this
      | _ => this
    let interval := match amount.head with
      | .interval _ => amount
      | _ => intervalOf amount rest
    .mk (.binary op) c [this, interval]
  | .postgres, this :: amount :: rest =>
    if kind == "DATEADD" || kind == "DATESUB" || isText then
      let this := if isText then castOnce t "DATE" this else this
      .mk (.binary op) c [this, .of (.interval (unitOf? rest)) [.text (amountText amount)]]
    else .mk (.call (.known kind name)) c ps
  | .mysql, this :: amount :: rest =>
    .mk (.call (.known kind (if kind.endsWith "SUB" then "DATE_SUB" else "DATE_ADD"))) c
      [this, intervalOf amount rest]
  | _, _ => .mk (.call (.known kind name)) c ps

/-- A string converted to a time of a day; other values stay as they are. -/
def asTime (n : Node) : Node :=
  match n.head with
  | .string _ => .castTo "TIME" n
  | _ => n

/-- The factor between a second and a unit, as an operation on a number of seconds. -/
def secondFactors : List (String × BinaryOp × String) :=
  [("MICROSECOND", .multiply, "1000000"), ("MILLISECOND", .multiply, "1000"),
    ("MINUTE", .divide true false, "60"), ("HOUR", .divide true false, "3600"),
    ("DAY", .divide true false, "86400")]

/-- A part of a span of time. -/
def partOf (part : String) (span : Node) : Node := .of .extract [.of (.keyword part) [], span]

/-- The difference of two times by the functions of PostgreSQL. -/
def ageDifference (this other : Node) (unit : Option String) : Node :=
  let stop := Node.castTo "TIMESTAMP" this
  let start := Node.castTo "TIMESTAMP" other
  let span : Node := .of (.binary .subtract) [stop, start]
  let age := plainCall "AGE" [stop, start]
  let op (o : BinaryOp) (a : Node) (s : String) : Node := .of (.binary o) [a, .num s]
  let quotient := BinaryOp.divide true false
  let value := match unit with
    | some "SECOND" => partOf "epoch" span
    | some "WEEK" => op quotient (partOf "days" (.of .paren [span])) "7"
    | some "MONTH" =>
      .of (.binary .add) [op .multiply (partOf "year" age) "12", partOf "month" age]
    | some "QUARTER" =>
      .of (.binary .add)
        [op .multiply (partOf "year" age) "4", op quotient (partOf "month" age) "3"]
    | some "YEAR" => partOf "year" age
    | some u => match secondFactors.lookup u with
      | some (o, s) => op o (partOf "epoch" span) s
      | none => age
    | none => age
  .castTo "BIGINT" value

/-- The difference of two dates or timestamps. -/
def difference (t : Target) (c : List String) (kind : String) (ps : List Node) : Node :=
  match t.functions, ps with
  | .duckdb, this :: other :: rest =>
    let settled := match kind with
      | "TIMESTAMPDIFF" => id
      | "TIMEDIFF" => asTime
      | "TSORDSDIFF" => castOnce t "TIMESTAMP"
      | _ => asDate
    .mk (.call (.known kind "DATE_DIFF")) c
      [.text ((unitOf? rest).getD "DAY"), settled other, settled this]
  | .postgres, this :: other :: rest =>
    if kind == "DATEDIFF" || kind == "TSORDSDIFF" then ageDifference this other (unitOf? rest)
    else .mk (.call (.known kind "TIMESTAMPDIFF")) c ps
  | .mysql, this :: other :: rest =>
    if kind == "DATEDIFF" || kind == "TSORDSDIFF" then
      .mk (.call (.known kind "DATEDIFF")) c [this, other]
    else
      let unit := Node.of (.keyword ((unitOf? rest).getD "DAY")) []
      .mk (.call (.known kind "TIMESTAMPDIFF")) c [unit, other, this]
  | _, _ => .mk (.call (.known kind (if kind == "TSORDSDIFF" then "TS_OR_DS_DIFF" else kind))) c ps

/-- The last day of a month by the functions of PostgreSQL. -/
def lastDay (this : Node) : Node :=
  let month : Node := .of (.call (.dateTrunc false)) [this, .text "MONTH"]
  let later : Node := .of (.binary .add) [month, .of (.interval (some "MONTH")) [.text "1"]]
  .castTo "DATE" (.of (.binary .subtract) [later, .of (.interval (some "DAY")) [.text "1"]])

/-- A number of seconds as a time, or a time as a number of seconds, and texts read as times.
`none` is a form that the target writes in the usual way. -/
def secondsForm? (t : Target) (kind : String) (ps : List Node) : Option Node :=
  match kind, t.functions, ps with
  | "STRTOUNIX", .duckdb, [this, format] =>
    some (plainCall "EPOCH" [plainCall "STRPTIME" [this, format]])
  | "UNIXTOTIME", .oracle, this :: _ =>
    let epoch := plainCall "TO_DATE" [.text "1970-01-01", .text "YYYY-MM-DD"]
    let days := Node.of (.binary (.divide true false)) [this, .num "86400"]
    some (.of (.binary .add) [epoch, .of .paren [days]])
  | "UNIXTOSTR", .duckdb, [this, format] =>
    some (plainCall "STRFTIME" [plainCall "TO_TIMESTAMP" [this], format])
  | "UNIXTOTIMESTR", .duckdb, [this] => some (.castTo "TEXT" (plainCall "TO_TIMESTAMP" [this]))
  | "TIMETOUNIX", .postgres, [this] => some (plainCall "DATE_PART" [.text "epoch", this])
  | "TIMESTRTOTIME", .oracle, _ => none
  | "TIMESTRTOTIME", _, [this] => some (castOnce t "TIMESTAMP" this)
  | "TIMESTRTOTIME", _, this :: _ => some (castOnce t "TIMESTAMPTZ" this)
  | "TIMESTRTODATE", .duckdb, [this] => some (castOnce t "DATE" this)
  | "TIMESTRTOUNIX", .duckdb, [this] => some (plainCall "EPOCH" [castOnce t "TIMESTAMP" this])
  | _, _, _ => none

/-- A date or its digits in another form. `none` is a form that the target writes in the usual
way. -/
def dayForm? (t : Target) (kind : String) (ps : List Node) : Option Node :=
  match kind, t.functions, ps with
  | "DATESTRTODATE", .oracle, [this] => some (plainCall "TO_DATE" [this, .text "YYYY-MM-DD"])
  | "DATESTRTODATE", _, [this] => some (castOnce t "DATE" this)
  | "DATETODI", .duckdb, [this] =>
    some (.castTo "INT" (plainCall "STRFTIME" [this, .text "%Y%m%d"]))
  | "DITODATE", .duckdb, [this] =>
    some (.castTo "DATE" (plainCall "STRPTIME" [.castTo "TEXT" this, .text "%Y%m%d"]))
  | "TSORDITODI", .duckdb, [this] =>
    let digits := plainCall "REPLACE" [.castTo "TEXT" this, .text "-", .text ""]
    some (.castTo "INT" (plainCall "SUBSTR" [digits, .num "1", .num "8"]))
  | "TSORDSTODATE", .mysql, _ => none
  | "TSORDSTODATE", _, [this] => some (castOnce t "DATE" this)
  | "TSORDSTOTIME", _, this :: _ => some (castOnce t "TIME" this)
  | "TSORDSTOTIMESTAMP", _, [this] => some (castOnce t "TIMESTAMP" this)
  | "TSORDSTODATETIME", _, [this] => some (castOnce t "DATETIME" this)
  | "YEAROFWEEK", .duckdb, [this] | "YEAROFWEEKISO", .duckdb, [this] =>
    some (partOf "ISOYEAR" this)
  | _, _, _ => none

/-- A time in another zone. -/
def inZone (t : Target) (ps : List Node) : Option Node :=
  match t.functions, ps with
  | .mysql, [zone, this] => some (plainCall "CONVERT_TZ" [this, zone])
  | .mysql, source :: zone :: this :: _ => some (plainCall "CONVERT_TZ" [this, source, zone])
  | _, [zone, this] => some (.of .atTimeZone [this, zone])
  | _, source :: zone :: this :: _ =>
    some (.of .atTimeZone [.of .atTimeZone [castOnce t "TIMESTAMPNTZ" this, source], zone])
  | _, _ => none

/-- Areas by which time zones are named. -/
def zoneAreas : List String :=
  ["africa", "america", "antarctica", "arctic", "asia", "atlantic", "australia", "brazil", "canada",
    "chile", "etc", "europe", "indian", "mexico", "pacific", "us"]

/-- Time zones without an area. -/
def plainZones : List String :=
  ["utc", "gmt", "est", "mst", "hst", "cet", "eet", "met", "wet", "est5edt", "cst6cdt", "mst7mdt",
    "pst8pdt", "uct", "zulu", "universal", "greenwich", "gmt0", "gmt+0", "gmt-0", "cuba", "egypt",
    "eire", "gb", "gb-eire", "hongkong", "iceland", "iran", "israel", "jamaica", "japan",
    "kwajalein", "libya", "navajo", "nz", "nz-chat", "poland", "portugal", "prc", "roc", "rok",
    "singapore", "turkey", "w-su"]

/-- Whether a name, in lower case, is that of a time zone. -/
def isZone (s : String) : Bool :=
  plainZones.contains s || zoneAreas.any fun area => s.startsWith (area ++ "/")

/-- Whether a literal or a column names a time zone. -/
def namesZone (n : Node) : Bool := (unitName? n).any fun s => isZone (Text.lower s)

/-- A date or a time made from a value and a zone, or from a date and a time, by the conversions of
DuckDB. -/
def convertedTime? (kind : String) (ps : List Node) : Option Node :=
  let zoned (this zone : Node) : Node := .of .atTimeZone [this, zone]
  match kind, ps with
  | "DATE", [this] => some (.castTo "DATE" this)
  | "DATE", this :: zone :: _ =>
    let day := plainCall "STRFTIME" [.castTo "DATE" this, .text "%d/%m/%Y"]
    let joined := Node.of (.binary .join) [.of (.binary .join) [day, .text " "], zone]
    some (plainCall "STRPTIME" [joined, .text "%d/%m/%Y %Z"])
  | "TIME", [this] =>
    some (.castTo "TIME" (zoned (.castTo "TIMESTAMPTZ" this) (.of (.keyword "") [])))
  | "TIME", [this, zone] => some (.castTo "TIME" (zoned (.castTo "TIMESTAMPTZ" this) zone))
  | "TIMESTAMP", [this] => some (.castTo "TIMESTAMP" this)
  | "TIMESTAMP", this :: zone :: _ =>
    if namesZone zone then some (zoned (.castTo "TIMESTAMP" this) zone) else none
  | "DATETIME", [this, other] =>
    some (.castTo "TIMESTAMP" (if namesZone other then zoned (.castTo "TIMESTAMPTZ" this) other
      else .of (.binary .add) [.castTo "DATE" this, .castTo "TIME" other]))
  | _, _ => none

/-- A value of the clock, of a zone if one is given. -/
def clock (t : Target) (c : List String) (kind name : String) (ps : List Node) : Node :=
  let bare := Node.mk (.call (.constant kind name)) c []
  match t.functions, kind, ps with
  | .duckdb, _, _ => bare
  | .postgres, "CURRENTDATE", [zone] | .mysql, "CURRENTDATE", [zone] =>
    .of .atTimeZone [bare, zone]
  | _, _, _ => .mk (.call (.known kind name)) c ps

/-- A value of the clock in universal time. -/
def universalClock (t : Target) (c : List String) (kind name : String) (ps : List Node) : Node :=
  let here := Node.mk (.call (.known kind name)) c ps
  let zone := [Node.text "UTC"]
  match kind, t.functions with
  | _, .mysql | "UTCTIME", .oracle | "UTCTIMESTAMP", .oracle => here
  | "UTCDATE", _ => clock t c "CURRENTDATE" "CURRENT_DATE" zone
  | "UTCTIME", _ => clock t c "CURRENTTIME" "CURRENT_TIME" zone
  | _, _ => .mk (.call .currentTimestamp) c []

/-- The day from which days and seconds are counted. -/
def firstDay (t : Target) : Node := converted t "DATE" (.text "1970-01-01")

/-- The seconds since the first day. -/
def secondsSince (t : Target) (c : List String) (this : Node) : Node :=
  match t.functions with
  | .duckdb =>
    let time := match this.head with
      | .string _ => Node.castTo "TIMESTAMP" this
      | _ => this
    .castTo "BIGINT" (plainCall "EPOCH" [time])
  | _ =>
    let start := converted t "TIMESTAMPTZ" (.text "1970-01-01 00:00:00+00")
    difference t c "TIMESTAMPDIFF" [this, start, .of (.keyword "SECONDS") []]

/-- A text or a time converted by a format. -/
def formatted (t : Target) (c : List String) (kind name : String) (ps : List Node) : Node :=
  match ps with
  | [this, format] =>
    let args := [this, TimeFormat.mapArgument (TimeFormat.written t.functions) format]
    match t.functions, kind with
    | .duckdb, "TIMETOSTR" => .mk (.call (.known kind "STRFTIME")) c args
    | .duckdb, "STRTODATE" => .castTo "DATE" (.mk (.call (.known kind "STRPTIME")) c args)
    | .duckdb, "STRTOTIME" => .mk (.call (.known kind "STRPTIME")) c args
    | .postgres, "TIMETOSTR" => .mk (.call (.known kind "TO_CHAR")) c args
    | .postgres, "STRTODATE" => .mk (.call (.known kind "TO_DATE")) c args
    | .postgres, "STRTOTIME" => .mk (.call (.known kind "TO_TIMESTAMP")) c args
    | _, _ => .mk (.call (.known kind (t.functionName kind name))) c args
  | _ => .mk (.call (.known kind (t.functionName kind name))) c ps

/-- A time some months later. A text is read as a time, and what the target makes a time goes back
to the type it had. -/
def monthsLater (this months : Node) : Node :=
  let type := ValueType.of this
  let this := if ValueType.texts.contains type then Node.castTo "TIMESTAMP" this else this
  let later := plainCall "DATE_ADD" [this, .of (.interval (some "MONTH")) [months]]
  if ["DATE", "TIMESTAMPTZ"].contains type then .castTo type later else later

/-! ## Numbers -/

/-- The middle of a group. -/
def median (t : Target) (c : List String) (ps : List Node) : Node :=
  match t.hasMedian, ps with
  | false, [this] =>
    if t.functions == .postgres then
      .mk .withinGroup c [.known "PERCENTILECONT" "PERCENTILE_CONT" [.num "0.5"],
        .of .orderBy [.of (.ordered none false) [this]]]
    else .mk (.call (.known "PERCENTILECONT" "PERCENTILE_CONT")) c [this, .num "0.5"]
  | _, _ => .mk (.call (.known "MEDIAN" "MEDIAN")) c ps

def percentile (t : Target) (c : List String) (kind name : String) (ps : List Node) : Node :=
  match t.functions, ps with
  | .postgres, [this, fraction] =>
    .mk .withinGroup c
      [.known kind name [fraction], .of .orderBy [.of (.ordered none false) [this]]]
  | _, _ => .mk (.call (.known kind (t.functionName kind name))) c ps

/-- A rounded number. PostgreSQL rounds binary numbers to whole numbers only. -/
def rounded (t : Target) (c : List String) (ps : List Node) : Node :=
  match t.functions, ps with
  | .postgres, this :: decimals :: _ =>
    let this := if ValueType.of this == "DOUBLE" then Node.castTo "DECIMAL" this else this
    .mk (.call (.known "ROUND" "ROUND")) c [this, decimals]
  | _, _ => .mk (.call (.known "ROUND" "ROUND")) c ps

/-- A quotient that is null if the divisor is zero. -/
def safeDivision (t : Target) (a b : Node) : Node :=
  let b := guardOperand b
  let quotient := .of (.binary (.divide false false))
    (division t false (needsRealOperand t false [a, b]) [guardOperand a, b])
  caseNode [(.of (.binary .notEqual) [b, .num "0"], quotient)] (some (.of .null []))

/-! ## Calls

The functions by what they are about. `none` is a call that is written in the usual way. -/

/-- A call of a known function in the usual way. -/
def usualCall (t : Target) (c : List String) (kind name : String) (ps : List Node) : Node :=
  .mk (.call (.known kind (t.functionName kind name))) c ps

/-- The names of the functions of rows that also compare their arguments. -/
def extremes : List (String × String) := [("MAX", "GREATEST"), ("MIN", "LEAST")]

/-- A function of numbers or of a group in the target's way. -/
def numberForm? (t : Target) (c : List String) (kind name : String) (ps : List Node) :
    Option Node :=
  match kind, ps with
  | "MAX", _ | "MIN", _ =>
    if t.namesExtremes && 1 < ps.length then
      let name := (extremes.lookup kind).getD name
      some (.mk (.call (.known name name)) c ps)
    else none
  | "COUNTIF", [this] =>
    if t.functions == .postgres then
      some (.mk (.call (.known "SUM" "SUM")) c [caseNode [(this, .num "1")] (some (.num "0"))])
    else none
  | "APPROXDISTINCT", this :: _ =>
    if t.functions == .duckdb then some (usualCall t c kind name [this]) else none
  | "MEDIAN", _ => some (median t c ps)
  | "PERCENTILECONT", _ | "PERCENTILEDISC", _ => some (percentile t c kind name ps)
  | "ROUND", _ => some (rounded t c ps)
  | "SAFEDIVIDE", [a, b] => some (safeDivision t a b)
  | _, _ => none

/-- A choice between values in the target's way. -/
def choiceForm? (t : Target) (c : List String) (kind name : String) (ps : List Node) :
    Option Node :=
  match kind, ps with
  | "NVL2", this :: value :: rest => if t.hasNvl2 then none else some (byNull this value rest.head?)
  | "DECODECASE", _ => if t.hasDecode then none else decodeCase ps
  | "COALESCE", _ =>
    if name == "NVL" && !t.keepsNvl then some (.mk (.call (.known kind "COALESCE")) c ps) else none
  | "EQUALNULL", _ =>
    if t.functions == .duckdb then some (.mk (.binary .nullSafeEqual) c ps) else none
  | _, _ => none

/-- A function of texts in the target's way. -/
def textForm? (t : Target) (c : List String) (kind name : String) (ps : List Node) :
    Option Node :=
  match kind, ps with
  | "STRPOSITION", this :: sought :: rest => some (position t c this sought rest)
  | "PAD", [_, _] =>
    if t.padsWithText then some (.mk (.call (.known kind name)) c (ps ++ [.text " "])) else none
  | "REGEXPREPLACE", _ => some (replaceAll t c ps)
  | "REGEXPLIKE", _ => some (patternMatch t c false ps)
  | "REGEXPEXTRACT", _ => if t.functions == .duckdb then some (firstMatch c ps) else none
  | "SPACE", [count] => some (.mk (.call (.known "REPEAT" "REPEAT")) c [.text " ", count])
  | "UNICODE", [this] => codePoint? t c this
  | "ENCODE", this :: _ | "DECODE", this :: _ =>
    if t.functions == .duckdb then some (usualCall t c kind name [this]) else none
  | "MD5DIGEST", this :: _ =>
    if t.functions == .duckdb then some (plainCall "UNHEX" [plainCall "MD5" [this]]) else none
  | "SHA2", this :: rest =>
    match t.functions with
    | .duckdb | .postgres =>
      let bits := match rest with
        | .mk (.number s) _ _ :: _ => s
        | _ => "256"
      some (.mk (.call (.known kind ("SHA" ++ bits))) c [this])
    | _ => none
  | _, _ => none

/-- A conversion that is called by name, in the target's way. -/
def conversionForm? (t : Target) (kind : String) (ps : List Node) : Option Node :=
  match kind, ps with
  | "TOCHAR", this :: rest => convertedUnless "TEXT" this rest
  | "TONUMBER", this :: rest => convertedUnless "DOUBLE" this rest
  | "STRING", [this] => some (converted t "VARCHAR" this)
  | "STRING", [this, zone] =>
    some (converted t "VARCHAR" ((inZone t [.text "UTC", zone, this]).getD this))
  | "INT64", [this] => some (converted t "BIGINT" this)
  | "TODOUBLE", this :: _ => some (converted t "DOUBLE" this)
  | "NUMBERTOSTR", this :: .mk (.number s) _ _ :: _ =>
    if t.functions == .duckdb && s.all Char.isDigit then
      some (plainCall "FORMAT" [.text ("\x7b:,." ++ s ++ "f\x7d"), this])
    else none
  | "JSONFORMAT", this :: _ =>
    if t.functions == .duckdb then some (.castTo "TEXT" (plainCall "TO_JSON" [this])) else none
  | "PARSEJSON", this :: _ =>
    match t.functions with
    | .postgres => some (.castTo "JSON" this)
    | .mysql => some this
    | _ => none
  | _, _ => none
where
  /-- Oracle has these conversions, PostgreSQL those with a format. -/
  convertedUnless (type : String) (this : Node) (format : List Node) : Option Node :=
    match t.functions with
    | .oracle => none
    | .postgres => if format.isEmpty then some (converted t type this) else none
    | _ => some (converted t type this)

/-- A time that is moved, compared or cut off, in the target's way. -/
def spanForm? (t : Target) (c : List String) (kind name : String) (ps : List Node) :
    Option Node :=
  match kind, ps with
  | "DATEADD", _ | "DATESUB", _ | "TSORDSADD", _ => some (moved t c kind name ps)
  | "TIMESTAMPADD", _ | "TIMESTAMPSUB", _ => some (moved t c kind name ps)
  | "DATETIMEADD", _ | "DATETIMESUB", _ | "TIMEADD", _ | "TIMESUB", _ =>
    if t.functions == .duckdb then some (moved t c kind name ps) else none
  | "DATEDIFF", _ | "TIMESTAMPDIFF", _ | "TSORDSDIFF", _ => some (difference t c kind ps)
  | "DATETIMEDIFF", _ | "TIMEDIFF", _ =>
    if t.functions == .duckdb then some (difference t c kind ps) else none
  | "DATETIMETRUNC", this :: unit :: _ =>
    if t.functions == .duckdb then
      some (.mk (.call (.dateTrunc true)) c
        [.castTo "TIMESTAMP" this, .text ((unitName? unit).getD "DAY")])
    else none
  | "MONTHSBETWEEN", this :: other :: _ =>
    if t.functions == .duckdb then
      some (.mk (.call (.known "DATEDIFF" "DATEDIFF")) c
        [.text "month", .castTo "TIMESTAMP" other, .castTo "TIMESTAMP" this])
    else none
  | "ADDMONTHS", [this, months] =>
    if t.functions == .duckdb then some (monthsLater this months) else none
  | "LASTDAY", this :: _ =>
    some (if t.functions == .postgres then lastDay this else usualCall t c kind name [this])
  | "UNIXSECONDS", [this] => some (secondsSince t c this)
  | "UNIXDATE", [this] =>
    some (difference t c "DATEDIFF" [this, firstDay t, .of (.keyword "DAY") []])
  | "DATEFROMUNIXDATE", [this] =>
    some (moved t c "DATEADD" "DATE_ADD" [firstDay t, this, .of (.keyword "DAY") []])
  | _, _ => none

/-- A time that is read, written or taken from the clock, in the target's way. -/
def clockForm? (t : Target) (c : List String) (kind name : String) (ps : List Node) :
    Option Node :=
  match kind with
  | "TIMETOSTR" | "STRTODATE" | "STRTOTIME" => some (formatted t c kind name ps)
  | "DATE" | "TIME" | "TIMESTAMP" | "DATETIME" =>
    if t.functions == .duckdb then convertedTime? kind ps else none
  | "CURRENTDATE" | "CURRENTTIME" => some (clock t c kind name ps)
  | "UTCDATE" | "UTCTIME" | "UTCTIMESTAMP" => some (universalClock t c kind name ps)
  | "CONVERTTIMEZONE" => inZone t ps
  | _ => none

/-- A function of arrays whose arguments differ among the targets. -/
def listForm? (t : Target) (c : List String) (kind name : String) (ps : List Node) :
    Option Node :=
  match kind, ps with
  | "SORTARRAY", this :: rest =>
    if t.functions == .duckdb then
      let descending := rest.head?.any fun n => n.head == .boolean false
      some (plainCall (if descending then "LIST_REVERSE_SORT" else "LIST_SORT") [this])
    else none
  | "ARRAYSIZE", this :: dimension =>
    match t.functions with
    | .postgres =>
      some (usualCall t c kind name
        (this :: (if dimension.isEmpty then [.num "1"] else dimension)))
    | .duckdb => none
    | _ => some (usualCall t c kind name [this])
  | _, _ => none

/-- A known function in the target's way. -/
def ownForm? (t : Target) (c : List String) (kind name : String) (ps : List Node) : Option Node :=
  numberForm? t c kind name ps <|> choiceForm? t c kind name ps <|> textForm? t c kind name ps <|>
    conversionForm? t kind ps <|> spanForm? t c kind name ps <|> clockForm? t c kind name ps <|>
    listForm? t c kind name ps <|> arrayForm? t c kind ps <|> secondsForm? t kind ps <|>
    dayForm? t kind ps

/-- A known function fitted to the target. -/
def fitKnown (t : Target) (c : List String) (kind name : String) (ps : List Node) : Node :=
  (ownForm? t c kind name ps).getD (usualCall t c kind name ps)

end SemanticLayer.Sql.Lowering
