import SemanticLayer.Sql.Printer.Piece

/-!
# Writing expressions

How a node of an expression is written, given its written parts.
-/

namespace SemanticLayer.Sql

namespace BinaryOp

/-- The word or mark of an operator. -/
def symbol (t : Target) : BinaryOp → String
  | and => "AND"
  | or => "OR"
  | xor => "XOR"
  | equal => "="
  | notEqual => "<>"
  | nullSafeEqual => if t.hasDistinctFrom then "IS NOT DISTINCT FROM" else "<=>"
  | distinctFrom => "IS DISTINCT FROM"
  | less => "<"
  | lessEqual => "<="
  | greater => ">"
  | greaterEqual => ">="
  | is => "IS"
  | like => "LIKE"
  | ilike => "ILIKE"
  | glob => "GLOB"
  | matchesPattern =>
    match t.patterns with
    | .operators exact _ => exact
    | _ => "RLIKE"
  | matchesAnyCase =>
    match t.patterns with
    | .operators _ anyCase => anyCase
    | _ => "~*"
  | overlaps => "OVERLAPS"
  | containsAll => "@>"
  | extendsLeft => "&<"
  | extendsRight => "&>"
  | adjacent => "-|-"
  | sharesItem => "&&"
  | distance => "<->"
  | atPath => "#>"
  | textAtPath => "#>>"
  | hasKey => "?"
  | hasAnyKey => "?|"
  | hasAllKeys => "?&"
  | withoutPath => "#-"
  | named text => "OPERATOR(" ++ text ++ ")"
  | similarTo => "SIMILAR TO"
  | escape => "ESCAPE"
  | bitAnd => "&"
  | bitOr => "|"
  | bitXor => t.bitXor
  | shiftLeft => "<<"
  | shiftRight => ">>"
  | join => "||"
  | add => "+"
  | subtract => "-"
  | modulo => "%"
  | collate => "COLLATE"
  | multiply => "*"
  | divide _ _ => "/"
  | intDivide =>
    match t.integerDivision with
    | .operator word => word
    | _ => "DIV"
  | power => "^"
  | assign => ":="

/-- Whether the operator connects conditions. -/
def isConnector : BinaryOp → Bool
  | and | or | xor => true
  | _ => false

end BinaryOp

namespace Printer

/-- The operands of a chain of conditions. -/
def chainOf (p : Printer) (r : Rendered) : List Layout :=
  if r.pieces.isEmpty then [p.full r] else r.pieces

/-- A chain of conditions, one to a line if they are too wide. -/
def conditions (p : Printer) (pieces : List Layout) : Layout :=
  if p.tooWide pieces then .concatSep .newline pieces else .concatSep " " pieces

/-- An operation with two operands. The comments of the node follow its operator. -/
def binary (p : Printer) (op : BinaryOp) (c : List String) (l r : Rendered) : Rendered :=
  let word := p.withComments c (.atom (op.symbol p.target))
  if op.isConnector then
    let right := match p.chainOf r with
      | [] => []
      | first :: rest => (word ++ " " ++ first) :: rest
    let pieces := p.chainOf l ++ right
    { body := p.conditions pieces, pieces }
  else { body := p.full l ++ " " ++ word ++ " " ++ p.full r }

/-- CASE, broken if it is too wide. -/
def caseText (p : Printer) (pieces : List Layout) : Layout :=
  if p.tooWide pieces then p.padInside (.concatSep .newline pieces) else .concatSep " " pieces

/-- The pieces of CASE that a part of it brings. -/
def casePieces (head : Head) (parts : List Layout) : List Layout :=
  match head, parts with
  | .caseArm, [condition, value] => ["WHEN " ++ condition, "THEN " ++ value]
  | .caseElse, [value] => ["ELSE " ++ value]
  | _, _ => []

/-- The unit of a date truncation. -/
def unitText (unit : Node) : String :=
  match unit.head with
  | .string s => Text.upper s
  | _ => ""

/-- A date cut by its parts, where there is no function for it. -/
def truncByParts (p : Printer) (unit : String) (value : Layout) : Layout :=
  let year : Layout := "CONCAT(YEAR(" ++ value ++ ")"
  let parse (date : Layout) (format : String) : Layout := p.call "STR_TO_DATE" [date, .atom format]
  match unit with
  | "WEEK" => parse (year ++ ", ' ', WEEK(" ++ value ++ ", 1), ' 1')") "'%Y %u %w'"
  | "MONTH" => parse (year ++ ", ' ', MONTH(" ++ value ++ "), ' 1')") "'%Y %c %e'"
  | "QUARTER" => parse (year ++ ", ' ', QUARTER(" ++ value ++ ") * 3 - 2, ' 1')") "'%Y %c %e'"
  | "YEAR" => parse (year ++ ", ' 1 1')") "'%Y %c %e'"
  | _ => p.call "DATE" [value]

/-- A date or timestamp cut to a unit. -/
def truncation (p : Printer) (ps : List Node) (args : List Layout) : Layout :=
  match ps, args with
  | [_, unit], [value, unitLayout] =>
    match p.target.truncation with
    | .unitFirst => p.call "DATE_TRUNC" [unitLayout, value]
    | .unitLast => p.call "TRUNC" [value, unitLayout]
    | .byParts => p.truncByParts (unitText unit) value
  | _, _ => p.call "DATE_TRUNC" args

def substring (p : Printer) (args : List Layout) : Layout :=
  match p.target.substrings, args with
  | .keywords, [x] => "SUBSTRING(" ++ x ++ ")"
  | .keywords, [x, a] => "SUBSTRING(" ++ x ++ " FROM " ++ a ++ ")"
  | .keywords, [x, a, b] => "SUBSTRING(" ++ x ++ " FROM " ++ a ++ " FOR " ++ b ++ ")"
  | .keywords, _ => p.call "SUBSTRING" args
  | .commas name, _ => p.call name args

/-- A text without the given characters at its ends. -/
def trim (p : Printer) (side : Option String) (args : List Layout) : Layout :=
  let bySide := p.target.sideTrims && (side == some "LEADING" || side == some "TRAILING")
  match p.target.trimKeywords && !bySide, args with
  | true, [x, chars] =>
    let where_ := (side.map fun s => s ++ " ").getD ""
    "TRIM(" ++ .atom where_ ++ chars ++ " FROM " ++ x ++ ")"
  | _, _ =>
    p.call (match side with
      | some "LEADING" => "LTRIM"
      | some "TRAILING" => "RTRIM"
      | _ => "TRIM") args

def functionCall (p : Printer) (f : Function) (ps : List Node) (args : List Layout) : Layout :=
  match f with
  | .known "STRPOSITION" "POSITION" => "POSITION(" ++ .concatSep " IN " args ++ ")"
  | .known "OVERLAY" _ =>
    "OVERLAY(" ++ .concat ((["", " PLACING ", " FROM ", " FOR "].zip args).map
      fun (word, a) => .atom word ++ a) ++ ")"
  | .known "CONVERTUSING" charset =>
    "CONVERT(" ++ .concat args ++ .atom (" USING " ++ charset) ++ ")"
  | .known _ name => p.call name args
  | .unknown name quoted =>
    if quoted then p.ident ⟨name, true⟩ ++ "(" ++ p.arguments ", " args ++ ")" else p.call name args
  | .constant _ name =>
    .atom (if p.target.calledConstants.contains name then name ++ "()" else name)
  | .currentTimestamp =>
    let takesDigits := p.target.functions == .mysql || p.target.functions == .oracle
    if args.isEmpty || !takesDigits then .atom p.target.currentTimestamp
    else p.call "CURRENT_TIMESTAMP" args
  | .joinGroup => "GROUP_CONCAT(" ++ .concatSep " SEPARATOR " args ++ ")"
  | .length bytes => p.call (if bytes then "LENGTH" else p.target.characterLength) args
  | .substring => p.substring args
  | .trim side => p.trim side args
  | .concat => p.call "CONCAT" args
  | .dateTrunc _ => p.truncation ps args

/-- The text in a node that stands for a name. -/
def nameText (n : Node) : String :=
  match n.head with
  | .string s => s
  | .number s => s
  | .column path => (path.getLast?.map Ident.name).getD ""
  | _ => ""

def pluralUnits : List (String × String) :=
  ["MICROSECOND", "SECOND", "MINUTE", "HOUR", "DAY", "WEEK", "MONTH", "QUARTER", "YEAR"].map
    fun s => (s ++ "S", s)

/-- The unit of an interval, with a blank in front. -/
def unitAfter (p : Printer) (unit : String) : String :=
  " " ++ (if p.target.singularUnits then (pluralUnits.lookup unit).getD unit else unit)

/-- An interval. Where its unit stands in its string, a span of units still stands after it. -/
def interval (p : Printer) (unit : Option String) (value : Node) (text : Layout) : Layout :=
  let after := (unit.map p.unitAfter).getD ""
  if p.target.intervalInString && (nameText value).isEmpty then .atom ("INTERVAL" ++ after)
  else if p.target.intervalInString then
    let isSpan := unit.any fun u => (u.splitOn " TO ").length > 1
    if isSpan then .atom ("INTERVAL '" ++ nameText value ++ "'" ++ after)
    else .atom ("INTERVAL '" ++ nameText value ++ after ++ "'")
  else
    let plain := match value.head with
      | .column _ | .string _ | .number _ | .unary .minus | .paren => true
      | _ => false
    "INTERVAL " ++ (if plain then text else "(" ++ text ++ ")") ++ .atom after

def array (p : Printer) (ps : List Node) (args : List Layout) : Layout :=
  let isQuery := ps.head?.any fun n => n.head.isQuery
  match p.target.arrays with
  | .brackets =>
    if isQuery then p.call "ARRAY" args else "[" ++ p.arguments ", " args ++ "]"
  | .keyword =>
    if isQuery then p.call "ARRAY" args else "ARRAY[" ++ .concatSep ", " args ++ "]"
  | .call => p.call "ARRAY" args

/-- A search for a text in columns. -/
def search (p : Printer) (mode : String) (args : List Layout) : Layout :=
  match args with
  | [] => .empty
  | sought :: columns =>
    if p.target.functions == .postgres then
      let found := Layout.concatSep " OR " (columns.map fun a => a ++ " @@ " ++ sought)
      if columns.length > 1 then "(" ++ found ++ ")" else found
    else p.call "MATCH" columns ++ " AGAINST(" ++ sought ++ .atom mode ++ ")"

/-- A function by its names and its value. -/
def lambda (p : Printer) (names : List Ident) (worded : Bool) (body : Layout) : Layout :=
  let list := Layout.concatSep ", " (names.map p.ident)
  if worded then "LAMBDA " ++ list ++ " : " ++ body
  else (if names.length > 1 then "(" ++ list ++ ")" else list) ++ " -> " ++ body

/-- BETWEEN. Without the flags of the target, a symmetric one is spelled out. -/
def between (p : Printer) (symmetric : Option Bool) (this low high : Layout) : Layout :=
  if p.target.betweenFlags then
    let flag := match symmetric with
      | some true => " SYMMETRIC"
      | some false => " ASYMMETRIC"
      | none => ""
    this ++ " BETWEEN" ++ .atom flag ++ " " ++ low ++ " AND " ++ high
  else if symmetric == some true then
    "(" ++ this ++ " BETWEEN " ++ low ++ " AND " ++ high ++ " OR " ++ this ++ " BETWEEN " ++ high ++
      " AND " ++ low ++ ")"
  else this ++ " BETWEEN " ++ low ++ " AND " ++ high

/-- An operation with one operand. Two minus signs are kept apart. -/
def unary (op : UnaryOp) (a : Layout) : Layout :=
  match op with
  | .not => "NOT " ++ a
  | .bitNot => "~" ++ a
  | .minus => if a.first? == some '-' then "- " ++ a else "-" ++ a

/-- One end of a window frame, and the parts it leaves. -/
def frameEnd (b : FrameBound) (args : List Layout) : Layout × List Layout :=
  let (value, rest) := match b.word, args with
    | some w, args => (Layout.atom w, args)
    | none, a :: args => (a, args)
    | none, [] => (.empty, [])
  let side := (b.side.map Layout.atom).toList
  (.concatSep " " (([value] ++ side).filter fun a => !a.isEmpty), rest)

/-- The frame of a window. Without an end it ends at the current row. -/
def frame (kind : String) (start : FrameBound) (stop : Option FrameBound)
    (exclude : Option String) (args : List Layout) : Layout :=
  let (first, rest) := frameEnd start args
  let last := match stop with
    | some b => (frameEnd b rest).1
    | none => .empty
  .atom kind ++ " BETWEEN " ++ first ++ " AND " ++
    (if last.isEmpty then .atom "CURRENT ROW" else last) ++
    .atom ((exclude.map fun s => " EXCLUDE " ++ s).getD "")

/-- The rows of a window: the name of another window, or its parts in parentheses. -/
def windowRows (p : Printer) (base : Option Ident) (word : Option String) (parts : List Layout) :
    Layout :=
  match base, parts with
  | some id, [] => p.ident id
  | _, _ =>
    let words := (base.map p.ident).toList ++ word.toList.map Layout.atom
    "(" ++ p.arguments " " (words ++ parts) ++ ")"

def isWholeNumber : Node → Bool
  | .mk (.number s) _ _ => s.toList.all Text.isDigit
  | .mk (.unary .minus) _ [n] => isWholeNumber n
  | _ => false

/-- The default place of nulls in an order, by direction. -/
def nullsComeFirst (order : NullOrder) (descending : Bool) : Bool :=
  match order with
  | .small => !descending
  | .large => descending
  | .last => false

/-- A key of an order. Where nulls stand is said only if the target would put them elsewhere. A
target without words for it sorts by a further key, except by positions and in framed windows. -/
def ordered (p : Printer) (framed : Bool) (direction : Option Bool) (nullsFirst : Bool)
    (key : Node) (text : Layout) : Layout :=
  let descending := direction == some true
  let word : Layout := match direction with
    | some true => " DESC"
    | some false => " ASC"
    | none => .empty
  if nullsComeFirst p.target.nullOrder descending == nullsFirst then text ++ word
  else if p.target.nullOrderSyntax then
    text ++ word ++ .atom (if nullsFirst then " NULLS FIRST" else " NULLS LAST")
  else if framed || isWholeNumber key then text ++ word
  else
    "CASE WHEN " ++ text ++ " IS NULL THEN 1 ELSE 0 END" ++
      .atom (if nullsFirst then " DESC" else "")
      ++ ", " ++ text ++ word

end Printer

end SemanticLayer.Sql
