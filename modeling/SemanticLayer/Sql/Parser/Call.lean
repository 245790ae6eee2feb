import SemanticLayer.Sql.Function
import SemanticLayer.Sql.Parser.DataType
import SemanticLayer.Sql.Parser.Literal
import SemanticLayer.Sql.Parser.Window

/-!
# Calls

Functions with their arguments, the functions whose arguments are divided by keywords, and the
operands that begin with a keyword, such as CASE.
-/

namespace SemanticLayer.Sql.Parser

/-- The names in front of an arrow: one, or several in parentheses. -/
def lambdaNames (R : Rules) : Rule .clause (List Node) := do
  if (← peekKey) == "(" then
    let (names, isClosed) ← opened .round (list (name false R.grammar.isName))
    return if isClosed then names else []
  else return (← name false R.grammar.isName).toList

/-- A function or a named argument, which begin with names and an arrow. -/
def lambda (R : Rules) : Rule .clause (Option Node) := orBack do
  let names ← lambdaNames R
  match names, ← peekKey with
  | _ :: _, "->" => do
    advance
    return some (← node (.lambda (identsOf names) false) [← need (← R.assignment)])
  | [first], "=>" => do
    advance
    let called := ((identOf first).map Ident.name).getD ""
    return some (← node (.namedArg called) [← need (← R.assignment)])
  | _, _ => return none

/-- A function that begins with the word LAMBDA, after the word. -/
def wordedLambda (R : Rules) : Rule .clause (Option Node) := do
  let names ← list (name false R.grammar.isName)
  if ← accept ":" then
    return some (← node (.lambda (identsOf names) true) [← need (← R.assignment)])
  else reject

/-- An argument of a call, with what may follow it there. -/
def argument (R : Rules) (aliases : Bool) : Rule .clause (Option Node) := do
  let worded ← acceptIf (R.grammar.calls == .duckdb) "LAMBDA"
  match ← if worded then wordedLambda R else lambda R with
  | some n => return some n
  | none =>
    let found ← do
      if ← accept "DISTINCT" then
        let items ← list R.assignment
        if items.isEmpty then reject else pure (some (← node .distinctArgs items))
      else
        match ← R.query {} with
        | some q => pure (some q)
        | none =>
          let n ← R.assignment
          let n ← if aliases then aliased R true n else pure n
          n.mapM R.setOperations
    match found with
    | none => orderBy R
    | some n =>
      let n := withNulls (← nullTreatment) n
      let n ← do
        match ← orderBy R with
        | some order => pure (Node.of .orderedArg [n, order])
        | none => pure n
      match ← limit R with
      | some (l, _) => return some (.of .limitedArg [n, l])
      | none => return some n

/-- Types of dates and times. -/
def timeTypes : List String :=
  ["DATE", "DATETIME", "DATETIME2", "SMALLDATETIME", "TIME", "TIMETZ", "TIMESTAMP", "TIMESTAMPNTZ",
    "TIMESTAMPLTZ", "TIMESTAMPTZ", "TIMESTAMP_S", "TIMESTAMP_MS", "TIMESTAMP_NS"]

/-- A conversion by a format. To a date or time it is a call that reads the text. -/
def formattedCast (g : Grammar) (lenient : Bool) (value type format : Node) : Node :=
  let isType (p : String → Bool) : Bool := match type.head with
    | .dataType name true => p name
    | _ => false
  let common := TimeFormat.mapArgument (TimeFormat.common g.calls) format
  if isType (· == "DATE") then .known "STRTODATE" "STR_TO_DATE" [value, common]
  else if isType timeTypes.contains then .known "STRTOTIME" "STR_TO_TIME" [value, common]
  else .of (.cast lenient) [value, type, format]

def textIn (charset : String) : Node := .of (.dataType ("CHAR CHARACTER SET " ++ charset) false) []

/-- The name of a set of characters. -/
def charset : Rule .clause String := do
  match ← peek with
  | some t =>
    if t.kind == .string then
      advance
      return "'" ++ t.text ++ "'"
    else if t.isWord then
      advance
      return t.text
    else reject
  | none => reject

/-- The rest of `CAST(` up to its closing parenthesis. -/
def castBody (R : Rules) (lenient : Bool) : Rule .clause Node := do
  let value ← need (← R.assignment)
  expect "AS"
  match ← dataType R false R.grammar.userTypes with
  | some type =>
    if (← acceptOne ["FORMAT", ","]).isSome then
      return formattedCast R.grammar lenient value type (← need (← stringLiteral))
    else if ← acceptIf (type.head == .dataType "CHAR" true) "CHARACTER SET" then
      node (.cast lenient) [value, textIn (← charset)]
    else node (.cast lenient) [value, type]
  | none => reject

/-- The rest of `CONVERT(`: a value and a type, or a set of characters after USING. -/
def convertBody (R : Rules) (lenient : Bool) : Rule .clause Node := do
  let value ← need (← R.bitwise)
  if ← accept "USING" then node (.cast lenient) [value, textIn (← charset)]
  else
    expect ","
    match ← dataType R false R.grammar.userTypes with
    | some type => node (.cast lenient) [value, type]
    | none => reject

def extractBody (R : Rules) : Rule .clause Node := do
  let unit ← do
    match ← stringLiteral with
    | some s => pure s
    | none =>
      match ← peek with
      | some t =>
        if isAnyName t then
          advance
          node (.keyword (Text.upper t.text)) []
        else reject
      | none => reject
  if !(← accept "FROM") then expect ","
  let value ← need (← R.bitwise)
  node .extract [unit, value]

/-- The rest of `SUBSTRING(`: arguments, or FROM and FOR after the first one. -/
def substringBody (R : Rules) : Rule .clause Node := do
  let args ← list R.bitwise
  let start ← do
    if ← accept "FROM" then pure (some (← need (← R.bitwise))) else pure none
  let length ← do
    if ← accept "FOR" then pure (some (← need (← R.bitwise))) else pure none
  let start := if length.isSome then some (start.getD (.of (.number "1") [])) else start
  let all := args ++ start.toList ++ length.toList
  if all.isEmpty || all.length > 3 then reject else return .of (.call .substring) all

/-- The rest of `TRIM(`. The characters to remove come first before FROM and second after a
comma. -/
def trimBody (R : Rules) : Rule .clause Node := do
  let side := (← acceptOne ["BOTH", "LEADING", "TRAILING"]).map Token.key
  let first ← R.bitwise
  match ← acceptOne ["FROM", ","] with
  | some t =>
    let second ← need (← R.bitwise)
    if t.key == "FROM" then node (.call (.trim side)) (second :: first.toList)
    else node (.call (.trim side)) [← need first, second]
  | none => node (.call (.trim side)) [← need first]

/-- The rest of `OVERLAY(`: the text, what is put into it, where, and in place of how much. -/
def overlayBody (R : Rules) : Rule .clause Node := do
  let part (word : String) : Rule .clause (Option Node) := do
    if (← acceptOne [",", word]).isSome then R.bitwise else return none
  let this ← need (← R.bitwise)
  let new ← need (← part "PLACING")
  let start ← need (← part "FROM")
  let length ← part "FOR"
  node (.call (.known "OVERLAY" "OVERLAY")) ([this, new, start] ++ length.toList)

/-- The rest of `CEIL(` or `FLOOR(`: a number and its places, or a time and its unit. -/
def roundBody (R : Rules) (kind : String) : Rule .clause Node := do
  let args := (← list (argument R false)).take 2
  let args := match args, ← if ← accept "TO" then placeholderName else pure none with
    | this :: _, some unit => [.of (.wordedArg ("TO " ++ unit)) [this]]
    | _, _ => args
  return .of (.call (.known kind kind)) args

/-- An argument list whose last item has words after it. -/
def wordedLast (words : String) : List Node → List Node
  | [] => []
  | [n] => [.of (.wordedArg words) [n]]
  | n :: ns => n :: wordedLast words ns

/-- The rest of `CHR(`: code points, and the character set that they belong to. -/
def charBody (R : Rules) : Rule .clause Node := do
  let args ← list R.assignment
  let set ← if ← accept "USING" then placeholderName else pure none
  let args := match set with
    | some s => wordedLast ("USING " ++ s) args
    | none => args
  node (.call (.known "CHR" "CHR")) args

/-- The rest of `POSITION(`: what is looked for comes first. -/
def positionBody (R : Rules) : Rule .clause Node := do
  let args ← list R.bitwise
  if ← accept "IN" then
    let this ← need (← R.bitwise)
    node (.call (.known "STRPOSITION" "STR_POSITION")) (this :: args.take 1)
  else match args with
    | sought :: this :: rest =>
      node (.call (.known "STRPOSITION" "STR_POSITION")) (this :: sought :: rest.take 1)
    | _ => reject

/-- The rest of `DECODE(`: a text and its encoding, or a choice by equality. -/
def decodeBody (R : Rules) : Rule .clause Node := do
  let args ← list R.assignment
  if args.isEmpty then reject
  else if args.length < 3 then node (.call (.known "DECODE" "DECODE")) args
  else node (.call (.known "DECODECASE" "DECODE")) args

/-- The arguments of a function that joins the texts of a group. -/
def joinArguments (R : Rules) : Rule .clause (List Node) := do
  if ← accept "DISTINCT" then
    let first := Node.of .distinctArgs [← need (← R.assignment)]
    if ← accept "," then return first :: (← list R.assignment) else return [first]
  else list R.assignment

/-- The parentheses of `STRING_AGG`: the order of the texts stands after the arguments or after
WITHIN GROUP. Either way it belongs to the first argument. -/
def joinBody (R : Rules) : Rule .operand Node :=
  reopened .round ["WITHIN", "GROUP"] (joinArguments R) fun
    | [] => reject
    | first :: rest => do
      let ordered ← do
        match ← orderBy R with
        | some order => pure (Node.of .orderedArg [first, order])
        | none => pure first
      let limited ← do
        match ← limit R with
        | some (l, _) => pure (Node.of .limitedArg [ordered, l])
        | none => pure ordered
      node (.call .joinGroup) (limited :: rest.take 1)

/-- Several texts as one. -/
def concatenated : List Node → List Node
  | [.mk .distinctArgs c (a :: b :: ps)] =>
    [.mk .distinctArgs c [.of (.call .concat) (a :: b :: ps)]]
  | [] => []
  | [n] => [n]
  | ns => [.of (.call .concat) ns]

/-- The rest of `GROUP_CONCAT(` with its order and its separator. -/
def groupConcatBody (R : Rules) : Rule .clause Node := do
  let args ← list (argument R false)
  let this := match args.getLast? with
    | some (.mk .orderedArg c (last :: order)) =>
      [Node.mk .orderedArg c (concatenated (args.dropLast ++ [last]) ++ order)]
    | _ => concatenated args
  let separator ← do
    if ← accept "SEPARATOR" then
      match ← stringLiteral with
      | some s => pure (some s)
      | none => R.unary
    else pure none
  node (.call .joinGroup) (this ++ separator.toList)

def datePartBody (R : Rules) : Rule .clause Node := do
  let part ← need (← R.unary)
  let _ ← accept ","
  let value ← need (← R.bitwise)
  let part := match unitName? part with
    | some s => .of (.keyword s) []
    | none => part
  node .extract [part, value]

/-- A key and its value in a JSON object. -/
def jsonPair (R : Rules) : Rule .clause (Option Node) := do
  let _ ← accept "KEY"
  let key ← R.unary
  let _ ← acceptOne [":", ",", "IS"]
  let _ ← accept "VALUE"
  let value ← R.bitwise
  match key, value with
  | none, none => return none
  | _, _ => return some (← node .jsonPair [← need key, ← need value])

/-- The arguments with words after the last one. -/
def wordsAfter (words : String) (more : List Node) : List Node → List Node
  | [] => []
  | [n] => [.of (.wordedArg words) (n :: more)]
  | n :: ns => n :: wordsAfter words more ns

/-- A value that may be JSON text already. -/
def formatted (n : Node) : Rule .clause Node := do
  if ← acceptAll ["FORMAT", "JSON"] then return .of (.wordedArg "FORMAT JSON") [n] else return n

/-- What a function does in a case, if it says so with one of some words. -/
def handling (event : String) (words : List String) : Rule .clause (Option String) :=
  words.findSomeM? fun w => do
    return if ← acceptAll [w, "ON", event] then some (w ++ " ON " ++ event) else none

/-- What may be said after the pairs of a JSON object. -/
def jsonObjectOptions (R : Rules) (args : List Node) : Rule .clause (List Node) := do
  let args := match ← handling "NULL" ["NULL", "ABSENT"] with
    | some words => wordsAfter words [] args
    | none => args
  let unique ← do
    if ← acceptAll ["WITH", "UNIQUE"] then pure (some "WITH UNIQUE KEYS")
    else if ← acceptAll ["WITHOUT", "UNIQUE"] then pure (some "WITHOUT UNIQUE KEYS")
    else pure none
  let _ ← accept "KEYS"
  let args := match unique with
    | some words => wordsAfter words [] args
    | none => args
  let args ← do
    if ← accept "RETURNING" then
      match ← dataType R false R.grammar.userTypes with
      | some type => pure (wordsAfter "RETURNING" [← formatted type] args)
      | none => reject
    else pure args
  if ← accept "ENCODING" then
    match ← placeholderName with
    | some s => return wordsAfter ("ENCODING " ++ s) [] args
    | none => reject
  else return args

/-- The rest of `JSON_OBJECT(`, or of the function that makes an object of a group. -/
def jsonObjectBody (R : Rules) (kind name : String) : Rule .clause Node := do
  let pairs ← do
    if ← accept "*" then pure [.of (.star []) []]
    else list do (← jsonPair R).mapM formatted
  node (.call (.known kind name)) (← jsonObjectOptions R pairs)

/-- The columns of a table made of a JSON value, at most `depth` of them inside one another. -/
def jsonColumns (R : Rules) : Nat → Rule .clause Node
  | 0 => reject
  | depth + 1 => do
    let _ ← accept "COLUMNS"
    let columns ← wrapped (list do
      if ← accept "NESTED" then
        let path ← do if ← accept "PATH" then pure (← stringLiteral).toList else pure []
        return some (← node (.jsonColumn none false) (path ++ [← jsonColumns R depth]))
      else
        match (← name true R.grammar.isName).bind identOf with
        | none => return none
        | some id =>
          let ordinality ← acceptAll ["FOR", "ORDINALITY"]
          let type ← dataType R false false
          let path ← do if ← accept "PATH" then pure (← stringLiteral).toList else pure []
          return some (← node (.jsonColumn (some id) ordinality) (type.toList ++ path)))
    node .jsonColumns columns

def jsonTableBody (R : Rules) : Rule .clause Node := do
  let this ← formatted (← need (← R.bitwise))
  let path ← do if ← accept "," then pure (← stringLiteral).toList else pure []
  let onError ← handling "ERROR" ["ERROR", "NULL"]
  let onEmpty ← handling "EMPTY" ["ERROR", "NULL"]
  let words := String.join ((onError.toList ++ onEmpty.toList).map (" " ++ ·))
  let columns ← jsonColumns R ((← left) + 1)
  node (.jsonTable words) ([this] ++ path ++ [columns])

/-- The rest of `XMLELEMENT(`. -/
def elementBody (R : Rules) : Rule .clause Node := do
  let named ← do
    if ← accept "NAME" then pure (← name false R.grammar.isName) else pure none
  let content ← do if ← accept "," then list R.bitwise else pure []
  node (.call (.known "XMLELEMENT" "XMLELEMENT"))
    (.of (.leadingWord "NAME") named.toList :: content)

/-- How a search is done, if it says so. -/
def searchMode : Rule .clause String := do
  if ← acceptAll ["IN", "NATURAL", "LANGUAGE", "MODE"] then
    if ← acceptAll ["WITH", "QUERY", "EXPANSION"] then
      return " IN NATURAL LANGUAGE MODE WITH QUERY EXPANSION"
    else return " IN NATURAL LANGUAGE MODE"
  else if ← acceptAll ["IN", "BOOLEAN", "MODE"] then return " IN BOOLEAN MODE"
  else if ← acceptAll ["WITH", "QUERY", "EXPANSION"] then return " WITH QUERY EXPANSION"
  else return ""

/-- The parentheses of `MATCH`, and those after AGAINST. -/
def searchBody (R : Rules) : Rule .operand Node :=
  reopened .round ["AGAINST"] (list R.unary) fun columns => do
    let sought ← need (← stringLiteral)
    node (.search (← searchMode)) (sought :: columns)

/-- A part of a record, as a field if it has a name. -/
def recordPart (n : Node) : Node :=
  let called (id : Ident) (value : Node) : Node := .of .recordField [.of (.name id) [], value]
  match n with
  | .mk (.aliased id) _ [value] => called id value
  | .mk .recordField _ [key, value] | .mk (.binary .equal) _ [key, value]
  | .mk (.binary .assign) _ [key, value] =>
    match key.head with
    | .column path => called (path.getLast?.getD ⟨"", false⟩) value
    | .string s | .number s => called (.ofText s) value
    | _ => n
  | n => n

/-- The rest of `STRUCT(`. -/
def recordBody (R : Rules) : Rule .clause Node := do
  node .record ((← list (argument R true)).map recordPart)

/-- The rest of `VALUES(`: the column of a row that is inserted. -/
def valuesBody (R : Rules) : Rule .clause Node := do
  node (.call (.unknown "VALUES" false)) (← name true R.grammar.isName).toList

/-- The rest of `NORMALIZE(`: a text and the name of a normal form. -/
def normalizeBody (R : Rules) : Rule .clause Node := do
  let this ← need (← R.bitwise)
  let form ← if ← accept "," then placeholderName else pure none
  node (.call (.known "NORMALIZE" "NORMALIZE"))
    (this :: (form.map fun s => .of (.keyword s) []).toList)

/-- The functions whose arguments are read in a way of their own, with their parentheses. -/
def ownBody? (R : Rules) (upper : String) : Option (Rule .operand Node) :=
  match upper, R.grammar.calls with
  | "CAST", _ => some (wrapped (castBody R false))
  | "TRY_CAST", _ | "SAFE_CAST", _ => some (wrapped (castBody R true))
  | "CONVERT", .oracle => none
  | "CONVERT", _ => some (wrapped (convertBody R false))
  | "TRY_CONVERT", _ => some (wrapped (convertBody R true))
  | "EXTRACT", _ => some (wrapped (extractBody R))
  | "SUBSTRING", _ | "SUBSTR", .mysql => some (wrapped (substringBody R))
  | "TRIM", _ => some (wrapped (trimBody R))
  | "CEIL", _ | "CEILING", _ => some (wrapped (roundBody R "CEIL"))
  | "FLOOR", _ => some (wrapped (roundBody R "FLOOR"))
  | "CHR", _ | "CHAR", _ => some (wrapped (charBody R))
  | "POSITION", _ => some (wrapped (positionBody R))
  | "OVERLAY", _ => some (wrapped (overlayBody R))
  | "NORMALIZE", _ => some (wrapped (normalizeBody R))
  | "JSON_OBJECT", _ => some (wrapped (jsonObjectBody R "JSONOBJECT" "JSON_OBJECT"))
  | "JSON_OBJECTAGG", _ => some (wrapped (jsonObjectBody R "JSONOBJECTAGG" "JSON_OBJECTAGG"))
  | "JSON_TABLE", _ => some (wrapped (jsonTableBody R))
  | "XMLELEMENT", _ => some (wrapped (elementBody R))
  | "MATCH", _ => some (searchBody R)
  | "STRUCT", _ | "STRUCT_PACK", .duckdb => some (wrapped (recordBody R))
  | "VALUES", .mysql => some (wrapped (valuesBody R))
  | "DECODE", .duckdb => none
  | "DECODE", _ => some (wrapped (decodeBody R))
  | "STRING_AGG", _ | "LISTAGG", .duckdb | "STRINGAGG", .duckdb | "GROUP_CONCAT", .duckdb =>
    some (joinBody R)
  | "GROUP_CONCAT", .mysql => some (wrapped (groupConcatBody R))
  | "DATE_PART", .postgres => some (wrapped (datePartBody R))
  | _, _ => none

/-- The parentheses of a call by name. -/
def callBody (R : Rules) (called : Ident) (anonymous : Bool) : Rule .operand Node := do
  let upper := Text.upper called.name
  match if anonymous then none else ownBody? R upper with
  | some body => body
  | none =>
    if !anonymous && isKnownFunction R.grammar upper then
      wrapped do need (callOf R.grammar called (← list (argument R false)))
    else
      wrapped do node (.call (.unknown called.name called.quoted)) (← list (argument R true))

/-- CASE, after its keyword. -/
def caseBody (R : Rules) : Rule .operand (Option Node) := do
  let comments ← pending
  let operand ← R.assignment
  let arms ← many do
    if ← accept "WHEN" then
      let condition ← need (← R.assignment)
      let _ ← accept "THEN"
      let value ← need (← R.assignment)
      return some (← node .caseArm [condition, value])
    else return none
  let otherwise ← do
    if ← accept "ELSE" then pure ((← R.assignment).map fun n => Node.of .caseElse [n])
    else pure none
  expect "END"
  if arms.isEmpty then reject
  let operand := operand.map fun n => Node.of .caseOperand [n]
  return some (← nodeWith comments .caseOf (operand.toList ++ arms ++ otherwise.toList))

/-- IF, after its keyword: as a call, or with THEN and ELSE. -/
def ifBody (R : Rules) : Rule .operand (Option Node) := do
  if (← peekKey) == "(" then
    let args ← wrapped (list do aliased R true (← R.assignment))
    if args.length < 2 || args.length > 3 then reject
    return some (.of .ifThen args)
  else
    match ← R.assignment with
    | none => return none
    | some condition =>
      let _ ← accept "THEN"
      let value ← need (← R.assignment)
      let otherwise ← do if ← accept "ELSE" then R.assignment else pure none
      let _ ← accept "END"
      return some (← node .ifThen ([condition, value] ++ otherwise.toList))

/-- Values named without parentheses. -/
def constants : List (String × Function) :=
  [("CURRENT_DATE", .constant "CURRENTDATE" "CURRENT_DATE"),
    ("CURRENT_TIME", .constant "CURRENTTIME" "CURRENT_TIME"),
    ("CURRENT_TIMESTAMP", .currentTimestamp),
    ("CURRENT_USER", .constant "CURRENTUSER" "CURRENT_USER"),
    ("LOCALTIME", .constant "LOCALTIME" "LOCALTIME"),
    ("LOCALTIMESTAMP", .constant "LOCALTIMESTAMP" "LOCALTIMESTAMP")]

/-- The value that a word names without parentheses. -/
def constant? (g : Grammar) (key : String) : Option Function :=
  match key, g.calls with
  | "CURRENT_SCHEMA", .postgres => some (.constant "CURRENTSCHEMA" "CURRENT_SCHEMA")
  | "SYSTIMESTAMP", .oracle => some (.constant "SYSTIMESTAMP" "SYSTIMESTAMP")
  | _, _ => constants.lookup key

/-- A keyword that begins an operand without parentheses of its own. -/
def keywordOperand (R : Rules) (hierarchy : Bool) (key : String) :
    Option (Rule .operand (Option Node)) :=
  match key with
  | "ANY" => some do return some (← node .anyOf [← need (← R.bitwise)])
  | "CASE" => some do
    if (← peekKey) == "." then return none
    caseBody R
  | "CONNECT_BY_ROOT" => some do return some (← node .connectRoot [← need (← R.unary)])
  | "IF" => some (ifBody R)
  | "NEXT" => some do
    if ← acceptAll ["VALUE", "FOR"] then
      let this ← need (← R.unary)
      let order ← if ← accept "OVER" then wrapped (orderBy R) else pure none
      return some (← node .nextValue (this :: order.toList))
    else return none
  | "PRIOR" =>
    if hierarchy || R.grammar.calls == .oracle then
      some do return some (← node .prior [← need (← R.bitwise)])
    else none
  | "DBMS_RANDOM" =>
    if R.grammar.calls == .oracle then
      some do
        if ← acceptAll [".", "VALUE"] then
          let bounds ← if (← peekKey) == "(" then wrapped (list R.bitwise) else pure []
          let bounds := if bounds.length == 2 then bounds else []
          return some (← node (.call (.known "RAND" "RAND")) bounds)
        else return none
    else none
  | "@" =>
    if R.grammar.calls == .duckdb then
      some do return some (← node (.call (.known "ABS" "ABS")) [← need (← R.bitwise)])
    else none
  | "SYSDATE" =>
    if R.grammar.calls == .oracle then
      some (return some (← node (.call (.constant "CURRENTTIMESTAMP" "SYSDATE")) []))
    else none
  | _ => none

/-- How a call is read. -/
structure CallPlace where
  /-- The function's name has no meaning here. -/
  anonymous : Bool := false
  /-- Any word may be the name of a function. -/
  anyName : Bool := false
  /-- Keywords and values without parentheses may stand here. -/
  bare : Bool := true

/-- A quantified query: EXISTS, ALL or SOME before a query in parentheses. -/
def quantifier? : String → Option Head
  | "EXISTS" => some .exists
  | "ALL" => some .allOf
  | "SOME" | "ANY" => some .anyOf
  | _ => none

/-- The operators after which a quantifier takes a list of patterns. -/
def patternKeys : List String := ["LIKE", "~~", "ILIKE", "~~*"]

/-- A call of a function named by `t`, whose parenthesis follows. -/
def callAt (R : Rules) (place : CallPlace) (t : Token) : Rule .operand (Option Node) := do
  let afterPattern := (← here).last.any fun u => patternKeys.contains u.key
  advance
  let startsQuery := ["SELECT", "WITH", "FROM"].contains (← peekSecondKey)
  match if startsQuery || afterPattern then quantifier? t.key else none with
  | some head =>
    if startsQuery then
      match ← wrapped (R.query {}) with
      | some q => return some (← nodeWith t.comments head [q])
      | none => reject
    else return some (← nodeWith t.comments head [← need (← R.bitwise)])
  | none =>
    let called ← callBody R ⟨t.text, t.kind == .quotedName⟩ place.anonymous
    return some (← windowed R (← takePending (called.addComments t.comments)))

/-- A call, a keyword that begins an operand, or a value named without parentheses. -/
def plainCall (R : Rules) (place : CallPlace) : Rule .operand (Option Node) := do
  match ← peek with
  | none => return none
  | some t =>
    let hierarchy := (← here).hierarchy
    let begins := place.bare && (t.isWord || t.key == "@")
    match if begins then keywordOperand R hierarchy t.key else none with
    | some rule =>
      match ← orBack (do advance; rule) with
      | some n => return some (← windowed R n)
      | none => return none
    | none =>
      if (← peekSecondKey) == "(" then
        let callable := if place.anyName then isAnyName t
          else t.kind == .quotedName || t.isWord && R.grammar.isCallable t.key
        if callable then callAt R place t else return none
      else
        match if place.bare && t.isWord then constant? R.grammar t.key else none with
        | some f =>
          advance
          return some (← node (.call f) [])
        | none => return none

/-- A call, perhaps in braces after the word FN. -/
def call (R : Rules) (place : CallPlace) : Rule .operand (Option Node) := do
  let second := ((← here).rest.drop 1).head?
  if (← peekKey) == "\x7b" && second.any fun t => Text.upper t.text == "FN" then
    let (found, _) ← opened .curly do
      advance
      plainCall R place
    return found
  else plainCall R place

end SemanticLayer.Sql.Parser
