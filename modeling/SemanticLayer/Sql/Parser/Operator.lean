import SemanticLayer.Sql.Parser.Operand

/-!
# Operators

Operators by levels, from the tightest to the loosest: signs, products, sums, bits and joined
strings, predicates, comparisons, equality, AND, OR, assignment. All operators with two operands
group to the left.
-/

namespace SemanticLayer.Sql.Parser

/-- A level of operators with two operands. The comments of an operator go to its node. -/
def level (operand : Rule .operand (Option Node)) (operators : List (String × BinaryOp)) :
    Rule .operand (Option Node) := do
  chain (fun this => do
    match operators.lookup (← peekKey) with
    | none => return none
    | some op =>
      advance
      let comments ← pending
      let right ← operand
      return some (some (← nodeWith comments (.binary op) [← need this, ← need right])))
    (← operand)

/-! ## Arithmetic -/

/-- AT TIME ZONE after an operand. -/
def zoned (R : Rules) (this : Option Node) : Rule .operand (Option Node) :=
  chain (fun this => do
    if ← acceptAll ["AT", "TIME", "ZONE"] then
      let zone ← need (← R.unary)
      return some (some (← node .atTimeZone [← need this, zone]))
    else return none) this

/-- An operand with its signs. A plus sign says nothing. -/
def unary (R : Rules) : Rule .operand (Option Node) := do
  let key ← peekKey
  match key with
  | "+" => do
    advance
    R.unary
  | "-" => do
    advance
    return some (← node (.unary .minus) [← need (← R.unary)])
  | "NOT" => do
    advance
    return some (← node (.unary .not) [← need (← R.equality)])
  | "|/" => do
    advance
    return some (← node (.call (.known "SQRT" "SQRT")) [← need (← R.unary)])
  | "||/" => do
    advance
    return some (← node (.call (.known "CBRT" "CBRT")) [← need (← R.unary)])
  | "~" =>
    if R.grammar.tildeMatches then return none
    else do
      advance
      return some (← node (.unary .bitNot) [← need (← R.unary)])
  | _ => zoned R (← operand R)

/-- Powers, where the grammar has an operator for them. -/
def power (R : Rules) : Rule .operand (Option Node) := do
  let first ← unary R
  if !R.grammar.caretIsPower then return first
  chain (fun this => do
    match ← acceptOne ["^", "**"] with
    | none => return none
    | some _ =>
      let right ← unary R
      let kind := Function.known "POW" "POWER"
      return some (some (← node (.call kind) [← need this, ← need right])))
    first

def factorOperators (g : Grammar) : List (String × BinaryOp) :=
  ([("*", .multiply), ("/", .divide g.typedDivision g.safeDivision), ("//", .intDivide),
    ("<->", .distance)] : List (String × BinaryOp)) ++
    (if g.hasDiv then [("DIV", .intDivide)] else [])

/-- Products. The word DIV without an operand after it is a name. -/
def factor (R : Rules) : Rule .operand (Option Node) := do
  chain (fun this => do
    match (factorOperators R.grammar).lookup (← peekKey) with
    | none => return none
    | some op =>
      orBack do
        let isWord := (← peekKey) == "DIV"
        advance
        let comments ← pending
        match ← power R with
        | none => if isWord then return none else reject
        | some right => return some (some (← nodeWith comments (.binary op) [← need this, right])))
    (← power R)

/-- The operators of sums and remainders. -/
def termOperators : List (String × BinaryOp) :=
  [("+", .add), ("-", .subtract), ("%", .modulo), ("COLLATE", .collate)]

/-- A collation is a name of its own and no column. -/
def settleCollation : Node → Node
  | .mk (.binary .collate) c [this, .mk (.column [id]) d _] =>
    .mk (.binary .collate) c [this, .mk (if id.quoted then .name id else .keyword id.name) d []]
  | n => n

/-- Sums and remainders. -/
def term (R : Rules) : Rule .operand (Option Node) := do
  chain (fun this => do
    match termOperators.lookup (← peekKey) with
    | none => return none
    | some op =>
      advance
      let comments ← pending
      let right ← factor R
      let whole ← nodeWith comments (.binary op) [← need this, ← need right]
      return some (some (settleCollation whole)))
    (← factor R)

/-- The operators on bits that are one token. -/
def bitOperators (g : Grammar) : List (String × BinaryOp) :=
  ([("&", .bitAnd), ("|", .bitOr)] : List (String × BinaryOp)) ++
    (if g.caretIsPower then [] else [("^", .bitXor)]) ++
    (if g.calls == .postgres then [("#", .bitXor)] else []) ++
    (if g.pipesJoin then [("||", .join)] else [])

/-- Operations on bits and joined strings. -/
def bitwise (R : Rules) : Rule .operand (Option Node) := do
  chain (fun this => do
    let op ← do
      match (bitOperators R.grammar).lookup (← peekKey) with
      | some op =>
        advance
        pure (some op)
      | none =>
        if ← acceptAll ["<", "<"] then pure (some .shiftLeft)
        else if ← acceptAll [">", ">"] then pure (some .shiftRight)
        else pure none
    match op with
    | some op =>
      let right ← term R
      return some (some (← node (.binary op) [← need this, ← need right]))
    | none =>
      if ← accept "??" then
        let right ← term R
        let kind := Function.known "COALESCE" "COALESCE"
        return some (some (← node (.call kind) [← need this, ← need right]))
      else return none)
    (← term R)

/-! ## Predicates -/

/-- BETWEEN, after its keyword. -/
def betweenBody (R : Rules) (this : Node) : Rule .operand Node := do
  let symmetric ← do
    if ← accept "SYMMETRIC" then pure (some true)
    else if ← accept "ASYMMETRIC" then pure (some false)
    else pure none
  let low ← need (← bitwise R)
  let _ ← accept "AND"
  let high ← need (← bitwise R)
  node (.between symmetric) [this, low, high]

def inItem (R : Rules) : Rule .clause (Option Node) := do
  match ← R.query {} with
  | some q => return some q
  | none => (← R.assignment).mapM R.setOperations

/-- IN, after its keyword: a list, a query, or a column. -/
def inBody (R : Rules) (this : Node) : Rule .operand Node := do
  if (← peekKey) == "(" then
    closed do
      match ← list (inItem R) with
      | [item] =>
        if item.head.isQuery then
          node .inQuery [this, .of (.subquery none) [← R.clauses item]]
        else node .inList [this, item]
      | items => node .inList (this :: items)
  else if (← peekKey) == "UNNEST" && (← peekSecondKey) == "(" then
    advance
    let items ← wrapped (list R.equality)
    let unnested ← node (.unnest none false) items
    return .of .inQuery [this, .of (.subquery none) [.of .select [.of .projections [unnested]]]]
  else node .inField (this :: (← column R).toList)

/-- The rest of a test for JSON, after its keyword: which kind of value, and whether keys may occur
twice. -/
def jsonTest : Rule .operand Node := do
  let kind ← acceptOne ["VALUE", "SCALAR", "ARRAY", "OBJECT"]
  let with? ← acceptOne ["WITH", "WITHOUT"]
  let unique ← accept "UNIQUE"
  let _ ← accept "KEYS"
  let words := ["JSON"] ++ (kind.toList ++ with?.toList).map Token.key ++
    (if unique then ["UNIQUE KEYS"] else [])
  node (.keyword (" ".intercalate words)) []

/-- IS, after its keyword. `none` if nothing follows that it can say. -/
def isBody (R : Rules) (this : Node) : Rule .operand (Option Node) := do
  let negated ← accept "NOT"
  if ← acceptDistinctFrom then
    let right ← need (← bitwise R)
    return some (← node (.binary (if negated then .nullSafeEqual else .distinctFrom)) [this, right])
  let value ← do
    if ← accept "JSON" then pure (some (← jsonTest))
    else if (← acceptOne ["NULL", "UNKNOWN"]).isSome then pure (some (← node .null []))
    else bitwise R
  match value with
  | none => return none
  | some value =>
    let positive ← node (.binary .is) [this, value]
    let whole ← if negated then node (.unary .not) [positive] else pure positive
    return some (← columnOps R whole)

def patternOperators (g : Grammar) : List (String × BinaryOp) :=
  ([("LIKE", .like), ("~~", .like), ("ILIKE", .ilike), ("~~*", .ilike), ("GLOB", .glob),
    ("~~~", .glob), ("RLIKE", .matchesPattern), ("REGEXP", .matchesPattern),
    ("~*", .matchesAnyCase), ("SIMILAR TO", .similarTo), ("OVERLAPS", .overlaps),
    ("@>", .containsAll), ("?|", .hasAnyKey), ("?&", .hasAllKeys), ("#-", .withoutPath),
    ("&<", .extendsLeft), ("&>", .extendsRight), ("-|-", .adjacent)] : List (String × BinaryOp)) ++
    (if g.tildeMatches then [("~", .matchesPattern), ("&&", .sharesItem)] else []) ++
    (if g.calls == .duckdb then [("&&", .sharesItem)] else [])

def callOperators (g : Grammar) : List (String × Function) :=
  ([("^@", .known "STARTSWITH" "STARTS_WITH")] : List (String × Function)) ++
    (if g.calls == .duckdb then [("~", .known "REGEXPFULLMATCH" "REGEXP_FULL_MATCH")] else [])

/-- A comparison with a pattern, after its operator, with its escape character. -/
def patternBody (R : Rules) (op : BinaryOp) (this : Node) : Rule .operand Node := do
  let whole ← node (.binary op) [this, ← need (← bitwise R)]
  if ← accept "ESCAPE" then
    let mark ← do
      match ← stringLiteral with
      | some s => pure s
      | none => if (← acceptOne ["NULL", "UNKNOWN"]).isSome then node .null [] else reject
    node (.binary .escape) [whole, mark]
  else return whole

/-- The items of an array for which there is an item, after FOR. -/
def comprehension (R : Rules) (this : Node) : Rule .operand (Option Node) := do
  match ← column R with
  | none => return none
  | some item =>
    if ← accept "IN" then
      let source ← need (← column R)
      let condition ← do if ← accept "IF" then pure (← R.assignment).toList else pure []
      return some (← node .comprehension ([this, item, source] ++ condition))
    else return none

/-- The marks between the parentheses of an operator's name, as one text. -/
def operatorName : Rule .clause String := do
  let marks ← many do
    if (← peekKey) == ")" then return none
    match ← peek with
    | some t =>
      advance
      return some (.of (.keyword t.text) [])
    | none => return none
  return "".intercalate (marks.map fun n => match n.head with
    | .keyword s => s
    | _ => "")

/-- Operators by their names, after the first word OPERATOR. Without a parenthesis after it the word
says nothing. -/
def namedOperators (R : Rules) (this : Node) : Rule .operand Node :=
  chain (fun this => do
    if ((← here).last.map Token.key) == some "OPERATOR" && (← peekKey) == "(" then
      let op ← wrapped operatorName
      let comments ← pending
      let right ← need (← bitwise R)
      let whole ← nodeWith comments (.binary (.named op)) [this, right]
      let _ ← accept "OPERATOR"
      return some whole
    else return none) this

/-- A predicate at the cursor: its node, or `none` if there is none. -/
def predicate (R : Rules) (this : Option Node) : Rule .operand (Option Node) := do
  let key ← peekKey
  match key with
  | "BETWEEN" => do
    advance
    return some (← betweenBody R (← need this))
  | "IN" => do
    advance
    return some (← inBody R (← need this))
  | "@@" => do
    advance
    return some (← node (.search "") [← need (← bitwise R), ← need this])
  | "<@" => do
    advance
    return some (← node (.binary .containsAll) [← need (← bitwise R), ← need this])
  | "MEMBER OF" => do
    advance
    return some (← node .memberOf [← need this, ← need (← wrapped R.expression)])
  | "SOUNDS LIKE" => do
    advance
    let sound (n : Node) : Node := .of (.call (.known "SOUNDEX" "SOUNDEX")) [n]
    return some (← node (.binary .equal) [sound (← need this), sound (← need (← term R))])
  | "OPERATOR" =>
    match this with
    | some n => do
      advance
      return some (← namedOperators R n)
    | none => return none
  | "FOR" => orBack do
    advance
    this.bindM (comprehension R)
  | _ =>
    match (patternOperators R.grammar).lookup key, (callOperators R.grammar).lookup key with
    | some op, _ =>
      advance
      return some (← patternBody R op (← need this))
    | none, some f =>
      advance
      return some (← node (.call f) [← need this, ← need (← bitwise R)])
    | none, none => return none

/-- IS at the cursor. -/
def isPredicate (R : Rules) (this : Option Node) : Rule .operand (Option Node) := orBack do
  if ← accept "IS" then isBody R (← need this) else return none

/-- The null test that a node stands for. -/
def nullTest (this : Node) : Rule .operand Node := do node (.binary .is) [this, .of .null []]

/-- An operand with the predicates about it. NOT before a predicate negates it. -/
def range (R : Rules) : Rule .operand (Option Node) := do
  let this ← bitwise R
  let negated ← if this.isSome then accept "NOT" else pure false
  if (← peekKey) == "IS" && this.isSome then
    match ← isPredicate R this with
    | none => return this
    | some n =>
      let n ← if negated then node (.unary .not) [n] else pure n
      match ← isPredicate R (some n) with
      | some m => return some m
      | none => return some n
  let found ← do
    match ← predicate R this with
    | some n => pure (some n)
    | none =>
      if this.isNone then pure none
      else if ← accept "ISNULL" then pure (some (← nullTest (← need this)))
      else if negated && (← peekKey) == "NULL" then
        advance
        pure (some (← nullTest (← need this)))
      else pure this
  match found with
  | none => return none
  | some n =>
    let n ← do
      if ← accept "NOTNULL" then node (.unary .not) [← nullTest n] else pure n
    let n ← if negated then node (.unary .not) [n] else pure n
    match ← isPredicate R (some n) with
    | some m => return some m
    | none => return some n

/-! ## Conditions -/

def comparison (R : Rules) : Rule .operand (Option Node) :=
  level (range R) [("<", .less), ("<=", .lessEqual), (">", .greater), (">=", .greaterEqual)]

def equality (R : Rules) : Rule .operand (Option Node) :=
  level (comparison R) [("=", .equal), ("<>", .notEqual), ("<=>", .nullSafeEqual)]

def conjunction (R : Rules) : Rule .operand (Option Node) :=
  level (equality R) ([("AND", .and)] ++
    (if R.grammar.pipesJoin then [] else [("&&", .and), ("XOR", .xor)]))

def disjunction (R : Rules) : Rule .operand (Option Node) :=
  level (conjunction R) ([("OR", .or)] ++ (if R.grammar.pipesJoin then [] else [("||", .or)]))

/-- An expression without an alias. -/
def assignment (R : Rules) : Rule .operand (Option Node) := level (disjunction R) [(":=", .assign)]

/-- The alias in front of an expression. -/
def label (R : Rules) : Rule .operand (Option Node) := do
  if R.grammar.labels && (← peekSecondKey) == ":" then name false R.grammar.isName
  else return none

/-- An expression whose alias stands in front of it. -/
def labelled (R : Rules) (label : Node) : Rule .operand (Option Node) := do
  let _ ← accept ":"
  let comments ← pending
  let this ← need (← assignment R)
  match identOf label with
  | some id =>
    return some (← nodeWith (comments ++ this.comments) (.aliased id) [this.setComments []])
  | none => reject

/-- An expression with its alias. -/
def expression (R : Rules) : Rule .clause (Option Node) := do
  match ← label R with
  | some n => labelled R n
  | none => aliased R false (← assignment R)

end SemanticLayer.Sql.Parser
