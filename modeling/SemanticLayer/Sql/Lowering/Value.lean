import SemanticLayer.Sql.Arithmetic
import SemanticLayer.Sql.Function.Standard
import SemanticLayer.Sql.Target

/-!
# Fitting operations to a target

Division, joined strings, comparisons with patterns and distinct arguments, in the way a target has
them.
-/

namespace SemanticLayer.Sql.Lowering

/-- A call of a known function whose kind is its name. -/
def plainCall (name : String) (args : List Node) : Node := .known name name args

/-! ## Conversions -/

def conversion (t : Target) (c : List String) (lenient : Bool) (ps : List Node) : Node :=
  match ps with
  | this :: .mk (.dataType name true) d sizes :: format =>
    match t.castCalls.lookup name, t.castTypes.lookup name with
    | some f, _ => .mk (.call (.known f f)) c [this]
    | none, some u =>
      .mk (.cast (lenient && t.tryCast)) c (this :: .mk (.dataType u false) d sizes :: format)
    | none, none => .mk (.cast (lenient && t.tryCast)) c ps
  | _ => .mk (.cast (lenient && t.tryCast)) c ps

/-- A value converted to a type of the common ones, as the target converts it. -/
def converted (t : Target) (name : String) (n : Node) : Node :=
  conversion t [] false [n, .type name]

/-- A value converted to a type, unless it is converted to that type already. -/
def castOnce (t : Target) (name : String) (n : Node) : Node :=
  match n with
  | .mk (.cast _) _ [_, .mk (.dataType type true) _ []] =>
    if type == name then n else converted t name n
  | n => converted t name n

/-- Whether the text of a time names a zone. -/
def hasZone (s : String) : Bool :=
  ((s.toList.dropWhile (· != ':')).drop 1).any fun c => c.isAlpha || c == '+' || c == '-'

/-- A string converted to a date, or to a timestamp if it holds a time; other values stay as they
are. -/
def asDate (n : Node) : Node :=
  match n.head with
  | .string s =>
    if !s.contains ':' then .castTo "DATE" n
    else .castTo (if hasZone s then "TIMESTAMPTZ" else "TIMESTAMP") n
  | _ => n

/-! ## Division -/

/-- Types whose division is never an integer division. -/
def realTypes : List String := ["FLOAT", "DOUBLE", "DECIMAL", "MONEY"]

/-- Whether a node is a cast to a real type. -/
def isReal : Node → Bool
  | .mk (.cast _) _ [_, .mk (.dataType name true) _ _] => realTypes.contains name
  | _ => false

/-- Whether a division must be kept from being an integer division. -/
def needsRealOperand (t : Target) (typed : Bool) (operands : List Node) : Bool :=
  t.typedDivision && !typed && !operands.any isReal

/-- A division fitted to the target: a real left operand, and a divisor that is null and not
zero. -/
def division (t : Target) (safe real : Bool) (operands : List Node) : List Node :=
  match operands with
  | [l, r] =>
    let r := if safe && !t.safeDivision then plainCall "NULLIF" [r, .num "0"] else r
    let l := if real then converted t "DOUBLE" l else l
    [l, r]
  | ps => ps

def integerDivision (t : Target) (c : List String) (operands : List Node) : Node :=
  match t.integerDivision with
  | .operator _ => .mk (.binary .intDivide) c operands
  | .call name => .mk (.call (.known "INTDIV" name)) c operands
  | .quotient =>
    let real := needsRealOperand t false operands
    converted t "INT" (.mk (.binary (.divide false false)) c (division t false real operands))

/-! ## Joined strings -/

/-- The expression inside parentheses. -/
def unwrap : Node → Node
  | .mk .paren _ [n] => unwrap n
  | n => n

mutual

/-- The operands of a chain of joined strings, without their parentheses. -/
def joinOperands : Node → List Node
  | .mk (.binary .join) _ ps => joinOperandsAll ps
  | n => [unwrap n]

/-- The operands of chains of joined strings. -/
def joinOperandsAll : List Node → List Node
  | [] => []
  | n :: ns => joinOperands n ++ joinOperandsAll ns

end

/-! ## Patterns -/

def patternMatch (t : Target) (c : List String) (anyCase : Bool) (ps : List Node) : Node :=
  match t.patterns with
  | .operators .. =>
    .mk (.binary (if anyCase then .matchesAnyCase else .matchesPattern)) c (ps.take 2)
  | .flagged name =>
    .mk (.call (.known (if anyCase then "REGEXPILIKE" else "REGEXPLIKE") name)) c
      (if anyCase then ps.take 2 ++ [.text "i"] else ps)
  | .calls exact other =>
    .mk (.call (.known (if anyCase then "REGEXPILIKE" else "REGEXPLIKE")
      (if anyCase then other else exact))) c ps

/-- The patterns of a quantified comparison. -/
def quantified : Node → List Node
  | .mk .tuple _ ps => ps
  | n => [n]

/-- Comparisons with several patterns, connected. -/
def connected (op : BinaryOp) : List Node → Option Node
  | [] => none
  | n :: ns => some (ns.foldl (fun a b => .of (.binary op) [a, b]) n)

/-- Whether a node of this kind holds conditions as its operands. -/
def isCondition : Head → Bool
  | .unary _ | .binary _ | .paren | .between .. | .inList | .inQuery | .inField | .call _ | .caseOf
  | .caseArm | .caseElse | .caseOperand | .ifThen | .cast _ | .window _ | .extract | .exists => true
  | _ => false

/-- A comparison with any or all of several patterns, spelled out. -/
def spelledQuantifier (parent : Head) (op : BinaryOp) (this right : Node) : Option Node := do
  let (connector, inner) ← match right with
    | .mk .anyOf _ [n] => some (.or, n)
    | .mk .allOf _ [n] => some (.and, n)
    | _ => none
  let whole ← connected connector
    ((quantified inner).map fun p => .of (.binary op) [this, p])
  return if isCondition parent && parent != .binary connector then .of .paren [whole] else whole

/-! ## Conditions -/

/-- That exactly one of two conditions holds, without an operator for it. -/
def exactlyOne (a b : Node) : Node :=
  let group (n : Node) : Node := .of .paren [n]
  let not (n : Node) : Node := group (.of (.unary .not) [n])
  .of (.binary .or) [group (.of (.binary .and) [a, not b]), group (.of (.binary .and) [not a, b])]

/-! ## Records -/

/-- A field of a record as DuckDB writes it; a value without a name is called by its place. -/
def literalField (n : Node) (i : Nat) : Node :=
  match n with
  | .mk .recordField c [.mk (.name id) _ _, value] => .mk .recordField c [.text id.name, value]
  | .mk .recordField _ _ => n
  | .mk (.column path) _ _ =>
    .of .recordField [.text ((path.getLast?.map Ident.name).getD ""), n]
  | n => .of .recordField [.text ("_" ++ toString i), n]

/-- A field of a record as an argument with an alias. -/
def aliasedField : Node → Node
  | .mk .recordField c [.mk (.name id) _ _, value] => .mk (.aliased id) c [value]
  | n => n

/-- A record in the target's syntax. -/
def fitRecord (t : Target) (c : List String) (ps : List Node) : Node :=
  match t.functions with
  | .duckdb => .mk .record c (ps.zipIdx.map fun (n, i) => literalField n i)
  | _ => .mk (.call (.known "STRUCT" "STRUCT")) c (ps.map aliasedField)

/-! ## Null tests and distinct arguments -/

/-- The test whether an argument is null. -/
def isNullTest (n : Node) : Node := .of (.binary .is) [Calls.guardOperand n, .of .null []]

/-- Several distinct arguments as one: a tuple that is null if one of them is. -/
def oneDistinct (args : List Node) : Node :=
  .of .caseOf (args.map (fun a => .of .caseArm [isNullTest a, .of .null []]) ++
    [.of .caseElse [.of .tuple args]])

end SemanticLayer.Sql.Lowering
