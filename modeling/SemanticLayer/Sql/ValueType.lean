import SemanticLayer.Sql.Tree

/-!
# Types of expressions

What type the value of an expression has, as far as the expression itself tells. Columns have no
known type.
-/

namespace SemanticLayer.Sql.ValueType

/-- The type of values about which nothing is known. -/
def unknown : String := "UNKNOWN"

/-- Numeric types; each one is converted to the ones after it where they meet. -/
def numbers : List String :=
  ["TINYINT", "SMALLINT", "INT", "BIGINT", "DECIMAL", "BIGDECIMAL", "FLOAT", "DOUBLE"]

/-- Text types; each one is converted to the ones after it where they meet. -/
def texts : List String := ["CHAR", "NCHAR", "VARCHAR", "NVARCHAR", "TEXT"]

/-- Types of time; each one is converted to the ones after it where they meet. -/
def times : List String := ["DATE", "DATETIME", "TIMESTAMP", "TIMESTAMPTZ", "TIMESTAMPLTZ"]

/-- Whether values of the first type are converted to the second one in a family. -/
def comesBefore (family : List String) (a b : String) : Bool :=
  match family.idxOf? a, family.idxOf? b with
  | some i, some j => i < j
  | _, _ => false

/-- The type of two values together. -/
def meet (a b : String) : String :=
  if a == unknown || b == unknown then unknown
  else if a == "NULL" then b
  else if b == "NULL" then a
  else if [numbers, texts, times].any fun f => comesBefore f a b then b
  else a

/-- The type of several values together. -/
def meetAll : List String → String
  | [] => unknown
  | t :: ts => ts.foldl meet t

def reals : List String := ["FLOAT", "DOUBLE", "BIGDECIMAL", "DECIMAL", "MONEY"]

def quotient (typed : Bool) (a b : String) : String :=
  let integers := ["TINYINT", "SMALLINT", "INT", "BIGINT"]
  if typed && integers.contains a && integers.contains b then "BIGINT"
  else
    let t := meet a b
    if reals.contains t then t else meet t "DOUBLE"

/-- Kinds of functions whose values are of one type. -/
def functions : List (String × String) :=
  ([("DOUBLE", ["AVG", "EXP", "LN", "LOG", "POW", "SQRT", "ROUND", "STDDEV", "STDDEVPOP",
      "STDDEVSAMP", "VARIANCE", "VARIANCEPOP", "QUANTILE", "APPROXQUANTILE", "SAFEDIVIDE"]),
    ("BIGINT", ["COUNT", "COUNTIF", "APPROXDISTINCT", "ARRAYSIZE"]),
    ("INT", ["CEIL", "DATEDIFF", "TIMESTAMPDIFF", "SIGN", "STRPOSITION", "LEVENSHTEIN", "UNICODE"]),
    ("VARCHAR", ["UPPER", "LOWER", "CONCATWS", "INITCAP"])] : List (String × List String)).flatMap
    fun (t, kinds) => kinds.map fun k => (k, t)

/-- Kinds of functions whose values have the type of their arguments. -/
def byArguments : List String :=
  ["SUM", "MIN", "MAX", "ABS", "COALESCE", "GREATEST", "LEAST", "NULLIF", "FIRSTVALUE", "LASTVALUE",
    "LAG", "LEAD", "ANYVALUE"]

mutual

/-- The type of the value of an expression. -/
def of : Node → String
  | .mk h _ ps =>
    let parts := ofAll ps
    let first := parts.headD unknown
    match h with
    | .string _ => "VARCHAR"
    | .number s => if s.toList.all Char.isDigit then "INT" else "DOUBLE"
    | .null => "NULL"
    | .boolean _ => "BOOLEAN"
    | .cast _ => (parts.drop 1).headD unknown
    | .dataType name true => name
    | .paren | .unary .minus | .unary .bitNot | .window _ | .filter | .nullsArg _ => first
    | .unary .not => "BOOLEAN"
    | .binary (.divide typed _) => quotient typed first ((parts.drop 1).headD unknown)
    | .binary .add | .binary .subtract | .binary .multiply | .binary .modulo => meetAll parts
    | .binary .intDivide => "INT"
    | .binary .join => "VARCHAR"
    | .binary _ | .between .. | .inList | .inQuery | .exists => "BOOLEAN"
    | .caseOf => meetAll (parts.filter fun t => !t.isEmpty)
    | .caseOperand => ""
    | .caseArm => (parts.drop 1).headD unknown
    | .caseElse => first
    | .call (.known kind _) =>
      match functions.lookup kind with
      | some t => t
      | none => if byArguments.contains kind then meetAll parts else unknown
    | .call (.length _) => "BIGINT"
    | _ => unknown

/-- The types of the values of some expressions. -/
def ofAll : List Node → List String
  | [] => []
  | n :: ns => of n :: ofAll ns

end

end SemanticLayer.Sql.ValueType
