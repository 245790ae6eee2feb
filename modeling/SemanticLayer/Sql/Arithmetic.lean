import SemanticLayer.Sql.Tree

/-!
# Whole numbers

Expressions of whole numbers that can be computed without running a query.
-/

namespace SemanticLayer.Sql.Arithmetic

/-- The value of an expression of whole numbers. -/
def value? : Node → Option Int
  | .mk (.number s) _ _ => s.toNat?.map Int.ofNat
  | .mk .paren _ [n] => value? n
  | .mk (.unary .minus) _ [n] => (value? n).map fun i => -i
  | .mk (.binary op) _ [a, b] => do
    let x ← value? a
    let y ← value? b
    match op with
    | .add => some (x + y)
    | .subtract => some (x - y)
    | .multiply => some (x * y)
    | _ => none
  | _ => none

/-- A whole number. -/
def literal (i : Int) : Node :=
  let digits := Node.of (.number (toString i.natAbs)) []
  if i < 0 then .of (.unary .minus) [digits] else digits

/-- An expression of whole numbers replaced by its value. A number stays as it is written. -/
def folded (n : Node) : Node :=
  match n.head with
  | .number _ => n
  | _ => ((value? n).map literal).getD n

/-- A single position in brackets moved by `step`. Slices and positions that are no numbers stay. -/
def moved (step : Int) (positions : List Node) : List Node :=
  match positions with
  | [n] =>
    if step == 0 then [n]
    else match value? n with
      | some i => [literal (i + step)]
      | none => [n]
  | _ => positions

end SemanticLayer.Sql.Arithmetic
