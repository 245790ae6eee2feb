import SemanticLayer.Sql.Grammar
import SemanticLayer.Sql.Parser.Cursor

/-!
# Rules that call each other

Expressions hold queries and queries hold expressions, so the rules of the grammar call each other
without end. `Rules` holds the ones that others call back. Each module defines its rules from a
given `Rules`; the knot is tied once, by recursion on a bound.
-/

namespace SemanticLayer.Sql.Parser

/-- In which place a query is read. -/
structure QueryPlace where
  /-- A query in parentheses may stand here. -/
  nested : Bool := false
  /-- A table may stand here. -/
  table : Bool := false
  /-- UNION and the like may follow. -/
  setOperations : Bool := true
  /-- Steps may follow. -/
  pipes : Bool := true
  deriving DecidableEq, Repr

/-- The rules that others call back, for one grammar. Each answers `none` if it finds nothing. -/
structure Rules where
  grammar : Grammar
  statement : Rule .statement (Option Node)
  query : QueryPlace → Rule .clause (Option Node)
  /-- UNION and the like after a query. -/
  setOperations : Node → Rule .clause Node
  /-- The clauses after a query or a table. -/
  clauses : Node → Rule .clause Node
  table : Rule .clause (Option Node)
  /-- An expression with its alias. -/
  expression : Rule .clause (Option Node)
  /-- An expression without an alias. -/
  assignment : Rule .operand (Option Node)
  equality : Rule .operand (Option Node)
  bitwise : Rule .operand (Option Node)
  term : Rule .operand (Option Node)
  unary : Rule .operand (Option Node)
  /-- An interval; without its keyword if the argument is false. -/
  interval : Bool → Rule .operand (Option Node)
  /-- A data type: whether it must be told from a call, and whether any name may be a type. -/
  dataType : Bool → Bool → Rule .operand (Option Node)

namespace Rules

def giveUp (g : Grammar) : Rules where
  grammar := g
  statement := exhaust
  query _ := exhaust
  setOperations _ := exhaust
  clauses _ := exhaust
  table := exhaust
  expression := exhaust
  assignment := exhaust
  equality := exhaust
  bitwise := exhaust
  term := exhaust
  unary := exhaust
  interval _ := exhaust
  dataType _ _ := exhaust

end Rules

end SemanticLayer.Sql.Parser
