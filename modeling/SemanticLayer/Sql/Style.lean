/-!
# Styles of SQL text

How rendered text looks, apart from the dialect: on one line or broken over lines, which names are
put in quotes, and the letter case of functions.
-/

namespace SemanticLayer.Sql

/-- The letter case of function names. -/
inductive FunctionCase where
  | upper
  | lower
  | asWritten
  deriving DecidableEq, Repr

/-- How rendered text looks. -/
structure Style where
  /-- Broken over lines. -/
  pretty : Bool := false
  /-- Blanks per level of nested clauses. -/
  indent : Nat := 2
  /-- Blanks in front of the parts of a clause. -/
  pad : Nat := 2
  /-- Lists, calls and conditions whose pieces are longer in total are broken. -/
  width : Nat := 80
  /-- Commas stand at the beginning of the next line. -/
  leadingComma : Bool := false
  /-- Every name is put in quotes. -/
  identify : Bool := false
  functionCase : FunctionCase := .upper
  deriving DecidableEq, Repr

end SemanticLayer.Sql
