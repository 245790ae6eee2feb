import SemanticLayer.Sql.Tree
import SemanticLayer.Text.Word

/-!
# Queries with further WITH items

The models that a query reads become items of its WITH clause. They stand in front of the items that
the query has already, so that those can read the models.
-/

namespace SemanticLayer.Query

open Sql

/-- Whether a text can stand as a name without quotes. A line break at its end does not matter. -/
def isPlainName (s : String) : Bool :=
  let cs := match s.toList.reverse with
    | '\n' :: rest => rest.reverse
    | _ => s.toList
  match cs with
  | [] => false
  | c :: rest => (c.isAlpha || c == '_') && rest.all Text.isWordChar

/-- The WITH item of a name and a query. -/
def item (name : String) (body : Node) : Node :=
  .of (.cte { name := some { name, quoted := !isPlainName name } } none) [body]

/-- The items of the WITH clause of a query. -/
def items (n : Node) : List Node := ((n.find? Head.isWith).map Node.parts).getD []

def itemName? (n : Node) : Option String :=
  match n.head with
  | .cte label _ => label.name.map Ident.name
  | _ => none

/-- The parts of a query with further items in the first WITH clause. -/
def prependTo (new : List Node) : List Node → List Node
  | [] => []
  | p :: ps => if p.head.isWith then p.setParts (new ++ p.parts) :: ps else p :: prependTo new ps

/-- A query with further items in front of its own. A WITH clause that is there keeps its kind. -/
def prepend (new : List Node) (n : Node) : Node :=
  if (n.find? Head.isWith).isSome then n.setParts (prependTo new n.parts)
  else n.setParts (.of (.withClause false) new :: n.parts)

end SemanticLayer.Query
