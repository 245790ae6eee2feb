import SemanticLayer.Sql.Tree

/-!
# Tables that a query reads

`tableNames` walks over a tree and collects the names of its unqualified tables, which are the
candidates for semantic models. Of a query it follows the clauses in which tables usually stand;
`follows` says which parts of a node are followed.
-/

namespace SemanticLayer.Query

open Sql

/-- The clauses of a SELECT that are followed. -/
def isFollowedClause : Head → Bool
  | .withClause _ | .projections | .fromClause | .join .. | .lateral .. | .lateralView ..
  | .whereClause | .groupBy _ | .having | .qualify | .orderBy => true
  | _ => false

/-- Whether the walk goes from a node to the part at the place `i`. What a node is made of stands
first among its parts: the operands of a set operation, the query of a subquery, the call of a table
function, the table of a join. Joins that belong to a table are not followed, nor are the order and
the limits of a set operation, nor anything beside the query of a subquery. -/
def follows (parent : Head) (i : Nat) (part : Head) : Bool :=
  match parent with
  | .select => isFollowedClause part
  | .setOperation .. => i < 2 || part.isWith
  | .subquery _ | .tableCall .. | .fromClause | .whereClause | .having => i == 0
  | .table .. => false
  | .join .. => i == 0 || part.isOn
  | _ => true

/-- The name that a node itself contributes. -/
def ownName : Head → List String
  | .table [id] _ => [id.name]
  | _ => []

mutual

/-- The names of the unqualified tables below a node, as far as the walk goes. -/
def tableNames : Node → List String
  | .mk h _ ps => ownName h ++ tableNamesOf h 0 ps

/-- The names below the parts of a node with head `parent`, from the place `i` on. -/
def tableNamesOf (parent : Head) (i : Nat) : List Node → List String
  | [] => []
  | n :: ns =>
    (if follows parent i n.head then tableNames n else []) ++ tableNamesOf parent (i + 1) ns

end

/-- The names that the walk finds in several trees. A tree that is missing has none. -/
def tableNamesOfAll (ns : List (Option Node)) : List String :=
  ns.flatMap fun n => n.elim [] tableNames

mutual

/-- The names of all unqualified tables of a tree. -/
def allTableNames : Node → List String
  | .mk h _ ps => ownName h ++ allTableNamesOf ps

/-- The names of all unqualified tables of some trees. -/
def allTableNamesOf : List Node → List String
  | [] => []
  | n :: ns => allTableNames n ++ allTableNamesOf ns

end

/-- Texts in order, each once. -/
def sorted (names : List String) : List String :=
  names.eraseDups.mergeSort fun s t => decide (s ≤ t)

end SemanticLayer.Query
