import SemanticLayer.Sql.Function.MySql
import SemanticLayer.Sql.Function.Oracle
import SemanticLayer.Sql.Function.PostgreSql
import SemanticLayer.Sql.Function.DuckDb

/-!
# Functions

What a call of a function by name stands for. A database may read a name in its own way; otherwise
the name has its common meaning, and a name that is not known stands for itself.
-/

namespace SemanticLayer.Sql

/-- A call of a function with a meaning of its own. -/
def specialCall (g : Grammar) (name : String) (args : List Node) : Reading :=
  let own := match g.calls with
    | .standard => none
    | .duckdb => Calls.duckdbCall name args
    | .postgres => Calls.postgresCall name args
    | .mysql => Calls.mysqlCall name args
    | .oracle => Calls.oracleCall name args
  own.or (Calls.standardCall name args)

/-- Whether a function of this name, in upper case, is known. -/
def isKnownFunction (g : Grammar) (upper : String) : Bool :=
  (specialCall g upper []).isSome || (Signature.table.lookup upper).isSome

/-- A call by name. `none` is a call with the wrong arguments. -/
def callOf (g : Grammar) (name : Ident) (args : List Node) : Option Node :=
  let upper := Text.upper name.name
  match specialCall g upper args with
  | some r => r
  | none =>
    match Signature.table.lookup upper with
    | some s => if s.allows args.length then some (Node.known s.kind s.name args) else none
    | none => some (.of (.call (.unknown name.name name.quoted)) args)

end SemanticLayer.Sql
