import SemanticLayer.Dialect.DuckDb
import SemanticLayer.Dialect.MySql
import SemanticLayer.Dialect.Oracle
import SemanticLayer.Dialect.PostgreSql

/-!
# Backends

Dialects by name. A name can be registered anew; whoever asks for it then gets the new dialect. The
first request for a name makes an *adapter*, and later requests share it until the name is
registered again.
-/

namespace SemanticLayer

/-- A dialect in use. The number tells adapters of one dialect apart. -/
structure Adapter where
  dialect : Dialect
  serial : Nat

/-- No dialect is registered under a name. -/
structure UnknownDialect where
  given : String
  available : List String
  deriving DecidableEq, Repr

def UnknownDialect.message (e : UnknownDialect) : String :=
  "Unsupported dialect: " ++ e.given ++ ". Available dialects: " ++ ", ".intercalate e.available

/-- The dialects by name, and the adapters in use. -/
structure Backends where
  dialects : List (String × Dialect)
  adapters : List (String × Adapter) := []
  /-- How many adapters were made. -/
  made : Nat := 0

namespace Backends

/-- The dialects known at the start. -/
def standard : Backends where
  dialects := [("duckdb", Dialect.duckdb), ("mysql", Dialect.mysql), ("oracle", Dialect.oracle),
    ("postgresql", Dialect.postgresql)]

theorem mem_standard_iff {d : Dialect} :
    d ∈ standard.dialects.map Prod.snd ↔
      d = Dialect.duckdb ∨ d = Dialect.mysql ∨ d = Dialect.oracle ∨ d = Dialect.postgresql := by
  simp [standard]

/-- Other names for a dialect. -/
def aliases : List (String × String) := [("postgres", "postgresql"), ("pg", "postgresql")]

/-- The name under which a dialect is looked up. -/
def key (name : String) : String :=
  let lowered := Text.lower name
  (aliases.lookup lowered).getD lowered

/-- The entries without the one under a name. -/
def without {α : Type} (name : String) (es : List (String × α)) : List (String × α) :=
  es.filter fun e => e.1 != name

/-- Registers a dialect under a name, in any letter case. -/
def register (b : Backends) (name : String) (d : Dialect) : Backends :=
  let lowered := Text.lower name
  { b with
    dialects := without lowered b.dialects ++ [(lowered, d)]
    adapters := without lowered b.adapters }

/-- The registered names in order. -/
def available (b : Backends) : List String :=
  (b.dialects.map Prod.fst).mergeSort fun s t => decide (s ≤ t)

def dialect (b : Backends) (name : String) : Except UnknownDialect Dialect :=
  match b.dialects.lookup (key name) with
  | some d => .ok d
  | none => .error { given := name, available := b.available }

/-- The adapter of a name, made if there is none yet. -/
def adapter (b : Backends) (name : String) : Except UnknownDialect (Adapter × Backends) :=
  match b.adapters.lookup (key name) with
  | some a => .ok (a, b)
  | none =>
    (b.dialect name).map fun d =>
      let a : Adapter := { dialect := d, serial := b.made }
      (a, { b with adapters := b.adapters ++ [(key name, a)], made := b.made + 1 })

end Backends

end SemanticLayer
