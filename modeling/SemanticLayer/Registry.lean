import SemanticLayer.Model.Basic

/-!
# Registries of semantic models

A registry holds valid models with distinct names, in the order in which they were defined.
-/

namespace SemanticLayer

/-- The definition of a model: a document, or a model that was built before. -/
inductive Definition where
  | document (v : Value)
  | model (m : SemanticModel)

/-- Why definitions are refused. -/
inductive DefinitionError where
  /-- A definition is not valid. It is named by what stands in its place of the name. -/
  | invalid (name : Value) (lines : List String)
  /-- Two definitions have the same name. -/
  | duplicate (name : String)
  /-- A definition is no mapping. -/
  | notMapping (cause : Value.EntriesError)
  deriving Repr

def DefinitionError.message : DefinitionError → String
  | invalid name lines =>
    let label := if name.isTruthy then "'" ++ name.text ++ "'" else "<unnamed>"
    "Semantic model " ++ label ++ " validation failed:\n" ++
      "\n".intercalate (lines.map fun l => "  - " ++ l)
  | duplicate name => "Semantic model '" ++ name ++ "' is defined more than once"
  | notMapping _ => "A definition must be a mapping"

namespace Definition

/-- The model of valid fields. -/
def modelOf (name : Value) (fields : Fields) : Except DefinitionError SemanticModel :=
  (SemanticModel.ofFields fields).toExcept.mapError fun ps => .invalid name (ps.map Problem.line)

/-- The model that is defined. A model that was built before is looked at again and stays itself. -/
def validate : Definition → Except DefinitionError SemanticModel
  | document v => do
    let fields ← v.entries.mapError .notMapping
    modelOf ((Value.lookup? "name" fields).getD .null) fields
  | model m => do
    let _ ← modelOf (.string m.name) (m.toFields.map fun f => (.string f.1, f.2))
    return m

end Definition

/-- Models with distinct names, in order. -/
structure Registry where
  models : List SemanticModel
  distinct : (models.map SemanticModel.name).Nodup

namespace Registry

/-- The registry without models. -/
def empty : Registry := ⟨[], List.nodup_nil⟩

def names (r : Registry) : List String := r.models.map SemanticModel.name

/-- The registry with a further model. -/
def push (r : Registry) (m : SemanticModel) (h : m.name ∉ r.names) : Registry where
  models := r.models ++ [m]
  distinct := by
    rw [List.map_append, List.map_singleton, List.nodup_append]
    refine ⟨r.distinct, by simp, fun a ha b hb => ?_⟩
    rw [List.mem_singleton] at hb
    rintro rfl
    exact h (hb ▸ ha)

/-- The registry with the model of a further definition. -/
def add (r : Registry) (d : Definition) : Except DefinitionError Registry := do
  let m ← d.validate
  if h : m.name ∈ r.names then throw (.duplicate m.name) else return r.push m h

/-- The registry of definitions; the first one that is refused decides. -/
def build (ds : List Definition) : Except DefinitionError Registry := ds.foldlM add empty

def get? (r : Registry) (name : String) : Option SemanticModel :=
  r.models.find? fun m => m.name == name

def contains (r : Registry) (name : String) : Bool := r.names.contains name

/-- The models that candidates name, each once: a model that was found before is not taken again. -/
def resolve (r : Registry) (candidates : List String) : List SemanticModel :=
  (candidates.filterMap r.get?).eraseDups

/-- The models that candidates name, in the order of the registry. -/
def resolveOrdered (r : Registry) (candidates : List String) : List SemanticModel :=
  r.models.filter fun m => candidates.contains m.name

/-- The registry in words. -/
def label (r : Registry) : String := "SemanticModelRegistry(" ++ ", ".intercalate r.names ++ ")"

end Registry

end SemanticLayer
