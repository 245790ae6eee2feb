import SemanticLayer.Registry
import SemanticLayer.Schema.Source

/-!
# Schemas

A schema is a document with a list of semantic models. Each one is a definition as a registry takes
it, except that its statement may be a reference or the name of a table.
-/

namespace SemanticLayer

/-- Why a document is no schema. -/
inductive SchemaError where
  /-- The document is no mapping. -/
  | notMapping
  /-- The models are no list. -/
  | notList
  /-- A definition is refused. -/
  | definition (cause : DefinitionError)
  deriving Repr

def SchemaError.message : SchemaError → String
  | notMapping => "Schema must be a mapping with a 'semantic_models' list"
  | notList => "'semantic_models' must be a list"
  | definition cause => cause.message

namespace Schema

/-- The field that holds the models. -/
def modelsField : String := "semantic_models"

/-- The statement behind the model of a name, from the text that gives it. -/
def resolve (name : Value) (text : String) (models : SqlModels) : Except DefinitionError String :=
  let ofModel := "the semantic model '" ++ name.text ++ "'"
  match ModelSource.ofText? text with
  | none =>
    .error (.invalid name ["The model value of " ++ ofModel ++ " is incorrect. model: " ++ text])
  | some source =>
    (source.statement models).mapError fun missing =>
      .invalid name ["There are non-existent model '" ++ missing ++ "' in " ++ ofModel]

/-- The fields of a definition with the statement behind its model in place of what gives it. -/
def resolveFields (models : SqlModels) (fields : Fields) : Except DefinitionError Fields :=
  match Value.lookup? "model" fields with
  | some (.string text) => do
    let name := (Value.lookup? "name" fields).getD (.string "")
    return Value.putEntry (.string "model") (.string (← resolve name text models)) fields
  | _ => .ok fields

def model (models : SqlModels) (v : Value) : Except DefinitionError SemanticModel := do
  let fields ← v.entries.mapError .notMapping
  (Definition.document (.mapping (← resolveFields models fields))).validate

/-- The models of a document. Nothing at all is a schema without models. -/
def read (models : SqlModels) : Value → Except SchemaError (List SemanticModel)
  | .null => .ok []
  | .mapping fields =>
    match (Value.lookup? modelsField fields).getD .null with
    | .list definitions => (definitions.mapM (model models)).mapError .definition
    | v => if v.isTruthy then .error .notList else .ok []
  | _ => .error .notMapping

end Schema

end SemanticLayer
