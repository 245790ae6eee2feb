import SemanticLayer.Model.Element

/-!
# Semantic models

A semantic model is a named view over a SELECT statement, described by its entities, dimensions and
measures. Its name is the name of a virtual table.

A model must satisfy rules that concern all of its parts. `SemanticModel.violations` lists, in
words, which of them a model breaks.
-/

namespace SemanticLayer

/-- What holds for a model unless an element says otherwise. -/
structure Defaults where
  timeDimension : Option String := none
  deriving DecidableEq, Repr

namespace Defaults

def ofFields (f : Fields) : Checked Defaults :=
  Defaults.mk <$> f.get "agg_time_dimension" none (.optional .text)

def read : Reader Defaults := .record "Defaults" ofFields

def toValue (d : Defaults) : Value := .record [("agg_time_dimension", .ofText? d.timeDimension)]

end Defaults

/-- A named view over a SELECT statement. -/
structure SemanticModel where
  /-- The name of the virtual table. -/
  name : String
  description : String := ""
  secondName : Option String := none
  select : String
  tags : List String := []
  defaults : Defaults := {}
  entities : List Entity := []
  dimensions : List Dimension := []
  measures : List Measure := []
  deriving DecidableEq, Repr

namespace SemanticModel

/-! ## Parts -/

def primaryEntity (m : SemanticModel) : Option Entity :=
  m.entities.find? fun e => e.kind == .primary

def hasElements (m : SemanticModel) : Bool :=
  !m.entities.isEmpty || !m.dimensions.isEmpty || !m.measures.isEmpty

def entity? (m : SemanticModel) (name : String) : Option Entity :=
  m.entities.find? fun e => e.name == name

def dimension? (m : SemanticModel) (name : String) : Option Dimension :=
  m.dimensions.find? fun d => d.name == name

def measure? (m : SemanticModel) (name : String) : Option Measure :=
  m.measures.find? fun e => e.name == name

/-! ## Rules -/

/-- The model in words. -/
def label (m : SemanticModel) : String :=
  if (Text.strip m.name).isEmpty then "the semantic model"
  else "the semantic model '" ++ m.name ++ "'"

/-- Whether the trimmed statement begins with SELECT in any letter case. -/
def beginsWithSelect (m : SemanticModel) : Bool :=
  "SELECT".toList.isPrefixOf (Text.upper (Text.strip m.select)).toList

/-- Whether the trimmed statement ends in a semicolon. -/
def endsInTerminator (m : SemanticModel) : Bool := (Text.trim m.select.toList).getLast? == some ';'

/-- What is wrong with the statement. -/
def selectViolations (m : SemanticModel) : List String :=
  (if m.beginsWithSelect then []
    else ["The model of " ++ m.label ++ " must be a SELECT statement"]) ++
  (if m.endsInTerminator then
    ["The model of " ++ m.label ++ " is and can only be a SELECT statement (the end of the " ++
      "statement cannot contain ';')"]
    else [])

/-- There is at most one primary entity. -/
def primaryViolations (m : SemanticModel) : List String :=
  let names := (m.entities.filter fun e => e.kind == .primary).map (·.name)
  if 1 < names.length then
    ["There can be at most one primary entity in " ++ m.label ++ ", found: " ++
      ", ".intercalate names]
  else []

/-- The names of all elements, each with the kind of the element. -/
def elementNames (m : SemanticModel) : List (String × String) :=
  m.entities.map (fun e => ("entity", e.name)) ++
    m.dimensions.map (fun d => ("dimension", d.name)) ++
    m.measures.map fun e => ("measure", e.name)

/-- Of pairs, those whose second part was seen before. -/
def repeated (seen : List String) : List (String × String) → List (String × String)
  | [] => []
  | e :: es =>
    if seen.contains e.2 then e :: repeated seen es else repeated (e.2 :: seen) es

/-- No two elements have the same name. -/
def nameViolations (m : SemanticModel) : List String :=
  (repeated [] m.elementNames).map fun e =>
    "There is duplicate name in " ++ m.label ++ ": " ++ e.1 ++ " '" ++ e.2 ++ "'"

/-- The default time dimension is a time dimension of the model. -/
def defaultViolations (m : SemanticModel) : List String :=
  match m.defaults.timeDimension with
  | none => []
  | some name =>
    if (Text.strip name).isEmpty || (m.dimension? name).any fun d => d.kind == .time then []
    else
      ["The '" ++ name ++ "' of the agg_time_dimension of defaults does not exist or type is " ++
        "not time in the dimensions of " ++ m.label]

/-- No time dimension has values to choose from. -/
def enumViolations (m : SemanticModel) : List String :=
  let names := (m.dimensions.filter fun d => d.kind == .time && !d.enumValues.isEmpty).map fun d =>
    "'" ++ d.name ++ "'"
  if names.isEmpty then []
  else
    ["The time type " ++ ", ".intercalate names ++
      " cannot set enum values in the dimensions of " ++ m.label]

/-- The rules that the model breaks, in words. -/
def violations (m : SemanticModel) : List String :=
  m.selectViolations ++ m.primaryViolations ++ m.nameViolations ++ m.defaultViolations ++
    m.enumViolations

/-- The model, if it breaks no rule. -/
def check (m : SemanticModel) : Checked SemanticModel :=
  if m.violations.isEmpty then .valid m else .fault (.rule ("; ".intercalate m.violations))

/-! ## Documents -/

def ofFields (f : Fields) : Checked SemanticModel :=
  Checked.andThen
    (SemanticModel.mk <$> f.need "name" .text <*> f.get "description" "" .text <*>
      f.get "alias" none (.optional .text) <*> f.need "model" .text <*>
      f.get "tags" [] (.list .text) <*> f.get "defaults" {} Defaults.read <*>
      f.get "entities" [] (.list Entity.read) <*> f.get "dimensions" [] (.list Dimension.read) <*>
      f.get "measures" [] (.list Measure.read))
    check

def read : Reader SemanticModel := .record "SemanticModel" ofFields

/-- The fields of the document of a model. -/
def toFields (m : SemanticModel) : List (String × Value) :=
  [("name", .string m.name), ("description", .string m.description),
    ("alias", .ofText? m.secondName), ("model", .string m.select),
    ("tags", .list (m.tags.map .string)), ("defaults", m.defaults.toValue),
    ("entities", .list (m.entities.map Entity.toValue)),
    ("dimensions", .list (m.dimensions.map Dimension.toValue)),
    ("measures", .list (m.measures.map Measure.toValue))]

def toValue (m : SemanticModel) : Value := .record m.toFields

end SemanticModel

end SemanticLayer
