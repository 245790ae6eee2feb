import SemanticLayer.Model.Basic

/-!
# Assignments

A model can be changed field by field. A new value is read like the field of a document and stored,
and then the model as a whole must satisfy its rules; otherwise the field gets back what it held.
The parts of a model cannot be changed in place.
-/

namespace SemanticLayer

/-- Why an assignment is refused. -/
inductive AssignmentError where
  /-- The value, or the model with it, is not valid. -/
  | invalid (problems : List Problem)
  /-- Nothing can be assigned there. -/
  | readOnly
  /-- There is no such item. -/
  | noItem
  deriving DecidableEq, Repr

/-- A change of a model that may be refused. What it stored before that stays, unless the change
takes it back itself. -/
abbrev Assignment := EStateM AssignmentError SemanticModel

/-! ## Fields -/

/-- The fields of a model. -/
inductive ModelField where
  | name
  | description
  | secondName
  | select
  | tags
  | defaults
  | entities
  | dimensions
  | measures
  deriving DecidableEq, Repr

namespace ModelField

/-- The fields in the order of a document. -/
def all : List ModelField :=
  [name, description, secondName, select, tags, defaults, entities, dimensions, measures]

/-- The name of a field in a document. -/
def key : ModelField → String
  | name => "name"
  | description => "description"
  | secondName => "alias"
  | select => "model"
  | tags => "tags"
  | defaults => "defaults"
  | entities => "entities"
  | dimensions => "dimensions"
  | measures => "measures"

/-- The field of a name. -/
def ofKey? (s : String) : Option ModelField := all.find? fun f => f.key == s

/-- What a field holds. -/
abbrev Content : ModelField → Type
  | name | description | select => String
  | secondName => Option String
  | tags => List String
  | defaults => Defaults
  | entities => List Entity
  | dimensions => List Dimension
  | measures => List Measure

/-- Reads what a field is to hold. -/
def read : (f : ModelField) → Reader f.Content
  | name | description | select => .text
  | secondName => .optional .text
  | tags => .list .text
  | defaults => Defaults.read
  | entities => .list Entity.read
  | dimensions => .list Dimension.read
  | measures => .list Measure.read

end ModelField

namespace SemanticModel

/-- What a field of the model holds. -/
def content (m : SemanticModel) : (f : ModelField) → f.Content
  | .name => m.name
  | .description => m.description
  | .secondName => m.secondName
  | .select => m.select
  | .tags => m.tags
  | .defaults => m.defaults
  | .entities => m.entities
  | .dimensions => m.dimensions
  | .measures => m.measures

/-- The model with something else in a field. -/
def store (m : SemanticModel) : (f : ModelField) → f.Content → SemanticModel
  | .name, a => { m with name := a }
  | .description, a => { m with description := a }
  | .secondName, a => { m with secondName := a }
  | .select, a => { m with select := a }
  | .tags, a => { m with tags := a }
  | .defaults, a => { m with defaults := a }
  | .entities, a => { m with entities := a }
  | .dimensions, a => { m with dimensions := a }
  | .measures, a => { m with measures := a }

/-- Names that are computed from the fields. -/
def computed : List String := ["primary_entity", "has_elements", "model_extra", "model_fields_set"]

/-- Whether a name is outside the document: nothing that is kept under it counts. -/
def isHidden (field : String) : Bool := field.toList.head? == some '_'

end SemanticModel

namespace Assignment

open SemanticModel (isHidden computed)

/-- What was found valid; problems refuse the assignment. -/
def accepted {α : Type} : Checked α → Assignment α
  | .valid a => return a
  | .invalid ps => throw (.invalid ps)

/-- Assigns to a field what the check of a value by itself gives. It is stored before the rules of
the model are looked at, and if the assignment is refused, the field gets back what it held. -/
def setField (f : ModelField) (new : Checked f.Content) : Assignment Unit := do
  let previous := (← get).content f
  try
    let a ← accepted (new.within (.field f.key))
    modify fun m => m.store f a
    let _ ← accepted (← get).check
  catch e =>
    modify fun m => m.store f previous
    throw e

/-- Assigns a value to what has the name. -/
def set (name : String) (v : Value) : Assignment Unit :=
  match ModelField.ofKey? name with
  | some f => setField f (f.read v)
  | none =>
    if isHidden name then return ()
    else if computed.contains name then throw .readOnly
    else throw (.invalid [{ path := [.field name], fault := .noField name }])

end Assignment

/-! ## Parts -/

/-- The parts of a model that have fields of their own. -/
inductive Part where
  | defaults
  | entity (i : Nat)
  | dimension (i : Nat)
  | measure (i : Nat)
  /-- What is said about the type of a dimension. -/
  | typeParams (dimension : Nat)
  /-- One of the values of a dimension. -/
  | enumValue (dimension i : Nat)
  /-- The dimension along which a measure cannot be summed. -/
  | nonAdditive (measure : Nat)
  deriving DecidableEq, Repr

def Part.fields : Part → List String
  | defaults => ["agg_time_dimension"]
  | entity _ => ["name", "description", "alias", "type", "expr", "data_type"]
  | dimension _ =>
    ["name", "description", "alias", "type", "expr", "data_type", "enum_values", "type_params"]
  | measure _ =>
    ["name", "description", "alias", "agg", "expr", "data_type", "non_additive_dimension",
      "agg_time_dimension"]
  | typeParams _ => ["time_granularity"]
  | enumValue .. => ["value", "label"]
  | nonAdditive _ => ["name", "window_choice", "window_groupings"]

namespace SemanticModel

def hasPart (m : SemanticModel) : Part → Bool
  | .defaults => true
  | .entity i => i < m.entities.length
  | .dimension i => i < m.dimensions.length
  | .measure i => i < m.measures.length
  | .typeParams i => m.dimensions[i]?.any fun d => d.typeParams.isSome
  | .enumValue i j => m.dimensions[i]?.any fun d => j < d.enumValues.length
  | .nonAdditive i => m.measures[i]?.any fun e => e.nonAdditive.isSome

/-- The place of an item of a list; negative indices count from the end. -/
def position? (length : Nat) (i : Int) : Option Nat :=
  let j := if i < 0 then i + length else i
  if 0 ≤ j && j < length then some j.toNat else none

end SemanticModel

namespace Assignment

open SemanticModel (isHidden position?)

/-- Assigns to a field of a part, which is never allowed. -/
def setInPart (p : Part) (name : String) : Assignment Unit := do
  if !(← get).hasPart p then throw .noItem
  else if isHidden name then return ()
  else throw (.invalid [{ path := [.field name], fault := .frozen }])

/-- Assigns to a field of an item of a list that has `length` items. -/
def setInItem (part : Nat → Part) (length : Nat) (i : Int) (name : String) : Assignment Unit :=
  match position? length i with
  | some j => setInPart (part j) name
  | none => throw .noItem

/-- Assigns to a field of what a field of the model holds, or of the item at an index of it. -/
def setInside (field : String) (index : Option Int) (name : String) : Assignment Unit := do
  let m ← get
  match field, index with
  | "defaults", none => setInPart .defaults name
  | "entities", some i => setInItem .entity m.entities.length i name
  | "dimensions", some i => setInItem .dimension m.dimensions.length i name
  | "measures", some i => setInItem .measure m.measures.length i name
  | "tags", some i => throw (if (position? m.tags.length i).isNone then .noItem else .readOnly)
  | _, _ => throw .readOnly

end Assignment

/-! ## Changes in place -/

namespace SemanticModel

/-- The model with other parts in a list. Each part is read, the model as a whole is not looked
at. -/
def replaceParts (m : SemanticModel) (field : String) (vs : List Value) :
    Except AssignmentError SemanticModel :=
  let each {α : Type} (r : Reader α) (f : List α → SemanticModel) :
      Except AssignmentError SemanticModel :=
    f <$> (vs.mapM fun v => (r v).toExcept.mapError .invalid)
  match field with
  | "entities" => each Entity.read fun a => { m with entities := a }
  | "dimensions" => each Dimension.read fun a => { m with dimensions := a }
  | "measures" => each Measure.read fun a => { m with measures := a }
  | _ => .error .readOnly

/-- The model with a further value of a dimension. The model as a whole is not looked at. -/
def pushEnumValue (m : SemanticModel) (index : Int) (v : Value) :
    Except AssignmentError SemanticModel :=
  match position? m.dimensions.length index with
  | none => .error .noItem
  | some i => do
    let e ← (EnumValue.read v).toExcept.mapError .invalid
    return { m with
      dimensions := m.dimensions.modify i fun d => { d with enumValues := d.enumValues ++ [e] } }

end SemanticModel

end SemanticLayer
