import SemanticLayer.Check.Reader
import SemanticLayer.Granularity

/-!
# Elements of semantic models

The columns of a semantic model: *entities*, which are keys of joins, *dimensions*, by which rows
are grouped and filtered, and *measures*, which are aggregated. Every element has a name and an
expression, which is the name itself if none is given.

Each type comes with the way it is read from a document and with the document that it is written as.
-/

namespace SemanticLayer

def Value.ofText? : Option String → Value
  | some s => .string s
  | none => .null

/-- A record with fields in order. -/
def Value.record (fields : List (String × Value)) : Value :=
  .mapping (fields.map fun f => (.string f.1, f.2))

/-- The expression of an element: the one given, unless it is empty, or the name. -/
def expressionOr (name : String) : Option String → String
  | some e => if e.isEmpty then name else e
  | none => name

/-! ## Entities -/

/-- What an entity identifies. -/
inductive EntityKind where
  | primary
  | unique
  | foreign
  deriving DecidableEq, Repr

namespace EntityKind

def choices : List (String × EntityKind) :=
  [("primary", primary), ("unique", unique), ("foreign", foreign)]

def name : EntityKind → String
  | primary => "primary"
  | unique => "unique"
  | foreign => "foreign"

end EntityKind

/-- A key of joins. -/
structure Entity where
  name : String
  description : String := ""
  secondName : Option String := none
  kind : EntityKind
  expr : Option String := none
  dataType : Option String := none
  deriving DecidableEq, Repr

namespace Entity

def sqlExpr (e : Entity) : String := expressionOr e.name e.expr

/-- Whether two entities are the same key in a table of entities. -/
def sameKey (a b : Entity) : Bool := a.name == b.name && a.kind == b.kind && a.expr == b.expr

def ofFields (f : Fields) : Checked Entity :=
  Entity.mk <$> f.need "name" .text <*> f.get "description" "" .text <*>
    f.get "alias" none (.optional .text) <*> f.need "type" (.oneOf EntityKind.choices) <*>
    f.get "expr" none (.optional .text) <*> f.get "data_type" none (.optional .text)

def read : Reader Entity := .record "Entity" ofFields

def toValue (e : Entity) : Value :=
  .record [("name", .string e.name), ("description", .string e.description),
    ("alias", .ofText? e.secondName), ("type", .string e.kind.name), ("expr", .ofText? e.expr),
    ("data_type", .ofText? e.dataType)]

end Entity

/-! ## Dimensions -/

inductive DimensionKind where
  | categorical
  | time
  deriving DecidableEq, Repr

namespace DimensionKind

def choices : List (String × DimensionKind) := [("categorical", categorical), ("time", time)]

def name : DimensionKind → String
  | categorical => "categorical"
  | time => "time"

end DimensionKind

def Granularity.choices : List (String × Granularity) :=
  Granularity.all.map fun g => (g.name, g)

/-- A value that a categorical dimension may have. -/
structure EnumValue where
  value : String
  label : Option String := none
  deriving DecidableEq, Repr

namespace EnumValue

def ofFields (f : Fields) : Checked EnumValue :=
  EnumValue.mk <$> f.need "value" .text <*> f.get "label" none (.optional .text)

def read : Reader EnumValue := .record "EnumValue" ofFields

def toValue (e : EnumValue) : Value :=
  .record [("value", .string e.value), ("label", .ofText? e.label)]

end EnumValue

/-- What is said about the type of a dimension. -/
structure TypeParams where
  granularity : Option Granularity := none
  deriving DecidableEq, Repr

namespace TypeParams

def ofFields (f : Fields) : Checked TypeParams :=
  TypeParams.mk <$> f.get "time_granularity" none (.optional (.oneOf Granularity.choices))

def read : Reader TypeParams := .record "TypeParams" ofFields

def toValue (t : TypeParams) : Value :=
  .record [("time_granularity", .ofText? (t.granularity.map Granularity.name))]

end TypeParams

/-- A column by which rows are grouped and filtered. -/
structure Dimension where
  name : String
  description : String := ""
  secondName : Option String := none
  kind : DimensionKind := .categorical
  expr : Option String := none
  dataType : Option String := none
  enumValues : List EnumValue := []
  typeParams : Option TypeParams := none
  deriving DecidableEq, Repr

namespace Dimension

def sqlExpr (d : Dimension) : String := expressionOr d.name d.expr

def granularity (d : Dimension) : Option Granularity := d.typeParams.bind (·.granularity)

/-- Whether two dimensions are the same key in a table of dimensions. -/
def sameKey (a b : Dimension) : Bool := a.name == b.name && a.kind == b.kind && a.expr == b.expr

/-- Only categorical dimensions have values to choose from. -/
def check (d : Dimension) : Checked Dimension :=
  if !d.enumValues.isEmpty && d.kind != .categorical then
    .fault (.rule ("The time type dimension '" ++ d.name ++ "' cannot set enum values"))
  else .valid d

def ofFields (f : Fields) : Checked Dimension :=
  Checked.andThen
    (Dimension.mk <$> f.need "name" .text <*> f.get "description" "" .text <*>
      f.get "alias" none (.optional .text) <*>
      f.get "type" .categorical (.oneOf DimensionKind.choices) <*>
      f.get "expr" none (.optional .text) <*> f.get "data_type" none (.optional .text) <*>
      f.get "enum_values" [] (.listOrNull EnumValue.read) <*>
      f.get "type_params" none (.optional TypeParams.read))
    check

def read : Reader Dimension := .record "Dimension" ofFields

def toValue (d : Dimension) : Value :=
  .record [("name", .string d.name), ("description", .string d.description),
    ("alias", .ofText? d.secondName), ("type", .string d.kind.name), ("expr", .ofText? d.expr),
    ("data_type", .ofText? d.dataType), ("enum_values", .list (d.enumValues.map EnumValue.toValue)),
    ("type_params", (d.typeParams.map TypeParams.toValue).getD .null)]

end Dimension

/-! ## Measures -/

inductive Aggregation where
  | none
  | sum
  | max
  | min
  | avg
  | count
  | median
  | countDistinct
  | sumBoolean
  deriving DecidableEq, Repr

namespace Aggregation

def name : Aggregation → String
  | none => "none"
  | sum => "sum"
  | max => "max"
  | min => "min"
  | avg => "avg"
  | count => "count"
  | median => "median"
  | countDistinct => "count_distinct"
  | sumBoolean => "sum_boolean"

def choices : List (String × Aggregation) :=
  [none, sum, max, min, avg, count, median, countDistinct, sumBoolean].map fun a => (a.name, a)

end Aggregation

/-- Which end of a window is kept. -/
inductive WindowChoice where
  | min
  | max
  deriving DecidableEq, Repr

namespace WindowChoice

def choices : List (String × WindowChoice) := [("min", min), ("max", max)]

def name : WindowChoice → String
  | min => "min"
  | max => "max"

end WindowChoice

/-- A dimension along which a measure cannot be summed. -/
structure NonAdditiveDimension where
  name : String
  windowChoice : Option WindowChoice := none
  windowGroupings : List String := []
  deriving DecidableEq, Repr

namespace NonAdditiveDimension

/-- Reads the fields of such a dimension. -/
def ofFields (f : Fields) : Checked NonAdditiveDimension :=
  NonAdditiveDimension.mk <$> f.need "name" .text <*>
    f.get "window_choice" none (.optional (.oneOf WindowChoice.choices)) <*>
    f.get "window_groupings" [] (.list .text)

def read : Reader NonAdditiveDimension := .record "NonAdditiveDimension" ofFields

/-- The document of such a dimension. -/
def toValue (n : NonAdditiveDimension) : Value :=
  .record [("name", .string n.name),
    ("window_choice", .ofText? (n.windowChoice.map WindowChoice.name)),
    ("window_groupings", .list (n.windowGroupings.map .string))]

end NonAdditiveDimension

/-- A column that is aggregated. -/
structure Measure where
  name : String
  description : String := ""
  secondName : Option String := none
  aggregation : Aggregation := .none
  expr : Option String := none
  dataType : Option String := none
  nonAdditive : Option NonAdditiveDimension := none
  timeDimension : Option String := none
  deriving DecidableEq, Repr

namespace Measure

def sqlExpr (m : Measure) : String := expressionOr m.name m.expr

/-- Whether two measures are the same key in a table of measures. -/
def sameKey (a b : Measure) : Bool :=
  a.name == b.name && a.aggregation == b.aggregation && a.expr == b.expr

def ofFields (f : Fields) : Checked Measure :=
  Measure.mk <$> f.need "name" .text <*> f.get "description" "" .text <*>
    f.get "alias" none (.optional .text) <*>
    f.get "agg" Aggregation.none (.oneOf Aggregation.choices) <*>
    f.get "expr" none (.optional .text) <*> f.get "data_type" none (.optional .text) <*>
    f.get "non_additive_dimension" none (.optional NonAdditiveDimension.read) <*>
    f.get "agg_time_dimension" none (.optional .text)

def read : Reader Measure := .record "Measure" ofFields

def toValue (m : Measure) : Value :=
  .record [("name", .string m.name), ("description", .string m.description),
    ("alias", .ofText? m.secondName), ("agg", .string m.aggregation.name),
    ("expr", .ofText? m.expr), ("data_type", .ofText? m.dataType),
    ("non_additive_dimension", (m.nonAdditive.map NonAdditiveDimension.toValue).getD .null),
    ("agg_time_dimension", .ofText? m.timeDimension)]

end Measure

end SemanticLayer
