/-!
# Problems of documents

What can be wrong with the fields of a document, and where.
-/

namespace SemanticLayer

/-- A step from a value to a part of it. -/
inductive Step where
  | field (name : String)
  | index (i : Nat)
  deriving DecidableEq, Repr

def Step.text : Step → String
  | field name => name
  | index i => toString i

/-- What is wrong with a value. -/
inductive Fault where
  | required
  | notString
  /-- Bytes that are no text. -/
  | notText
  | notList
  | notRecord (kind : String)
  | notOneOf (choices : List String)
  | notInteger
  | unreadableInteger
  | fractionalInteger
  | hugeInteger
  | notFinite
  | tooSmall (least : Int)
  | notAbove (bound : Int)
  | notBoolean
  | unreadableBoolean
  /-- A rule beyond the kinds of the fields is broken. -/
  | rule (text : String)
  | frozen
  | noField (name : String)
  deriving DecidableEq, Repr

namespace Fault

/-- Choices in words. -/
def choicesText (choices : List String) : String :=
  let quoted := choices.map fun c => "'" ++ c ++ "'"
  match quoted.reverse with
  | [] => ""
  | [one] => one
  | last :: rest => ", ".intercalate rest.reverse ++ " or " ++ last

/-- What is wrong, in words. -/
def text : Fault → String
  | required => "Field required"
  | notString => "Input should be a valid string"
  | notText => "Input should be a valid string, unable to parse raw data as a unicode string"
  | notList => "Input should be a valid list"
  | notRecord kind => "Input should be a valid dictionary or instance of " ++ kind
  | notOneOf choices => "Input should be " ++ choicesText choices
  | notInteger => "Input should be a valid integer"
  | unreadableInteger => "Input should be a valid integer, unable to parse string as an integer"
  | fractionalInteger => "Input should be a valid integer, got a number with a fractional part"
  | hugeInteger => "Unable to parse input string as an integer, exceeded maximum size"
  | notFinite => "Input should be a finite number"
  | tooSmall least => "Input should be greater than or equal to " ++ toString least
  | notAbove bound => "Input should be greater than " ++ toString bound
  | notBoolean => "Input should be a valid boolean"
  | unreadableBoolean => "Input should be a valid boolean, unable to interpret input"
  | rule text => text
  | frozen => "Instance is frozen"
  | noField name => "Object has no attribute '" ++ name ++ "'"

/-- What is wrong, as a message of its own. -/
def message : Fault → String
  | rule text => "Value error, " ++ text
  | f => f.text

end Fault

/-- What is wrong with a part of a document. -/
structure Problem where
  path : List Step
  fault : Fault
  deriving DecidableEq, Repr

namespace Problem

/-- The place and the fault on one line. -/
def line (p : Problem) : String :=
  let place := ".".intercalate (p.path.map Step.text)
  if place.isEmpty then p.fault.text else place ++ ": " ++ p.fault.text

end Problem

/-- A value read from a document, or all that is wrong with the document. -/
inductive Checked (α : Type) where
  | valid (a : α)
  | invalid (problems : List Problem)
  deriving Repr

namespace Checked

/-- Both values, or all problems of both. -/
def both {α β : Type} (f : Checked (α → β)) (x : Unit → Checked α) : Checked β :=
  match f, x () with
  | valid f, valid a => valid (f a)
  | valid _, invalid ps => invalid ps
  | invalid ps, valid _ => invalid ps
  | invalid ps, invalid qs => invalid (ps ++ qs)

instance : Applicative Checked where
  pure := valid
  seq := both

/-- A single problem of the value itself. -/
def fault {α : Type} (f : Fault) : Checked α := invalid [{ path := [], fault := f }]

/-- The problems of a part, as problems of the whole. -/
def within {α : Type} (s : Step) : Checked α → Checked α
  | valid a => valid a
  | invalid ps => invalid (ps.map fun p => { p with path := s :: p.path })

/-- A rule that is looked at once the fields are valid. -/
def andThen {α β : Type} (c : Checked α) (f : α → Checked β) : Checked β :=
  match c with
  | valid a => f a
  | invalid ps => invalid ps

/-- All values, or all problems, each under its place in the list. -/
def all {α : Type} (i : Nat) : List (Checked α) → Checked (List α)
  | [] => valid []
  | c :: cs => both (both (valid List.cons) fun _ => c.within (.index i)) fun _ => all (i + 1) cs

/-- The value or the problems. -/
def toExcept {α : Type} : Checked α → Except (List Problem) α
  | valid a => .ok a
  | invalid ps => .error ps

end Checked

end SemanticLayer
