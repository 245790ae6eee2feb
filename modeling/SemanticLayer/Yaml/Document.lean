import SemanticLayer.Yaml.Node
import SemanticLayer.Yaml.Token.Lexer

/-!
# The values of YAML documents

The value of a node. Of equal keys of a mapping the last one counts; the entries that a merge key
takes over count less than the mapping's own, and of several mappings to take over the first counts
most.
-/

namespace SemanticLayer.Yaml

namespace Node

mutual

def value : Node → Except Error Value
  | scalar kind text => Scalar.value kind text
  | sequence kind items => do
    if kind != .sequence then throw .malformed
    return .list (← values items)
  | mapping kind entries => do
    if kind != .mapping then throw .malformed
    return .ofEntries ((← merged entries) ++ (← own entries))

def values : List Node → Except Error (List Value)
  | [] => .ok []
  | n :: ns => do
    let v ← value n
    return v :: (← values ns)

/-- The entries of a mapping itself. -/
def own : List (Node × Node) → Except Error (List (Value × Value))
  | [] => .ok []
  | (k, v) :: rest => do
    match k with
    | .scalar .merge _ => own rest
    | .scalar .defaultKey text =>
      let entry := (Value.string text, ← value v)
      return entry :: (← own rest)
    | _ =>
      let key ← value k
      if !key.isKey then throw .malformed
      let entry := (key, ← value v)
      return entry :: (← own rest)

/-- The entries that a mapping takes over. -/
def merged : List (Node × Node) → Except Error (List (Value × Value))
  | [] => .ok []
  | (k, v) :: rest => do
    match k with
    | .scalar .merge _ =>
      let here ← match v with
        | mapping _ entries => do pure ((← merged entries) ++ (← own entries))
        | sequence _ items => mergedAll items
        | scalar .. => throw .malformed
      return here ++ (← merged rest)
    | _ => merged rest

/-- The entries of several mappings, those of the last one first. -/
def mergedAll : List Node → Except Error (List (Value × Value))
  | [] => .ok []
  | n :: ns => do
    match n with
    | mapping _ entries =>
      let here := (← merged entries) ++ (← own entries)
      return (← mergedAll ns) ++ here
    | _ => throw .malformed

end

end Node

/-- The value of a text. An empty text has an empty value. -/
def read (s : String) : Except Error Value := do
  match ← Node.ofTokens (← tokens s) with
  | none => return .null
  | some n => n.value

end SemanticLayer.Yaml
