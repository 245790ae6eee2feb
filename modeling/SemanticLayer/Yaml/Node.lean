import SemanticLayer.Yaml.Scalar
import SemanticLayer.Yaml.Token

/-!
# YAML nodes

A document is one node: a scalar, a sequence or a mapping. An alias stands for the node that its
anchor names, which has to be complete before.
-/

namespace SemanticLayer.Yaml

/-- A node with its kind. -/
inductive Node where
  | scalar (kind : Kind) (text : String)
  | sequence (kind : Kind) (items : List Node)
  | mapping (kind : Kind) (entries : List (Node × Node))
  deriving Repr

/-- The node where nothing is written. -/
def Node.missing : Node := .scalar .null ""

/-! ## Reading tokens -/

/-- What is left of the tokens, and what names stand for. -/
structure Reading where
  tokens : List Token
  anchors : List (String × Node) := []
  /-- The anchors so far, also those of nodes that are not complete. -/
  declared : List String := []
  /-- What the handles of tags stand for. -/
  handles : List (String × String) := []

/-- A step that reads tokens. -/
abbrev Build := StateT Reading (Except Error)

namespace Build

/-- What the tags of the language itself begin with. -/
def coreStem : String := "tag:yaml.org,2002:"

/-- The handles that need no directive. -/
def standardHandles : List (String × String) := [("!", "!"), ("!!", coreStem)]

/-- The kinds by the names of their tags. -/
def kinds : List (String × Kind) :=
  [("null", .null), ("bool", .bool), ("int", .int), ("float", .float), ("timestamp", .moment),
    ("str", .string), ("seq", .sequence), ("map", .mapping), ("merge", .merge),
    ("value", .defaultKey)]

/-- The kind that a tag says. -/
def kindOfTag (tag : String) : Kind :=
  ((kinds.map fun k => (coreStem ++ k.1, k.2)).lookup tag).getD .unknown

def peek? : Build (Option Token) := return (← get).tokens.head?

/-- Moves over a token. -/
def skip : Build Unit := modify fun r => { r with tokens := r.tokens.drop 1 }

/-- Moves over a token if it is the one given. -/
def accept (t : Token) : Build Bool := do
  if (← peek?) == some t then
    skip
    return true
  return false

/-- Whether the next token is one of some. -/
def sees (ts : List Token) : Build Bool := do
  match ← peek? with
  | some t => return ts.contains t
  | none => return false

/-- Moves over a token that has to come here. -/
def expect (t : Token) : Build Unit := do
  if !(← accept t) then throw .malformed

/-- What stands in front of a node. -/
structure Properties where
  anchor : Option String := none
  tag : Option String := none

/-- The tag with its handle replaced. -/
def fullTag (handle : Option String) (suffix : String) : Build String := do
  match handle with
  | none => return suffix
  | some h =>
    match (← get).handles.lookup h with
    | some stem => return stem ++ suffix
    | none => throw .malformed

/-- The anchor that comes next. -/
def anchor? : Build (Option String) := do
  match ← peek? with
  | some (.anchor name) =>
    skip
    return some name
  | _ => return none

/-- The tag that comes next. -/
def tag? : Build (Option String) := do
  match ← peek? with
  | some (.tag handle suffix) =>
    skip
    return some (← fullTag handle suffix)
  | _ => return none

/-- An anchor and a tag, in either order. -/
def properties : Build Properties := do
  let anchor ← anchor?
  let tag ← tag?
  match anchor with
  | some _ => return { anchor, tag }
  | none => return { anchor := ← (if tag.isSome then anchor? else pure none), tag }

def collectionKind (tag : Option String) (default : Kind) : Kind :=
  match tag with
  | none | some "!" => default
  | some t => kindOfTag t

def scalarKind (tag : Option String) (text : String) (plain : Bool) : Kind :=
  match tag with
  | none => if plain then Scalar.kindOf text else .string
  | some "!" => Scalar.kindOf text
  | some t => kindOfTag t

/-- Makes the name of a node known. Two nodes with one name are refused. -/
def declare (name : Option String) : Build Unit := do
  match name with
  | none => return
  | some a =>
    if (← get).declared.contains a then throw .malformed
    modify fun r => { r with declared := a :: r.declared }

/-- Gives a name to a complete node. -/
def complete (name : Option String) (n : Node) : Build Node := do
  match name with
  | none => return n
  | some a =>
    modify fun r => { r with anchors := (a, n) :: r.anchors }
    return n

mutual

/-- A node. `block`: a block collection may begin here. `indentless`: so may a sequence that is not
indented. -/
def node (block indentless : Bool) : Nat → Build Node
  | 0 => throw .malformed
  | fuel + 1 => do
    match ← peek? with
    | some (.reference name) =>
      skip
      match (← get).anchors.lookup name with
      | some n => return n
      | none => throw .malformed
    | _ =>
      let p ← properties
      declare p.anchor
      complete p.anchor (← content block indentless p fuel)

/-- The content of a node after its properties. -/
def content (block indentless : Bool) (p : Properties) : Nat → Build Node
  | 0 => throw .malformed
  | fuel + 1 => do
    let sequence := Node.sequence (collectionKind p.tag .sequence)
    let mapping := Node.mapping (collectionKind p.tag .mapping)
    match ← peek? with
    | some (.scalar text plain) =>
      skip
      return .scalar (scalarKind p.tag text plain) text
    | some .flowSequenceStart =>
      skip
      return sequence (← flowItems true fuel)
    | some .flowMappingStart =>
      skip
      return mapping (← flowEntries true fuel)
    | some .blockEntry =>
      if indentless then return sequence (← indentlessItems fuel)
      else nothing p
    | some .blockSequenceStart =>
      if !block then nothing p
      else
        skip
        return sequence (← blockItems fuel)
    | some .blockMappingStart =>
      if !block then nothing p
      else
        skip
        return mapping (← blockEntries fuel)
    | _ => nothing p

/-- A node without content, which needs a tag or an anchor. -/
def nothing (p : Properties) : Build Node :=
  if p.anchor.isSome || p.tag.isSome then return .scalar (scalarKind p.tag "" true) ""
  else throw .malformed

/-- A node, or nothing if one of some tokens follows. -/
def nodeUnless (stops : List Token) (block indentless : Bool) : Nat → Build Node
  | 0 => throw .malformed
  | fuel + 1 => do
    if ← sees stops then return .missing else node block indentless fuel

/-- The items of an indented sequence. -/
def blockItems : Nat → Build (List Node)
  | 0 => throw .malformed
  | fuel + 1 => do
    if ← accept .blockEntry then
      let n ← nodeUnless [.blockEntry, .blockEnd] true false fuel
      return n :: (← blockItems fuel)
    expect .blockEnd
    return []

/-- The items of a sequence that is not indented more than the key before it. -/
def indentlessItems : Nat → Build (List Node)
  | 0 => throw .malformed
  | fuel + 1 => do
    if ← accept .blockEntry then
      let n ← nodeUnless [.blockEntry, .key, .value, .blockEnd] true false fuel
      return n :: (← indentlessItems fuel)
    return []

/-- The entries of an indented mapping. -/
def blockEntries : Nat → Build (List (Node × Node))
  | 0 => throw .malformed
  | fuel + 1 => do
    let stops : List Token := [.key, .value, .blockEnd]
    if ← accept .key then
      let k ← nodeUnless stops true true fuel
      let v ← if ← accept .value then nodeUnless stops true true fuel else pure .missing
      return (k, v) :: (← blockEntries fuel)
    expect .blockEnd
    return []

/-- The items of a sequence in brackets. -/
def flowItems (isFirst : Bool) : Nat → Build (List Node)
  | 0 => throw .malformed
  | fuel + 1 => do
    if ← accept .flowSequenceEnd then return []
    if !isFirst then expect .flowEntry
    if ← accept .flowSequenceEnd then return []
    let n ← if ← accept .key then
        let k ← nodeUnless [.value, .flowEntry, .flowSequenceEnd] false false fuel
        let v ← if ← accept .value then nodeUnless [.flowEntry, .flowSequenceEnd] false false fuel
          else pure .missing
        pure (Node.mapping .mapping [(k, v)])
      else node false false fuel
    return n :: (← flowItems false fuel)

/-- The entries of a mapping in braces. -/
def flowEntries (isFirst : Bool) : Nat → Build (List (Node × Node))
  | 0 => throw .malformed
  | fuel + 1 => do
    if ← accept .flowMappingEnd then return []
    if !isFirst then expect .flowEntry
    if ← accept .flowMappingEnd then return []
    let entry ← if ← accept .key then
        let k ← nodeUnless [.value, .flowEntry, .flowMappingEnd] false false fuel
        let v ← if ← accept .value then nodeUnless [.flowEntry, .flowMappingEnd] false false fuel
          else pure .missing
        pure (k, v)
      else do
        let k ← node false false fuel
        pure (k, .missing)
    return entry :: (← flowEntries false fuel)

end

/-- The handles of the directives in front of a document. There is at most one version. -/
def directives : Nat → Bool → List (String × String) → Build (List (String × String))
  | 0, _, handles => return handles
  | fuel + 1, hasVersion, handles => do
    match ← peek? with
    | some (.directive d) =>
      skip
      match d with
      | .version major _ =>
        if hasVersion || major != 1 then throw .malformed
        directives fuel true handles
      | .handle handle stem =>
        if (handles.lookup handle).isSome then throw .malformed
        directives fuel hasVersion ((handle, stem) :: handles)
      | .other => directives fuel hasVersion handles
    | _ => return handles

/-- Moves over the ends of documents. -/
def skipEnds : Nat → Build Unit
  | 0 => return
  | fuel + 1 => do if ← accept .documentEnd then skipEnds fuel

/-- Whether directives or the start of a document come next. -/
def atExplicitStart : Build Bool := do
  match ← peek? with
  | some (.directive _) | some .documentStart => return true
  | _ => return false

/-- The only document of a text; none if there is no document. -/
def document (fuel : Nat) : Build (Option Node) := do
  if (← get).tokens.isEmpty then return none
  let root ←
    if ← atExplicitStart then do
      let handles ← directives fuel false []
      modify fun r => { r with handles := handles ++ standardHandles }
      expect .documentStart
      let ends ← atExplicitStart
      if ends || (← sees [.documentEnd]) || (← get).tokens.isEmpty then pure Node.missing
      else node true false fuel
    else node true false fuel
  skipEnds fuel
  if (← get).tokens.isEmpty then return some root else throw .malformed

end Build

/-- The document of tokens. -/
def Node.ofTokens (ts : List Token) : Except Error (Option Node) :=
  (Build.document (4 * ts.length + 8)).run' { tokens := ts, handles := Build.standardHandles }

end SemanticLayer.Yaml
