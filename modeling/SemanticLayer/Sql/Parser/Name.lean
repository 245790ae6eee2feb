import SemanticLayer.Sql.Parser.Rules

/-!
# Names

Which tokens may be a name depends on the place: almost any token after AS, but only words that are
no keywords of the grammar elsewhere. A value that is filled in later stands where a name may stand.
-/

namespace SemanticLayer.Sql.Parser

variable {scope : Scope}

/-- Whether a token may be a name after AS: anything but a single mark, a word for one, SELECT and
NOT. -/
def isAnyName (t : Token) : Bool :=
  match t.kind with
  | .symbol => t.key.length != 1 && t.key != "NOT"
  | .word => !(["SELECT", "NOT", "%"].contains t.key)
  | _ => true

/-- A name: in quotes, or any token if `anything`, or a word whose key satisfies `allowed`. -/
def name (anything : Bool) (allowed : String → Bool) : Rule scope (Option Node) := do
  match ← peek with
  | none => return none
  | some t =>
    if t.kind == .quotedName then
      advance
      return some (← node (.name ⟨t.text, true⟩) [])
    else if anything && isAnyName t || t.isWord && allowed t.key then
      advance
      return some (← node (.name ⟨t.text, t.kind == .string⟩) [])
    else return none

/-- A string read as a name in quotes. -/
def stringName : Rule scope (Option Node) := do
  match ← peek with
  | some t =>
    if t.kind == .string then
      advance
      return some (← node (.name ⟨t.text, true⟩) [])
    else return none
  | none => return none

/-- The name a node holds. -/
def identOf : Node → Option Ident
  | .mk (.name id) _ _ => some id
  | _ => none

/-- The names that nodes hold. -/
def identsOf (ns : List Node) : List Ident := ns.filterMap identOf

/-! ## Values that are filled in later -/

/-- The word or number after the mark of a placeholder. -/
def placeholderName : Rule scope (Option String) := do
  match ← peek with
  | some t =>
    if t.isWord || t.kind == .number then
      advance
      return some t.text
    else return none
  | none => return none

/-- A placeholder whose name follows its mark. -/
def namedPlaceholder : Rule scope (Option Node) := orBack do
  advance
  match ← placeholderName with
  | some s => return some (← node (.placeholder (some s)) [])
  | none => return none

/-- A placeholder that begins with a percent sign. -/
def percentPlaceholder (g : Grammar) : Rule scope (Option Node) := do
  advance
  let named ← if (← peekKey) == "(" then wrapped (name false g.isName) else pure none
  let _ ← accept "S"
  return some (← node (.placeholder ((named.bind identOf).map Ident.name)) [])

/-- A variable of the session, after its mark. -/
def sessionVariable : Rule scope (Option Node) := do
  match ← peek with
  | none => return none
  | some t =>
    if t.kind == .quotedName then
      advance
      return some (← node .parameter [.of (.name ⟨t.text, true⟩) []])
    else if t.isWord || t.kind == .number then
      advance
      return some (← node .parameter [.of (.keyword t.text) []])
    else return none

/-- A variable of the system, after its mark. A name before a point says whose it is. -/
def systemVariable (g : Grammar) : Rule scope (Option Node) := do
  match ← name true g.isName with
  | none => return none
  | some first =>
    if ← accept "." then
      match ← peek with
      | some t =>
        advance
        let scope := ((identOf first).map Ident.name).getD ""
        return some (← node (.systemVariable (some scope)) [.of (.keyword t.text) []])
      | none => reject
    else return some (← node (.systemVariable none) [first])

/-- A value that is filled in later. -/
def placeholder (g : Grammar) : Rule scope (Option Node) := do
  match ← peekKey with
  | "?" => do
    advance
    return some (← node (if g.percentPlaceholders then .keyword "?" else .placeholder none) [])
  | ":" => namedPlaceholder
  | "$" =>
    if g.dollarPlaceholders then namedPlaceholder
    else orBack do
      advance
      sessionVariable
  | "%" => if g.percentPlaceholders then percentPlaceholder g else return none
  | "@@" =>
    if g.calls == .mysql then do
      advance
      systemVariable g
    else return none
  | "@" => orBack do
    advance
    if g.dollarPlaceholders then
      return (← placeholderName).map fun s => Node.of (.placeholder (some s)) []
    else sessionVariable
  | _ => return none

end SemanticLayer.Sql.Parser
