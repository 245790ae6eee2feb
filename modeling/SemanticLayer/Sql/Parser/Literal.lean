import SemanticLayer.Sql.Parser.Clause

/-!
# Literals and parentheses

Strings, numbers and the like, stars, and what stands in parentheses: a query, a tuple or an
expression.
-/

namespace SemanticLayer.Sql.Parser

def stringLiteral : Rule .operand (Option Node) := do
  match ← peek with
  | some t =>
    if t.kind == .string then
      advance
      return some (← node (.string t.text) [])
    else return none
  | none => return none

/-- A string, joined with the strings that follow it directly. -/
def strings : Rule .operand (Option Node) := do
  match ← stringLiteral with
  | none => return none
  | some first =>
    let rest ← many do
      match ← peek with
      | some t =>
        if t.kind == .string then
          advance
          return some (.of (.string t.text) [])
        else return none
      | none => return none
    if rest.isEmpty then return some first
    else return some (← node (.call .concat) (first :: rest))

/-- What follows a star after one of the words `keys`. -/
def starClause (R : Rules) (keys : List String) (keyword : String) :
    Rule .operand (List Node) := do
  match ← starWord keys R.assignment with
  | some (found, marked) =>
    let renamed ← do
      if marked then named R true found
      else
        let _ ← limitFollows R
        pure found
    return (renamed.map fun n => .of (.starClause keyword) [n]).toList
  | none =>
    if (← acceptOne keys).isSome then
      return [.of (.starClause keyword) (← wrapped (list R.expression))]
    else return []

/-- What follows a star: columns left out, replaced or renamed. -/
def starClauses (R : Rules) : Rule .operand (List Node) := do
  return (← starClause R ["EXCEPT", "EXCLUDE"] "EXCEPT") ++
    (← starClause R ["REPLACE"] "REPLACE") ++ (← starClause R ["RENAME"] "RENAME")

/-- A literal: a string, a number, NULL, TRUE, FALSE, or a star. -/
def plainLiteral (R : Rules) : Rule .operand (Option Node) := do
  match ← peek with
  | none => return none
  | some t =>
    match t.kind with
    | .string => strings
    | .number => do
      advance
      return some (← node (.number t.text) [])
    | .taggedString tag => do
      advance
      return some (← node (.taggedString tag t.text) [])
    | .word =>
      match t.key with
      | "NULL" => do
        advance
        return some (← node .null [])
      | "TRUE" => do
        advance
        return some (← node (.boolean true) [])
      | "FALSE" => do
        advance
        return some (← node (.boolean false) [])
      | _ => return none
    | .symbol =>
      match t.key with
      | "*" => do
        advance
        let clauses ← starClauses R
        return some (← node (.star []) clauses)
      | "." => do
        match ((← here).rest.drop 1).head? with
        | some u =>
          if u.kind == .number then
            advance
            advance
            return some (.of (.number ("0." ++ u.text)) [])
          else return none
        | none => return none
      | _ => return none
    | .quotedName => return none

/-- Whether a word names the character set of the string after it. -/
def namesCharacterSet (g : Grammar) (t : Token) : Bool :=
  t.isWord && Vocabulary.characterSets.contains t.key && !g.isName t.key

/-- A literal, with the character set of a string in front of it. Without a literal after it the
word is a name. -/
def literal (R : Rules) : Rule .operand (Option Node) := do
  match ← peek with
  | some t =>
    if namesCharacterSet R.grammar t then
      advance
      match ← plainLiteral R with
      | some n => return some (← node (.leadingWord t.text) [n])
      | none => return some (← node (.column [⟨t.text, false⟩]) [])
    else plainLiteral R
  | none => return none

/-- A query in parentheses, without an alias. -/
def subqueryOf (n : Node) : Rule .clause Node := node (.subquery none) [n]

/-- What the contents of parentheses are: a query, a tuple, or an expression. -/
def parenthesized (R : Rules) : Rule .operand (Option Node) := do
  if (← peekKey) != "(" then return none
  return some (← closed do
    let comments ← pending
    let items ← do
      match ← R.query {} with
      | some q => pure [q]
      | none => list R.expression
    let first ← items.head?.mapM R.clauses
    let lastIsComma := ((← here).last.map Token.key) == some ","
    let inner ← do
      match first with
      | none =>
        if (← peekKey) == ")" then node .tuple [] else reject
      | some n =>
        if n.head.isBareQuery then subqueryOf n
        else match n.head with
          | .subquery _ | .values _ => do subqueryOf (← R.clauses (← R.setOperations n))
          | _ =>
            if items.length > 1 || lastIsComma then node .tuple (n :: items.drop 1)
            else node .paren [n]
    return inner.addComments comments)

end SemanticLayer.Sql.Parser
