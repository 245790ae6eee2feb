import SemanticLayer.Sql.Lexer
import SemanticLayer.Sql.Parser.Statement

/-!
# Reading SQL text

`parse` reads a text as statements divided by semicolons, in one grammar. `parseOne` is what most
callers want: the text must be exactly one statement.
-/

namespace SemanticLayer.Sql.Parser

/-- The rules of a grammar, for nesting up to a bound. -/
def rules (g : Grammar) : Nat → Rules
  | 0 => .giveUp g
  | n + 1 =>
    let R := rules g n
    { grammar := g
      statement := statement R
      query := steppedQuery R
      setOperations := setOperations R
      clauses := clauses R
      table := table R
      expression := expression R
      assignment := assignment R
      equality := equality R
      bitwise := bitwise R
      term := term R
      unary := unary R
      interval := interval R
      dataType := dataType R }

/-- A bound on nesting that no statement of `n` tokens reaches. -/
def depthBound (n : Nat) : Nat := 8 * n + 32

/-- A bound on the number of tokens, with those inside hints. -/
def tokenCount (tokens : List Token) : Nat :=
  tokens.foldl (fun n t => n + 1 + if t.key == "/*+" then t.text.length else 0) 0

/-- The tokens of each statement. A semicolon with comments is a statement of its own. -/
def split (tokens : List Token) : List (List Token) :=
  let step (t : Token) (acc : List Token × List (List Token)) : List Token × List (List Token) :=
    if t.key == ";" then
      ([], (if t.comments.isEmpty then [] else [[t]]) ++ acc.1 :: acc.2)
    else (t :: acc.1, acc.2)
  let (first, rest) := tokens.foldr step ([], [])
  (first :: rest).filter fun c => !c.isEmpty

/-- Reads the tokens of one statement. All of them must be used. -/
def parseTokens (g : Grammar) (tokens : List Token) : Except Fault (Option Node) :=
  match tokens with
  | [t] =>
    if t.key == ";" then .ok (some (.mk .semicolon t.comments []))
    else run tokens
  | _ => run tokens
where
  run (tokens : List Token) : Except Fault (Option Node) := do
    let R := rules g (depthBound (tokenCount tokens))
    let (found, cursor) ← R.statement.run { rest := tokens }
    if cursor.rest.isEmpty then return found else throw .rejected

end SemanticLayer.Sql.Parser

namespace SemanticLayer.Sql

/-- The statements of a text; `none` if the text is no SQL of the grammar. -/
def parse (g : Grammar) (text : String) : Option (List Node) := do
  let tokens ← Lexer.tokenize g text
  let found ← ((Parser.split tokens).mapM (Parser.parseTokens g)).toOption
  return found.filterMap id

/-- Why a text is not one statement. -/
inductive ParseError where
  /-- The text is no SQL of the grammar. -/
  | invalid
  | empty
  | several (count : Nat)
  deriving DecidableEq, Repr

/-- Reads a text that must be exactly one statement. -/
def parseOne (g : Grammar) (text : String) : Except ParseError Node :=
  match parse g text with
  | none => .error .invalid
  | some [] => .error .empty
  | some [n] => .ok n
  | some ns => .error (.several ns.length)

end SemanticLayer.Sql
