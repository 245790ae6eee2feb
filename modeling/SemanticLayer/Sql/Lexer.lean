import SemanticLayer.Sql.Lexer.Piece

/-!
# Cutting SQL text into tokens

`tokenize` cuts a text into pieces from left to right. Comments are no tokens; they are kept at the
token they belong to.
-/

namespace SemanticLayer.Sql.Lexer

/-- A partly cut text. -/
structure Cut where
  rest : List Char
  /-- Whether a line ended since the last token and the comments at its side. -/
  broken : Bool := false
  /-- Comments that wait for the next token. -/
  comments : List String := []
  /-- The tokens so far, last first. -/
  tokens : List Token := []
  /-- A statement kept as plain text: the number of tokens before its text, and the text. -/
  plain : Option (Nat × List Char) := none

namespace Cut

/-- Adds a token that ends where `rest` begins. -/
def push (c : Cut) (kind : TokenKind) (text key : String) (rest : List Char) : Cut :=
  { c with
    rest
    broken := false
    tokens := { kind, text, key, comments := c.comments } :: c.tokens
    comments := [] }

/-- Adds a comment that ends where `rest` begins. On the line of the last token it belongs to that
token. -/
def comment (c : Cut) (text : String) (rest : List Char) : Cut :=
  match c.broken, c.tokens with
  | false, t :: ts =>
    { c with rest, tokens := t.addComments (c.comments ++ [text]) :: ts, comments := [] }
  | _, _ => { c with rest, comments := c.comments ++ [text] }

/-- Statements whose text is kept as it is. -/
def plainStatements : List String :=
  ["CALL", "EXPLAIN", "OPTIMIZE", "PREPARE", "VACUUM", "EXECUTE", "FETCH", "SHOW", "RENAME"]

/-- Whether a statement begins after the last token. -/
def atStatement (c : Cut) : Bool := c.tokens.head?.all fun t => t.key == ";" || t.key == "BEGIN"

def word (g : Grammar) (c : Cut) (text : String) (rest : List Char) : Cut :=
  let key := g.keyword (Text.upper text)
  let d := c.push .word text key rest
  if c.atStatement && plainStatements.contains key && c.plain.isNone && rest.head? != some ';' then
    { d with plain := some (d.tokens.length, rest) }
  else d

/-- Ends a statement that is kept as plain text. -/
def endPlain (c : Cut) : Cut :=
  match c.plain with
  | none => c
  | some (n, start) =>
    let text := Text.trim (start.take (start.length - c.rest.length))
    let kept := c.tokens.drop (c.tokens.length - n)
    let c := { c with plain := none, tokens := kept }
    if text.isEmpty then c else c.push .string (String.ofList text) "" c.rest

/-- Whether a hint may follow the last token. -/
def takesHint (c : Cut) : Bool :=
  c.tokens.head?.any fun t => ["SELECT", "INSERT", "UPDATE", "DELETE"].contains t.key

/-- Adds a piece that ends where `rest` begins. -/
def add (g : Grammar) (c : Cut) (p : Piece) (rest : List Char) : Cut :=
  match p with
  | .blank breaks => { c with rest, broken := c.broken || breaks }
  | .comment text => c.comment text rest
  | .hint text => if c.takesHint then c.push .symbol text "/*+" rest else c.comment text rest
  | .word text => c.word g text rest
  | .token kind text key =>
    (if kind == .symbol && text == ";" then c.endPlain else c).push kind text key rest

/-- Cuts one piece off the text. `none` is a quote or a comment that is never closed. -/
def step (g : Grammar) (c : Cut) : Option Cut :=
  match c.rest with
  | [] => some c
  | a :: cs => (piece? g a cs).map fun (p, rest) => c.add g p rest

/-- Cuts at most `n` pieces off the text. -/
def run (g : Grammar) : Nat → Cut → Option Cut
  | 0, c => some c
  | n + 1, c => if c.rest.isEmpty then some c else (c.step g).bind (run g n)

/-- The tokens in order; comments that wait for a token go to the last one. -/
def finish (c : Cut) : List Token :=
  let c := c.endPlain
  match c.tokens with
  | [] => []
  | t :: ts => (t.addComments c.comments :: ts).reverse

end Cut

/-- The tokens of a text; `none` if a quote or a comment is never closed. Every piece takes at least
one character, so the length of the text bounds the number of pieces. -/
def tokenize (g : Grammar) (text : String) : Option (List Token) :=
  let cs := text.toList
  (Cut.run g cs.length { rest := cs }).map Cut.finish

end SemanticLayer.Sql.Lexer
