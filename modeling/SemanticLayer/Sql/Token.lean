/-!
# Tokens of SQL text

The reader cuts SQL text into tokens. A token keeps its text without quotes, the key by which the
parser knows it, and the comments that belong to it: the ones that follow it on its line, and the
ones above it that belong to no earlier token.
-/

namespace SemanticLayer.Sql

/-- What a piece of SQL text is taken for. -/
inductive TokenKind where
  /-- An unquoted name or keyword; a keyword of several words is one token. -/
  | word
  | quotedName
  | number
  | string
  /-- A string with a letter in front of its quote, such as `N'…'`. -/
  | taggedString (tag : Char)
  /-- An operator or a punctuation mark. -/
  | symbol
  deriving DecidableEq, Repr

/-- A token with the comments that belong to it. -/
structure Token where
  kind : TokenKind
  text : String
  /-- A word in upper case, or the spelling of an operator that stands for all its spellings; empty
  for names in quotes and for literals, so that none of these is ever taken for a keyword. -/
  key : String
  comments : List String := []
  deriving DecidableEq, Repr

namespace Token

/-- The token with further comments after its own. -/
def addComments (t : Token) (cs : List String) : Token := { t with comments := t.comments ++ cs }

/-- Whether the token is an unquoted name or keyword. -/
def isWord (t : Token) : Bool := t.kind == .word

end Token

end SemanticLayer.Sql
