import SemanticLayer.Sql.Token
import SemanticLayer.Sql.Grammar
import SemanticLayer.Text.Blank
import SemanticLayer.Text.Word
import SemanticLayer.Text.LetterCase

/-!
# Pieces of SQL text

A text is cut into pieces from left to right: blanks, comments, words, numbers, quoted texts and
symbols. Each piece is the longest one of its kind. Which piece stands at the beginning of a text,
and where it ends, depends on the text alone and not on the pieces before it. The only failures are
quotes and comments that are never closed.
-/

namespace SemanticLayer.Sql.Lexer

open SemanticLayer.Text (isBlank isDigit isNameStart)

/-! ## Quoted texts -/

/-- The character that a backslash and `c` stand for. -/
def unescape? : Char → Option Char
  | 'a' => some '\x07'
  | 'b' => some '\x08'
  | 'f' => some '\x0c'
  | 'n' => some '\n'
  | 'r' => some '\r'
  | 't' => some '\t'
  | 'v' => some '\x0b'
  | '\\' => some '\\'
  | _ => none

/-- How a quoted text is closed and what is escaped in it. -/
structure Quoting where
  close : Char
  /-- Characters that keep the next one from closing the text. -/
  escapes : List Char
  /-- Characters that quote strings: they escape only themselves. -/
  quotes : List Char
  backslash : Bool

/-- The text up to the closing quote, and what follows the quote. -/
def quoted? (q : Quoting) : List Char → Option (List Char × List Char)
  | [] => none
  | [c] => if c == q.close then some ([], []) else none
  | c :: d :: cs =>
    let plain :=
      if c == q.close then some ([], d :: cs)
      else (quoted? q (d :: cs)).map fun r => (c :: r.1, r.2)
    match if q.backslash && c == '\\' then unescape? d else none with
    | some u => (quoted? q cs).map fun r => (u :: r.1, r.2)
    | none =>
      if q.escapes.contains c && (d == q.close || q.escapes.contains d) &&
          (!q.quotes.contains c || c == d) then
        (quoted? q cs).map fun r => (if d == q.close then (d :: r.1, r.2) else (c :: d :: r.1, r.2))
      else plain

/-- How strings between `quote`s are read. -/
def stringQuoting (g : Grammar) (quote : Char) : Quoting where
  close := quote
  escapes := if g.backslashEscapes then ['\x27', '\x22', '\\'] else ['\x27']
  quotes := g.stringQuotes
  backslash := g.backslashEscapes

/-- How names between `quote`s are read. -/
def nameQuoting (g : Grammar) (quote : Char) : Quoting where
  close := quote
  escapes := [quote]
  quotes := g.stringQuotes
  backslash := g.backslashEscapes

/-- The tag after the dollar sign that opens a string, and what follows the tag's own sign. A tag
holds no blank and is no number. -/
def dollarTag? (cs : List Char) : Option (List Char × List Char) :=
  let tag := cs.takeWhile (· != '$')
  match cs.dropWhile (· != '$') with
  | [] => none
  | _ :: rest =>
    if tag.isEmpty || !(rest.isEmpty || tag.all isDigit || tag.any isBlank) then some (tag, rest)
    else none

/-- The text up to a mark, and what follows the mark. -/
def upTo? (mark : List Char) : List Char → Option (List Char × List Char)
  | [] => none
  | c :: cs =>
    if mark.isPrefixOf (c :: cs) then some ([], (c :: cs).drop mark.length)
    else (upTo? mark cs).map fun r => (c :: r.1, r.2)

/-! ## Numbers and words -/

/-- The longest number, and what follows it. A point is taken once, an exponent mark once, and one
sign after the exponent mark if a digit follows the sign. -/
def number (g : Grammar) : Bool → Nat → List Char → List Char × List Char
  | _, _, [] => ([], [])
  | point, exponent, c :: cs =>
    let take (r : List Char × List Char) := (c :: r.1, r.2)
    if isDigit c then take (number g point exponent cs)
    else if c == '.' && !point then take (number g true exponent cs)
    else if (c == '-' || c == '+') && exponent == 1 && cs.head?.any isDigit then
      take (number g point 2 cs)
    else if (c == 'e' || c == 'E') && exponent == 0 then take (number g point 1 cs)
    else if c == '_' && g.digitSeparators then take (number g point exponent cs)
    else ([], c :: cs)

/-- Whether `c` continues a word. -/
def inWord (g : Grammar) (c : Char) : Bool := !isBlank c && (!g.isMark c || g.innerMarks.contains c)

/-- Whether `c` continues the letters after a number. -/
def inTail (g : Grammar) (c : Char) : Bool := !isBlank c && !g.isMark c

/-- What follows `word` at the start of the text, letter case aside. -/
def afterWord? : List Char → List Char → Option (List Char)
  | [], cs => some cs
  | _ :: _, [] => none
  | w :: ws, c :: cs => if Text.upperChar c == [w] then afterWord? ws cs else none

/-- What follows the words of a keyword at the start of the text, any blanks between them. -/
def afterWords? : List String → List Char → Option (List Char)
  | [], cs => some cs
  | [w], cs => afterWord? w.toList cs
  | w :: ws, cs =>
    match afterWord? w.toList cs with
    | some (c :: cs) => if isBlank c then afterWords? ws (cs.dropWhile isBlank) else none
    | _ => none

/-- The keyword of several words at the start of the text, and what follows it. -/
def phrase? (g : Grammar) (cs : List Char) : Option (String × List Char) :=
  (g.phrases ++ Vocabulary.phrases).findSome? fun ws =>
    match afterWords? ws cs with
    | some rest =>
      if rest.head?.all fun c => isBlank c || g.isMark c then some (" ".intercalate ws, rest)
      else none
    | none => none

/-! ## Comments -/

/-- The marks around a comment. -/
structure CommentMarks where
  opening : List Char
  closing : Char × Char
  /-- The mark that opens a comment inside the comment. -/
  inner : Option (Char × Char) := none

def hintMark : List Char := ['/', '*', '+']

/-- The comments with a closing mark. Hints do not nest. -/
def commentMarks (g : Grammar) : List CommentMarks :=
  let marks (a b c d : Char) : CommentMarks :=
    { opening := [a, b], closing := (c, d)
      inner := if g.nestedComments then some (a, b) else none }
  (if g.hints then [{ opening := hintMark, closing := ('*', '/') }] else []) ++
    [marks '/' '*' '*' '/', marks '\x7b' '#' '#' '\x7d']

/-- The text of a comment up to its closing mark, and what follows the mark. `opened` says that an
opening mark was just read: no other one begins right after it. An inner closing mark may lend its
second character to the next opening mark. -/
def commentBody? (m : CommentMarks) : Bool → Nat → List Char → Option (List Char × List Char)
  | opened, depth, c :: d :: cs =>
    if !opened && m.inner == some (c, d) then
      (commentBody? m true (depth + 1) cs).map fun r => (c :: d :: r.1, r.2)
    else
      match depth, m.closing == (c, d) with
      | 0, true => some ([], cs)
      | n + 1, true => (commentBody? m false n (d :: cs)).map fun r => (c :: r.1, r.2)
      | n, false => (commentBody? m false n (d :: cs)).map fun r => (c :: r.1, r.2)
  | _, _, _ => none

/-- Whether `c` ends a line. -/
def isBreak (c : Char) : Bool := c == '\n' || c == '\r'

/-! ## Pieces -/

/-- What is cut off a text at once. -/
inductive Piece where
  /-- A blank, which may end a line. -/
  | blank (breaks : Bool)
  | comment (text : String)
  /-- A comment that is a hint where one may stand. -/
  | hint (text : String)
  | word (text : String)
  /-- A token whose kind and key its text gives. -/
  | token (kind : TokenKind) (text key : String)
  deriving DecidableEq, Repr

/-- The key of a symbol: the spellings of one operator share it. -/
def symbolKey : String → String
  | "!" => "NOT"
  | "==" => "="
  | "!=" => "<>"
  | s => s

/-- An operator or a mark. -/
def symbol (s : String) : Piece := .token .symbol s (symbolKey s)

/-- What begins with the digit `a`: a number, bits or bytes, or a name. -/
def numeral (g : Grammar) (a : Char) (cs : List Char) : Piece × List Char :=
  let (digits, rest) := number g false 0 (a :: cs)
  if a == '0' && cs.head?.any ['b', 'B', 'x', 'X'].contains then
    if g.stringTags.contains 'x' then
      let body := cs.takeWhile (inTail g)
      (.token (.taggedString (if body.head?.any ['b', 'B'].contains then 'b' else 'x'))
        (String.ofList (body.drop 1)) "", cs.dropWhile (inTail g))
    else (.token .number "0" "", cs)
  else if g.digitNames && rest.head?.any isNameStart then
    (.word (String.ofList (digits ++ rest.takeWhile (inTail g))), rest.dropWhile (inTail g))
  else (.token .number (String.ofList digits) "", rest)

/-- A text in quotes, after its opening quote. -/
def quotedPiece? (q : Quoting) (kind : TokenKind) (cs : List Char) : Option (Piece × List Char) :=
  (quoted? q cs).map fun (text, rest) => (.token kind (String.ofList text) "", rest)

/-- A comment up to the end of the line, after its mark. -/
def lineComment (cs : List Char) : Piece × List Char :=
  (.comment (String.ofList (cs.takeWhile fun x => !isBreak x)), cs.dropWhile fun x => !isBreak x)

/-- A comment between marks, after the opening one. -/
def markedComment? (m : CommentMarks) (cs : List Char) : Option (Piece × List Char) :=
  (commentBody? m true 0 cs).map fun (body, rest) =>
    let text := String.ofList body
    (if m.opening == hintMark then .hint text else .comment text, rest)

/-- A string after the dollar signs and the tag that open it. -/
def dollarString? (tag cs : List Char) : Option (Piece × List Char) :=
  (upTo? ('$' :: tag ++ ['$']) cs).map fun (text, rest) =>
    (.token .string (String.ofList text) "", rest)

def markOrWord (g : Grammar) (a : Char) (cs : List Char) : Piece × List Char :=
  if a == '#' && g.lineComments.contains "#" then lineComment cs
  else if g.isMark a then (symbol (String.singleton a), cs)
  else match phrase? g (a :: cs) with
    | some (w, rest) => (.token .word w w, rest)
    | none => (.word (String.ofList (a :: cs.takeWhile (inWord g))), cs.dropWhile (inWord g))

/-- What begins with a mark or a letter that is no quote and no tag of a string. -/
def marked? (g : Grammar) (a : Char) (cs : List Char) : Option (Piece × List Char) :=
  match (commentMarks g).find? fun m => m.opening.isPrefixOf (a :: cs),
      g.operators.find? fun o => o.toList.isPrefixOf (a :: cs),
      if g.dollarQuotes && a == '$' then dollarTag? cs else none with
  | some m, _, _ => markedComment? m ((a :: cs).drop m.opening.length)
  | none, some o, _ => some (symbol o, (a :: cs).drop o.length)
  | none, none, some (tag, rest) => dollarString? tag rest
  | none, none, none => some (markOrWord g a cs)

/-- The piece that begins with `a`, and what follows it. `none` is a quote or a comment that is
never closed. -/
def piece? (g : Grammar) (a : Char) (cs : List Char) : Option (Piece × List Char) :=
  if isBlank a then some (.blank (isBreak a), cs)
  else if isDigit a then some (numeral g a cs)
  else if g.nameQuotes.contains a then quotedPiece? (nameQuoting g a) .quotedName cs
  else if g.stringQuotes.contains a then quotedPiece? (stringQuoting g a) .string cs
  else if g.stringTags.contains a && cs.head?.any g.stringQuotes.contains then
    quotedPiece? (stringQuoting g (cs.headD a)) (.taggedString a) (cs.drop 1)
  else if ['-', '-'].isPrefixOf (a :: cs) then some (lineComment (cs.drop 1))
  else marked? g a cs

end SemanticLayer.Sql.Lexer
