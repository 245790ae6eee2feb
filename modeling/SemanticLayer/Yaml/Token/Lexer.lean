import SemanticLayer.Yaml.Token.Block
import SemanticLayer.Yaml.Token.Name
import SemanticLayer.Yaml.Token.Plain
import SemanticLayer.Yaml.Token.Quoted

/-!
# From YAML text to tokens

The lexer knows how deep the block it stands in is indented and how many brackets are open. That a
scalar is a key shows only at the colon after it, so the places where a key may have begun are kept
until the line ends; a colon then puts the mark of the key, and perhaps the start of a mapping,
there.
-/

namespace SemanticLayer.Yaml

/-- A place where a key may have begun. -/
structure PossibleKey where
  /-- The number of tokens before it. -/
  position : Nat
  /-- Nothing else can stand here. -/
  required : Bool
  index : Nat
  line : Nat
  column : Nat

/-- The lexer between two tokens. -/
structure Lexer where
  cursor : Cursor
  /-- The tokens so far, the last one first. -/
  tokens : List Token := []
  /-- The number of open brackets. -/
  flow : Nat := 0
  /-- The indentation of the block, and of the blocks around it. -/
  indent : Int := -1
  indents : List Int := []
  /-- Whether a key may begin here. -/
  mayKey : Bool := true
  /-- Where a key may have begun, by the number of open brackets. -/
  keys : List (Nat × PossibleKey) := []

namespace Lexer

/-- The longest distance between the beginning of a key and its colon. -/
def longestKey : Nat := 1024

def push (l : Lexer) (t : Token) : Lexer := { l with tokens := t :: l.tokens }

/-- The lexer with tokens at an earlier place. -/
def insert (l : Lexer) (position : Nat) (ts : List Token) : Lexer :=
  let later := l.tokens.length - position
  { l with tokens := l.tokens.take later ++ ts.reverse ++ l.tokens.drop later }

/-! ## Keys -/

/-- The lexer without the places that are too far back for a key. -/
def dropStale (l : Lexer) : Except Error Lexer :=
  let isStale (k : PossibleKey) : Bool :=
    k.line != l.cursor.line || longestKey < l.cursor.index - k.index
  if l.keys.any fun (_, k) => isStale k && k.required then .error .malformed
  else .ok { l with keys := l.keys.filter fun (_, k) => !isStale k }

/-- The lexer without the place between the innermost brackets. -/
def dropKey (l : Lexer) : Except Error Lexer :=
  match l.keys.lookup l.flow with
  | some k =>
    if k.required then .error .malformed
    else .ok { l with keys := l.keys.filter fun (level, _) => level != l.flow }
  | none => .ok l

/-- The lexer with this place, if a key may begin here. -/
def saveKey (l : Lexer) : Except Error Lexer := do
  if !l.mayKey then return l
  let l ← l.dropKey
  let key : PossibleKey :=
    { position := l.tokens.length
      required := l.flow == 0 && l.indent == l.cursor.column
      index := l.cursor.index, line := l.cursor.line, column := l.cursor.column }
  return { l with keys := (l.flow, key) :: l.keys }

/-! ## Indentation -/

/-- Ends the blocks that are indented more than the column. -/
def endBlocks (column : Int) : List Int → Lexer → Lexer
  | [], l => l
  | outer :: rest, l =>
    if l.flow == 0 && column < l.indent then
      endBlocks column rest { l.push .blockEnd with indent := outer, indents := rest }
    else l

/-- Ends the blocks that are indented more than the column. -/
def unwind (l : Lexer) (column : Int) : Lexer := endBlocks column l.indents l

/-- Begins a block at a column, if it is indented more than the one around it. -/
def indentTo (l : Lexer) (column : Nat) : Option Lexer :=
  if l.indent < column then some { l with indent := column, indents := l.indent :: l.indents }
  else none

/-- Begins a block at the cursor, if it is indented more than the one around it. -/
def beginBlock (l : Lexer) (start : Token) : Lexer :=
  match l.indentTo l.cursor.column with
  | some l => l.push start
  | none => l

/-! ## Tokens -/

/-- The cursor after blanks and comments, and whether a line ended. -/
def toNextToken : Nat → Cursor → Bool × Cursor
  | 0, c => (false, c)
  | fuel + 1, c =>
    let c := c.skipSpaces
    let c := if c.sees '#' then c.skipLine else c
    match c.lineBreak? with
    | some (_, c) => (true, (toNextToken fuel c).2)
    | none => (false, c)

/-- The lexer after blanks and comments. A key may begin in a new line, except inside brackets. -/
def skipBlanks (l : Lexer) : Lexer :=
  let c := if l.cursor.index == 0 && l.cursor.sees byteOrderMark then l.cursor.next else l.cursor
  let (broken, c) := toNextToken (c.rest.length + 1) c
  { l with cursor := c, mayKey := l.mayKey || (broken && l.flow == 0) }

/-- A mark of one character. -/
def mark (l : Lexer) (t : Token) : Lexer := { l.push t with cursor := l.cursor.next }

def endDocument (l : Lexer) : Except Error Lexer := do
  let l ← (l.unwind (-1)).dropKey
  return { l with mayKey := false }

/-- A mark between documents. -/
def separator (l : Lexer) (t : Token) : Except Error Lexer := do
  let l ← l.endDocument
  return { l.push t with cursor := l.cursor.skip 3 }

def directive (l : Lexer) : Except Error Lexer := do
  let l ← l.endDocument
  let (d, c) ← Yaml.directive l.cursor
  return { l.push (.directive d) with cursor := c }

/-- An opening bracket, which may begin a key. -/
def openFlow (l : Lexer) (t : Token) : Except Error Lexer := do
  let l ← l.saveKey
  return { l.mark t with flow := l.flow + 1, mayKey := true }

/-- A closing bracket. -/
def closeFlow (l : Lexer) (t : Token) : Except Error Lexer := do
  let l ← l.dropKey
  if l.flow == 0 then throw .malformed
  return { l.mark t with flow := l.flow - 1, mayKey := false }

/-- A comma between items. -/
def flowEntry (l : Lexer) : Except Error Lexer := do
  let l ← l.dropKey
  return { l.mark .flowEntry with mayKey := true }

/-- The mark of an item or of a key, which may begin a block. -/
def blockMark (l : Lexer) (start t : Token) (mayKey : Bool) : Except Error Lexer := do
  if l.flow == 0 && !l.mayKey then throw .malformed
  let l ← (if l.flow == 0 then l.beginBlock start else l).dropKey
  return { l.mark t with mayKey }

/-- The colon after a key. -/
def value (l : Lexer) : Except Error Lexer :=
  match l.keys.lookup l.flow with
  | some k =>
    let l := { l with keys := l.keys.filter fun (level, _) => level != l.flow }
    let l := match l.flow == 0, l.indentTo k.column with
      | true, some l => l.insert k.position [.blockMappingStart, .key]
      | _, _ => l.insert k.position [.key]
    .ok { l.mark .value with mayKey := false }
  | none => l.blockMark .blockMappingStart .value (l.flow == 0)

/-- A token that may be a key and is not followed by one. -/
def simple (l : Lexer) (read : Cursor → Except Error (Token × Cursor)) : Except Error Lexer := do
  let l ← l.saveKey
  let (t, c) ← read l.cursor
  return { l.push t with cursor := c, mayKey := false }

def plain (l : Lexer) : Except Error Lexer := do
  let l ← l.saveKey
  let r := Plain.read (l.flow != 0) (l.indent + 1) l.cursor
  return { l.push (.scalar (String.ofList r.text) true) with cursor := r.after, mayKey := r.broken }

def block (l : Lexer) (folded : Bool) : Except Error Lexer := do
  let l ← l.dropKey
  let (s, c) ← Block.read folded l.indent l.cursor
  return { l.push (.scalar s false) with cursor := c, mayKey := true }

def quoted (quote : Char) (c : Cursor) : Except Error (Token × Cursor) := do
  let (s, c) ← Quoted.read quote c
  return (.scalar s false, c)

/-- A name after its mark. -/
def named (make : String → Token) (c : Cursor) : Except Error (Token × Cursor) := do
  let (name, c) ← anchorName c
  return (make name, c)

/-- The next token; the cursor is at it. -/
def token (l : Lexer) (ch : Char) : Except Error Lexer :=
  let c := l.cursor
  let inFlow := l.flow != 0
  if ch == '%' && c.column == 0 then l.directive
  else if c.column == 0 && c.seesThree '-' then l.separator .documentStart
  else if c.column == 0 && c.seesThree '.' then l.separator .documentEnd
  else if ch == '[' then l.openFlow .flowSequenceStart
  else if ch == '\x7b' then l.openFlow .flowMappingStart
  else if ch == ']' then l.closeFlow .flowSequenceEnd
  else if ch == '\x7d' then l.closeFlow .flowMappingEnd
  else if ch == ',' then l.flowEntry
  else if ch == '-' && c.next.atGap then l.blockMark .blockSequenceStart .blockEntry true
  else if ch == '?' && (inFlow || c.next.atGap) then l.blockMark .blockMappingStart .key (!inFlow)
  else if ch == ':' && (inFlow || c.next.atGap) then l.value
  else if ch == '*' then l.simple (named .reference)
  else if ch == '&' then l.simple (named .anchor)
  else if ch == '!' then l.simple tagToken
  else if ch == '|' && !inFlow then l.block false
  else if ch == '>' && !inFlow then l.block true
  else if ch == '\x27' || ch == '\x22' then l.simple (quoted ch)
  else if Plain.canStart inFlow c then l.plain
  else .error .malformed

/-- The tokens from here to the end of the text. -/
def run : Nat → Lexer → Except Error (List Token)
  | 0, _ => .error .malformed
  | fuel + 1, l => do
    let l ← l.skipBlanks.dropStale
    let l := l.unwind l.cursor.column
    match l.cursor.peek? with
    | none => do
      let l ← l.endDocument
      return l.tokens.reverse
    | some ch => run fuel (← l.token ch)

end Lexer

def tokens (s : String) : Except Error (List Token) :=
  let cs := s.toList
  if cs.all isAllowed then Lexer.run (cs.length + 1) { cursor := { rest := cs } }
  else .error .malformed

end SemanticLayer.Yaml
