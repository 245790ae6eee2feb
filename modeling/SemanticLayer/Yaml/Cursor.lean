import SemanticLayer.Text.CodePoint

/-!
# Places in a YAML text

A cursor is the rest of a text with the place where it begins. Lines end at any of five characters;
a carriage return with a line feed after it ends one line, not two.
-/

namespace SemanticLayer.Yaml

/-- Why a text is no document. -/
inductive Error where
  /-- The text is not YAML, or has no value here. -/
  | malformed
  /-- A character is written by a number that no character has. -/
  | noCharacter
  /-- A number has no digits or wrong ones. -/
  | badNumber
  | emptyNumber
  /-- A word is no truth value. -/
  | badTruth
  /-- A date or time does not exist. -/
  | badMoment
  /-- A text is no date. -/
  | noMoment
  deriving DecidableEq, Repr

/-! ## Characters -/

/-- Code points that a text may hold. -/
def allowedRanges : List (Nat × Nat) := [
  (9, 10), (13, 13), (0x20, 0x7e), (0x85, 0x85), (0xa0, 0xd7ff), (0xe000, 0xfffd),
  (0x10000, 0x10ffff)]

/-- Whether a text may hold the character. -/
def isAllowed (c : Char) : Bool := Text.inRanges allowedRanges c.toNat

/-- The characters that end a line. -/
def isBreak (c : Char) : Bool :=
  c == '\n' || c == '\r' || c == '\x85' || c == '\u2028' || c == '\u2029'

/-- A space, a tab or the end of a line. -/
def isGap (c : Char) : Bool := c == ' ' || c == '\t' || isBreak c

/-- The characters of names of anchors, handles and directives. -/
def isNameChar (c : Char) : Bool := c.isAlphanum || c == '-' || c == '_'

/-- The mark that may stand in front of a text and takes no room. -/
def byteOrderMark : Char := '\ufeff'

/-! ## Cursors -/

/-- The rest of a text and the place where it begins. -/
structure Cursor where
  rest : List Char
  index : Nat := 0
  line : Nat := 0
  column : Nat := 0

namespace Cursor

/-- The next character. -/
def peek? (c : Cursor) : Option Char := c.rest.head?

/-- The character after `k` others. -/
def peekAt? (c : Cursor) (k : Nat) : Option Char := c.rest[k]?

/-- Whether the next character is the one given. -/
def sees (c : Cursor) (ch : Char) : Bool := c.peek? == some ch

/-- Whether there is a next character and it is of a class. -/
def seesAny (c : Cursor) (p : Char → Bool) : Bool := c.peek?.any p

/-- Whether the text ends here or a gap follows. -/
def atGap (c : Cursor) : Bool := c.peek?.all isGap

/-- Whether the text or the line ends here or a space follows. -/
def atEndOrSpace (c : Cursor) : Bool := c.peek?.all fun ch => ch == ' ' || isBreak ch

/-- The cursor after one character. -/
def next (c : Cursor) : Cursor :=
  match c.rest with
  | [] => c
  | ch :: rest =>
    let ends := isBreak ch && !(ch == '\r' && rest.head? == some '\n')
    if ends then { rest, index := c.index + 1, line := c.line + 1, column := 0 }
    else
      { rest, index := c.index + 1, line := c.line
        column := if ch == byteOrderMark then c.column else c.column + 1 }

/-- The cursor after `n` characters. -/
def skip (c : Cursor) : Nat → Cursor
  | 0 => c
  | n + 1 => c.next.skip n

/-- The characters of a class that come next, and the cursor after them. -/
def span (c : Cursor) (p : Char → Bool) : List Char × Cursor :=
  let run := c.rest.takeWhile p
  (run, c.skip run.length)

/-- The cursor after the characters of a class. -/
def skipWhile (c : Cursor) (p : Char → Bool) : Cursor := (c.span p).2

def skipSpaces (c : Cursor) : Cursor := c.skipWhile (· == ' ')

/-- The cursor at the end of the line. -/
def skipLine (c : Cursor) : Cursor := c.skipWhile fun ch => !isBreak ch

/-- The line break that comes next, and the cursor after it. Most breaks count as a line feed. -/
def lineBreak? (c : Cursor) : Option (Char × Cursor) :=
  match c.rest with
  | '\r' :: '\n' :: _ => some ('\n', c.skip 2)
  | '\u2028' :: _ => some ('\u2028', c.next)
  | '\u2029' :: _ => some ('\u2029', c.next)
  | ch :: _ => if isBreak ch then some ('\n', c.next) else none
  | [] => none

/-- Whether three characters of a kind and then a gap come next, as between documents. -/
def seesThree (c : Cursor) (ch : Char) : Bool :=
  c.rest.take 3 == [ch, ch, ch] && (c.peekAt? 3).all isGap

/-- Whether a mark between documents comes next. -/
def atSeparator (c : Cursor) : Bool := c.seesThree '-' || c.seesThree '.'

/-- The cursor after the rest of a line that holds at most a comment. -/
def endLine (c : Cursor) : Except Error Cursor :=
  let c := c.skipSpaces
  let c := if c.sees '#' then c.skipLine else c
  match c.lineBreak? with
  | some (_, c) => .ok c
  | none => if c.rest.isEmpty then .ok c else .error .malformed

end Cursor

end SemanticLayer.Yaml
