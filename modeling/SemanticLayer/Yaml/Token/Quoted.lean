import SemanticLayer.Data.Json
import SemanticLayer.Yaml.Cursor

/-!
# Quoted scalars

Between single quotes a quote is written twice; between double quotes a backslash begins an escape.
Line breaks fold: one of them is a blank, and of several the first one disappears.
-/

namespace SemanticLayer.Yaml.Quoted

/-- The characters that follow a backslash and stand for one character. -/
def escapes : List (Char × Char) := [
  ('0', '\x00'), ('a', '\x07'), ('b', '\x08'), ('t', '\t'), ('\t', '\t'), ('n', '\n'),
  ('v', '\x0b'), ('f', '\x0c'), ('r', '\r'), ('e', '\x1b'), (' ', ' '), ('\x22', '\x22'),
  ('\\', '\\'), ('/', '/'), ('N', '\x85'), ('_', '\xa0'), ('L', '\u2028'), ('P', '\u2029')]

/-- The letters that follow a backslash and stand in front of a number, with its length. -/
def codes : List (Char × Nat) := [('x', 2), ('u', 4), ('U', 8)]

/-- The character of a number. -/
def ofCode (n : Nat) : Except Error Char :=
  if n < 0xd800 || (0xdfff < n && n < 0x110000) then .ok (Char.ofNat n) else .error .noCharacter

/-- The breaks of empty lines, and the cursor at the next text. -/
def emptyLines : Nat → Cursor → Except Error (List Char × Cursor)
  | 0, _ => .error .malformed
  | fuel + 1, c =>
    if c.atSeparator then .error .malformed
    else
      let c := c.skipWhile fun ch => ch == ' ' || ch == '\t'
      match c.lineBreak? with
      | none => .ok ([], c)
      | some (b, c) => do
        let (bs, c) ← emptyLines fuel c
        return (b :: bs, c)

/-- What a gap in the text stands for. -/
def gap (c : Cursor) : Except Error (List Char × Cursor) :=
  let (blanks, c) := c.span fun ch => ch == ' ' || ch == '\t'
  match c.lineBreak? with
  | none => .ok (blanks, c)
  | some (b, c) => do
    let (bs, c) ← emptyLines (c.rest.length + 1) c
    let first := if b != '\n' then [b] else if bs.isEmpty then [' '] else []
    return (first ++ bs, c)

/-- What an escape stands for; the cursor is after the backslash. -/
def escape (c : Cursor) : Except Error (List Char × Cursor) :=
  match c.lineBreak? with
  | some (_, c) => emptyLines (c.rest.length + 1) c
  | none =>
    match c.peek? with
    | none => .error .malformed
    | some ch =>
      match escapes.lookup ch, codes.lookup ch with
      | some meant, _ => .ok ([meant], c.next)
      | none, some length =>
        let digits := c.next.rest.take length
        match digits.length == length, Json.ofHex? digits with
        | true, some n => do return ([← ofCode n], c.next.skip length)
        | _, _ => .error .malformed
      | none, none => .error .malformed

/-- The text up to the closing quote, and the cursor after it. -/
def text (quote : Char) : Nat → Cursor → Except Error (List Char × Cursor)
  | 0, _ => .error .malformed
  | fuel + 1, c =>
    let and (piece : List Char × Cursor) : Except Error (List Char × Cursor) := do
      let (cs, c) ← text quote fuel piece.2
      return (piece.1 ++ cs, c)
    match c.peek? with
    | none => .error .malformed
    | some ch =>
      if ch == quote then
        if quote == '\x27' && c.peekAt? 1 == some quote then and ([quote], c.skip 2)
        else .ok ([], c.next)
      else if quote == '\x22' && ch == '\\' then do and (← escape c.next)
      else if isGap ch then do and (← gap c)
      else and ([ch], c.next)

/-- The scalar that begins with a quote, and the cursor after it. -/
def read (quote : Char) (c : Cursor) : Except Error (String × Cursor) := do
  let (cs, c) ← text quote (c.rest.length + 1) c.next
  return (String.ofList cs, c)

end SemanticLayer.Yaml.Quoted
