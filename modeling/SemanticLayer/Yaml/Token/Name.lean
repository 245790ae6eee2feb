import SemanticLayer.Check.Reader
import SemanticLayer.Data.Json
import SemanticLayer.Yaml.Cursor
import SemanticLayer.Yaml.Token

/-!
# Anchors, tags and directives

The tokens that hold names: `&name` and `*name`, tags such as `!!str`, and the lines that begin with
a percent sign.
-/

namespace SemanticLayer.Yaml

/-- The name after the mark of an anchor or an alias. -/
def anchorName (c : Cursor) : Except Error (String × Cursor) :=
  let (name, after) := c.next.span isNameChar
  let ends := after.peek?.all fun ch => isGap ch || "?:,]\x7d%@\x60".toList.contains ch
  if name.isEmpty || !ends then .error .malformed else .ok (String.ofList name, after)

/-! ## Tags -/

def isTagChar (c : Char) : Bool := c.isAlphanum || "-;/?:@&=+$,_.!~*\x27()[]".toList.contains c

/-- The text of bytes, each written as a percent sign and two digits. -/
def escapedBytes : Nat → Cursor → Except Error (List UInt8 × Cursor)
  | 0, _ => .error .malformed
  | fuel + 1, c =>
    if !c.sees '%' then .ok ([], c)
    else
      match c.rest.drop 1 with
      | a :: b :: _ =>
        match Json.ofHex? [a, b] with
        | some n => do
          let (bs, c) ← escapedBytes fuel (c.skip 3)
          return (UInt8.ofNat n :: bs, c)
        | none => .error .malformed
      | _ => .error .malformed

/-- The characters of a tag, with bytes in place of their escapes. -/
def tagChars : Nat → Cursor → Except Error (List Char × Cursor)
  | 0, _ => .error .malformed
  | fuel + 1, c => do
    let (run, c) := c.span isTagChar
    if !c.sees '%' then return (run, c)
    let (bs, c) ← escapedBytes (c.rest.length + 1) c
    match Reader.ofUtf8? bs with
    | none => throw .malformed
    | some s =>
      let (rest, c) ← tagChars fuel c
      return (run ++ s.toList ++ rest, c)

/-- The text of a tag, which is not empty. -/
def tagText (c : Cursor) : Except Error (String × Cursor) := do
  let (cs, c) ← tagChars (c.rest.length + 1) c
  if cs.isEmpty then throw .malformed
  return (String.ofList cs, c)

/-- A handle: an exclamation mark alone, or a name between two of them. -/
def tagHandle (c : Cursor) : Except Error (String × Cursor) :=
  if !c.sees '!' then .error .malformed
  else
    let (name, after) := c.next.span isNameChar
    if c.next.sees ' ' then .ok ("!", c.next)
    else if after.sees '!' then .ok ("!" ++ String.ofList name ++ "!", after.next)
    else .error .malformed

def tagToken (c : Cursor) : Except Error (Token × Cursor) := do
  let (token, c) ←
    if c.next.sees '<' then do
      let (suffix, c) ← tagText (c.skip 2)
      if !c.sees '>' then throw Error.malformed
      pure (Token.tag none suffix, c.next)
    else if c.next.atGap then pure (Token.tag none "!", c.next)
    else do
      let word := c.next.rest.takeWhile fun ch => !(ch == ' ' || isBreak ch)
      let (handle, c) ← if word.contains '!' then tagHandle c else pure ("!", c.next)
      let (suffix, c) ← tagText c
      pure (Token.tag (some handle) suffix, c)
  if !c.atEndOrSpace then throw .malformed
  return (token, c)

/-! ## Directives -/

/-- A number of a version. -/
def versionNumber (c : Cursor) : Except Error (Nat × Cursor) :=
  let (digits, c) := c.span Number.isDigit
  if digits.isEmpty then .error .malformed else .ok (Number.ofDigits digits, c)

def versionDirective (c : Cursor) : Except Error (Directive × Cursor) := do
  let (major, c) ← versionNumber c.skipSpaces
  if !c.sees '.' then throw .malformed
  let (minor, c) ← versionNumber c.next
  if !c.atEndOrSpace then throw .malformed
  return (.version major minor, c)

/-- What a handle stands for. -/
def handleDirective (c : Cursor) : Except Error (Directive × Cursor) := do
  let (handle, c) ← tagHandle c.skipSpaces
  if !c.sees ' ' then throw .malformed
  let (stem, c) ← tagText c.skipSpaces
  if !c.atEndOrSpace then throw .malformed
  return (.handle handle stem, c)

/-- A line that says how to read the document. -/
def directive (c : Cursor) : Except Error (Directive × Cursor) := do
  let (name, c) := c.next.span isNameChar
  if name.isEmpty || !c.atEndOrSpace then throw .malformed
  let (d, c) ←
    if name == "YAML".toList then versionDirective c
    else if name == "TAG".toList then handleDirective c
    else pure (Directive.other, c.skipLine)
  return (d, ← c.endLine)

end SemanticLayer.Yaml
