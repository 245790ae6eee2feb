import SemanticLayer.Number.Digits
import SemanticLayer.Yaml.Cursor

/-!
# Block scalars

A block scalar is made of the indented lines after its header. The mark of the header says whether
line breaks stay (`|`) or fold into blanks (`>`); further marks give the indentation and say what
happens to the breaks at the end.
-/

namespace SemanticLayer.Yaml.Block

/-- What happens to the breaks at the end. -/
inductive Chomping where
  /-- One break stays. -/
  | clip
  /-- No break stays. -/
  | strip
  /-- All breaks stay. -/
  | keep
  deriving DecidableEq, Repr

/-- The marks after the first one. -/
structure Header where
  chomping : Chomping := .clip
  /-- The indentation, if it is given. -/
  increment : Option Nat := none

/-- What a sign says about the end. -/
def chomping? : Option Char → Option Chomping
  | some '+' => some .keep
  | some '-' => some .strip
  | _ => none

/-- The digit that gives the indentation. -/
def increment? : Option Char → Option Nat
  | some ch => if Number.isDigit ch then some (Number.digitValue ch) else none
  | none => none

/-- The marks of the header, in either order, and the cursor after them. -/
def header (c : Cursor) : Except Error (Header × Cursor) :=
  let (h, c) : Header × Cursor := match chomping? c.peek?, increment? c.peek? with
    | some chomping, _ =>
      match increment? c.next.peek? with
      | some n => ({ chomping, increment := some n }, c.skip 2)
      | none => ({ chomping }, c.next)
    | none, some n =>
      match chomping? c.next.peek? with
      | some chomping => ({ chomping, increment := some n }, c.skip 2)
      | none => ({ increment := some n }, c.next)
    | none, none => ({}, c)
  if h.increment == some 0 || !c.atEndOrSpace then .error .malformed else .ok (h, c)

/-- The breaks of the empty lines in front, the indentation of the deepest line of blanks among them
and of the first line, and the cursor there. -/
def indentation : Nat → Nat → Cursor → List Char × Nat × Cursor
  | 0, deepest, c => ([], deepest, c)
  | fuel + 1, deepest, c =>
    let c := c.skipSpaces
    let deepest := max deepest c.column
    match c.lineBreak? with
    | none => ([], deepest, c)
    | some (b, c) =>
      let (bs, deepest, c) := indentation fuel deepest c
      (b :: bs, deepest, c)

/-- The cursor after at most the blanks of the indentation. -/
def skipIndent (indent : Nat) (c : Cursor) : Cursor :=
  c.skip (min (indent - c.column) (c.span (· == ' ')).1.length)

/-- The breaks of empty lines, and the cursor in the next line. -/
def emptyLines (indent : Nat) : Nat → Cursor → List Char × Cursor
  | 0, c => ([], c)
  | fuel + 1, c =>
    let c := skipIndent indent c
    match c.lineBreak? with
    | none => ([], c)
    | some (b, c) =>
      let (bs, c) := emptyLines indent fuel c
      (b :: bs, c)

/-- The lines of a block. -/
structure Lines where
  text : List Char
  /-- The break after the last line. -/
  lastBreak : List Char
  /-- The breaks of the empty lines after it. -/
  breaks : List Char
  after : Cursor

/-- Whether a line of the block begins here. -/
def atLine (indent : Nat) (c : Cursor) : Bool := c.column == indent && !c.rest.isEmpty

/-- Whether the next character is not a blank, so that the line folds. -/
def folds (c : Cursor) : Bool := !(c.seesAny fun ch => ch == ' ' || ch == '\t')

/-- The lines from here on; `breaks` are those of the empty lines before. -/
def lines (folded : Bool) (indent : Nat) : Nat → List Char → Cursor → Lines
  | 0, breaks, c => ⟨[], [], breaks, c⟩
  | fuel + 1, breaks, c =>
    if !atLine indent c then ⟨[], [], breaks, c⟩
    else
      let (line, after) := c.span fun ch => !isBreak ch
      let (lastBreak, after) := match after.lineBreak? with
        | some (b, after) => ([b], after)
        | none => ([], after)
      let (next, after) := emptyLines indent (after.rest.length + 1) after
      if atLine indent after then
        let joint :=
          if folded && lastBreak == ['\n'] && folds c && folds after then
            if next.isEmpty then [' '] else []
          else lastBreak
        let rest := lines folded indent fuel next after
        { rest with text := breaks ++ line ++ joint ++ rest.text }
      else ⟨breaks ++ line, lastBreak, next, after⟩

/-- The scalar that begins with a mark, inside a collection that is indented by `outer`, and the
cursor after it. -/
def read (folded : Bool) (outer : Int) (c : Cursor) : Except Error (String × Cursor) := do
  let (h, c) ← header c.next
  let c ← c.endLine
  let least := (max (outer + 1) 1).toNat
  let fuel := c.rest.length + 1
  let (breaks, indent, c) := match h.increment with
    | none =>
      let (breaks, deepest, c) := indentation fuel 0 c
      (breaks, max least deepest, c)
    | some n =>
      let indent := least + n - 1
      let (breaks, c) := emptyLines indent fuel c
      (breaks, indent, c)
  let ls := lines folded indent fuel breaks c
  let tail := match h.chomping with
    | .clip => ls.lastBreak
    | .strip => []
    | .keep => ls.lastBreak ++ ls.breaks
  return (String.ofList (ls.text ++ tail), ls.after)

end SemanticLayer.Yaml.Block
