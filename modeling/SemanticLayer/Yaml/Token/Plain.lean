import SemanticLayer.Yaml.Cursor

/-!
# Plain scalars

A plain scalar has no quotes. It ends at a colon before a gap, at a comment, at a line that is not
indented, and inside brackets at a mark of the collection.
-/

namespace SemanticLayer.Yaml.Plain

/-- The marks of collections in brackets. -/
def isFlowMark (c : Char) : Bool := c == ',' || c == '[' || c == ']' || c == '\x7b' || c == '\x7d'

/-- Whether a plain scalar can begin with the first character. -/
def canStart (inFlow : Bool) (c : Cursor) : Bool :=
  match c.peek? with
  | none => false
  | some ch =>
    let marks := "-?:,[]\x7b\x7d#&*!|>\x27\x22%@\x60".toList
    (!isGap ch && !marks.contains ch) ||
      (c.next.seesAny fun after => !isGap after) &&
        (ch == '-' || !inFlow && (ch == '?' || ch == ':'))

/-- The characters up to a gap or a mark. -/
def run (inFlow : Bool) : List Char → List Char
  | [] => []
  | ch :: cs =>
    let isValueMark := ch == ':' && cs.head?.all fun d => isGap d || inFlow && isFlowMark d
    if isGap ch || isValueMark || inFlow && (isFlowMark ch || ch == '?') then []
    else ch :: run inFlow cs

/-- The breaks of empty lines, and the cursor at the next text; none between documents. -/
def emptyLines : Nat → Cursor → Option (List Char) × Cursor
  | 0, c => (none, c)
  | fuel + 1, c =>
    let c := c.skipSpaces
    match c.lineBreak? with
    | none => (some [], c)
    | some (b, c) =>
      if c.atSeparator then (none, c)
      else
        let (bs, c) := emptyLines fuel c
        (bs.map (b :: ·), c)

/-- What comes between two runs. -/
structure Space where
  /-- What the space stands for; nothing if the scalar ends here. -/
  text : List Char
  after : Cursor
  /-- Whether it holds a line break. -/
  broken : Bool

/-- The space that comes next. -/
def space (c : Cursor) : Space :=
  let (blanks, c) := c.span (· == ' ')
  match c.lineBreak? with
  | none => { text := blanks, after := c, broken := false }
  | some (b, c) =>
    if c.atSeparator then { text := [], after := c, broken := true }
    else
      match emptyLines (c.rest.length + 1) c with
      | (none, c) => { text := [], after := c, broken := true }
      | (some bs, c) =>
        let first := if b != '\n' then [b] else if bs.isEmpty then [' '] else []
        { text := first ++ bs, after := c, broken := true }

structure Result where
  text : List Char
  after : Cursor
  /-- Whether a line break follows, so that a key may begin. -/
  broken : Bool

/-- The scalar whose lines are indented by `indent`. The space in front of the next run is kept only
if there is such a run. -/
def text (inFlow : Bool) (indent : Int) : Nat → List Char → Bool → Cursor → Result
  | 0, _, broken, c => ⟨[], c, broken⟩
  | fuel + 1, before, broken, c =>
    let cs := run inFlow c.rest
    if c.sees '#' || cs.isEmpty then ⟨[], c, broken⟩
    else
      let s := space (c.skip cs.length)
      let ends := s.text.isEmpty || s.after.sees '#' || (!inFlow && s.after.column < indent)
      let rest :=
        if ends then ⟨[], s.after, s.broken⟩
        else text inFlow indent fuel s.text s.broken s.after
      { rest with text := before ++ cs ++ rest.text }

/-- The scalar that comes next. -/
def read (inFlow : Bool) (indent : Int) (c : Cursor) : Result :=
  text inFlow indent (c.rest.length + 1) [] false c

end SemanticLayer.Yaml.Plain
