import SemanticLayer.Text.Blank

/-!
# Layouts

Text under construction, as lines. Putting layouts side by side joins the last line of the first to
the first line of the second; indenting moves lines to the right. A line break inside a literal is a
character of its line, so it is never indented.
-/

namespace SemanticLayer.Sql

/-- Text as lines. The empty text is one empty line. -/
structure Layout where
  lines : List String
  deriving DecidableEq, Repr

namespace Layout

/-- A text that stays together: its line breaks are characters. -/
def atom (s : String) : Layout := ⟨[s]⟩

def empty : Layout := atom ""

instance : Inhabited Layout := ⟨empty⟩

instance : Coe String Layout := ⟨atom⟩

/-- Lines of one text and of another, side by side. -/
def join : List String → List String → List String
  | [], ms => ms
  | [l], [] => [l]
  | [l], m :: ms => (l ++ m) :: ms
  | l :: ls, ms => l :: join ls ms

/-- Two texts side by side. -/
def beside (a b : Layout) : Layout := ⟨join a.lines b.lines⟩

instance : Append Layout := ⟨beside⟩

/-- A line break. -/
def newline : Layout := ⟨["", ""]⟩

/-- A text whose line breaks divide lines. -/
def ofText (s : String) : Layout :=
  let step (c : Char) : List (List Char) → List (List Char)
    | [] => [[c]]
    | l :: ls => if c == '\n' then [] :: l :: ls else (c :: l) :: ls
  ⟨(s.toList.foldr step [[]]).map String.ofList⟩

def isEmpty (a : Layout) : Bool := a.lines.all String.isEmpty && a.lines.length ≤ 1

def toText (a : Layout) : String := "\n".intercalate a.lines

/-- Layouts side by side, with `sep` between them. -/
def concatSep (sep : Layout) : List Layout → Layout
  | [] => empty
  | [a] => a
  | a :: b :: rest => a ++ sep ++ concatSep sep (b :: rest)

/-- Layouts side by side. -/
def concat (as : List Layout) : Layout := as.foldl (· ++ ·) empty

/-- How wide a line break inside a literal counts. -/
def breakWidth : Nat := 15

/-- The length of a line, with wide line breaks. -/
def lineWidth (s : String) : Nat :=
  s.toList.foldl (fun n c => n + if c == '\n' then breakWidth else 1) 0

/-- The length of the text. A line break between lines counts one. -/
def width (a : Layout) : Nat :=
  (a.lines.map lineWidth).foldl (· + ·) 0 + (a.lines.length - 1)

/-- Blanks in front of every line but the ones to skip. -/
def indentBy (n : Nat) (skipFirst skipLast : Bool) (a : Layout) : Layout :=
  if a.isEmpty then a
  else
    let pad := String.ofList (List.replicate n ' ')
    let last := a.lines.length - 1
    ⟨a.lines.mapIdx fun i l =>
      if (skipFirst && i == 0) || (skipLast && i == last) then l else pad ++ l⟩

/-- Lines without the empty ones at the front. -/
def dropBlankLines (ls : List String) : List String := ls.dropWhile fun l => (Text.strip l).isEmpty

/-- The text without blanks and line breaks at its ends. -/
def trim (a : Layout) : Layout :=
  match (dropBlankLines (dropBlankLines a.lines).reverse).reverse with
  | [] => empty
  | l :: ls =>
    let first := Text.stripLeft l
    match (first :: ls).reverse with
    | [] => empty
    | m :: ms => ⟨(Text.stripRight m :: ms).reverse⟩

/-- The text without blanks at its end. -/
def trimEnd (a : Layout) : Layout :=
  match a.lines.reverse with
  | [] => empty
  | m :: ms => ⟨(Text.stripRight m :: ms).reverse⟩

/-- The text without the closing parentheses at its end. -/
def openEnd (a : Layout) : Layout :=
  match a.lines.reverse with
  | [] => empty
  | m :: ms => ⟨(String.ofList (m.toList.reverse.dropWhile (· == ')')).reverse :: ms).reverse⟩

/-- Whether the text begins with a blank or a line break. -/
def startsBlank (a : Layout) : Bool :=
  match a.lines with
  | [] => false
  | [l] => l.toList.head?.any Text.isBlank
  | l :: _ => l.isEmpty || l.toList.head?.any Text.isBlank

/-- The first character of the text. -/
def first? (a : Layout) : Option Char := a.lines.head?.bind fun l => l.toList.head?

end Layout

end SemanticLayer.Sql
