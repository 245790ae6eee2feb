import SemanticLayer.Sql.JsonPath
import SemanticLayer.Sql.Layout
import SemanticLayer.Sql.Style
import SemanticLayer.Sql.Target
import SemanticLayer.Sql.Tree
import SemanticLayer.Text.LetterCase
import SemanticLayer.Text.Quoted
import SemanticLayer.Text.Word

/-!
# Pieces of SQL text

The rules that all nodes share: where lines break, how lists and calls are laid out, how names,
strings and comments are written.
-/

namespace SemanticLayer.Sql

/-- How nodes of one kind are written instead of the usual way: from the target, the style, the node
and its written parts. -/
abbrev NodeWriter := Target → Style → Node → List Layout → Layout

/-- Kinds of nodes whose writing can be replaced. -/
inductive Replaceable where
  | between
  | dateTrunc
  deriving DecidableEq, Repr

namespace Replaceable

def name : Replaceable → String
  | between => "Between"
  | dateTrunc => "DateTrunc"

/-- The kind of a node, if its writing can be replaced. -/
def ofHead? : Head → Option Replaceable
  | .between .. => some between
  | .call (.dateTrunc false) => some dateTrunc
  | _ => none

end Replaceable

/-- What the text is written for, how it looks, and which nodes are written in another way. -/
structure Printer where
  target : Target
  style : Style := {}
  /-- The writers of the nodes that are written in another way. -/
  writers : Replaceable → Option NodeWriter := fun _ => none

/-- A written node. -/
structure Rendered where
  /-- The text without the comments of the node. -/
  body : Layout
  comments : List String := []
  /-- Comments stand in front of the text. -/
  separated : Bool := false
  /-- What a node around this one may lay out in its own way: the operands of a chain of AND and OR,
  each with the word before it, the arms of CASE, the keys of an order. -/
  pieces : List Layout := []

namespace Printer

/-! ## Lines -/

/-- A line break in broken text, a blank otherwise. -/
def gap (p : Printer) : Layout := if p.style.pretty then .newline else " "

/-- A line break in broken text, nothing otherwise. -/
def tight (p : Printer) : Layout := if p.style.pretty then .newline else .empty

/-- Indents the parts of a clause in broken text. -/
def pad (p : Printer) (a : Layout) : Layout :=
  if p.style.pretty then a.indentBy p.style.pad false false else a

/-- Indents all lines but the first in broken text. -/
def padRest (p : Printer) (a : Layout) : Layout :=
  if p.style.pretty then a.indentBy p.style.pad true false else a

/-- Indents all lines but the first and the last in broken text. -/
def padInside (p : Printer) (a : Layout) : Layout :=
  if p.style.pretty then a.indentBy p.style.pad true true else a

/-- A query in parentheses, on lines of its own. -/
def wrap (p : Printer) (a : Layout) : Layout :=
  if a.isEmpty then "()"
  else
    let inner := if p.style.pretty then a.indentBy p.style.indent false false else a
    "(" ++ p.tight ++ inner ++ p.tight ++ ")"

def tooWide (p : Printer) (pieces : List Layout) : Bool :=
  p.style.pretty && p.style.width < (pieces.map Layout.width).foldl (· + ·) 0

/-! ## Comments -/

/-- The text of a comment with a blank at each end. -/
def paddedComment (p : Printer) (s : String) : String :=
  let s := if s.toList.head?.any fun c => !Text.isBlank c then " " ++ s else s
  let s := if s.toList.getLast?.any fun c => !Text.isBlank c then s ++ " " else s
  if p.target.nestedComments then s else s.replace "*/" "* /"

def commentText (p : Printer) (cs : List String) : Layout :=
  let shown := cs.filter fun c => !c.isEmpty
  .atom (" ".intercalate (shown.map fun c => "/*" ++ p.paddedComment c ++ "*/"))

/-- A text with comments after it. -/
def withComments (p : Printer) (cs : List String) (a : Layout) : Layout :=
  let note := p.commentText cs
  if note.isEmpty then a else a ++ " " ++ note

/-- A text with comments in front of it. -/
def afterComments (p : Printer) (cs : List String) (a : Layout) : Layout :=
  let note := p.commentText cs
  if note.isEmpty then a
  else if a.isEmpty || a.startsBlank then p.gap ++ note ++ a
  else note ++ p.gap ++ a

/-- The text of a node with its comments. -/
def full (p : Printer) (r : Rendered) : Layout :=
  if r.separated then p.afterComments r.comments r.body else p.withComments r.comments r.body

/-! ## Lists -/

/-- The comments after an item of a list. -/
def itemNote (p : Printer) (r : Rendered) : Layout :=
  let note := p.commentText r.comments
  if note.isEmpty then .empty else " " ++ note

/-- Items on one line. -/
def flat (p : Printer) (rs : List Rendered) : Layout :=
  .concatSep ", " ((rs.map p.full).filter fun a => !a.isEmpty)

/-- The items that have a text, each with whether it is the first and the last one. -/
def shown (rs : List Rendered) : List (Rendered × Bool × Bool) :=
  let last := rs.length - 1
  (rs.zipIdx.map fun (r, i) => (r, i == 0, i == last)).filter fun (r, _, _) => !r.body.isEmpty

/-- One item of a list with its comma. -/
def item (p : Printer) (comma : String) : Rendered × Bool × Bool → Layout
  | (r, isFirst, isLast) =>
    if p.style.pretty && p.style.leadingComma then
      .atom (if isFirst then "" else ", ") ++ r.body ++ p.itemNote r
    else if p.style.pretty then
      r.body ++ .atom (if isLast then "" else comma) ++ p.itemNote r
    else r.body ++ p.itemNote r ++ .atom (if isLast then "" else ", ")

/-- Items on lines of their own in broken text, not indented. -/
def rows (p : Printer) (rs : List Rendered) : Layout :=
  let items := (shown rs).map (p.item ",")
  if p.style.pretty then .concatSep .newline items else .concat items

/-- Items on lines of their own in broken text. -/
def block (p : Printer) (rs : List Rendered) : Layout := p.pad (p.rows rs)

/-- Items in parentheses, one a line only if they are too wide. Either way the lines inside are
indented. -/
def group (p : Printer) (rs : List Rendered) : Layout :=
  let items := (shown rs).map (p.item ", ")
  let inside : Layout :=
    if p.tooWide items then .concatSep .newline ([.empty] ++ items.map Layout.trimEnd ++ [.empty])
    else .concat items
  "(" ++ p.padInside inside ++ ")"

/-- Arguments, broken only if they are too wide. -/
def arguments (p : Printer) (sep : String) (args : List Layout) : Layout :=
  if p.tooWide args then
    let divider : Layout := .atom (Text.strip sep) ++ .newline
    p.padInside (.newline ++ .concatSep divider args ++ .newline)
  else .concatSep (.atom sep) args

/-- The name of a function in the chosen letter case. -/
def functionName (p : Printer) (s : String) : String :=
  match p.style.functionCase with
  | .upper => Text.upper s
  | .lower => Text.lower s
  | .asWritten => s

def call (p : Printer) (name : String) (args : List Layout) : Layout :=
  .atom (p.functionName name) ++ "(" ++ p.arguments ", " args ++ ")"

/-! ## Names and strings -/

def needsQuotes (p : Printer) (id : Ident) : Bool :=
  id.quoted || p.style.identify || p.target.reserved.contains (Text.lower id.name) ||
    !p.target.digitNames && id.name.toList.head?.any Text.isDigit

/-- A name, in quotes if it needs them. -/
def ident (p : Printer) (id : Ident) : Layout :=
  let q := p.target.nameQuote
  .ofText (if p.needsQuotes id then Text.quoted q id.name else Text.doubled q id.name)

/-- Names joined by dots. -/
def path (p : Printer) (ids : List Ident) : Layout := .concatSep "." (ids.map p.ident)

/-- The escape of a character in a string. -/
def escaped : Char → List Char
  | '\x07' => ['\\', 'a']
  | '\x08' => ['\\', 'b']
  | '\x0c' => ['\\', 'f']
  | '\n' => ['\\', 'n']
  | '\r' => ['\\', 'r']
  | '\t' => ['\\', 't']
  | '\x0b' => ['\\', 'v']
  | '\\' => ['\\', '\\']
  | c => [c]

def string (p : Printer) (s : String) : Layout :=
  let s := if p.target.backslashEscapes then String.ofList (s.toList.flatMap escaped) else s
  .atom (Text.quoted '\x27' s)

/-- The alias of a table with the names of its columns. -/
def tableAlias (p : Printer) (a : TableAlias) : Layout :=
  let columns : Layout := if a.columns.isEmpty then .empty
    else "(" ++ Layout.concatSep ", " (a.columns.map p.ident) ++ ")"
  let unnamed : Layout := if a.columns.isEmpty then .empty else .atom ("_t" ++ toString a.place)
  p.withComments a.comments ((a.name.map p.ident).getD unnamed ++ columns)

/-- The alias of a table after its mark, if it has one. -/
def markedAlias (p : Printer) (a : Option TableAlias) (mark : Bool) : Layout :=
  match a with
  | some a => .atom (if mark then " AS " else " ") ++ p.tableAlias a
  | none => .empty

/-- What a data type holds, between the marks for it. -/
def typeContents (p : Printer) (name : String) (args : List Layout) : Layout :=
  let inside := Layout.concatSep ", " args
  if args.isEmpty then .empty
  else if Vocabulary.nestedTypes.contains name then
    .atom p.target.nestedMarks.1 ++ inside ++ .atom p.target.nestedMarks.2
  else if name == "INTERVAL" then " " ++ inside
  else "(" ++ inside ++ ")"

def dataType (p : Printer) (name : String) (known : Bool) (args : List Layout) : Layout :=
  let t := p.target
  if !known then .atom name ++ p.typeContents "" args
  else match t.arrayTypes && name == "ARRAY", args with
    | true, inner :: sizes => inner ++ "[" ++ .concatSep ", " sizes ++ "]"
    | _, _ =>
      let isFloat := name == "FLOAT" || name == "DOUBLE"
      let suffix := (t.typeSuffixes.lookup name).getD ""
      if t.unsizedTypes.contains name then .atom name
      else if name == "VARCHAR" && args.isEmpty && t.unsizedVarchar.isSome then
        .atom (t.unsizedVarchar.getD name)
      else if isFloat && !args.isEmpty && t.sizedFloat.isSome then
        .atom (t.sizedFloat.getD name) ++ p.typeContents name args
      else .atom (t.typeName name) ++ p.typeContents name args ++ .atom suffix

/-- A value that is filled in later. -/
def placeholder (p : Printer) (name : Option String) : Layout :=
  .atom (match p.target.placeholders, name with
    | .marked mark, some s => mark ++ s
    | .marked _, none => "?"
    | .percent, some s => "%(" ++ s ++ ")s"
    | .percent, none => "%s")

end Printer

end SemanticLayer.Sql
