import SemanticLayer.Text.Blank
import SemanticLayer.Text.Word

/-!
# Where a model comes from

In a schema the statement behind a model is given in one of three forms: a reference to a SQL model
that is kept elsewhere, `ref('name')`; a SELECT statement, perhaps with comments and a semicolon; or
the name of a table. `ModelSource.ofText?` tells them apart, `ModelSource.statement` gives the
statement.
-/

namespace SemanticLayer

abbrev SqlModels := List (String × String)

/-! ## Cleaning a statement -/

/-- The text without the comments that run from two hyphens to the end of the line. -/
def dropLineComments : (inside : Bool) → List Char → List Char
  | _, [] => []
  | true, c :: cs => if c == '\n' then c :: dropLineComments false cs else dropLineComments true cs
  | false, '-' :: '-' :: cs => dropLineComments true cs
  | false, c :: cs => c :: dropLineComments false cs

/-- The text after the end of a comment, if the comment ends. -/
def afterComment? : List Char → Option (List Char)
  | [] => none
  | '*' :: '/' :: cs => some cs
  | _ :: cs => afterComment? cs

theorem length_afterComment? {cs rest : List Char} (h : afterComment? cs = some rest) :
    rest.length < cs.length := by
  fun_induction afterComment? cs with
  | case1 => simp at h
  | case2 cs =>
    cases h
    simp only [List.length_cons]
    omega
  | case3 c cs _ ih =>
    have := ih h
    simp only [List.length_cons]
    omega

/-- The text without the comments between a slash with a star and a star with a slash. One that does
not end is no comment. -/
def dropBlockComments : List Char → List Char
  | [] => []
  | '/' :: '*' :: cs =>
    match _h : afterComment? cs with
    | some rest => dropBlockComments rest
    | none => '/' :: dropBlockComments ('*' :: cs)
  | c :: cs => c :: dropBlockComments cs
termination_by cs => cs.length
decreasing_by
  · have := length_afterComment? _h
    simp only [List.length_cons]
    omega
  · simp
  · simp

/-- The text without comments. Line comments go first, wherever they stand. -/
def dropComments (s : String) : String :=
  String.ofList (dropBlockComments (dropLineComments false s.toList))

/-- A statement without comments, without one semicolon at its end and without blanks around it. -/
def cleanSelect (s : String) : String :=
  let cs := Text.trim (dropComments s).toList
  String.ofList (Text.trim (if cs.getLast? == some ';' then cs.dropLast else cs))

/-! ## The three forms -/

/-- What the text of a model stands for. -/
inductive ModelSource where
  /-- A SQL model by its name. -/
  | reference (name : String)
  | select (text : String)
  | table (name : String)
  deriving DecidableEq, Repr

namespace ModelSource

/-- The quotes around the name in a reference. -/
def isQuote (c : Char) : Bool := c == '\x27' || c == '\x22'

/-- The text after the first characters, if it begins with them. -/
def after? (first cs : List Char) : Option (List Char) :=
  if first.isPrefixOf cs then some (cs.drop first.length) else none

/-- The name between quotes, and the text after them. The two quotes may differ. -/
def quotedName? (cs : List Char) : Option (List Char × List Char) :=
  match cs with
  | [] => none
  | q :: cs =>
    let name := cs.takeWhile fun c => !isQuote c
    match isQuote q && !name.isEmpty, cs.drop name.length with
    | true, _ :: rest => some (name, rest)
    | _, _ => none

/-- The name in a reference `ref('name')`. Blanks may stand around it and inside the parentheses. -/
def referenced? (s : String) : Option String := do
  let cs ← after? "ref(".toList (s.toList.dropWhile Text.isBlank)
  let (name, cs) ← quotedName? (cs.dropWhile Text.isBlank)
  let cs ← after? [')'] (cs.dropWhile Text.isBlank)
  if cs.all Text.isBlank then some (String.ofList name) else none

/-- A letter of SELECT in any case. The long s counts as an s. -/
def sameLetter (c letter : Char) : Bool := c.toLower == letter || (letter == 's' && c == 'ſ')

/-- Whether the text begins with the word SELECT. -/
def beginsWithSelect (cs : List Char) : Bool :=
  let word := "select".toList
  let first := cs.take word.length
  first.length == word.length && (first.zip word).all (fun p => sameLetter p.1 p.2) &&
    !(cs.drop word.length).head?.any Text.isWordChar

/-- Whether the text is one or two names with a dot between them. Names have letters and digits of
ASCII and underscores, and do not begin with a digit. -/
def isTableName (cs : List Char) : Bool :=
  let isName (part : List Char) : Bool :=
    !part.isEmpty && part.all (fun c => c.isAlphanum || c == '_') && !part.head?.any Char.isDigit
  let first := cs.takeWhile (· != '.')
  match cs.drop first.length with
  | [] => isName first
  | _ :: second => isName first && isName second

/-- The form that a text has. -/
def ofText? (s : String) : Option ModelSource :=
  match referenced? s with
  | some name => some (reference name)
  | none =>
    if beginsWithSelect (Text.trim (dropComments s).toList) then some (select s)
    else if isTableName (Text.trim s.toList) then some (table (Text.strip s))
    else none

/-- The statement that a source stands for, or the name of a SQL model that is missing. -/
def statement (models : SqlModels) : ModelSource → Except String String
  | reference name =>
    match models.lookup name with
    | some text => .ok (cleanSelect text)
    | none => .error name
  | select text => .ok (cleanSelect text)
  | table name => .ok ("SELECT * FROM " ++ name)

end ModelSource

end SemanticLayer
