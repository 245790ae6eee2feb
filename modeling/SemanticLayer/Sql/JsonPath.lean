import SemanticLayer.Sql.Tree
import SemanticLayer.Text.Word

/-!
# Paths into JSON values

A path names a part of a JSON value: keys and positions after an optional `$`.
-/

namespace SemanticLayer.Sql.JsonPath

/-- The characters of a key without quotes, and what follows them. -/
def bareKey (cs : List Char) : List Char × List Char := cs.span Text.isWordChar

/-- The number at the start of a text, and what follows it. -/
def index? (cs : List Char) : Option (Int × List Char) :=
  let (sign, cs) := match cs with
    | '-' :: rest => (-1, rest)
    | _ => ((1 : Int), cs)
  let (digits, rest) := cs.span Char.isDigit
  if digits.isEmpty then none
  else
    let value := digits.foldl (fun n c => 10 * n + (c.toNat - 48)) 0
    some (sign * Int.ofNat value, rest)

/-- The text up to a quote, and what follows it. -/
def upTo? (quote : Char) (cs : List Char) : Option (String × List Char) :=
  match cs.span (· != quote) with
  | (text, _ :: rest) => some (String.ofList text, rest)
  | _ => none

/-- What stands in brackets, after the opening one. -/
def bracket? (cs : List Char) : Option (PathStep × List Char) := do
  let (step, rest) ← match cs with
    | '*' :: rest => some (.anyIndex, rest)
    | '\x27' :: rest => (upTo? '\x27' rest).map fun r => (.key r.1, r.2)
    | '\x22' :: rest => (upTo? '\x22' rest).map fun r => (.key r.1, r.2)
    | _ => (index? cs).map fun r => (.index r.1, r.2)
  match rest with
  | ']' :: rest => some (step, rest)
  | _ => none

/-- What stands after a point. -/
def key? (cs : List Char) : Option (PathStep × List Char) :=
  match cs with
  | '*' :: rest => some (.anyKey, rest)
  | '\x22' :: rest => (upTo? '\x22' rest).map fun r => (.key r.1, r.2)
  | _ =>
    let (key, rest) := bareKey cs
    if key.isEmpty then none else some (.key (String.ofList key), rest)

/-- The steps of a path, at most `n`. -/
def steps? : Nat → List Char → Option (List PathStep)
  | _, [] => some []
  | 0, _ => none
  | n + 1, c :: cs => do
    let (step, rest) ← if c == '[' then bracket? cs else if c == '.' then key? cs else none
    return step :: (← steps? n rest)

/-- The steps of a path, which may begin with `$` or with a key. -/
def read? (s : String) : Option (List PathStep) :=
  match s.toList with
  | '$' :: cs => steps? (cs.length + 1) cs
  | '[' :: cs => steps? (cs.length + 1) ('[' :: cs)
  | cs => steps? (cs.length + 1) ('.' :: cs)

/-- A path given as a literal. What is no path stays as it is. -/
def ofLiteral (n : Node) : Node :=
  let steps := match n.head with
    | .string s => read? s
    | .number s => read? ("[" ++ s ++ "]")
    | _ => none
  match steps with
  | some steps => .of (.jsonPath steps) []
  | none => n

/-- One step as it stands in a path. -/
def stepText : PathStep → String
  | .key name =>
    let plain := !name.isEmpty && name.toList.all Text.isWordChar &&
      !name.toList.head?.any Char.isDigit
    if plain then "." ++ name else ".\"" ++ name ++ "\""
  | .index i => "[" ++ toString i ++ "]"
  | .anyKey => ".*"
  | .anyIndex => "[*]"

def write (steps : List PathStep) : String := "$" ++ String.join (steps.map stepText)

/-- One step as an argument of a call. -/
def stepName : PathStep → String
  | .key name => name
  | .index i => toString i
  | .anyKey | .anyIndex => "*"

end SemanticLayer.Sql.JsonPath
