import SemanticLayer.Text.LetterCase

/-!
# Paths

A path from the top of a file system, as names. It may hold steps back (`..`), which `resolve` takes
away.
-/

namespace SemanticLayer

/-- A path from the top, the outermost name first. -/
structure Path where
  names : List String
  deriving DecidableEq, Repr

namespace Path

def top : Path := ⟨[]⟩

/-- The names in a text between slashes. A single dot is no name. -/
def split (s : String) : List String := (s.splitOn "/").filter fun n => n != "" && n != "."

/-- The path that a text gives, seen from another path. A text that begins with a slash is seen from
the top. -/
def join (p : Path) (s : String) : Path :=
  if s.toList.head? == some '/' then ⟨split s⟩ else ⟨p.names ++ split s⟩

def toText (p : Path) : String := "/" ++ "/".intercalate p.names

/-- The path without its last name. -/
def parent (p : Path) : Path := ⟨p.names.dropLast⟩

def name (p : Path) : String := p.names.getLast?.getD ""

/-- The path with steps back carried out. There is nothing above the top. -/
def resolve (p : Path) : Path :=
  ⟨p.names.foldl (fun ns n => if n == ".." then ns.dropLast else ns ++ [n]) []⟩

/-- The path and all paths above it, from the inside out. -/
def upward (p : Path) : List Path :=
  ((List.range (p.names.length + 1)).map fun k => ⟨p.names.take k⟩).reverse

/-- The length of a name before its last dot, if a suffix begins there: the dot is neither the first
nor the last character. -/
def suffixStart? (n : String) : Option Nat :=
  let cs := n.toList
  let suffix := (cs.reverse.takeWhile (· != '.')).length + 1
  if 1 < suffix && suffix < cs.length then some (cs.length - suffix) else none

/-- The end of the last name from its last dot on, or nothing. -/
def suffix (p : Path) : String :=
  match suffixStart? p.name with
  | some k => String.ofList (p.name.toList.drop k)
  | none => ""

/-- The last name without its suffix. -/
def stem (p : Path) : String :=
  match suffixStart? p.name with
  | some k => String.ofList (p.name.toList.take k)
  | none => p.name

/-- Whether a path comes no later than another in the order of their names. -/
def le (p q : Path) : Bool := !decide (q.names < p.names)

end Path

end SemanticLayer
