import SemanticLayer.Storage.Path

/-!
# File trees

A file tree holds texts under paths. Every path above a file is a directory; further directories may
be empty.
-/

namespace SemanticLayer

/-- Files with their texts, and directories. All paths are resolved. -/
structure FileTree where
  files : List (Path × String) := []
  directories : List Path := []

namespace FileTree

/-- The text of a file with a line feed at the end of each line. -/
def unifyBreaks : List Char → List Char
  | [] => []
  | '\r' :: '\n' :: cs => '\n' :: unifyBreaks cs
  | '\r' :: cs => '\n' :: unifyBreaks cs
  | c :: cs => c :: unifyBreaks cs

def read? (t : FileTree) (p : Path) : Option String :=
  (t.files.lookup p).map fun s => String.ofList (unifyBreaks s.toList)

/-- All paths of the tree: the top, the files, the directories and what is above them. -/
def paths (t : FileTree) : List Path :=
  (Path.top :: (t.files.map Prod.fst ++ t.directories).flatMap Path.upward).eraseDups

def isFile (t : FileTree) (p : Path) : Bool := (t.files.lookup p).isSome

def isDirectory (t : FileTree) (p : Path) : Bool := t.paths.contains p && !t.isFile p

/-- One step on the way along a path: only directories can be left or entered. -/
def step (t : FileTree) (p : Path) (name : String) : Option Path :=
  if !t.isDirectory p then none
  else if name == ".." then some p.parent
  else
    let next : Path := ⟨p.names ++ [name]⟩
    if t.paths.contains next then some next else none

/-- The resolved path of a file or directory that a path leads to. -/
def locate? (t : FileTree) (p : Path) : Option Path := p.names.foldlM t.step Path.top

/-- The paths below one that leads to a directory, in the order of their names. They begin with the
path as it was given. Each one comes with its resolved path. -/
def below (t : FileTree) (p : Path) : List (Path × Path) :=
  match t.locate? p with
  | none => []
  | some q =>
    let inside := t.paths.filter fun r => q.names.isPrefixOf r.names && q != r
    (inside.mergeSort Path.le).map fun r => (⟨p.names ++ r.names.drop q.names.length⟩, r)

end FileTree

end SemanticLayer
