import SemanticLayer.Sql.Override

/-!
# Generators

A *generator* writes trees in one grammar, with the overrides of one database. It is made when it
is first needed and kept for later: the name of the grammar and the overrides, sorted by the names
of their kinds, tell generators apart. Overrides may come and go in between.

What kinds and writers are, and how a generator writes a tree, is left to a `WriterKit`. Writers are
compared by what they are, not by what they write. `Printer.kit` is the kit of this library.
-/

namespace SemanticLayer.Sql

/-- What generators are made of: kinds of nodes `κ`, writers `ω` of nodes of one kind, the usual way
`β` to write a grammar, styles `σ` and trees `ν`. -/
structure WriterKit (κ ω β σ ν : Type) where
  kindName : κ → String
  /-- The usual way to write a grammar, if the grammar is known. -/
  usual? : String → Option β
  /-- The text of a tree. A node of a kind with a writer is written by it, any other node in the
  usual way. -/
  write : β → (κ → Option ω) → σ → ν → String

/-- What writes trees. -/
structure Generator (κ ω β : Type) where
  usual : β
  overrides : List (κ × ω)

/-- What tells generators apart: the name of the grammar and the overrides. -/
abbrev GeneratorKey (κ ω : Type) := String × List (κ × ω)

/-- The overrides of all databases, and the generators made so far. -/
structure Workshop (κ ω β : Type) where
  overrides : OverrideTable κ ω
  generators : List (GeneratorKey κ ω × Generator κ ω β) := []

variable {κ ω β σ ν : Type} [DecidableEq κ]

/-- The writer of a kind, if the generator does not write it in the usual way. -/
def Generator.writer? (g : Generator κ ω β) (kind : κ) : Option ω := g.overrides.lookup kind

namespace Workshop

def register (w : Workshop κ ω β) (database : String) (kind : κ) (writer : ω) : Workshop κ ω β :=
  { w with overrides := w.overrides.insert database kind writer }

/-- Removes the writer for a database and a kind. -/
def remove (w : Workshop κ ω β) (database : String) (kind : κ) : Workshop κ ω β :=
  { w with overrides := w.overrides.erase database kind }

/-- What tells the generator of a database apart. -/
def key (kit : WriterKit κ ω β σ ν) (w : Workshop κ ω β) (database grammar : String) :
    GeneratorKey κ ω :=
  (grammar, (w.overrides.ofDatabase database).mergeSort
    fun a b => decide (kit.kindName a.1 ≤ kit.kindName b.1))

variable [DecidableEq ω]

/-- The generator with a key, made if there is none yet. There is none for an unknown grammar. -/
def generator? (kit : WriterKit κ ω β σ ν) (w : Workshop κ ω β) (key : GeneratorKey κ ω) :
    Option (Generator κ ω β × Workshop κ ω β) :=
  match w.generators.lookup key with
  | some g => some (g, w)
  | none =>
    (kit.usual? key.1).map fun usual =>
      let g : Generator κ ω β := { usual, overrides := key.2 }
      (g, { w with generators := w.generators ++ [(key, g)] })

/-- The text of a tree for a database. There is none in an unknown grammar. -/
def render (kit : WriterKit κ ω β σ ν) (w : Workshop κ ω β) (database grammar : String) (style : σ)
    (n : ν) : Option String × Workshop κ ω β :=
  match w.generator? kit (w.key kit database grammar) with
  | some (g, w) => (some (kit.write g.usual g.writer? style n), w)
  | none => (none, w)

end Workshop

/-- How SQL of a grammar is written, by the name of the grammar. -/
def Target.ofGrammar? : String → Option Target
  | "duckdb" => some .duckdb
  | "postgres" => some .postgres
  | "mysql" => some .mysql
  | "oracle" => some .oracle
  | _ => none

/-- Writing by the printer. Writers are told apart by their places in a list. -/
def Printer.kit (writers : List NodeWriter) : WriterKit Replaceable Nat Target Style Node where
  kindName := Replaceable.name
  usual? := Target.ofGrammar?
  write target writer? style n :=
    Printer.print { target, style, writers := fun kind => (writer? kind).bind (writers[·]?) } n

/-- The writers known at the start. -/
def standardWriters : List NodeWriter := [NodeWriter.plainBetween, NodeWriter.numericTrunc]

/-- The overrides known at the start, by the places of their writers. -/
def Workshop.standard : Workshop Replaceable Nat Target where
  overrides := { entries := [(("mysql", .between), 0), (("oracle", .dateTrunc), 1)]
                 distinct := by decide }

end SemanticLayer.Sql
