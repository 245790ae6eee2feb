import SemanticLayer.Compiler
import SemanticLayer.Storage.Path

/-!
# Configurations

A configuration names the dialect, the directories of schemas and of SQL models, and how SQL is laid
out.
-/

namespace SemanticLayer

namespace FormatOptions

def ofFields (f : Fields) : Checked FormatOptions :=
  (fun indent width leadingComma => { indent, width, leadingComma })
    <$> Int.toNat <$> f.get "indent" 2 (Reader.intFrom 0)
    <*> (Int.toNat <$> f.get "max_text_width" 100 (Reader.intAbove 0))
    <*> f.get "leading_comma" false Reader.bool

def read : Reader FormatOptions := .record "FormatConfig" ofFields

def toValue (f : FormatOptions) : Value :=
  .record [("indent", .int f.indent), ("max_text_width", .int f.width),
    ("leading_comma", .bool f.leadingComma)]

end FormatOptions

/-- What a compiler is set up with. -/
structure Config where
  dialect : String := "duckdb"
  schemas : String := "."
  /-- The directory of SQL models. -/
  models : Option String := none
  format : FormatOptions := {}
  deriving DecidableEq, Repr

namespace Config

/-- The name of a dialect that is registered, from any name that it has. -/
def readDialect (b : Backends) : Reader String := fun v =>
  (Reader.text v).andThen fun name =>
    match b.dialect name with
    | .ok d => .valid d.name
    | .error e => .fault (.rule e.message)

def ofFields (b : Backends) (f : Fields) : Checked Config :=
  (fun dialect schemas models format => { dialect, schemas, models, format })
    <$> f.get "dialect" "duckdb" (readDialect b)
    <*> f.get "schemas_dir" "." Reader.text
    <*> f.get "models_dir" none (Reader.optional Reader.text)
    <*> f.get "format" {} FormatOptions.read

def read (b : Backends) : Reader Config := .record "SemqlConfig" (ofFields b)

def toValue (c : Config) : Value :=
  .record [("dialect", .string c.dialect), ("schemas_dir", .string c.schemas),
    ("models_dir", .ofText? c.models), ("format", c.format.toValue)]

/-- The configuration with directories seen from a base. An empty name for the directory of SQL
models is none. -/
def resolvePaths (c : Config) (base : Path) : Config :=
  let resolved (s : String) : String := (base.join s).resolve.toText
  { c with
    schemas := resolved c.schemas
    models := (c.models.filter fun s => !s.isEmpty).map resolved }

end Config

end SemanticLayer
