import SemanticLayer.Config.Basic
import SemanticLayer.Data.Json
import SemanticLayer.Schema.Basic
import SemanticLayer.Storage.Tree
import SemanticLayer.Yaml.Document

/-!
# Loading from files

What is kept in files: SQL models in `.sql` files, schemas in `.yaml` and `.yml` files, and the
configuration, which is looked for in a directory and then in those above it.
-/

namespace SemanticLayer

/-- Why something cannot be loaded. -/
inductive LoadError where
  | noDirectory (p : Path)
  /-- A directory where a file has to be. -/
  | notFile (p : Path)
  | schema (cause : SchemaError)
  | noConfig (p : Path)
  /-- The suffix of a configuration says no format. -/
  | unknownFormat (suffix : String)
  | badYaml (cause : Yaml.Error)
  | badJson
  /-- The fields of a configuration are not valid. -/
  | badConfig (problems : List Problem)
  deriving Repr

namespace Config

/-- How a configuration is written. -/
inductive Format where
  | yaml
  | json
  deriving DecidableEq, Repr

def formats : List (String × Format) := [(".yaml", .yaml), (".yml", .yaml), (".json", .json)]

/-- The names of configurations, the preferred one first. -/
def fileNames : List String := ["semql.yaml", "semql.yml", "semql.json"]

end Config

def LoadError.message : LoadError → String
  | noDirectory p => "Directory " ++ p.toText ++ " does not exist"
  | notFile p => p.toText ++ " is a directory"
  | schema cause => cause.message
  | noConfig p => "Config file not found: " ++ p.toText
  | unknownFormat suffix =>
    "Unsupported config format: " ++ suffix ++ ". Expected one of " ++
      ", ".intercalate (Config.formats.map Prod.fst)
  | badYaml _ => "The text is not YAML"
  | badJson => "The text is not JSON"
  | badConfig ps => "\n".intercalate (ps.map Problem.line)

namespace FileTree

/-! ## SQL models -/

/-- The models with a further one. One of the same name is replaced. -/
def putModel (name text : String) : SqlModels → SqlModels
  | [] => [(name, text)]
  | (n, t) :: ms => if n == name then (name, text) :: ms else (n, t) :: putModel name text ms

/-- Whether a path is that of a SQL model. -/
def isSqlPath (p : Path) : Bool := ".sql".toList.isSuffixOf p.name.toList

/-- The SQL models below a directory by the names of their files without the suffix. Of files with
the same name the last one counts. -/
def sqlModels (t : FileTree) (directory : Path) : Except LoadError SqlModels := do
  if (t.locate? directory).isNone then throw (.noDirectory directory)
  let texts ← ((t.below directory).filter fun (p, _) => isSqlPath p).mapM fun (p, q) =>
    match t.read? q with
    | some text => pure (p.stem, text)
    | none => throw (LoadError.notFile p)
  return texts.foldl (fun ms (name, text) => putModel name text ms) []

/-! ## Schemas -/

/-- The suffixes of schemas. -/
def schemaSuffixes : List String := [".yaml", ".yml"]

/-- The schemas below a directory with their texts. -/
def schemaTexts (t : FileTree) (directory : Path) : List (Path × String) :=
  ((t.below directory).filter fun (p, _) => schemaSuffixes.contains (Text.lower p.suffix)).filterMap
    fun (p, q) => (t.read? q).map fun text => (p, text)

/-- The models of a directory. -/
structure Loaded where
  models : List SemanticModel := []
  /-- Files that are not YAML. -/
  skipped : List Path := []

/-- Reads one file. A document without models is no schema and does not count. -/
def loadSchema (sql : SqlModels) (l : Loaded) (file : Path × String) : Except LoadError Loaded :=
  match Yaml.read file.2 with
  | .error .malformed => .ok { l with skipped := l.skipped ++ [file.1] }
  | .error cause => .error (.badYaml cause)
  | .ok (.mapping fields) =>
    if (Value.lookup? Schema.modelsField fields).isNone then .ok l
    else do
      let models ← (Schema.read sql (.mapping fields)).mapError .schema
      return { l with models := l.models ++ models }
  | .ok _ => .ok l

/-- The registry of the schemas below a directory, and the files that are not YAML. -/
def loadRegistry (t : FileTree) (directory : Path) (models : Option Path) :
    Except LoadError (Registry × List Path) := do
  if (t.locate? directory).isNone then throw (.noDirectory directory)
  let sql ← match models with
    | some d => t.sqlModels d
    | none => pure []
  let loaded ← (t.schemaTexts directory).foldlM (loadSchema sql) {}
  let registry ← (Registry.build (loaded.models.map .model)).mapError
    fun e => .schema (.definition e)
  return (registry, loaded.skipped)

/-! ## Configurations -/

/-- The document that a text holds. A blank text is an empty one. -/
def document (format : Config.Format) (text : String) : Except LoadError Value :=
  match format with
  | .yaml => (Yaml.read text).mapError .badYaml
  | .json =>
    if (Text.strip text).isEmpty then .ok .null
    else
      match Json.read? text with
      | some v => .ok v
      | none => .error .badJson

/-- The configuration in a file. Its directories are seen from that of the file. -/
def loadConfig (t : FileTree) (b : Backends) (p : Path) : Except LoadError Config := do
  let text ← match (t.locate? p).bind t.read? with
    | some text => pure text
    | none => throw (.noConfig p)
  let format ← match Config.formats.lookup (Text.lower p.suffix) with
    | some format => pure format
    | none => throw (.unknownFormat p.suffix)
  let v ← document format text
  let config ← (Config.read b (if v.isTruthy then v else .mapping [])).toExcept.mapError .badConfig
  return config.resolvePaths p.parent

/-- The nearest configuration in a directory or one above it. -/
def findConfig (t : FileTree) (start : Path) : Option Path :=
  (start.resolve.upward.flatMap fun d => Config.fileNames.map d.join).find? t.isFile

/-- The compiler that a configuration sets up. Its directories are paths from the top. -/
def compiler (t : FileTree) (b : Backends) (c : Config) : Except LoadError Compiler := do
  let (registry, _) ← t.loadRegistry (Path.top.join c.schemas) (c.models.map Path.top.join)
  match b.dialect c.dialect with
  | .ok dialect => return { registry, dialect, format := c.format }
  | .error e => throw (.badConfig [{ path := [.field "dialect"], fault := .rule e.message }])

end FileTree

end SemanticLayer
