import PluginChain.Config.Basic
import PluginChain.Files.Directory
import PluginChain.Text.Utf8
import PluginChain.Toml.Document
import PluginChain.Toml.Printing

/-!
# Configuration files

A configuration file is a TOML document. A field that it does not mention keeps its default, and a
key that is no field is ignored. A configuration is written with all its fields, the redirections
last in a table of their own.

In `osrkit` these are `from_toml_str` (`parse`), `from_file` (`ofFile`) and `to_toml_string`
(`print`) of a `LoaderConfig`, and `ConfigError`.
-/

namespace PluginChain

/-- Why there is no configuration to be had from a file. -/
inductive ConfigError where
  /-- The file cannot be read. -/
  | unreadable (error : FileError)
  /-- The text is no TOML document, or a field has a value of the wrong kind. -/
  | malformed
  /-- The configuration is not valid. -/
  | invalid (defect : Config.Defect)
deriving DecidableEq, Repr

/-- The wording of an error. -/
def ConfigError.message : ConfigError → String
  | unreadable error => "IO error: " ++ error.message
  | malformed => "TOML parse error: not a document with the fields of a configuration"
  | invalid defect => "Invalid configuration: " ++ defect.message

namespace Config

/-! ## Field names -/

def primaryKey : String := "primary_library"
def systemPathsKey : String := "system_paths"
def appPathsKey : String := "app_paths"
def auxiliaryKey : String := "auxiliary_libraries"
def assetsKey : String := "assets_dir"
def redirectsKey : String := "extra_redirects"

/-! ## Reading -/

/-- A value that is a text. -/
def text? : Toml.Value → Option String
  | .text s => some s
  | _ => none

/-- A value that is an array of texts. -/
def texts? : Toml.Value → Option (List String)
  | .array items => items.mapM text?
  | _ => none

/-- The key of the one entry that a moment makes where a table of texts is expected. -/
def momentKey : String := "$__toml_private_datetime"

/-- A value that is a table of texts. -/
def textTable? : Toml.Value → Option (List (String × String))
  | .table _ entries => entries.mapM fun e => (text? e.2).map fun s => (e.1, s)
  | .moment written => some [(momentKey, written)]
  | _ => none

/-- The field under a key: its default where the key is missing, nothing where its value is of the
    wrong kind. -/
def field {α : Type} (entries : Toml.Entries) (key : String) (default : α)
    (read : Toml.Value → Option α) :
    Option α :=
  match entries.lookup key with
  | some value => read value
  | none => some default

/-- The configuration in a document. -/
def ofEntries? (entries : Toml.Entries) : Option Config := do
  let primaryLibrary ← field entries primaryKey stock.primaryLibrary text?
  let systemPaths ← field entries systemPathsKey stock.systemPaths texts?
  let appPaths ← field entries appPathsKey stock.appPaths texts?
  let auxiliaryLibraries ← field entries auxiliaryKey stock.auxiliaryLibraries texts?
  let assetsDir ← field entries assetsKey stock.assetsDir text?
  let redirects ← field entries redirectsKey [] textTable?
  return {
    primaryLibrary, systemPaths, appPaths, auxiliaryLibraries, assetsDir
    extraRedirects := Redirects.empty.insertList redirects }

/-- Lets a valid configuration pass. -/
def checked (c : Config) : Except ConfigError Config :=
  match c.validate with
  | .ok () => .ok c
  | .error defect => .error (.invalid defect)

/-- The configuration in a text. -/
def parse (text : String) : Except ConfigError Config :=
  match (Toml.parse text).bind ofEntries? with
  | some c => c.checked
  | none => .error .malformed

/-- The configuration in a file, given what reading the file yields. -/
def ofFile : Except FileError (Array UInt8) → Except ConfigError Config
  | .error error => .error (.unreadable error)
  | .ok content =>
    match Text.Utf8.decode? content.toList with
    | some text => parse text
    | none => .error (.unreadable .notText)

/-! ## Writing -/

/-- The text of a configuration. -/
def print (c : Config) : String :=
  String.ofList <|
    Toml.printEntry primaryKey (Toml.printText c.primaryLibrary) ++
    Toml.printEntry systemPathsKey (Toml.printArray c.systemPaths) ++
    Toml.printEntry appPathsKey (Toml.printArray c.appPaths) ++
    Toml.printEntry auxiliaryKey (Toml.printArray c.auxiliaryLibraries) ++
    Toml.printEntry assetsKey (Toml.printText c.assetsDir) ++
    '\n' :: Toml.printHeader redirectsKey ++
    c.extraRedirects.entries.flatMap fun e => Toml.printEntry e.1 (Toml.printText e.2)

end Config

end PluginChain
