import PluginChain.Library.Redirects
import PluginChain.Text.Blank

/-!
# Configurations

A configuration says which libraries to load and where to look for them. Its defaults are the layout
of a stock device. A configuration can be acted on if it is valid; `validate` finds the first thing
wrong with it.

In `osrkit` a configuration is a `LoaderConfig`: `stock` is its `default`, `validate` goes by the
same name, and `checkName` is `check_library_name`.
-/

namespace PluginChain

/-- Everything a session needs to find and set up the plugin. -/
structure Config where
  /-- The name of the primary library. -/
  primaryLibrary : String := "libcgkit_plugin_offlineSupRes.so"
  /-- Where auxiliary libraries are searched, in order. -/
  systemPaths : List String :=
    ["/system/lib64", "/vendor/lib64", "/vendor/lib64/hw", "/system/vendor/lib64"]
  /-- Where the primary library is searched, in order. -/
  appPaths : List String :=
    ["/data/app/~~*/dev.eden.eden_emulator*/lib/arm64", "/data/data/dev.eden.eden_emulator/lib"]
  /-- The libraries to prime before the primary one: graphics core, AI core, AI infrastructure. -/
  auxiliaryLibraries : List String := ["libigs_client.so", "libai_client.so", "libai_infra.so"]
  /-- The directory that the plugin takes its assets from. -/
  assetsDir : String := "/data/data/dev.eden.eden_emulator/assets/huawei_osr"
  /-- Redirections on top of the built-in ones. -/
  extraRedirects : Redirects := .empty
deriving DecidableEq

namespace Config

/-- The configuration of a stock device. -/
def stock : Config := {}

/-- The redirections in force: the built-in ones, overridden by the configured ones. -/
def redirects (c : Config) : Redirects :=
  Redirects.builtin.insertAll c.extraRedirects

/-- Adds one redirection. -/
def withRedirect (c : Config) (name target : String) : Config :=
  { c with extraRedirects := c.extraRedirects.insert name target }

/-! ## Validity -/

/-- A field that holds library names. -/
inductive NameField where
  | primaryLibrary
  | auxiliaryLibraries
  | extraRedirects
deriving DecidableEq, Repr

/-- The name of a field in configuration files. -/
def NameField.key : NameField → String
  | primaryLibrary => "primary_library"
  | auxiliaryLibraries => "auxiliary_libraries"
  | extraRedirects => "extra_redirects"

/-- What is wrong with a configuration. -/
inductive Defect where
  /-- A library name is blank. -/
  | blankName (field : NameField)
  /-- A library name holds a slash or a NUL. -/
  | notBare (field : NameField) (name : String)
  /-- The assets directory is blank. -/
  | blankAssets
  /-- The assets directory holds a NUL. -/
  | nulInAssets
deriving DecidableEq, Repr

/-- The wording of a defect. -/
def Defect.message : Defect → String
  | blankName field => field.key ++ " contains an empty name"
  | notBare field name => field.key ++ ": '" ++ name ++ "' must be a bare file name"
  | blankAssets => "assets_dir must not be empty"
  | nulInAssets => "assets_dir contains a NUL byte"

/-- A bare file name is not blank and holds neither a slash nor a NUL. -/
def checkName (field : NameField) (name : String) : Except Defect Unit :=
  if Text.isBlank name then .error (.blankName field)
  else if name.toList.contains '/' || name.toList.contains '\x00' then .error (.notBare field name)
  else .ok ()

/-- Checks names in order. -/
def checkNames (field : NameField) : List String → Except Defect Unit
  | [] => .ok ()
  | name :: rest => do
    checkName field name
    checkNames field rest

/-- Checks the assets directory. -/
def checkAssets (dir : String) : Except Defect Unit :=
  if Text.isBlank dir then .error .blankAssets
  else if dir.toList.contains '\x00' then .error .nulInAssets
  else .ok ()

/-- Finds the first defect: the primary library first, then the auxiliary ones as listed, then the
    redirections in ascending order, each name before its target, and the assets directory last. -/
def validate (c : Config) : Except Defect Unit := do
  checkName .primaryLibrary c.primaryLibrary
  checkNames .auxiliaryLibraries c.auxiliaryLibraries
  checkNames .extraRedirects (c.extraRedirects.entries.flatMap fun e => [e.1, e.2])
  checkAssets c.assetsDir

end Config

end PluginChain
