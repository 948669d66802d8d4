import PluginChain.CommandLine.Arguments
import PluginChain.Config.Document
import PluginChain.Dependencies
import PluginChain.Elf.Needed
import PluginChain.Session.Calls
import PluginChain.Text.Json

/-!
# Commands

Every command begins with the effective configuration: the file or the defaults, overridden by the
environment, and valid. Without one nothing is printed but the error.

In `osrkit` these are `load_config` (`effectiveConfig`), `read_needed` (in `listNeeded`), `probe`,
`run` (`perform`) and `main` (`run`).
-/

namespace PluginChain.CommandLine

/-- What a command sees of its surroundings. -/
structure Surroundings where
  environment : Environment
  fileAt : Path → Except FileError (Array UInt8)

/-- What a command leaves: its exit code and what it printed. -/
structure Output where
  code : UInt32
  out : String := ""
  err : String := ""
deriving DecidableEq, Repr

/-- Lines of output, each with its line feed. -/
def lines (items : List String) : String :=
  String.join (items.map (· ++ "\n"))

/-- The output of a command that failed before it printed anything. -/
def failure (message : String) : Output :=
  { code := 1, err := lines ["Error: " ++ message] }

/-! ## The effective configuration -/

/-- The wording of an error with its cause after it, which repeats what the operating system
    said. -/
def configChain : ConfigError → String
  | .unreadable error => "IO error: " ++ error.message ++ ": " ++ error.message
  | error => error.message

/-- The configuration in the file that the command line names, or the defaults. -/
def baseConfig (s : Surroundings) : Option Path → Except String Config
  | none => .ok .stock
  | some path =>
    match Config.ofFile (s.fileAt path) with
    | .ok c => .ok c
    | .error error =>
      .error ("Failed to read config " ++ Text.Utf8.decodeLossy path ++ ": " ++ configChain error)

/-- The configuration that a command goes by. -/
def effectiveConfig (s : Surroundings) (path : Option Path) : Except String Config :=
  match baseConfig s path with
  | .error message => .error message
  | .ok base =>
    match (base.overriddenBy s.environment).checked with
    | .ok c => .ok c
    | .error error => .error (configChain error)

/-! ## The commands -/

/-- The candidates of a library, after its redirection if it has one. -/
def listCandidates (c : Config) (name : String) (app : Bool) : Output :=
  let resolved := c.redirects.resolve name
  let paths := if app then c.appPaths else c.systemPaths
  let redirection := if resolved = name then [] else [name ++ " -> " ++ resolved]
  { code := 0, out := lines (redirection ++ candidates resolved paths) }

/-- The libraries that an image needs, with a mark on those that priming covers. -/
def markNeeded (c : Config) (needed : List String) : List String :=
  needed.map fun name => if (unprimed needed c).contains name then name else name ++ " (primed)"

/-- The libraries that a shared object needs. -/
def listNeeded (s : Surroundings) (c : Config) (path : Path) : Output :=
  let failed (detail : String) :=
    failure ("Failed to inspect " ++ Text.Utf8.decodeLossy path ++ ": " ++ detail)
  match s.fileAt path with
  | .error error => failed ("IO error: " ++ error.message ++ ": " ++ error.message)
  | .ok image =>
    match Elf.neededLibraries image with
    | .error error => failed error.message
    | .ok needed => { code := 0, out := lines (markNeeded c needed) }

/-- An identity as JSON. -/
def identityJson (i : Identity) : Text.Json :=
  .object [("requested", .text i.requested), ("resolved", .text i.resolved),
    ("location", .text i.location)]

/-- The status of a symbol as JSON. -/
def statusJson (s : SymbolStatus) : Text.Json :=
  .object [("name", .text s.name), ("required", .boolean s.required),
    ("present", .boolean s.present)]

/-- A report as JSON. -/
def reportJson (r : LoadReport) : Text.Json :=
  .object [
    ("symbol_set_version", .number r.symbolSetVersion),
    ("primed", .list (r.primed.map identityJson)),
    ("primed_misses", .list (r.misses.map .text)),
    ("primary", (r.primary.map identityJson).getD .null),
    ("symbols", .list (r.symbols.map statusJson)),
    ("error", (r.error.map Text.Json.text).getD .null)]

/-- A report in lines. -/
def reportLines (r : LoadReport) : List String :=
  r.primed.map (fun i => "primed   " ++ i.display) ++
  r.misses.map (fun name => "missing  " ++ name) ++
  r.primary.toList.map (fun i => "primary  " ++ i.display) ++
  r.symbols.map fun s =>
    "symbol   " ++ s.name ++ " [" ++ (if s.present then "ok" else "absent") ++ "]"

/-- Loads the plugin, reports what was acquired, and unloads it again. -/
def probe {p : Platform} (c : Config) (json : Bool) : Action p Output := do
  let (outcome, s) ← (Session.new c).load
  let report :=
    if json then lines [(reportJson s.report).print] else lines (reportLines s.report)
  match outcome with
  | .ok () =>
    let assets ← if json then pure [] else do
      match ← s.assetsDir with
      | .ok (some dir) => pure ["assets   " ++ dir]
      | _ => pure []
    let state := if json then [] else ["state    " ++ s.stage.word]
    let _ ← s.unload
    return { code := 0, out := report ++ lines (assets ++ state) }
  | .error error =>
    let state := if json then [] else ["state    " ++ s.stage.word]
    let _ ← s.unload
    return {
      code := 1
      out := report ++ lines state
      err := lines ["Load failed: " ++ error.message] }

/-! ## The program -/

/-- The name and version of the program. -/
def versionLine : String := "osrkit 0.1.0"

/-- How the program is used. -/
def usageLine : String := "Usage: osrkit [OPTIONS] <COMMAND>"

/-- Carries out a command under a configuration. -/
def perform {p : Platform} (s : Surroundings) (c : Config) : Command → Action p Output
  | .candidates name app => return listCandidates c name app
  | .config => return { code := 0, out := c.print }
  | .needed path => return listNeeded s c path
  | .probe json => probe c json

/-- Carries out an invocation. -/
def Invocation.run {p : Platform} (s : Surroundings) (i : Invocation) : Action p Output :=
  match effectiveConfig s i.config with
  | .error message => return failure message
  | .ok c => perform s c i.command

/-- Runs the program with the given arguments. -/
def run {p : Platform} (s : Surroundings) (arguments : List String) : Action p Output :=
  match Invocation.ofArguments arguments s.environment with
  | .ok invocation => invocation.run s
  | .error .help => return { code := 0, out := lines [usageLine] }
  | .error .version => return { code := 0, out := lines [versionLine] }
  | .error .misuse => return { code := 2, err := lines ["error: " ++ usageLine] }

end PluginChain.CommandLine
