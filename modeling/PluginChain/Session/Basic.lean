import PluginChain.Config.Basic
import PluginChain.Library.Priming
import PluginChain.Plugin.EntryPoints
import PluginChain.Session.Report

/-!
# Sessions

A session owns what one load of the plugin acquires: the primed libraries, the primary library, its
symbol table, and the duty to shut the plugin down once it has started up. `release` gives all of it
back in the reverse order of acquisition, whatever part of it there is.

In `osrkit` a session is a `PluginSession`: `new` is its `with_backend`, `enter` its `transition`,
`teardown` and `unload` go by the same names, and `drop` is what dropping it does.
-/

namespace PluginChain

variable {p : Platform}

/-- What a session holds. Each part is there from the moment it is acquired until it is released. -/
structure Holdings (p : Platform) where
  /-- The auxiliary libraries. -/
  primed : Option (Primed p) := none
  /-- The primary library. -/
  primary : Option (OpenLibrary p) := none
  /-- The symbols of the primary library. -/
  table : Option (SymbolTable p.Address) := none
  /-- Whether the plugin has started up and has not been shut down. -/
  started : Bool := false

/-- Drives the plugin from unloaded to ready and back. -/
structure Session (p : Platform) where
  config : Config
  stage : Stage := .unloaded
  held : Holdings p := {}
  report : LoadReport := {}

namespace Holdings

/-- Shuts the plugin down, if it has started up. A failure to shut down is given notice of and stops
    nothing. -/
def shutDown (held : Holdings p) : Action p Unit := do
  if held.started then
    match held.table.map SymbolTable.entryPoints with
    | some (.ok entry) =>
      match ← entry.callShutDown with
      | .ok true => Host.notify .stopped
      | .ok false => Host.notify .noShutDown
      | .error detail => Host.notify (.stopFailed detail)
    | _ => return ()

/-- Closes the primary library, if it is open. -/
def releasePrimary (held : Holdings p) : Action p Unit := do
  match held.primary with
  | some primary =>
    Host.notify (.releasingPrimary primary.identity.resolved)
    primary.close
  | none => return ()

/-- Closes the primed libraries, if there are any. -/
def releasePrimed (held : Holdings p) : Action p Unit := do
  match held.primed with
  | some primed => discard primed.release
  | none => return ()

/-- Gives back everything that is held: the plugin is shut down first, then its library is closed,
    then the primed libraries, newest first. -/
def release (held : Holdings p) : Action p Unit := do
  held.shutDown
  held.releasePrimary
  held.releasePrimed

end Holdings

namespace Session

/-- A session that has loaded nothing yet. -/
def new (config : Config) : Session p :=
  { config }

/-- Whether the plugin can be called. -/
def isReady (s : Session p) : Bool :=
  s.stage = .ready && s.held.table.isSome

/-- The names of the open primary library. -/
def primary? (s : Session p) : Option Identity :=
  s.held.primary.map (·.identity)

/-- Whether passes can be submitted without waiting for them. -/
def supportsAsync (s : Session p) : Bool :=
  s.held.table.any fun t => t.contains Plugin.runAsyncSymbol

/-- A session as records show it. -/
def inspect (s : Session p) : String :=
  Text.partialRecord "PluginSession"
    [("state", s.stage.inspect), ("primary", Text.optional (s.primary?.map Identity.inspect)),
      ("report", s.report.inspect)]

/-- Moves a session to a stage and gives notice of it. -/
def enter (s : Session p) (stage : Stage) : Action p (Session p) := do
  Host.notify (.moved s.stage stage)
  return { s with stage }

/-- Gives back everything the session holds. -/
def teardown (s : Session p) : Action p (Session p) := do
  s.held.release
  return { s with held := {} }

/-- Ends a session: what it holds is given back and no stage is entered. -/
def drop (s : Session p) : Action p Unit :=
  s.held.release

/-- Gives back everything and returns to `unloaded`. -/
def unload (s : Session p) : Action p (Session p) := do
  if s.stage = .unloaded then return s
  else
    let s ← s.teardown
    s.enter .unloaded

end Session

end PluginChain
