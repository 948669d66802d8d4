import PluginChain.Session.Basic

/-!
# Loading the plugin

A load goes through its stages in order: prime the auxiliary libraries, open the primary library,
look its symbols up, start the plugin up and hand it its assets directory. It stops at the first
stage that fails; then everything it acquired is given back, and the report keeps what was found
until then.

In `osrkit` these are `load` and `acquire` of a `PluginSession`; the stages of `acquire` are
functions of their own here.
-/

namespace PluginChain.Session

variable {p : Platform}

/-- The stage that primes the auxiliary libraries. It never fails. -/
def prime (s : Session p) : Action p (Session p) := do
  let s ← s.enter .priming
  let primed ← Primed.acquire s.config.redirects s.config.systemPaths s.config.auxiliaryLibraries
  if primed.libraries.isEmpty && !s.config.auxiliaryLibraries.isEmpty then
    Host.notify .nothingPrimed
  return { s with
    held := { s.held with primed := some primed }
    report := { s.report with primed := primed.identities, misses := primed.misses } }

/-- The stage that opens the primary library. The library is not yet held: until its symbols are
    found it belongs to the load itself. -/
def openPrimary (s : Session p) : Action p (Except LoadError (OpenLibrary p) × Session p) := do
  let s ← s.enter .loadingPrimary
  match ← OpenLibrary.acquire s.config.redirects s.config.primaryLibrary
    s.config.appPaths .isolated with
  | .ok primary =>
    Host.notify (.primaryOpened primary.identity primary.sharing)
    return (.ok primary, { s with report := { s.report with primary := some primary.identity } })
  | .error error => return (.error error, s)

/-- The stage that looks up the symbols of the primary library. The library is closed again if one
    is missing. -/
def bindSymbols (s : Session p) (primary : OpenLibrary p) :
    Action p (Except LoadError (EntryPoints p.Address) × Session p) := do
  let s ← s.enter .resolvingSymbols
  match ← SymbolTable.resolve primary Plugin.symbols with
  | .error error =>
    primary.close
    return (.error error, s)
  | .ok table =>
    match table.entryPoints with
    | .error error =>
      primary.close
      return (.error error, s)
    | .ok entry =>
      return (.ok entry, { s with
        held := { s.held with primary := some primary, table := some table }
        report := { s.report with symbols := table.status } })

/-- The stage that starts the plugin up and hands it its assets directory. -/
def start (s : Session p) (entry : EntryPoints p.Address) :
    Action p (Except LoadError Unit × Session p) := do
  let s ← s.enter .initializing
  match ← entry.callStartUp with
  | .error detail => return (.error (.startFailed detail), s)
  | .ok () =>
    let s := { s with held := { s.held with started := true } }
    Host.notify .started
    match ← entry.callSetAssets s.config.assetsDir with
    | .error detail => return (.error (.startFailed detail), s)
    | .ok () =>
      Host.notify (.assetsSet s.config.assetsDir)
      return (.ok (), ← s.enter .ready)

/-- Goes through the stages of a load. -/
def acquire (s : Session p) : Action p (Except LoadError Unit × Session p) := do
  let s ← s.prime
  match ← s.openPrimary with
  | (.error error, s) => return (.error error, s)
  | (.ok primary, s) =>
    match ← s.bindSymbols primary with
    | (.error error, s) => return (.error error, s)
    | (.ok entry, s) => s.start entry

/-- Loads the plugin from a stage where nothing is held. -/
def loadFresh (s : Session p) : Action p (Except LoadError Unit × Session p) := do
  Host.notify (.loading s.config.primaryLibrary)
  let s := { s with report := { symbolSetVersion := Plugin.symbolSetVersion } }
  match ← s.acquire with
  | (.ok (), s) =>
    Host.notify .loaded
    return (.ok (), s)
  | (.error error, s) =>
    Host.notify (.loadFailed error)
    let s := { s with report := { s.report with error := some error.message } }
    let s ← s.teardown
    return (.error error, ← s.enter .failed)

/-- Brings the session to `ready`. A ready session stays as it is; any other starts over, after what
    it may still hold is given back. -/
def load (s : Session p) : Action p (Except LoadError Unit × Session p) := do
  match s.stage with
  | .ready =>
    Host.notify .alreadyLoaded
    return (.ok (), s)
  | .unloaded => s.loadFresh
  | _ =>
    let s ← s.teardown
    loadFresh { s with stage := .unloaded }

end PluginChain.Session
