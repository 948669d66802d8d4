import PluginChain.Plugin.Symbols
import PluginChain.Text.Terminated

/-!
# Calling the plugin

The entry points of the plugin are the addresses of its functions, taken from one symbol table:
three it must have and three it may have. Every call goes through them. A call that unwinds fails
with the name of the function and what the unwinding carried; a function the plugin lacks is not
called.

In `osrkit` the entry points are a `VendorEntryPoints`, made by `entry_points`, and `call` is
`guarded`. Its calls are `initialize` (`callStartUp`), `uninitialize` (`callShutDown`),
`set_assets_dir` (`callSetAssets`), `assets_dir` (`callGetAssets`), `sync_execute` (`callRunSync`)
and `async_execute` (`callRunAsync`).
-/

namespace PluginChain

variable {p : Platform}

/-- The addresses of the functions of the plugin. -/
structure EntryPoints (α : Type) where
  /-- The number of the module that the functions are in. -/
  serial : Nat
  startUp : α
  setAssets : α
  runSync : α
  shutDown : Option α
  getAssets : Option α
  runAsync : Option α

namespace SymbolTable

variable {α : Type}

/-- The address of a symbol that must be there. -/
def require (t : SymbolTable α) (name : String) : Except LoadError α :=
  match t.get? name with
  | some address => .ok address
  | none => .error (.missingSymbol name)

/-- The entry points that a table holds. -/
def entryPoints (t : SymbolTable α) : Except LoadError (EntryPoints α) := do
  let startUp ← t.require Plugin.startUpSymbol
  let setAssets ← t.require Plugin.setAssetsSymbol
  let runSync ← t.require Plugin.runSyncSymbol
  return {
    serial := t.serial
    startUp, setAssets, runSync
    shutDown := t.get? Plugin.shutDownSymbol
    getAssets := t.get? Plugin.getAssetsSymbol
    runAsync := t.get? Plugin.runAsyncSymbol }

end SymbolTable

/-- The symbol of the function that a call calls. -/
def Call.symbol : Call → String
  | startUp => Plugin.startUpSymbol
  | shutDown => Plugin.shutDownSymbol
  | setAssets .. => Plugin.setAssetsSymbol
  | getAssets => Plugin.getAssetsSymbol
  | runSync .. => Plugin.runSyncSymbol
  | runAsync .. => Plugin.runAsyncSymbol

namespace Plugin

/-- The wording of a call that unwound. -/
def unwoundDetail (function : String) (payload : Payload) : String :=
  function ++ " unwound: " ++ payload.detail

/-- The wording of an assets directory with a NUL in it. -/
def nulDetail (position : Nat) : String :=
  "invalid assets dir: nul byte found in provided data at position: " ++ toString position

/-- The wording of a call to a function that the plugin lacks. -/
def lackingDetail (function : String) : String :=
  function ++ " not exported by plugin"

/-- Makes a call of a function of the module `serial`. A call that unwinds gives the wording of
    that. -/
def call (serial : Nat) (function : p.Address) (entry : Call) :
    Action p (Except String entry.Answer) := do
  match ← Host.ask (.call serial function entry) with
  | .returned value => return .ok value
  | .unwound payload => return .error (unwoundDetail entry.symbol payload)

end Plugin

namespace EntryPoints

/-- Starts the plugin up. -/
def callStartUp (e : EntryPoints p.Address) : Action p (Except String Unit) :=
  Plugin.call e.serial e.startUp .startUp

/-- Shuts the plugin down, if it has a function for that; the result says whether it has. -/
def callShutDown (e : EntryPoints p.Address) : Action p (Except String Bool) := do
  match e.shutDown with
  | none => return .ok false
  | some function =>
    match ← Plugin.call e.serial function .shutDown with
    | .ok () => return .ok true
    | .error detail => return .error detail

/-- Hands the plugin its assets directory. -/
def callSetAssets (e : EntryPoints p.Address) (dir : String) : Action p (Except String Unit) := do
  match Text.Terminated.encode dir with
  | .error position => return .error (Plugin.nulDetail position)
  | .ok bytes => Plugin.call e.serial e.setAssets (.setAssets bytes)

/-- Asks the plugin for its assets directory. There is none if the plugin has no function for that
    or answers with a null pointer. -/
def callGetAssets (e : EntryPoints p.Address) : Action p (Except String (Option String)) := do
  match e.getAssets with
  | none => return .ok none
  | some function =>
    match ← Plugin.call e.serial function .getAssets with
    | .ok none => return .ok none
    | .ok (some bytes) => return .ok (some (Text.Terminated.decode bytes))
    | .error detail => return .error detail

/-- Runs one pass and waits for it; the result is the plugin's own word on success. -/
def callRunSync (e : EntryPoints p.Address) (input output : UInt64) (timeout : Int32) :
    Action p (Except String Bool) :=
  Plugin.call e.serial e.runSync (.runSync input output timeout)

/-- Submits one pass; the result is the plugin's own word on success. -/
def callRunAsync (e : EntryPoints p.Address) (input output callback : UInt64) :
    Action p (Except String Bool) := do
  match e.runAsync with
  | none => return .error (Plugin.lackingDetail Plugin.runAsyncSymbol)
  | some function =>
    Plugin.call e.serial function (.runAsync input output callback)

end EntryPoints

end PluginChain
