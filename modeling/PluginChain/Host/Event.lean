import PluginChain.Library.Identity

/-!
# Events

Everything a session does to the outside is an event. The events of a run tell its whole outer
history: which candidates were attempted and with what result, which symbols were looked up, which
functions of the plugin were called and how the calls ended, and which modules were closed. Modules
are numbered in the order in which they opened, so that two opens of one path stay apart.
-/

namespace PluginChain

/-- A call into the plugin with its arguments. -/
inductive Call where
  | startUp
  | shutDown
  | setAssets (dir : List UInt8)
  | getAssets
  | runSync (input output : UInt64) (timeout : Int32)
  | runAsync (input output callback : UInt64)
deriving DecidableEq, Repr

/-- How a call into the plugin went. -/
structure CallRecord where
  /-- The number of the module whose function was called. -/
  serial : Nat
  /-- Whether the call returned. -/
  completed : Bool
deriving DecidableEq, Repr

/-- One thing that a session did to the outside. -/
inductive Event where
  /-- An attempt that failed, with the reason the loader gave. -/
  | refused (candidate : String) (sharing : Sharing) (reason : String)
  /-- An attempt that opened a module. -/
  | opened (serial : Nat) (candidate : String) (sharing : Sharing)
  /-- A symbol was looked up in a module; `present` says whether it had an address. -/
  | lookedUp (serial : Nat) (location symbol : String) (present : Bool)
  /-- The plugin was called. -/
  | called (call : Call) (record : CallRecord)
  /-- A module was closed. -/
  | closed (serial : Nat) (location : String)
deriving DecidableEq, Repr

namespace Event

/-- The candidate that an event attempted, if it was an attempt. -/
def attempted? : Event → Option String
  | refused candidate _ _ => some candidate
  | opened _ candidate _ => some candidate
  | _ => none

/-- The module that an event opened, as number and path, if it opened one. -/
@[simp] def opened? : Event → Option (Nat × String)
  | opened serial candidate _ => some (serial, candidate)
  | _ => none

/-- The module that an event closed, as number and path, if it closed one. -/
@[simp] def closed? : Event → Option (Nat × String)
  | closed serial location => some (serial, location)
  | _ => none

/-- The call that an event made, with the word whether it returned, if it made one. -/
@[simp] def call? : Event → Option (Call × Bool)
  | called call record => some (call, record.completed)
  | _ => none

/-- The modules that are open after one more event, as numbers and paths, oldest first. -/
def applyTo (modules : List (Nat × String)) : Event → List (Nat × String)
  | opened serial candidate _ => modules ++ [(serial, candidate)]
  | closed serial location => modules.erase (serial, location)
  | _ => modules

/-- The modules that are open after `events`, oldest first. -/
def openAfter (events : List Event) : List (Nat × String) :=
  events.foldl applyTo []

end Event

end PluginChain
