import PluginChain.Host.Platform
import PluginChain.Plugin.Symbols
import PluginChain.Text.Utf8

/-!
# Scripted platforms

A platform that follows a script: the script says which candidates open, after how many failures and
with which symbols, and how each function of the plugin behaves. The world is the script itself, so
it can change between two requests; an open module looks its symbols up in the script as it then is.
-/

namespace PluginChain

/-- What a script says of the library at one path. -/
structure ScriptedLibrary where
  /-- The symbols it has. -/
  exports : List String := []
  /-- The symbols it has with a null address. -/
  nulls : List String := []
  /-- The reason that is given when it does not open. -/
  reason : Option String := none
  /-- How many more opens fail; without a number, all fail if there is a reason, and none
      otherwise. -/
  failures : Option Nat := none
deriving DecidableEq, Repr

/-- What a script says of one function of the plugin. What is left out is as usual: the function
    returns, a pass goes well, and the assets directory is `Script.usualAssets`. -/
structure Behavior where
  /-- The function unwinds. -/
  unwinding : Option Payload := none
  /-- The word of the plugin on a pass. -/
  verdict : Option Bool := none
  /-- The assets directory that the plugin gives: a null pointer, or bytes with a NUL after them. -/
  assets : Option (Option (List UInt8)) := none
deriving DecidableEq, Repr

/-- A script. Of two entries with one key the first counts. -/
structure Script where
  libraries : List (String × ScriptedLibrary) := []
  functions : List (String × Behavior) := []
deriving DecidableEq, Repr

namespace Script

/-- The libraries with the one at `path` replaced. -/
def install (s : Script) (path : String) (library : ScriptedLibrary) : Script :=
  { s with libraries := (path, library) :: s.libraries.filter fun e => e.1 != path }

/-- The libraries without the one at `path`. -/
def uninstall (s : Script) (path : String) : Script :=
  { s with libraries := s.libraries.filter fun e => e.1 != path }

/-- The functions with the behavior of one replaced. -/
def setBehavior (s : Script) (function : String) (behavior : Behavior) : Script :=
  { s with functions := (function, behavior) :: s.functions.filter fun e => e.1 != function }

/-- The behavior of a function. -/
def behavior (s : Script) (function : String) : Behavior :=
  (s.functions.lookup function).getD {}

/-- The assets directory that a plugin gives unless its script says otherwise. -/
def usualAssets : List UInt8 := Text.Utf8.encode "/vendor/assets/osr"

/-- The reason for a path that leads to no library. -/
def missingReason (path : String) : String :=
  "dlopen failed: \"" ++ path ++ "\" not found"

/-- The reason for which an open of `path` fails, if it fails, and the script after that open. -/
def openAt (s : Script) (path : String) : Option String × Script :=
  match s.libraries.lookup path with
  | none => (some (missingReason path), s)
  | some library =>
    match library.failures, library.reason with
    | some (n + 1), reason =>
      (some (reason.getD (missingReason path)), s.install path { library with failures := some n })
    | none, some reason => (some reason, s)
    | _, _ => (none, s)

/-- What a lookup in the library at `path` finds. The address of a symbol is its name. -/
def lookupAt (s : Script) (path symbol : String) : Lookup String :=
  match s.libraries.lookup path with
  | none => .absent
  | some library =>
    if library.nulls.contains symbol then .null
    else if library.exports.contains symbol then .found symbol
    else .absent

/-- How a call of `function` ends when it usually returns the value that `value` reads off its
    behavior. -/
def ending {α : Type} (s : Script) (function : String) (value : Behavior → α) : Ending α :=
  match (s.behavior function).unwinding with
  | some payload => .unwound payload
  | none => .returned (value (s.behavior function))

/-- The platform that follows the script in its world. A module is the path that it was opened
    from. -/
def platform : Platform where
  World := Script
  Module := String
  Address := String
  openModule candidate _ := fun s =>
    match s.openAt candidate with
    | (some reason, s) => (.error reason, s)
    | (none, s) => (.ok candidate, s)
  lookup module symbol := fun s => (s.lookupAt module symbol, s)
  closeModule _ := fun s => ((), s)
  startUp function := fun s => (s.ending function fun _ => (), s)
  shutDown function := fun s => (s.ending function fun _ => (), s)
  setAssets function _ := fun s => (s.ending function fun _ => (), s)
  getAssets function := fun s => (s.ending function fun b => b.assets.getD (some usualAssets), s)
  runSync function _ _ _ := fun s => (s.ending function fun b => b.verdict.getD true, s)
  runAsync function _ _ _ := fun s => (s.ending function fun b => b.verdict.getD true, s)

end Script

end PluginChain
