import PluginChain.Host.Platform
import PluginChain.Plugin.Symbols

/-!
# Shared objects in a directory

A platform whose loader knows the shared objects of one directory, each a plugin of one of four
kinds. A candidate opens if it is `./` before the name of one of them. A shared object that is open
has a state, which is shared by all who opened it and lost when the last of them closes it.

In `osrkit` the loader is the `DlopenBackend`.
-/

namespace PluginChain

/-- The kinds of plugin. -/
inductive PluginKind where
  /-- Has every function. -/
  | full
  /-- Has the required functions only. -/
  | minimal
  /-- Lacks the function that takes the assets directory. -/
  | withoutAssets
  /-- Has every function, gives no assets directory and refuses every submitted pass. -/
  | reluctant
deriving DecidableEq, Repr

namespace PluginKind

/-- The functions that a plugin of a kind has. -/
def exports : PluginKind → List String
  | full | reluctant => Plugin.symbols.map (·.name)
  | minimal => (Plugin.symbols.filter (·.required)).map (·.name)
  | withoutAssets => (Plugin.symbols.map (·.name)).filter (· != Plugin.setAssetsSymbol)

end PluginKind

/-- The state of an open shared object. -/
structure PluginState where
  /-- How many hold it open. -/
  holders : Nat := 0
  /-- Whether it has started up. -/
  started : Bool := false
  /-- The assets directory that it was given. -/
  assets : Option (List UInt8) := none
deriving DecidableEq, Repr

/-- The shared objects of a directory, and the state of those that are open. -/
structure SharedObjects where
  kinds : List (String × PluginKind) := []
  states : List (String × PluginState) := []
deriving DecidableEq, Repr

namespace SharedObjects

/-- The state of a shared object. -/
def state (d : SharedObjects) (name : String) : PluginState :=
  (d.states.lookup name).getD {}

/-- Changes the state of a shared object; one that nobody holds open has none. -/
def update (d : SharedObjects) (name : String) (f : PluginState → PluginState) : SharedObjects :=
  let others := d.states.filter fun e => e.1 != name
  let new := f (d.state name)
  { d with states := if new.holders = 0 then others else (name, new) :: others }

/-- The reason for a candidate that leads to no shared object. -/
def missingReason (candidate : String) : String :=
  candidate ++ ": cannot open shared object file: No such file or directory"

/-- The shared object that a candidate leads to. -/
def find? (d : SharedObjects) (candidate : String) : Option String :=
  (d.kinds.find? fun e => candidate = "./" ++ e.1).map (·.1)

/-- The symbol that a lookup asks for: one NUL at the end of the name is the terminator itself, and
    a NUL elsewhere makes the name one that no symbol has. -/
def symbolName? (symbol : String) : Option String :=
  let chars := symbol.toList
  let name := if chars.getLast? = some '\x00' then chars.dropLast else chars
  if name.contains '\x00' then none else some (String.ofList name)

/-- The address of a symbol: the shared object that it lies in, and its name. -/
abbrev Address := String × String

/-- What a lookup finds. -/
def lookupIn (d : SharedObjects) (object symbol : String) : Lookup Address :=
  match d.kinds.lookup object, symbolName? symbol with
  | some kind, some name => if kind.exports.contains name then .found (object, name) else .absent
  | _, _ => .absent

/-- Whether a shared object is a plugin of the reluctant kind. -/
def isReluctant (d : SharedObjects) (object : String) : Bool :=
  d.kinds.lookup object = some .reluctant

/-- The platform whose loader knows the shared objects in its world. -/
def platform : Platform where
  World := SharedObjects
  Module := String
  Address := Address
  openModule candidate _ := fun d =>
    match d.find? candidate with
    | some name => (.ok name, d.update name fun s => { s with holders := s.holders + 1 })
    | none => (.error (missingReason candidate), d)
  lookup module symbol := fun d => (d.lookupIn module symbol, d)
  closeModule module := fun d => ((), d.update module fun s => { s with holders := s.holders - 1 })
  startUp function :=
    fun d => (.returned (), d.update function.1 fun s => { s with started := true })
  shutDown function :=
    fun d => (.returned (), d.update function.1 fun s => { s with started := false })
  setAssets function dir := fun d =>
    (.returned (), d.update function.1 fun s => { s with assets := some dir })
  getAssets function := fun d =>
    (.returned (if d.isReluctant function.1 then none else (d.state function.1).assets), d)
  runSync function _ _ timeout := fun d =>
    (.returned ((d.state function.1).started && 0 ≤ timeout), d)
  runAsync function _ _ callback := fun d =>
    (.returned (!d.isReluctant function.1 && (d.state function.1).started && callback != 0), d)

end SharedObjects

end PluginChain
