import PluginChain.Library.Opening

/-!
# The symbols of the plugin

The names of every function that the plugin may offer stand here, each with the word whether the
plugin can do without it. They are looked up in this order, all in one table; the first required one
that is missing ends the lookup.

In `osrkit` the names are `OSR_SYMBOLS`, and `resolve` is the `resolve_all` of a `SymbolTable`;
`absent` is its `absent_optional`.
-/

namespace PluginChain

variable {p : Platform}

/-- A symbol to look up, and whether the plugin must have it. -/
structure SymbolSpec where
  name : String
  required : Bool
deriving DecidableEq, Repr

/-- A symbol, and whether the plugin has it. -/
structure SymbolStatus where
  name : String
  required : Bool
  present : Bool
deriving DecidableEq, Repr

namespace Plugin

/-- Starts the plugin up. -/
def startUpSymbol : String := "CInitialize"

/-- Shuts the plugin down. -/
def shutDownSymbol : String := "CUninitialize"

/-- Takes the assets directory. -/
def setAssetsSymbol : String := "CSetAssetsDir"

/-- Gives the assets directory. -/
def getAssetsSymbol : String := "CGetAssetsDir"

/-- Runs one pass and waits for it. -/
def runSyncSymbol : String := "CSuperSamplingSyncExecute"

/-- Submits one pass. -/
def runAsyncSymbol : String := "CSuperSamplingAsyncExecute"

/-- The functions of the plugin, in the order in which they are looked up. -/
def symbols : List SymbolSpec :=
  [⟨startUpSymbol, true⟩, ⟨shutDownSymbol, false⟩, ⟨setAssetsSymbol, true⟩,
    ⟨getAssetsSymbol, false⟩, ⟨runSyncSymbol, true⟩, ⟨runAsyncSymbol, false⟩]

/-- The version of the list `symbols`. -/
def symbolSetVersion : Nat := 1

end Plugin

/-- A symbol that was looked up, with its address if it has one. -/
structure Binding (α : Type) where
  spec : SymbolSpec
  address? : Option α

/-- What a lookup of symbols found in one library. -/
structure SymbolTable (α : Type) where
  /-- The number of the library's module. -/
  serial : Nat
  bindings : List (Binding α)

namespace SymbolTable

variable {α : Type}

/-- The address of the first entry for `name`, if it has one. -/
def get? (t : SymbolTable α) (name : String) : Option α :=
  (t.bindings.find? fun b => b.spec.name = name).bind (·.address?)

/-- Whether `name` was looked up and has an address. -/
def contains (t : SymbolTable α) (name : String) : Bool :=
  (t.get? name).isSome

/-- The names without an address. -/
def absent (t : SymbolTable α) : List String :=
  (t.bindings.filter fun b => b.address?.isNone).map (·.spec.name)

/-- The names with an address. -/
def present (t : SymbolTable α) : List String :=
  (t.bindings.filter fun b => b.address?.isSome).map (·.spec.name)

/-- The names with the word whether each is present. -/
def status (t : SymbolTable α) : List SymbolStatus :=
  t.bindings.map fun b => ⟨b.spec.name, b.spec.required, b.address?.isSome⟩

/-- Looks symbols up in order. The first required one without an address ends the lookup. -/
def bindAll (library : OpenLibrary p) :
    List SymbolSpec → Action p (Except LoadError (List (Binding p.Address)))
  | [] => return .ok []
  | spec :: rest => do
    let address? ← library.lookup spec.name
    if address?.isNone && spec.required then
      Host.notify (.requiredMissing spec.name library.identity.resolved)
      return .error (.missingSymbol spec.name)
    else
      if address?.isNone then Host.notify (.optionalMissing spec.name)
      match ← bindAll library rest with
      | .ok bindings => return .ok (⟨spec, address?⟩ :: bindings)
      | .error error => return .error error

/-- The table of `specs` in `library`, or the first required symbol that is missing. -/
def resolve (library : OpenLibrary p) (specs : List SymbolSpec) :
    Action p (Except LoadError (SymbolTable p.Address)) := do
  match ← bindAll library specs with
  | .ok bindings => return .ok { serial := library.serial, bindings }
  | .error error => return .error error

end SymbolTable

end PluginChain
