import PluginChain.Library.Opening

/-!
# Priming the namespace

Auxiliary libraries are opened with global sharing before the primary library, so that what it
depends on finds their symbols. Each is attempted on its own: one that does not open is a miss and
stops nothing. What was primed is released newest first.

In `osrkit` what was primed is a `PrimedLibraries` with its `release`, and `acquire` is the `prime`
of a `NamespacePrimer`.
-/

namespace PluginChain

variable {p : Platform}

/-- The outcome of priming: what is open, in the order of opening, and the requested names that did
    not open. -/
structure Primed (p : Platform) where
  libraries : List (OpenLibrary p) := []
  misses : List String := []

namespace Primed

/-- The identities of the primed libraries, in the order of opening. -/
def identities (primed : Primed p) : List Identity :=
  primed.libraries.map (·.identity)

/-- Attempts every name. -/
def acquire (redirects : Redirects) (paths : List String) : List String → Action p (Primed p)
  | [] => return {}
  | name :: rest => do
    match ← OpenLibrary.acquire redirects name paths .global with
    | .ok library =>
      Host.notify (.primed library.identity library.sharing)
      let primed ← acquire redirects paths rest
      return { primed with libraries := library :: primed.libraries }
    | .error error =>
      Host.notify (.notPrimed name error)
      let primed ← acquire redirects paths rest
      return { primed with misses := name :: primed.misses }

/-- Closes libraries in the order of the list. -/
def closeEach : List (OpenLibrary p) → Action p Unit
  | [] => return ()
  | library :: rest => do
    Host.notify (.releasingPrimed library.identity.resolved)
    library.close
    closeEach rest

/-- Closes what is primed, newest first; the misses stay. -/
def release (primed : Primed p) : Action p (Primed p) := do
  closeEach primed.libraries.reverse
  return { primed with libraries := [] }

end Primed

end PluginChain
