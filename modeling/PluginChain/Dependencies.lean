import PluginChain.Config.Basic

/-!
# Dependencies that priming does not cover

Of the libraries that a shared object needs, those are covered that stand in the priming list or are
redirected into it; the list itself is taken after redirection. The others must be found by the
platform's loader on its own.

In `osrkit` this is `unprimed_dependencies`.
-/

namespace PluginChain

namespace Config

/-- The libraries that priming opens, by their redirected names. -/
def primingTargets (c : Config) : List String :=
  c.auxiliaryLibraries.map c.redirects.resolve

/-- Whether priming opens what `name` stands for. -/
def primes (c : Config) (name : String) : Bool :=
  c.primingTargets.contains name || c.primingTargets.contains (c.redirects.resolve name)

end Config

/-- The needed libraries that priming does not cover, in the order given. -/
def unprimed (needed : List String) (c : Config) : List String :=
  needed.filter fun name => !c.primes name

theorem mem_unprimed_iff {needed : List String} {c : Config} {name : String} :
    name ∈ unprimed needed c ↔ name ∈ needed ∧ c.primes name = false := by
  simp [unprimed]

end PluginChain
