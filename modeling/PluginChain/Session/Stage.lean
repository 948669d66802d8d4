/-!
# Stages of a session

A load passes through the stages from `priming` to `ready` in order, or ends in `failed`. Between
two operations a session is `unloaded`, `ready` or `failed`.

In `osrkit` this is `SessionState`.
-/

namespace PluginChain

/-- Where a session stands. -/
inductive Stage where
  | unloaded
  | priming
  | loadingPrimary
  | resolvingSymbols
  | initializing
  | ready
  | failed
deriving DecidableEq, Repr

namespace Stage

/-- The word for a stage. -/
def word : Stage → String
  | unloaded => "unloaded"
  | priming => "priming"
  | loadingPrimary => "loading_primary"
  | resolvingSymbols => "resolving_symbols"
  | initializing => "initializing"
  | ready => "ready"
  | failed => "failed"

/-- A stage as records show it. -/
def inspect : Stage → String
  | unloaded => "Unloaded"
  | priming => "Priming"
  | loadingPrimary => "LoadingPrimary"
  | resolvingSymbols => "ResolvingSymbols"
  | initializing => "Initializing"
  | ready => "Ready"
  | failed => "Failed"

end Stage

end PluginChain
