/-!
# Why loading or calling the plugin fails

In `osrkit` this is `LoadError`.
-/

namespace PluginChain

/-- Why loading the plugin, or calling it, failed. -/
inductive LoadError where
  /-- No candidate opened: the redirected name, all candidates in order, and what the platform said
      of the last. -/
  | notFound (name : String) (attempted : List String) (reason : String)
  /-- The primary library opened and lacks a symbol that it must have. -/
  | missingSymbol (name : String)
  /-- The plugin did not start up, or did not take its assets directory. -/
  | startFailed (detail : String)
  /-- A call was asked for while the session was not ready. -/
  | notReady
  /-- The plugin was called and the call failed. -/
  | callFailed (detail : String)
deriving DecidableEq, Repr

namespace LoadError

/-- The wording of an error. -/
def message : LoadError → String
  | notFound name attempted reason =>
    "library " ++ name ++ " not found (tried " ++ ", ".intercalate attempted ++ "): " ++ reason
  | missingSymbol name => "required symbol missing: " ++ name
  | startFailed detail => "vendor initialization failed: " ++ detail
  | notReady => "plugin session is not ready"
  | callFailed detail => "vendor call failed: " ++ detail

end LoadError

end PluginChain
