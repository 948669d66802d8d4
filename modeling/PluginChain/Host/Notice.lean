import PluginChain.Library.Identity
import PluginChain.LoadError
import PluginChain.Session.Stage

/-!
# Notices

While it works a session gives notice of what happens. A notice is kept as what it says; its level
and its wording are functions of that.
-/

namespace PluginChain

/-- How much a notice matters. -/
inductive Level where
  | debug
  | info
  | warn
  | error
deriving DecidableEq, Repr

namespace Level

/-- The word for a level. -/
def word : Level → String
  | debug => "debug"
  | info => "info"
  | warn => "warn"
  | error => "error"

end Level

/-- Something a session gives notice of. -/
inductive Notice where
  /-- A requested name was redirected. -/
  | redirecting (requested target : String)
  /-- A library is about to be opened for the whole process. -/
  | sharingGlobally (name : String)
  /-- A candidate opened. -/
  | opened (name candidate : String)
  /-- A candidate did not open. -/
  | refused (name candidate reason : String)
  /-- No candidate opened; the reason is that of the last one. -/
  | exhausted (name reason : String)
  /-- A library is about to be closed. -/
  | closing (name : String)
  /-- An auxiliary library was primed. -/
  | primed (identity : Identity) (sharing : Sharing)
  /-- An auxiliary library was not primed. -/
  | notPrimed (name : String) (error : LoadError)
  /-- No auxiliary library at all was primed. -/
  | nothingPrimed
  /-- A primed library is about to be released. -/
  | releasingPrimed (name : String)
  /-- A symbol that must be there is missing. -/
  | requiredMissing (symbol library : String)
  /-- A symbol that may be missing is missing. -/
  | optionalMissing (symbol : String)
  /-- A load was asked for while the session was ready. -/
  | alreadyLoaded
  /-- A load begins. -/
  | loading (primary : String)
  /-- A load succeeded. -/
  | loaded
  /-- A load failed. -/
  | loadFailed (error : LoadError)
  /-- The primary library opened. -/
  | primaryOpened (identity : Identity) (sharing : Sharing)
  /-- The plugin started up. -/
  | started
  /-- The plugin took its assets directory. -/
  | assetsSet (dir : String)
  /-- The plugin shut down. -/
  | stopped
  /-- The plugin has no function to shut it down. -/
  | noShutDown
  /-- Shutting the plugin down failed. -/
  | stopFailed (detail : String)
  /-- The primary library is about to be released. -/
  | releasingPrimary (name : String)
  /-- A call was asked for at a stage where the plugin is not available. -/
  | unavailable (stage : Stage)
  /-- The session went from one stage to the next. -/
  | moved (old new : Stage)
deriving DecidableEq, Repr

namespace Notice

/-- How much a notice matters. -/
def level : Notice → Level
  | redirecting .. => .info
  | sharingGlobally .. => .info
  | opened .. => .info
  | refused .. => .warn
  | exhausted .. => .error
  | closing .. => .debug
  | primed .. => .info
  | notPrimed .. => .warn
  | nothingPrimed => .warn
  | releasingPrimed .. => .info
  | requiredMissing .. => .error
  | optionalMissing .. => .debug
  | alreadyLoaded => .info
  | loading .. => .info
  | loaded => .info
  | loadFailed .. => .error
  | primaryOpened .. => .info
  | started => .info
  | assetsSet .. => .info
  | stopped => .info
  | noShutDown => .debug
  | stopFailed .. => .error
  | releasingPrimary .. => .info
  | unavailable .. => .error
  | moved .. => .debug

/-- The wording of a notice. -/
def message : Notice → String
  | redirecting requested target => "Redirecting " ++ requested ++ " -> " ++ target
  | sharingGlobally name => "Loading " ++ name ++ " with global symbol sharing"
  | opened name candidate => "Loaded " ++ name ++ " from " ++ candidate
  | refused name candidate reason =>
    "Failed to load " ++ name ++ " from " ++ candidate ++ ": " ++ reason
  | exhausted name reason =>
    "Failed to load " ++ name ++ " from any location, last error: " ++ reason
  | closing name => "Closing " ++ name
  | primed identity sharing =>
    "Namespace link established: " ++ identity.display ++ " (" ++ sharing.word ++ ")"
  | notPrimed name error => name ++ " not primed, continuing without it: " ++ error.message
  | nothingPrimed =>
    "No auxiliary library could be primed; this device may not ship the vendor runtime"
  | releasingPrimed name => "Releasing primed library " ++ name
  | requiredMissing symbol library => "Required symbol " ++ symbol ++ " missing from " ++ library
  | optionalMissing symbol => "Optional symbol " ++ symbol ++ " absent"
  | alreadyLoaded => "Plugin already loaded"
  | loading primary => "Loading plugin " ++ primary
  | loaded => "Plugin initialized successfully"
  | loadFailed error => "Plugin load failed: " ++ error.message
  | primaryOpened identity sharing =>
    "Primary library " ++ identity.display ++ " opened (" ++ sharing.word ++ ")"
  | started => "Vendor initialize completed"
  | assetsSet dir => "Vendor assets dir set to " ++ dir
  | stopped => "Vendor uninitialize completed"
  | noShutDown => "Plugin exports no uninitialize entry point"
  | stopFailed detail => "Vendor uninitialize failed: " ++ detail
  | releasingPrimary name => "Releasing primary library " ++ name
  | unavailable stage => "Plugin not available, session is " ++ stage.word
  | moved old new => "Session state " ++ old.word ++ " -> " ++ new.word

end Notice

end PluginChain
