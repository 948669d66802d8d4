import PluginChain.Config.Basic
import PluginChain.Text.Utf8

/-!
# Environment variables

Two environment variables override fields of a configuration. A value counts if it is UTF-8 and not
blank.

In `osrkit` these are `with_env_overrides` (`overriddenBy`) and `non_empty_env` (`text?`).
-/

namespace PluginChain

/-- The environment: the bytes of each variable that is set. -/
abbrev Environment := String → Option (List UInt8)

namespace Environment

/-- Names the primary library. -/
def primaryVariable : String := "OSRKIT_PRIMARY_LIBRARY"

/-- Names the assets directory. -/
def assetsVariable : String := "OSRKIT_ASSETS_DIR"

/-- Names the configuration file. -/
def configVariable : String := "OSRKIT_CONFIG"

/-- The text of a variable that is set to UTF-8 and not blank. -/
def text? (e : Environment) (name : String) : Option String :=
  ((e name).bind Text.Utf8.decode?).filter fun s => !Text.isBlank s

end Environment

/-- The configuration with the overrides that the environment sets. -/
def Config.overriddenBy (c : Config) (e : Environment) : Config :=
  { c with
    primaryLibrary := (e.text? Environment.primaryVariable).getD c.primaryLibrary
    assetsDir := (e.text? Environment.assetsVariable).getD c.assetsDir }

end PluginChain
