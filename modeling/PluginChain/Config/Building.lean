import PluginChain.Config.Environment

/-!
# Building configurations

A configuration is built from another one by settings, one after the other. Each setting writes one
field, or one entry of the redirections. What the environment overrides are settings too.

In `osrkit` the settings are the builders `with_primary_library`, `with_system_paths`,
`with_app_paths`, `with_auxiliary_libraries`, `with_assets_dir` and `with_redirect`.
-/

namespace PluginChain

namespace Config

/-- One setting of a configuration. -/
inductive Setting where
  | primaryLibrary (name : String)
  | systemPaths (paths : List String)
  | appPaths (paths : List String)
  | auxiliaryLibraries (names : List String)
  | assetsDir (dir : String)
  | redirect (name target : String)
deriving DecidableEq, Repr

/-- The configuration after one setting. -/
def set (c : Config) : Setting → Config
  | .primaryLibrary name => { c with primaryLibrary := name }
  | .systemPaths paths => { c with systemPaths := paths }
  | .appPaths paths => { c with appPaths := paths }
  | .auxiliaryLibraries names => { c with auxiliaryLibraries := names }
  | .assetsDir dir => { c with assetsDir := dir }
  | .redirect name target => c.withRedirect name target

/-- The configuration after several settings, the first one first. -/
def build (c : Config) (settings : List Setting) : Config :=
  settings.foldl set c

end Config

/-- The settings that the environment makes. -/
def Environment.settings (e : Environment) : List Config.Setting :=
  ((e.text? primaryVariable).map .primaryLibrary).toList ++
    ((e.text? assetsVariable).map .assetsDir).toList

theorem Config.overriddenBy_eq_build (c : Config) (e : Environment) :
    c.overriddenBy e = c.build e.settings := by
  unfold overriddenBy build Environment.settings
  cases e.text? Environment.primaryVariable <;> cases e.text? Environment.assetsVariable <;> rfl

end PluginChain
