/-!
# Where a library may be opened from

The candidates for a name are tried in order. The bare name comes first, so that the platform's
loader applies its own search rules; then follows the name under each search path. No file is looked
at: whether a candidate exists shows when it is opened.

In `osrkit` this is the `resolve` of a `PathResolver`.
-/

namespace PluginChain

/-- The candidates for `name` under `paths`, in the order in which they are tried. A path given
    twice gives its candidate twice. -/
def candidates (name : String) (paths : List String) : List String :=
  name :: paths.map fun path => path ++ "/" ++ name

theorem candidates_ne_nil (name : String) (paths : List String) : candidates name paths ≠ [] := by
  simp [candidates]

end PluginChain
