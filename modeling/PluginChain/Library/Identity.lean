import PluginChain.Text.Record

/-!
# Open libraries, seen from outside

How an opened library publishes its symbols, and by which names it is known.

In `osrkit` these are `SharingMode` and `LibraryIdentity`.
-/

namespace PluginChain

/-- How an opened library publishes its symbols. -/
inductive Sharing where
  /-- The symbols stay with the library. -/
  | isolated
  /-- The symbols join the namespace of the whole process. -/
  | global
deriving DecidableEq, Repr

namespace Sharing

/-- The word for a mode of sharing. -/
def word : Sharing → String
  | isolated => "private"
  | global => "global"

/-- A mode of sharing as records show it. -/
def inspect : Sharing → String
  | isolated => "Private"
  | global => "Global"

end Sharing

/-- The names of an open library. -/
structure Identity where
  /-- The name that was asked for. -/
  requested : String
  /-- The name after redirection. -/
  resolved : String
  /-- The candidate that opened. -/
  location : String
deriving DecidableEq, Repr

namespace Identity

/-- An identity in one line; the requested name shows only where redirection changed it. -/
def display (i : Identity) : String :=
  if i.requested = i.resolved then i.resolved ++ " (" ++ i.location ++ ")"
  else i.requested ++ " -> " ++ i.resolved ++ " (" ++ i.location ++ ")"

/-- An identity as records show it. -/
def inspect (i : Identity) : String :=
  Text.record "LibraryIdentity"
    [("requested", Text.quote i.requested), ("resolved", Text.quote i.resolved),
      ("location", Text.quote i.location)]

end Identity

end PluginChain
