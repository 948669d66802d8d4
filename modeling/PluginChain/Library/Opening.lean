import PluginChain.Host.Basic
import PluginChain.Library.Redirects
import PluginChain.Library.Candidates

/-!
# Opening a library

A requested name is redirected once; the candidates for the redirected name are attempted in order,
and the first that opens is the library. When none opens, the error names every candidate and gives
the loader's reason for the last one.

In `osrkit` an open library is a `LibraryHandle`, and `acquire` with its steps is `open`; `lookup`
is its `symbol`, and `close` what dropping it does.
-/

namespace PluginChain

variable {p : Platform}

/-- A library that is open on a host. -/
structure OpenLibrary (p : Platform) where
  /-- Its names. -/
  identity : Identity
  /-- How it was opened. -/
  sharing : Sharing
  /-- The module that the platform gave for it. -/
  module : p.Module
  /-- The number of that module. -/
  serial : Nat

namespace OpenLibrary

/-- The library as a module that is open: its number and the path it was opened from. -/
def slot (l : OpenLibrary p) : Nat × String :=
  (l.serial, l.identity.location)

/-- An open library as records show it. -/
def inspect (l : OpenLibrary p) : String :=
  Text.partialRecord "LibraryHandle" [("identity", l.identity.inspect), ("mode", l.sharing.inspect)]

/-- Looks a symbol up in the library. -/
def lookup (l : OpenLibrary p) (symbol : String) : Action p (Option p.Address) := do
  let answer ← Host.ask (.lookup l.module l.slot symbol)
  return answer.address?

/-- Closes the library. -/
def close (l : OpenLibrary p) : Action p Unit := do
  Host.notify (.closing l.identity.resolved)
  Host.ask (.closeModule l.module l.slot)

/-- Attempts one candidate: the module with its number, or the loader's reason. -/
def attempt (candidate : String) (sharing : Sharing) :
    Action p (Except String (p.Module × Nat)) := do
  let serial ← Host.nextSerial
  match ← Host.ask (.openModule candidate sharing) with
  | .error reason => return .error reason
  | .ok module => return .ok (module, serial)

/-- Attempts candidates in order until one opens. When none does, the result is the reason for the
    last one, or `reason` if there was none to attempt. -/
def firstOf (requested resolved : String) (sharing : Sharing) (reason : String) :
    List String → Action p (Except String (OpenLibrary p))
  | [] => return .error reason
  | candidate :: rest => do
    match ← attempt candidate sharing with
    | .ok (module, serial) =>
      Host.notify (.opened resolved candidate)
      return .ok { identity := ⟨requested, resolved, candidate⟩, sharing, module, serial }
    | .error reason =>
      Host.notify (.refused resolved candidate reason)
      firstOf requested resolved sharing reason rest

/-- Gives notice of a redirection, if the name has one, and yields the name to open. -/
def redirect (redirects : Redirects) (name : String) : Action p String := do
  match redirects.target? name with
  | some target =>
    Host.notify (.redirecting name target)
    return target
  | none => return name

/-- Opens the library that `name` stands for. -/
def acquire (redirects : Redirects) (name : String) (paths : List String) (sharing : Sharing) :
    Action p (Except LoadError (OpenLibrary p)) := do
  let resolved ← redirect redirects name
  if sharing = .global then Host.notify (.sharingGlobally resolved)
  match ← firstOf name resolved sharing "unknown error" (candidates resolved paths) with
  | .ok library => return .ok library
  | .error reason =>
    Host.notify (.exhausted resolved reason)
    return .error (.notFound resolved (candidates resolved paths) reason)

end OpenLibrary

end PluginChain
