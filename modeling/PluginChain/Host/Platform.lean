import PluginChain.Library.Identity

/-!
# Platforms

A platform is what a session cannot see into: the loader of the operating system and the code of the
plugin. It has a state of its own, its *world*, and every request may change that world. Nothing is
assumed of a platform: the same request may be answered differently each time.

In `osrkit` the loader is a `LoaderBackend`: `openModule` is its `open`, `lookup` its `symbol`, and
`closeModule` what dropping a module does. The calls are those into the vendor's library.
-/

namespace PluginChain

/-- What the loader answers when it is asked for a symbol. -/
inductive Lookup (α : Type) where
  /-- The library has no such symbol. -/
  | absent
  /-- The library has the symbol and its address is null. -/
  | null
  /-- The symbol is at this address. -/
  | found (address : α)

namespace Lookup

/-- The address that a lookup found; a null address counts as none. -/
def address? {α : Type} : Lookup α → Option α
  | absent => none
  | null => none
  | found a => some a

end Lookup

/-- What plugin code that unwinds carries with it. -/
inductive Payload where
  /-- A message. -/
  | text (message : String)
  /-- Something that is no text. -/
  | other
deriving DecidableEq, Repr

namespace Payload

/-- The wording of a payload. -/
def detail : Payload → String
  | text message => message
  | other => "non-string panic payload"

end Payload

/-- How a call into the plugin ends. -/
inductive Ending (α : Type) where
  | returned (value : α)
  | unwound (payload : Payload)

/-- Whether a call returned. -/
def Ending.completed {α : Type} : Ending α → Bool
  | returned _ => true
  | unwound _ => false

/-- A loader together with the plugins it may load. Pointers are 64 bits wide and a null pointer is
    zero; text crosses the boundary as its bytes. -/
structure Platform where
  /-- The state of everything outside the session. -/
  World : Type
  /-- An opened module. -/
  Module : Type
  /-- The address of a symbol, never null. -/
  Address : Type
  /-- Attempts one open; the text of a failure is the loader's own. -/
  openModule (candidate : String) (sharing : Sharing) : StateM World (Except String Module)
  /-- Looks a symbol up in an open module. -/
  lookup (module : Module) (symbol : String) : StateM World (Lookup Address)
  /-- Closes a module. -/
  closeModule (module : Module) : StateM World Unit
  /-- Calls the function that starts the plugin up. -/
  startUp (function : Address) : StateM World (Ending Unit)
  /-- Calls the function that shuts the plugin down. -/
  shutDown (function : Address) : StateM World (Ending Unit)
  /-- Hands the plugin the bytes of its assets directory, which hold no NUL. -/
  setAssets (function : Address) (dir : List UInt8) : StateM World (Ending Unit)
  /-- Asks the plugin for its assets directory: a null pointer, or the bytes that the pointer leads
      to. -/
  getAssets (function : Address) : StateM World (Ending (Option (List UInt8)))
  /-- Runs one pass and waits for it. -/
  runSync (function : Address) (input output : UInt64) (timeout : Int32) :
    StateM World (Ending Bool)
  /-- Submits one pass; the plugin reports its end through the callback. -/
  runAsync (function : Address) (input output callback : UInt64) : StateM World (Ending Bool)

end PluginChain
