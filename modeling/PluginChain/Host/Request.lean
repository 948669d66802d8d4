import PluginChain.Host.Platform
import PluginChain.Host.Event

/-!
# Requests

What a session can ask of a platform. A request says both what the platform is asked for and, once
it is answered, which event that is: the one cannot be had without the other.
-/

namespace PluginChain

variable {p : Platform} {α : Type}

/-- What a call into the plugin gives back when it returns. -/
abbrev Call.Answer : Call → Type
  | startUp | shutDown | setAssets _ => Unit
  | getAssets => Option (List UInt8)
  | runSync .. | runAsync .. => Bool

/-- Makes a call of the function at an address. -/
def Platform.call (p : Platform) (function : p.Address) :
    (made : Call) → StateM p.World (Ending made.Answer)
  | .startUp => p.startUp function
  | .shutDown => p.shutDown function
  | .setAssets dir => p.setAssets function dir
  | .getAssets => p.getAssets function
  | .runSync input output timeout => p.runSync function input output timeout
  | .runAsync input output callback => p.runAsync function input output callback

/-- What a platform can be asked for, with the type of the answer. Of an open module a request
    gives, besides the module itself, the number and the path that it goes by in the journal. -/
inductive Request (p : Platform) : Type → Type where
  | openModule (candidate : String) (sharing : Sharing) : Request p (Except String p.Module)
  | lookup (module : p.Module) (slot : Nat × String) (symbol : String) :
    Request p (Lookup p.Address)
  | closeModule (module : p.Module) (slot : Nat × String) : Request p Unit
  | call (serial : Nat) (function : p.Address) (made : Call) : Request p (Ending made.Answer)

/-- Answers a request. -/
def Platform.answer (p : Platform) : Request p α → StateM p.World α
  | .openModule candidate sharing => p.openModule candidate sharing
  | .lookup module _ symbol => p.lookup module symbol
  | .closeModule module _ => p.closeModule module
  | .call _ function made => p.call function made

/-- The event that an answered request is; `n` modules have opened before. -/
def Request.event (n : Nat) : Request p α → α → Event
  | openModule candidate sharing, .error reason => .refused candidate sharing reason
  | openModule candidate sharing, .ok _ => .opened n candidate sharing
  | lookup _ slot symbol, answer => .lookedUp slot.1 slot.2 symbol answer.address?.isSome
  | closeModule _ slot, () => .closed slot.1 slot.2
  | call serial _ made, ending => .called made { serial, completed := ending.completed }

end PluginChain
