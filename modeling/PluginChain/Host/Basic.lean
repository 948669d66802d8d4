import PluginChain.Host.Request
import PluginChain.Host.Notice

/-!
# The host of a session

The host is a platform at work: its world, the number of modules opened so far, and the two journals
of the run, its events and its notices, each in the order in which they came. Sessions act on a host
through the actions below; the platform is asked in one way only, and that enters the event of the
request into the journal.
-/

namespace PluginChain

/-- A platform at work, with the journals of the run. -/
structure Host (p : Platform) where
  /-- The state of the platform. -/
  world : p.World
  /-- How many modules have opened so far. -/
  opened : Nat := 0
  /-- What was done to the outside, first things first. -/
  events : List Event := []
  /-- What was given notice of, first things first. -/
  notices : List Notice := []

/-- Something that is done on a host and has a result. -/
def Action (p : Platform) (α : Type) := Host p → α × Host p

namespace Action

variable {p : Platform} {α β : Type}

/-- Does it: the result, and the host as it is left. -/
def run (action : Action p α) (h : Host p) : α × Host p := action h

instance : Monad (Action p) where
  pure a := fun h => (a, h)
  bind action next := fun h =>
    match action h with
    | (a, h) => next a h

@[simp] theorem run_pure (a : α) (h : Host p) : (pure a : Action p α).run h = (a, h) := rfl

@[simp] theorem run_bind (action : Action p α) (next : α → Action p β) (h : Host p) :
    (action >>= next).run h = (next (action.run h).1).run (action.run h).2 := rfl

@[simp] theorem run_map (f : α → β) (action : Action p α) (h : Host p) :
    (f <$> action).run h = (f (action.run h).1, (action.run h).2) := rfl

instance : LawfulMonad (Action p) :=
  .mk' (Action p) (fun _ => rfl) (fun _ _ => rfl) (fun _ _ _ => rfl)

end Action

namespace Host

variable {p : Platform}

/-- The modules that are open, oldest first. -/
def openModules (h : Host p) : List (Nat × String) :=
  Event.openAfter h.events

/-- Puts a request to the platform and enters its event into the journal. -/
def ask {α : Type} (request : Request p α) : Action p α := fun h =>
  match p.answer request h.world with
  | (answer, world) =>
    let event := request.event h.opened answer
    (answer, { h with
      world
      opened := h.opened + event.opened?.toList.length
      events := h.events ++ [event] })

/-- Enters a notice into the journal. -/
def notify (n : Notice) : Action p Unit := fun h =>
  ((), { h with notices := h.notices ++ [n] })

/-- The number that the next module to open gets. -/
def nextSerial : Action p Nat := fun h =>
  (h.opened, h)

/-- Everything outside the session becomes `world`. -/
def become (world : p.World) : Action p Unit := fun h =>
  ((), { h with world })

/-! ## What each action leaves -/

@[simp] theorem run_ask {α : Type} (request : Request p α) (h : Host p) :
    (ask request).run h =
      ((p.answer request h.world).1, {
        world := (p.answer request h.world).2
        opened :=
          h.opened + (request.event h.opened (p.answer request h.world).1).opened?.toList.length
        events := h.events ++ [request.event h.opened (p.answer request h.world).1]
        notices := h.notices }) := rfl

@[simp] theorem run_notify (n : Notice) (h : Host p) :
    (notify n).run h = ((), { h with notices := h.notices ++ [n] }) := rfl

@[simp] theorem run_nextSerial (h : Host p) :
    (nextSerial : Action p Nat).run h = (h.opened, h) := rfl

end Host

end PluginChain
