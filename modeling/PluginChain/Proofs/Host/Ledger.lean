import PluginChain.Host.Basic

/-!
# What an action does

The ledger of a host is its world, the number of its modules, its events and, of its notices, those
that say where the session went. `act.Does l a l'` says what an action does to every host with the
ledger `l`: its result is `a`, and the ledger is `l'` then. Where a contract bounds what an action
leaves, `Does` names it.

Main statements: the rules for `Does`, one for each thing that is done on a host.
-/

namespace PluginChain

variable {p : Platform} {α β γ : Type}

/-- The stages that the session went from and to, if that is what a notice says. -/
def Notice.move? : Notice → Option (Stage × Stage)
  | moved old new => some (old, new)
  | _ => none

/-- How a session moved so far, first things first. -/
def Host.moves (h : Host p) : List (Stage × Stage) :=
  h.notices.filterMap Notice.move?

/-- What there is to know of a host, but for the notices that say of no move. -/
structure Ledger (p : Platform) where
  /-- The state of the platform. -/
  world : p.World
  /-- How many modules have opened so far. -/
  opened : Nat
  /-- What was done to the outside, first things first. -/
  events : List Event
  /-- How the session moved, first things first. -/
  moves : List (Stage × Stage)

/-- The ledger of a host. -/
def Host.ledger (h : Host p) : Ledger p :=
  ⟨h.world, h.opened, h.events, h.moves⟩

@[simp] theorem Host.events_ledger (h : Host p) : h.ledger.events = h.events := rfl

@[simp] theorem Host.moves_ledger (h : Host p) : h.ledger.moves = h.moves := rfl

/-- Each event opens one module or none. -/
theorem Event.length_opened?_cons (e : Event) (es : List Event) :
    ((e :: es).filterMap opened?).length = e.opened?.toList.length +
      (es.filterMap opened?).length := by
  cases e <;> simp [List.filterMap_cons, Nat.add_comm]

namespace Ledger

/-- The ledger after the world became `world` and `events` and `moves` were entered. -/
def add (l : Ledger p) (world : p.World) (events : List Event)
    (moves : List (Stage × Stage)) : Ledger p where
  world := world
  opened := l.opened + (events.filterMap Event.opened?).length
  events := l.events ++ events
  moves := l.moves ++ moves

variable (l : Ledger p) (w v : p.World) (es fs : List Event) (ms ns : List (Stage × Stage))

@[simp] theorem world_add : (l.add w es ms).world = w := rfl

@[simp] theorem opened_add :
    (l.add w es ms).opened = l.opened + (es.filterMap Event.opened?).length := rfl

@[simp] theorem events_add : (l.add w es ms).events = l.events ++ es := rfl

@[simp] theorem moves_add : (l.add w es ms).moves = l.moves ++ ms := rfl

@[simp] theorem add_add : (l.add w es ms).add v fs ns = l.add v (es ++ fs) (ms ++ ns) := by
  simp [add, Nat.add_assoc]

theorem add_nil : l.add l.world [] [] = l := by
  simp [add]

end Ledger

namespace Action

/-- On every host with the ledger `l` the action has the result `a` and leaves the ledger `l'`. -/
def Does (act : Action p α) (l : Ledger p) (a : α) (l' : Ledger p) : Prop :=
  ∀ h : Host p, h.ledger = l → (act.run h).1 = a ∧ (act.run h).2.ledger = l'

namespace Does

variable {l l₁ l₂ : Ledger p} {a : α} {b : β} {act : Action p α}

theorem pure : Does (Pure.pure a) l a l :=
  fun _ h => ⟨rfl, h⟩

theorem bind {next : α → Action p β} (hact : Does act l a l₁) (hnext : Does (next a) l₁ b l₂) :
    Does (act >>= next) l b l₂ := by
  intro h hl
  obtain ⟨hresult, hledger⟩ := hact h hl
  rw [run_bind, hresult]
  exact hnext _ hledger

/-- An action in two parts, before another one. -/
theorem bind_bind {b : γ} {c : β} {first : α → Action p γ} {next : γ → Action p β}
    (hact : Does (act >>= first) l b l₁) (hnext : Does (next b) l₁ c l₂) :
    Does (act >>= fun a => first a >>= next) l c l₂ := by
  rw [← bind_assoc]
  exact hact.bind hnext

/-- What an action does goes by the ledgers alone. -/
theorem of_eq {c : α} (h : Does act l a l₁) (hresult : a = c)
    (hledger : l₁ = l₂) : Does act l c l₂ :=
  hresult ▸ hledger ▸ h

end Does

end Action

namespace Host

open PluginChain.Action

variable {l : Ledger p}

/-- The events that were entered between two states of a host. -/
def eventsSince (old new : Host p) : List Event :=
  new.events.drop old.events.length

theorem notify_does {n : Notice} (hn : n.move? = none) : Does (notify n) l () l := by
  rintro h rfl
  simp [ledger, moves, hn]

theorem notify_moved_does (old new : Stage) :
    Does (notify (.moved old new)) l () (l.add l.world [] [(old, new)]) := by
  rintro h rfl
  simp [ledger, moves, Ledger.add, Notice.move?]

/-- A request comes to what the platform answers and leaves its event. -/
theorem ask_does (request : Request p α) {a : α} {w : p.World}
    (h : p.answer request l.world = (a, w)) :
    Does (ask request) l a (l.add w [request.event l.opened a] []) := by
  rintro host rfl
  have hanswer : p.answer request host.world = (a, w) := h
  simp only [run_ask, ledger, moves, Ledger.add, hanswer, Event.length_opened?_cons,
    List.filterMap_nil, List.length_nil, Nat.add_zero, List.append_nil, and_self]

theorem nextSerial_does : Does nextSerial l l.opened l := by
  rintro h rfl
  exact ⟨rfl, rfl⟩

end Host

end PluginChain
