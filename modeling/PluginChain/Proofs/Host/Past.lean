import PluginChain.Host.Basic

/-!
# Hosts with a past

The journals of a host and the numbers of its modules grow from action to action, and no action
reads what was there before it. `h.after past` is the host `h` with the journals of `past` in front
of its own and its modules numbered on from those of `past`. `Action.Follows` says of two actions
that the second does on a host with a past what the first does on the host without it.

Main statements: the rules for `Follows`, and that every request to the host follows itself.
-/

namespace PluginChain

variable {p : Platform} {α β γ δ : Type}

/-- The event with the numbers of modules `n` higher. -/
def Event.later (n : Nat) : Event → Event
  | refused candidate sharing reason => refused candidate sharing reason
  | opened serial candidate sharing => opened (n + serial) candidate sharing
  | lookedUp serial location symbol present => lookedUp (n + serial) location symbol present
  | called call record => called call { record with serial := n + record.serial }
  | closed serial location => closed (n + serial) location

/-- The request for modules with numbers `n` higher. -/
def Request.later (n : Nat) : Request p α → Request p α
  | openModule candidate sharing => openModule candidate sharing
  | lookup module slot symbol => lookup module (n + slot.1, slot.2) symbol
  | closeModule module slot => closeModule module (n + slot.1, slot.2)
  | call serial function made => call (n + serial) function made

theorem Platform.answer_later (n : Nat) (request : Request p α) :
    p.answer (request.later n) = p.answer request := by
  cases request <;> rfl

theorem Request.event_later (n m : Nat) (request : Request p α) (answer : α) :
    (request.later n).event (n + m) answer = (request.event m answer).later n := by
  cases request with
  | openModule => cases answer <;> rfl
  | _ => rfl

theorem Event.length_opened?_later (n : Nat) (e : Event) :
    (e.later n).opened?.toList.length = e.opened?.toList.length := by
  cases e <;> rfl

/-- The host with the journals of `past` in front of its own, and its modules numbered on from those
    of `past`. -/
def Host.after (h past : Host p) : Host p where
  world := h.world
  opened := past.opened + h.opened
  events := past.events ++ h.events.map (Event.later past.opened)
  notices := past.notices ++ h.notices

/-- A host is a host without journals after its own past. -/
theorem Host.new_after (h : Host p) : ({ world := h.world } : Host p).after h = h := by
  simp [after]

namespace Action

/-- With `past` behind it, `again` does what `act` does without it; `f` is what the numbers that are
    higher make of the result. -/
def Follows (past : Host p) (f : α → β) (act : Action p α) (again : Action p β) : Prop :=
  ∀ h : Host p, again.run (h.after past) = (f (act.run h).1, (act.run h).2.after past)

namespace Follows

variable {past : Host p} {f : α → γ} {g : β → δ} {act : Action p α} {again : Action p γ}

theorem pure {a : α} {c : γ} (h : c = f a) : Follows past f (Pure.pure a) (Pure.pure c) := by
  intro host
  rw [h]
  rfl

theorem bind {next : α → Action p β} {nextAgain : γ → Action p δ} (hact : Follows past f act again)
    (hnext : ∀ a, Follows past g (next a) (nextAgain (f a))) :
    Follows past g (act >>= next) (again >>= nextAgain) := by
  intro host
  rw [run_bind, run_bind, hact host]
  exact hnext _ _

/-- An action whose result is not used, before another one. -/
theorem seq {next : Action p β} {nextAgain : Action p δ} (hact : Follows past f act again)
    (hnext : Follows past g next nextAgain) :
    Follows past g (act >>= fun _ => next) (again >>= fun _ => nextAgain) :=
  hact.bind fun _ => hnext

end Follows

end Action

namespace Host

open PluginChain.Action

variable {past : Host p}

theorem ask_follows (request : Request p α) :
    Follows past id (ask request) (ask (request.later past.opened)) := by
  intro h
  simp only [run_ask, after, Platform.answer_later, Request.event_later, Event.length_opened?_later,
    Nat.add_assoc, List.map_append, List.map_cons, List.map_nil, List.append_assoc, id]

theorem notify_follows (n : Notice) : Follows past id (notify n) (notify n) := by
  intro h
  simp [after]

theorem nextSerial_follows : Follows (p := p) past (past.opened + ·) nextSerial nextSerial :=
  fun _ => rfl

end Host

end PluginChain
