import PluginChain.Proofs.Host.Conduct
import PluginChain.Host.Basic

/-!
# Contracts of actions

`Action.Meets Pre act Post` says what an action leaves: from every host with `Pre`, a result and a
host with `Post`. The contracts that matter here speak of journals: `h.Shows a` says that the whole
journal of `h` is well-conducted and has led to the posture `a`.
-/

namespace PluginChain

variable {p : Platform} {α β : Type}

namespace Action

/-- From every host with `Pre` the action leaves a result and a host with `Post`. -/
def Meets (Pre : Host p → Prop) (act : Action p α) (Post : α → Host p → Prop) : Prop :=
  ∀ h, Pre h → Post (act.run h).1 (act.run h).2

/-- One postcondition for success and one for failure. -/
def Outcome {ε : Type} (Success : α → Host p → Prop) (Failure : ε → Host p → Prop) :
    Except ε α → Host p → Prop
  | .ok a, h => Success a h
  | .error e, h => Failure e h

namespace Meets

variable {Pre Mid : Host p → Prop} {act : Action p α} {Post Post' : α → Host p → Prop}

theorem pure {a : α} (h : ∀ host, Pre host → Post a host) : Meets Pre (Pure.pure a) Post := h

theorem bind {Goal : β → Host p → Prop} {next : α → Action p β} (hact : Meets Pre act Post)
    (hnext : ∀ a, Meets (Post a) (next a) Goal) : Meets Pre (act >>= next) Goal :=
  fun host hpre => hnext _ _ (hact host hpre)

/-- An action whose result is not used, before another one. -/
theorem seq {Goal : β → Host p → Prop} {next : Action p β} {first : Action p α}
    (hfirst : Meets Pre first fun _ => Mid) (hnext : Meets Mid next Goal) :
    Meets Pre (first >>= fun _ => next) Goal :=
  hfirst.bind fun _ => hnext

/-- A part of the precondition that does not speak of the host. -/
theorem of_and {φ : Prop} (h : φ → Meets Pre act Post) :
    Meets (fun host => φ ∧ Pre host) act Post :=
  fun host hpre => h hpre.1 host hpre.2

/-- A precondition with a witness. -/
theorem of_exists {ι : Sort*} {Cases : ι → Host p → Prop} (h : ∀ i, Meets (Cases i) act Post) :
    Meets (fun host => ∃ i, Cases i host) act Post :=
  fun host ⟨i, hpre⟩ => h i host hpre

theorem imp (hact : Meets Pre act Post) (h : ∀ a host, Post a host → Post' a host) :
    Meets Pre act Post' :=
  fun host hpre => h _ _ (hact host hpre)

end Meets

end Action

namespace Host

open PluginChain.Action

variable {a b : Posture}

/-- The journal of the host is well-conducted and has led to the posture `a`. -/
def Shows (h : Host p) (a : Posture) : Prop :=
  Conduct .start h.events ⟨h.opened, a⟩

theorem shows_new (world : p.World) : Shows (p := p) { world } .idle := .nil _

theorem notify_meets (n : Notice) : Meets (p := p) (·.Shows a) (notify n) fun _ h => h.Shows a :=
  fun _ h => h

/-- A request whose event is admissible, whatever it is answered. -/
theorem ask_meets {request : Request p α} {next : α → Posture}
    (hstep : ∀ n answer, Step ⟨n, a⟩ (request.event n answer)
      ⟨n + (request.event n answer).opened?.toList.length, next answer⟩) :
    Meets (·.Shows a) (ask request) fun answer h => h.Shows (next answer) :=
  fun _ h => h.append (.single (hstep _ _))

theorem become_meets (world : p.World) : Meets (·.Shows a) (become world) fun _ h => h.Shows a :=
  fun _ h => h

end Host

end PluginChain
