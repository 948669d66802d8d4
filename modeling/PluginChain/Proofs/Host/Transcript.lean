import PluginChain.Proofs.Host.Ledger

/-!
# The journal as a transcript

Actions are made of requests to the platform and of notices, and of nothing else. Whatever is made
so leaves in the journal the transcript of its requests: one event for each, in order, which says
what was asked and what the answer was. So the world of the host is the one that these requests led
to, and nothing was done to it that the journal does not tell.

Main statements:
* `Action.Made.transcribes`: an action that is made of requests and notices leaves the transcript of
  its requests.
* `Action.Made.moves_eq`: if none of the notices is of a move, the action moves nothing.
-/

namespace PluginChain

variable {p : Platform} {α : Type}

/-! ## Transcripts -/

/-- The events are those of requests that are put to the platform one after the other, from the
    world `w` on, where `n` modules have opened, and the last of them leaves the world `w'`. -/
inductive Transcript (p : Platform) : Nat → p.World → List Event → p.World → Prop
  | nil (n : Nat) (w : p.World) : Transcript p n w [] w
  | cons {α : Type} {n : Nat} {w w₁ w₂ : p.World} {es : List Event} (request : Request p α)
      {answer : α} (first : p.answer request w = (answer, w₁))
      (rest : Transcript p (n + (request.event n answer).opened?.toList.length) w₁ es w₂) :
    Transcript p n w (request.event n answer :: es) w₂

theorem Transcript.append {n : Nat} {w w₁ w₂ : p.World} {es fs : List Event}
    (hes : Transcript p n w es w₁)
    (hfs : Transcript p (n + (es.filterMap Event.opened?).length) w₁ fs w₂) :
    Transcript p n w (es ++ fs) w₂ := by
  induction hes with
  | nil => exact hfs
  | cons request first _ ih =>
    refine .cons request first (ih ?_)
    rwa [Nat.add_assoc, ← Event.length_opened?_cons]

namespace Host

/-- From `h` the host got to `h'` by requests whose transcript is what the journal gained. -/
def Transcribes (h h' : Host p) : Prop :=
  ∃ es, h'.events = h.events ++ es ∧ h'.opened = h.opened + (es.filterMap Event.opened?).length ∧
    Transcript p h.opened h.world es h'.world

theorem Transcribes.refl (h : Host p) : h.Transcribes h :=
  ⟨[], (List.append_nil _).symm, rfl, .nil _ _⟩

theorem Transcribes.trans {h h₁ h₂ : Host p} (hfirst : h.Transcribes h₁)
    (hnext : h₁.Transcribes h₂) : h.Transcribes h₂ := by
  obtain ⟨es, hes, hopened, hfirst⟩ := hfirst
  obtain ⟨fs, hfs, hopened₂, hnext⟩ := hnext
  refine ⟨es ++ fs, by rw [hfs, hes, List.append_assoc], ?_, hfirst.append (hopened ▸ hnext)⟩
  rw [hopened₂, hopened, List.filterMap_append, List.length_append, Nat.add_assoc]

theorem transcribes_ask (request : Request p α) (h : Host p) :
    h.Transcribes ((ask request).run h).2 := by
  refine ⟨[request.event h.opened (p.answer request h.world).1], rfl, ?_,
    .cons request rfl (.nil _ _)⟩
  rw [Event.length_opened?_cons]
  rfl

end Host

/-! ## What actions are made of -/

namespace Action

/-- The action is made of requests and of notices that `Says` allows, and of nothing else. -/
inductive Made (Says : Notice → Prop) : {α : Type} → Action p α → Prop
  | pure {α : Type} (a : α) : Made Says (Pure.pure a)
  | bind {α β : Type} {act : Action p α} {next : α → Action p β} (first : Made Says act)
      (rest : ∀ a, Made Says (next a)) : Made Says (act >>= next)
  | ask {α : Type} (request : Request p α) : Made Says (Host.ask request)
  | notify {n : Notice} (h : Says n) : Made Says (Host.notify n)
  | nextSerial : Made Says Host.nextSerial

namespace Made

variable {β : Type} {Says Says' : Notice → Prop} {act : Action p α}

/-- A notice that is of no move. -/
theorem still {n : Notice} (h : n.move? = none) : Made (p := p) (·.move? = none) (Host.notify n) :=
  .notify h

/-- An action whose result is not used, before another one. -/
theorem seq {next : Action p β} (hact : Made Says act) (hnext : Made Says next) :
    Made Says (act >>= fun _ => next) :=
  hact.bind fun _ => hnext

theorem mono (h : ∀ n, Says n → Says' n) (hact : Made Says act) : Made Says' act := by
  induction hact with
  | pure a => exact .pure a
  | bind _ _ ihfirst ihrest => exact ihfirst.bind ihrest
  | ask request => exact .ask request
  | notify hn => exact .notify (h _ hn)
  | nextSerial => exact .nextSerial

theorem freely (hact : Made Says act) : Made (fun _ => True) act :=
  hact.mono fun _ _ => trivial

/-- What is made of requests and notices leaves the transcript of its requests. -/
theorem transcribes (hact : Made Says act) (h : Host p) : h.Transcribes (act.run h).2 := by
  induction hact generalizing h with
  | pure => exact .refl h
  | bind _ _ ihfirst ihrest => exact (ihfirst h).trans (ihrest _ _)
  | ask request => exact h.transcribes_ask request
  | notify => exact .refl h
  | nextSerial => exact .refl h

/-- What gives no notice of a move moves nothing. -/
theorem moves_eq (hact : Made (·.move? = none) act) (h : Host p) :
    (act.run h).2.moves = h.moves := by
  induction hact generalizing h with
  | pure => rfl
  | bind _ _ ihfirst ihrest => exact (ihrest _ _).trans (ihfirst h)
  | ask => rfl
  | notify hn => simp [Host.moves, hn]
  | nextSerial => rfl

end Made

end Action

end PluginChain
