import PluginChain.Proofs.Host.Contracts
import PluginChain.Library.Priming

/-!
# Opening and closing libraries, seen from the journal

Main statements: what opening one library, priming, and closing libraries leave in the journal, each
as a contract.
-/

namespace PluginChain

open PluginChain.Action

variable {p : Platform} {ms : List (Nat × String)}

namespace OpenLibrary

/-- A library that opened has joined the modules that were open. -/
def Joined (ms : List (Nat × String)) (sharing : Sharing) {ε : Type} :
    Except ε (OpenLibrary p) → Host p → Prop :=
  Outcome (fun l h => l.sharing = sharing ∧ h.Shows (.entered ms l.slot sharing))
    fun _ h => h.Shows (.gathering ms)

theorem attempt_meets (candidate : String) (sharing : Sharing) :
    Meets (p := p) (·.Shows (.gathering ms)) (attempt candidate sharing)
      (Outcome (fun opened h => h.Shows (.entered ms (opened.2, candidate) sharing))
        fun _ h => h.Shows (.gathering ms)) := by
  intro h hshows
  simp only [attempt, run_bind, Host.run_nextSerial, Host.run_ask]
  -- The posture goes by the number that the host gives, so the answer is looked at on the host
  -- itself.
  cases (p.answer (.openModule candidate sharing) h.world).1 with
  | error reason => exact hshows.append (.single .refused)
  | ok module => exact hshows.append (.single .opened)

theorem firstOf_meets (requested resolved : String) (sharing : Sharing) (names : List String)
    (reason : String) :
    Meets (p := p) (·.Shows (.gathering ms)) (firstOf requested resolved sharing reason names)
      (Joined ms sharing) := by
  induction names generalizing reason with
  | nil => exact .pure fun _ h => h
  | cons candidate rest ih =>
    rw [firstOf]
    refine (attempt_meets candidate sharing).bind ?_
    rintro (reason | ⟨module, serial⟩)
    · exact .seq (Host.notify_meets _) (ih reason)
    · exact .seq (Host.notify_meets _) (.pure fun _ h => ⟨rfl, h⟩)

theorem redirect_meets (redirects : Redirects) (name : String) {a : Posture} :
    Meets (p := p) (·.Shows a) (redirect redirects name) fun _ h => h.Shows a := by
  unfold redirect
  split
  · exact .seq (Host.notify_meets _) (.pure fun _ h => h)
  · exact .pure fun _ h => h

theorem acquire_meets (redirects : Redirects) (name : String) (paths : List String)
    (sharing : Sharing) :
    Meets (p := p) (·.Shows (.gathering ms)) (acquire redirects name paths sharing)
      (Joined ms sharing) := by
  unfold acquire
  refine (redirect_meets redirects name).bind fun resolved => ?_
  extract_lets rest
  have hrest : Meets (·.Shows (.gathering ms)) (rest ()) (Joined ms sharing) := by
    refine Meets.bind (firstOf_meets name resolved sharing _ _) ?_
    rintro (reason | l)
    · exact .seq (Host.notify_meets _) (.pure fun _ h => h)
    · exact .pure fun _ h => h
  split
  · exact .seq (Host.notify_meets _) hrest
  · exact hrest

/-- Closing a library is one event. -/
theorem close_meets (l : OpenLibrary p) {a b : Posture}
    (hstep : ∀ n, Step ⟨n, a⟩ (.closed l.serial l.identity.location) ⟨n, b⟩) :
    Meets (·.Shows a) l.close fun _ h => h.Shows b :=
  .seq (Host.notify_meets _) (Host.ask_meets fun n _ => hstep n)

end OpenLibrary

/-- Only auxiliary libraries are open, whether or not one of them was closed already. -/
inductive Posture.Auxiliary (ms : List (Nat × String)) : Posture → Prop
  | gathering : Auxiliary ms (.gathering ms)
  | left : Auxiliary ms (.left ms)

theorem Posture.Auxiliary.eq_idle {a : Posture} (h : Auxiliary [] a) : a = .idle := by
  cases h <;> rfl

/-- The newest auxiliary library may be closed. -/
theorem Posture.Auxiliary.step {a : Posture} {m : Nat × String} (h : Auxiliary (ms ++ [m]) a)
    (n : Nat) :
    Step ⟨n, a⟩ (.closed m.1 m.2) ⟨n, .left ms⟩ := by
  cases h with
  | gathering => exact .closedFirst
  | left =>
    rw [Posture.left, if_neg (by simp)]
    exact .closedNext

namespace Primed

/-- The primed libraries as modules that are open, oldest first. -/
def slots (primed : Primed p) : List (Nat × String) :=
  primed.libraries.map (·.slot)

theorem acquire_meets (redirects : Redirects) (paths names : List String) :
    Meets (p := p) (·.Shows (.gathering ms)) (acquire redirects paths names) fun primed h =>
      h.Shows (.gathering (ms ++ primed.slots)) := by
  induction names generalizing ms with
  | nil =>
    apply Meets.pure
    intro h hshows
    simpa [slots] using hshows
  | cons name rest ih =>
    rw [acquire]
    refine (OpenLibrary.acquire_meets redirects name paths .global).bind ?_
    rintro (error | l)
    · refine .seq (Host.notify_meets _) (ih.bind fun primed => .pure ?_)
      exact fun h hshows => hshows
    · refine .of_and fun _ => .seq (Host.notify_meets _) (ih.bind fun primed => .pure ?_)
      intro h hshows
      simpa [slots] using hshows

/-- Closing libraries, newest first, until none is open. -/
theorem closeEach_meets {a : Posture} (libraries : List (OpenLibrary p))
    (ha : a.Auxiliary (libraries.reverse.map (·.slot))) :
    Meets (·.Shows a) (closeEach libraries) fun _ h => h.Shows .idle := by
  induction libraries generalizing a with
  | nil =>
    apply Meets.pure
    intro h hshows
    exact ha.eq_idle ▸ hshows
  | cons l rest ih =>
    rw [List.reverse_cons, List.map_append, List.map_singleton] at ha
    exact .seq (Host.notify_meets _) (.seq (l.close_meets ha.step) (ih .left))

theorem release_meets {a : Posture} (primed : Primed p) (ha : a.Auxiliary primed.slots) :
    Meets (·.Shows a) primed.release fun _ h => h.Shows .idle := by
  refine .seq (closeEach_meets _ ?_) (.pure fun _ h => h)
  rwa [List.reverse_reverse]

end Primed

end PluginChain
