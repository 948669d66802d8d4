import PluginChain.Proofs.Host.Past
import PluginChain.Library.Priming

/-!
# Libraries on a host with a past

Opening, priming and closing libraries do not depend on what happened before, but for the numbers of
the modules.
-/

namespace PluginChain

open PluginChain.Action

variable {p : Platform} {past : Host p}

namespace OpenLibrary

/-- The library with its module numbered `n` higher. -/
def later (n : Nat) (l : OpenLibrary p) : OpenLibrary p :=
  { l with serial := n + l.serial }

theorem attempt_follows (candidate : String) (sharing : Sharing) :
    Follows past (Except.map (Prod.map id (past.opened + ·))) (attempt candidate sharing)
      (attempt candidate sharing) := by
  refine Host.nextSerial_follows.bind fun serial => ?_
  refine (Host.ask_follows (.openModule candidate sharing)).bind ?_
  rintro (reason | module)
  · exact .pure rfl
  · exact .pure rfl

theorem firstOf_follows (requested resolved : String) (sharing : Sharing) (names : List String)
    (reason : String) :
    Follows past (Except.map (later past.opened)) (firstOf requested resolved sharing reason names)
      (firstOf requested resolved sharing reason names) := by
  induction names generalizing reason with
  | nil => exact .pure rfl
  | cons candidate rest ih =>
    rw [firstOf]
    refine (attempt_follows candidate sharing).bind ?_
    rintro (reason | ⟨module, serial⟩)
    · exact (Host.notify_follows _).seq (ih reason)
    · exact (Host.notify_follows _).seq (.pure rfl)

theorem redirect_follows (redirects : Redirects) (name : String) :
    Follows past id (redirect redirects name) (redirect redirects name) := by
  unfold redirect
  split
  · exact (Host.notify_follows _).seq (.pure rfl)
  · exact .pure rfl

theorem acquire_follows (redirects : Redirects) (name : String) (paths : List String)
    (sharing : Sharing) :
    Follows past (Except.map (later past.opened)) (acquire redirects name paths sharing)
      (acquire redirects name paths sharing) := by
  refine (redirect_follows redirects name).bind fun resolved => ?_
  extract_lets rest
  have hrest : Follows past (Except.map (later past.opened)) (rest ()) (rest ()) := by
    refine (firstOf_follows name resolved sharing _ _).bind ?_
    rintro (reason | l)
    · exact (Host.notify_follows _).seq (.pure rfl)
    · exact .pure rfl
  split
  · exact (Host.notify_follows _).seq hrest
  · exact hrest

theorem close_follows (l : OpenLibrary p) : Follows past id l.close (l.later past.opened).close :=
  (Host.notify_follows _).seq (Host.ask_follows (.closeModule l.module l.slot))

end OpenLibrary

namespace Primed

/-- The primed libraries with their modules numbered `n` higher. -/
def later (n : Nat) (primed : Primed p) : Primed p :=
  { primed with libraries := primed.libraries.map (·.later n) }

theorem identities_later (n : Nat) (primed : Primed p) :
    (primed.later n).identities = primed.identities := by
  simp [later, identities, OpenLibrary.later]

theorem acquire_follows (redirects : Redirects) (paths names : List String) :
    Follows past (later past.opened) (acquire redirects paths names)
      (acquire redirects paths names) := by
  induction names with
  | nil => exact .pure rfl
  | cons name rest ih =>
    rw [acquire]
    refine (OpenLibrary.acquire_follows redirects name paths .global).bind ?_
    rintro (error | l)
    · exact (Host.notify_follows _).seq (ih.bind fun primed => .pure rfl)
    · exact (Host.notify_follows _).seq (ih.bind fun primed => .pure rfl)

theorem closeEach_follows (libraries : List (OpenLibrary p)) :
    Follows past id (closeEach libraries) (closeEach (libraries.map (·.later past.opened))) := by
  induction libraries with
  | nil => exact .pure rfl
  | cons l rest ih => exact (Host.notify_follows _).seq (l.close_follows.seq ih)

theorem release_follows (primed : Primed p) :
    Follows past (later past.opened) primed.release (primed.later past.opened).release := by
  refine Follows.seq (f := id) ?_ (.pure rfl)
  simp only [later, ← List.map_reverse]
  exact closeEach_follows _

end Primed

end PluginChain
