import Mathlib.Data.List.Perm.Basic
import PluginChain.Proofs.Library.Opening
import PluginChain.Session.Basic

/-!
# Priming and giving back

Priming tries one auxiliary library after the other, whatever became of those before. It splits the
names: what opened is held, for the whole process and in the order of opening, and the other names
are the misses. What is held is closed newest first, once, when the collection is released or when
its holder drops it.

Main statements:
* `Primed.acquire_gathered`: what priming comes to.
* `Primed.givesBack`: what releasing and dropping a collection come to.
* `Primed.acquire_release`: both, and what is open after priming and releasing is what was open
  before.
-/

namespace PluginChain

open PluginChain.Action

variable {p : Platform}

namespace Primed

/-! ## Priming -/

/-- The libraries are what the trials opened. -/
theorem opened?_trials (sharing : Sharing) (trials : List (Trial p)) :
    (trials.flatMap (Trial.events sharing)).filterMap Event.opened? =
      (ofTrials trials).libraries.map (·.slot) := by
  rw [List.filterMap_flatMap]
  simp only [Trial.opened?_events, ofTrials]
  rw [List.filterMap_eq_flatMap_toList, List.map_flatMap]

theorem closed?_trials (sharing : Sharing) (trials : List (Trial p)) :
    ∀ e ∈ trials.flatMap (Trial.events sharing), e.closed? = none := by
  intro e he
  obtain ⟨t, -, he⟩ := List.mem_flatMap.1 he
  exact t.closed?_events sharing e he

/-- What opened goes by the names of the trials that opened something. -/
theorem Goes.requested {redirects : Redirects} {paths : List String} {n : Nat}
    {trials : List (Trial p)} {w w' : p.World} (h : Goes redirects paths n trials w w') :
    (ofTrials trials).identities.map (·.requested) =
      (trials.filter (·.library?.isSome)).map (·.name) := by
  induction h with
  | nil => rfl
  | cons first _ ih =>
    cases first with
    | opened _ => exact congrArg (List.cons _) ih
    | missed _ _ => exact ih

/-- What opens is opened for the whole process. -/
theorem Goes.global {redirects : Redirects} {paths : List String} {n : Nat}
    {trials : List (Trial p)} {w w' : p.World} (h : Goes redirects paths n trials w w') :
    ∀ library ∈ (ofTrials trials).libraries, library.sharing = .global ∧
      .opened library.serial library.identity.location .global ∈
        trials.flatMap (Trial.events .global) := by
  induction h with
  | nil => exact fun library hlibrary => absurd hlibrary List.not_mem_nil
  | @cons n t rest w w₁ w₂ first _ ih =>
    have hrest : ∀ library ∈ (ofTrials rest).libraries, library.sharing = .global ∧
        .opened library.serial library.identity.location .global ∈ (t :: rest).flatMap
          (Trial.events .global) := by
      intro library hlibrary
      obtain ⟨hsharing, hopened⟩ := ih library hlibrary
      exact ⟨hsharing, List.mem_append_right _ hopened⟩
    cases first with
    | opened _ =>
      exact List.forall_mem_cons.2 ⟨⟨rfl, List.mem_append_left _ (by simp [Trial.events])⟩, hrest⟩
    | missed _ _ => exact hrest

/-- What priming the libraries `names` came to, on the host `h`, which became `h'`. -/
structure Gathered (redirects : Redirects) (paths names : List String) (h : Host p)
    (primed : Primed p) (h' : Host p) : Prop where
  /-- There is a trial for each name, and nothing else is done to the outside. The names of those
      that opened a library and the names of the others make up `names`. -/
  trials : ∃ trials : List (Trial p), trials.map (·.name) = names ∧
    Goes redirects paths h.opened trials h.world h'.world ∧
    h'.events = h.events ++ trials.flatMap (Trial.events .global) ∧
    primed.libraries = trials.filterMap (·.library?) ∧
    primed.identities.map (·.requested) = (trials.filter (·.library?.isSome)).map (·.name) ∧
    primed.misses = (trials.filter (·.library?.isNone)).map (·.name)
  /-- Every library that is held was opened for the whole process. -/
  global : ∀ library ∈ primed.libraries, library.sharing = .global ∧
    .opened library.serial library.identity.location .global ∈ Host.eventsSince h h'
  /-- No module is held twice. -/
  serials : primed.libraries.map (·.serial) = List.range' h.opened primed.libraries.length
  /-- What is held is what is newly open, in that order. -/
  modules : h'.openModules = h.openModules ++ primed.libraries.map (·.slot)

theorem acquire_gathered (redirects : Redirects) (paths names : List String) (h : Host p) :
    Gathered redirects paths names h ((acquire redirects paths names).run h).1
      ((acquire redirects paths names).run h).2 := by
  obtain ⟨trials, w, rfl, hgoes⟩ := exists_goes (p := p) redirects paths names h.opened h.world
  obtain ⟨hprimed, hledger⟩ := acquire_does (l := h.ledger) hgoes rfl rfl h rfl
  generalize (acquire redirects paths (trials.map (·.name))).run h = r at hprimed hledger ⊢
  obtain ⟨primed, h'⟩ := r
  subst hprimed
  have hevents : h'.events = h.events ++ trials.flatMap (Trial.events .global) :=
    congrArg Ledger.events hledger
  obtain rfl : h'.world = w := congrArg Ledger.world hledger
  constructor
  case trials => exact ⟨trials, rfl, hgoes, hevents, rfl, hgoes.requested, rfl⟩
  case global =>
    rw [Host.eventsSince, hevents, List.drop_left]
    exact hgoes.global
  case serials => exact hgoes.serials
  case modules =>
    rw [Host.openModules, hevents, Event.openAfter_append,
      Event.foldl_applyTo_of_closed? (closed?_trials .global trials),
      opened?_trials, ← Host.openModules]

/-! ## Giving back -/

/-- What the holder of a collection does when it drops it. -/
def drop (primed : Primed p) : Action p Unit :=
  Holdings.releasePrimed { primed := some primed }

/-- How what is held is given back on the host `h`. -/
structure GivesBack (primed : Primed p) (h : Host p) : Prop where
  /-- A release closes every library once, newest first, and does nothing else to the outside. -/
  release :
    (primed.release.run h).2.events = h.events ++ OpenLibrary.closings primed.libraries.reverse
  /-- It leaves the names of the misses and nothing else. -/
  left : (primed.release.run h).1 = { libraries := [], misses := primed.misses }
  /-- After it there is nothing to release and nothing to drop. -/
  again :
    ∀ host : Host p, (primed.release.run h).1.release.run host = ((primed.release.run h).1, host) ∧
    (primed.release.run h).1.drop.run host = ((), host)
  /-- Dropping what was not released closes the same libraries, in the same order. -/
  drop : (primed.drop.run h).2.events = h.events ++ OpenLibrary.closings primed.libraries.reverse

theorem givesBack (primed : Primed p) (h : Host p) : primed.GivesBack h := by
  obtain ⟨w, hrelease⟩ := primed.release_does (l := h.ledger)
  obtain ⟨hleft, hledger⟩ := hrelease h rfl
  have hevents : (primed.release.run h).2.events = h.events ++
      OpenLibrary.closings primed.libraries.reverse :=
    congrArg Ledger.events hledger
  exact ⟨hevents, hleft, fun host => by rw [hleft]; exact ⟨rfl, rfl⟩, hevents⟩

/-- Closing libraries that are open leaves what else is open. -/
theorem foldl_applyTo_closings {libraries : List (OpenLibrary p)}
    {modules rest : List (Nat × String)} (h : modules.Perm (libraries.map (·.slot) ++ rest)) :
    ((OpenLibrary.closings libraries).foldl Event.applyTo modules).Perm rest := by
  induction libraries generalizing modules with
  | nil => exact h
  | cons library libraries ih =>
    apply ih
    have herase := h.erase library.slot
    rwa [List.map_cons, List.cons_append, List.erase_cons_head] at herase

/-- The auxiliary libraries are primed as far as they open, and given back whole. -/
theorem acquire_release (redirects : Redirects) (paths names : List String) (h : Host p) :
    let r := (acquire redirects paths names).run h
    Gathered redirects paths names h r.1 r.2 ∧ (∀ host, r.1.GivesBack host) ∧
      (r.1.release.run r.2).2.openModules.Perm h.openModules := by
  have hgathered := acquire_gathered redirects paths names h
  refine ⟨hgathered, givesBack _, ?_⟩
  generalize (acquire redirects paths names).run h = r at hgathered
  rw [Host.openModules, (givesBack r.1 r.2).release,
    Event.openAfter_append, ← Host.openModules, hgathered.modules]
  apply foldl_applyTo_closings
  rw [List.map_reverse]
  exact List.perm_append_comm.trans ((List.reverse_perm _).symm.append_right _)

end Primed

end PluginChain
