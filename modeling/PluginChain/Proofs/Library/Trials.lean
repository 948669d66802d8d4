import PluginChain.Proofs.Host.Ledger
import PluginChain.Library.Priming

/-!
# How libraries open

What a platform answers to the candidates of a name decides how the library opens.
`Platform.Refuses` and `Platform.Opens` say what it answers, a `Trial` is what comes of one name,
and `Primed.Goes` is what comes of the names of the auxiliary libraries in turn.

Main statements:
* `Platform.opens_or_refuses`: among the candidates there is a first one that opens, or none opens.
* `OpenLibrary.acquire_does`, `Primed.acquire_does`: what the platform answers is what opening and
  priming come to.
* `Primed.release_does`: what is primed is closed, newest first.
-/

namespace PluginChain

open PluginChain.Action

variable {p : Platform}

/-! ## What a platform answers -/

/-- The attempts that failed, as events. -/
def Event.refusals (sharing : Sharing) (refused : List (String × String)) : List Event :=
  refused.map fun r => .refused r.1 sharing r.2

@[simp] theorem Event.opened?_refusals (sharing : Sharing) (refused : List (String × String)) :
    (refusals sharing refused).filterMap opened? = [] := by
  simp [refusals, List.filterMap_map]

@[simp] theorem Event.call?_refusals (sharing : Sharing) (refused : List (String × String)) :
    (refusals sharing refused).filterMap call? = [] := by
  simp [refusals, List.filterMap_map]

namespace Platform

variable (p) (sharing : Sharing)

/-- Candidates that are attempted in turn and do not open, each with the reason that the loader
    gives. -/
inductive Refuses : List (String × String) → p.World → p.World → Prop
  | nil (w : p.World) : Refuses [] w w
  | cons {candidate reason : String} {rest : List (String × String)} {w w₁ w₂ : p.World}
      (first : p.openModule candidate sharing w = (.error reason, w₁))
      (others : Refuses rest w₁ w₂) :
    Refuses ((candidate, reason) :: rest) w w₂

/-- Of the candidates `names`, attempted in turn, `location` is the first that opens; those before
    it are `refused`. -/
structure Opens (names : List String) (refused : List (String × String)) (location : String)
    (module : p.Module) (w w' : p.World) : Prop where
  among : ∃ rest, names = refused.map Prod.fst ++ location :: rest
  opens : ∃ w₁, p.Refuses sharing refused w w₁ ∧ p.openModule location sharing w₁ = (.ok module, w')

variable {p sharing}

theorem Opens.cons {candidate reason : String} {names : List String}
    {refused : List (String × String)} {location : String} {module : p.Module} {w w₁ w₂ : p.World}
    (first : p.openModule candidate sharing w = (.error reason, w₁))
    (others : p.Opens sharing names refused location module w₁ w₂) :
    p.Opens sharing (candidate :: names) ((candidate, reason) :: refused) location module w w₂ := by
  obtain ⟨⟨rest, rfl⟩, v, hrefuses, hopen⟩ := others
  exact ⟨⟨rest, rfl⟩, v, .cons first hrefuses, hopen⟩

/-- Among candidates there is a first one that opens, or none opens. -/
theorem opens_or_refuses (sharing : Sharing) (names : List String) (w : p.World) :
    (∃ refused location module w', p.Opens sharing names refused location module w w') ∨
      ∃ refused w', refused.map Prod.fst = names ∧ p.Refuses sharing refused w w' := by
  induction names generalizing w with
  | nil => exact .inr ⟨[], w, rfl, .nil w⟩
  | cons candidate names ih =>
    rcases hopen : p.openModule candidate sharing w with ⟨reason | module, w₁⟩
    · rcases ih w₁ with ⟨refused, location, module, w₂, hothers⟩ | ⟨refused, w₂, rfl, hothers⟩
      · exact .inl ⟨_, location, module, w₂, hothers.cons hopen⟩
      · exact .inr ⟨_, w₂, rfl, .cons hopen hothers⟩
    · exact .inl ⟨[], candidate, module, w₁, ⟨names, rfl⟩, w, .nil w, hopen⟩

end Platform

/-! ## One library -/

/-- One name that was asked for: the candidates that did not open, and the library, if one
    opened. -/
structure Trial (p : Platform) where
  name : String
  refused : List (String × String)
  library? : Option (OpenLibrary p)

namespace Trial

/-- The attempts of a trial, as events. -/
def events (sharing : Sharing) (t : Trial p) : List Event :=
  Event.refusals sharing t.refused ++ t.library?.toList.map fun l =>
    .opened l.serial l.identity.location sharing

/-- What a trial came to. -/
def result (redirects : Redirects) (paths : List String) (t : Trial p) :
    Except LoadError (OpenLibrary p) :=
  match t.library? with
  | some library => .ok library
  | none =>
    .error (.notFound (redirects.resolve t.name) (candidates (redirects.resolve t.name) paths)
      ((t.refused.map Prod.snd).getLastD "unknown error"))

/-- How a trial goes in the world `w`: the first candidate that opens is the library, which gets the
    number `n`, or all candidates are refused. -/
inductive Goes (redirects : Redirects) (paths : List String) (sharing : Sharing) (n : Nat) :
    Trial p → p.World → p.World → Prop
  | opened {name : String} {refused : List (String × String)} {location : String}
      {module : p.Module} {w w' : p.World}
      (h : p.Opens sharing (candidates (redirects.resolve name) paths) refused location module
        w w') :
    Goes redirects paths sharing n
      ⟨name, refused, some ⟨⟨name, redirects.resolve name, location⟩, sharing, module, n⟩⟩ w w'
  | missed {name : String} {refused : List (String × String)} {w w' : p.World}
      (hall : refused.map Prod.fst = candidates (redirects.resolve name) paths)
      (h : p.Refuses sharing refused w w') :
    Goes redirects paths sharing n ⟨name, refused, none⟩ w w'

theorem exists_goes (redirects : Redirects) (paths : List String) (sharing : Sharing) (n : Nat)
    (name : String) (w : p.World) :
    ∃ (t : Trial p) (w' : p.World), t.name = name ∧ t.Goes redirects paths sharing n w w' := by
  rcases Platform.opens_or_refuses sharing (candidates (redirects.resolve name) paths) w with
    ⟨refused, location, module, w', hopens⟩ | ⟨refused, w', hall, hrefuses⟩
  · exact ⟨_, w', rfl, .opened hopens⟩
  · exact ⟨_, w', rfl, .missed hall hrefuses⟩

@[simp] theorem opened?_events (sharing : Sharing) (t : Trial p) :
    (t.events sharing).filterMap Event.opened? = t.library?.toList.map (·.slot) := by
  cases h : t.library? <;> simp [events, h, OpenLibrary.slot]

@[simp] theorem call?_events (sharing : Sharing) (t : Trial p) :
    (t.events sharing).filterMap Event.call? = [] := by
  simp [events, List.filterMap_map]

end Trial

namespace OpenLibrary

/-- The closing of libraries in the order of the list, as events. -/
def closings (libraries : List (OpenLibrary p)) : List Event :=
  libraries.map fun library => .closed library.serial library.identity.location

@[simp] theorem opened?_closings (libraries : List (OpenLibrary p)) :
    (closings libraries).filterMap Event.opened? = [] := by
  simp [closings, List.filterMap_map]

@[simp] theorem call?_closings (libraries : List (OpenLibrary p)) :
    (closings libraries).filterMap Event.call? = [] := by
  simp [closings, List.filterMap_map]

variable {l l' : Ledger p} {sharing : Sharing}

theorem attempt_does_refused {candidate reason : String} {w : p.World}
    (h : p.openModule candidate sharing l.world = (.error reason, w)) :
    (attempt candidate sharing).Does l (.error reason)
      (l.add w (Event.refusals sharing [(candidate, reason)]) []) := by
  exact Host.nextSerial_does.bind
    ((Host.ask_does (p := p) (.openModule candidate sharing) h).bind .pure)

theorem attempt_does_opened {candidate : String} {module : p.Module} {w : p.World}
    (h : p.openModule candidate sharing l.world = (.ok module, w)) :
    (attempt candidate sharing).Does l (.ok (module, l.opened))
      (l.add w [.opened l.opened candidate sharing] []) := by
  exact Host.nextSerial_does.bind
    ((Host.ask_does (p := p) (.openModule candidate sharing) h).bind .pure)

/-- Candidates that are refused only leave their reasons behind. -/
theorem firstOf_does_append (requested resolved : String) {refused : List (String × String)}
    {w w' : p.World} (hrefuses : p.Refuses sharing refused w w') {names : List String}
    {reason : String} {a : Except String (OpenLibrary p)} (hw : l.world = w)
    (hrest :
      (firstOf requested resolved sharing ((refused.map Prod.snd).getLastD reason) names).Does
      (l.add w' (Event.refusals sharing refused) []) a l') :
    (firstOf requested resolved sharing reason (refused.map Prod.fst ++ names)).Does l a l' := by
  induction hrefuses generalizing l reason with
  | nil w =>
    subst hw
    simpa [Event.refusals, Ledger.add_nil] using hrest
  | @cons candidate first rest w w₁ w₂ hfirst _ ih =>
    subst hw
    rw [List.map_cons, List.cons_append, firstOf]
    refine (attempt_does_refused hfirst).bind ((Host.notify_does rfl).bind (ih rfl ?_))
    rw [List.map_cons, List.getLastD_cons] at hrest
    simpa [Event.refusals] using hrest

theorem firstOf_does_refused (requested resolved reason : String) {refused : List (String × String)}
    {w : p.World} (h : p.Refuses sharing refused l.world w) :
    (firstOf requested resolved sharing reason (refused.map Prod.fst)).Does l
      (.error ((refused.map Prod.snd).getLastD reason))
        (l.add w (Event.refusals sharing refused) []) := by
  rw [← List.append_nil (refused.map Prod.fst)]
  exact firstOf_does_append requested resolved h rfl .pure

theorem firstOf_does_opened (requested resolved reason : String) {names : List String}
    {refused : List (String × String)} {location : String} {module : p.Module} {w : p.World}
    (h : p.Opens sharing names refused location module l.world w) :
    (firstOf requested resolved sharing reason names).Does l
      (.ok ⟨⟨requested, resolved, location⟩, sharing, module, l.opened⟩)
      (l.add w (Event.refusals sharing refused ++ [.opened l.opened location sharing]) []) := by
  obtain ⟨⟨rest, rfl⟩, w₁, hrefuses, hopen⟩ := h
  refine firstOf_does_append requested resolved hrefuses rfl ?_
  rw [firstOf]
  refine (attempt_does_opened (by simpa using hopen)).bind ((Host.notify_does rfl).bind ?_)
  exact Does.pure.of_eq (by simp) (by simp)

theorem redirect_does (redirects : Redirects) (name : String) :
    (redirect redirects name).Does l (redirects.resolve name) l := by
  unfold redirect
  split
  · rename_i target htarget
    rw [Redirects.resolve_of_target? htarget]
    exact (Host.notify_does rfl).bind .pure
  · rename_i htarget
    rw [Redirects.resolve_of_target?_none htarget]
    exact .pure

/-- A library opens as its trial goes. -/
theorem acquire_does {redirects : Redirects} {paths : List String} {t : Trial p} {w : p.World}
    (h : t.Goes redirects paths sharing l.opened l.world w) :
    (acquire redirects t.name paths sharing).Does l (t.result redirects paths)
      (l.add w (t.events sharing) []) := by
  refine (redirect_does redirects t.name).bind ?_
  extract_lets rest
  have hrest : (rest ()).Does l (t.result redirects paths) (l.add w (t.events sharing) []) := by
    cases h with
    | opened hopens =>
      refine (firstOf_does_opened _ _ _ hopens).bind ?_
      exact Does.pure.of_eq rfl (by simp [Trial.events])
    | @missed name refused w w' hall hrefuses =>
      have hfirst := firstOf_does_refused name (redirects.resolve name) "unknown error" hrefuses
      rw [hall] at hfirst
      refine hfirst.bind ((Host.notify_does rfl).bind ?_)
      exact Does.pure.of_eq rfl (by simp [Trial.events])
  split
  · exact (Host.notify_does rfl).bind hrest
  · exact hrest

/-- Closing a library is one event. -/
theorem close_does (library : OpenLibrary p) :
    library.close.Does l ()
      (l.add (p.closeModule library.module l.world).2 (closings [library]) []) :=
  (Host.notify_does rfl).bind (Host.ask_does _ rfl)

end OpenLibrary

/-! ## The auxiliary libraries -/

namespace Primed

/-- What the trials of all auxiliary libraries come to. -/
def ofTrials (trials : List (Trial p)) : Primed p where
  libraries := trials.filterMap (·.library?)
  misses := (trials.filter fun t => t.library?.isNone).map (·.name)

/-- How the trials of all auxiliary libraries go, one after the other; `n` modules have opened
    before. -/
inductive Goes (redirects : Redirects) (paths : List String) :
    Nat → List (Trial p) → p.World → p.World → Prop
  | nil (n : Nat) (w : p.World) : Goes redirects paths n [] w w
  | cons {n : Nat} {t : Trial p} {rest : List (Trial p)} {w w₁ w₂ : p.World}
      (first : t.Goes redirects paths .global n w w₁)
      (others : Goes redirects paths (n + t.library?.toList.length) rest w₁ w₂) :
    Goes redirects paths n (t :: rest) w w₂

theorem exists_goes (redirects : Redirects) (paths names : List String) (n : Nat) (w : p.World) :
    ∃ (trials : List (Trial p)) (w' : p.World), trials.map (·.name) = names ∧
      Goes redirects paths n trials w w' := by
  induction names generalizing n w with
  | nil => exact ⟨[], w, rfl, .nil n w⟩
  | cons name names ih =>
    obtain ⟨t, w₁, rfl, hfirst⟩ := Trial.exists_goes redirects paths .global n name w
    obtain ⟨rest, w₂, rfl, hothers⟩ := ih (n + t.library?.toList.length) w₁
    exact ⟨t :: rest, w₂, rfl, .cons hfirst hothers⟩

/-- Modules are numbered in the order in which the auxiliary libraries open. -/
theorem Goes.serials {redirects : Redirects} {paths : List String} {n : Nat}
    {trials : List (Trial p)} {w w' : p.World} (h : Goes redirects paths n trials w w') :
    (ofTrials trials).libraries.map (·.serial) =
      List.range' n (ofTrials trials).libraries.length := by
  induction h with
  | nil => rfl
  | cons first _ ih =>
    cases first with
    | opened _ => exact congrArg (List.cons _) ih
    | missed _ _ => exact ih

/-- The trials open as many modules as there are libraries. -/
@[simp] theorem length_opened?_trials (sharing : Sharing) (trials : List (Trial p)) :
    ((trials.flatMap (Trial.events sharing)).filterMap Event.opened?).length =
      (ofTrials trials).libraries.length := by
  induction trials with
  | nil => rfl
  | cons t rest ih =>
    rw [List.flatMap_cons, List.filterMap_append, List.length_append, ih, Trial.opened?_events]
    cases ht : t.library? <;> simp [ofTrials, ht, Nat.add_comm]

@[simp] theorem call?_trials (sharing : Sharing) (trials : List (Trial p)) :
    (trials.flatMap (Trial.events sharing)).filterMap Event.call? = [] := by
  simp [List.filterMap_flatMap]

variable {l : Ledger p}

/-- Priming comes to what the trials come to. -/
theorem acquire_does {redirects : Redirects} {paths : List String} {trials : List (Trial p)}
    {n : Nat} {w w' : p.World} (h : Goes redirects paths n trials w w') (hn : l.opened = n)
    (hw : l.world = w) :
    (acquire redirects paths (trials.map (·.name))).Does l (ofTrials trials)
      (l.add w' (trials.flatMap (Trial.events .global)) []) := by
  induction h generalizing l with
  | nil n w =>
    subst hw
    exact Does.pure.of_eq rfl l.add_nil.symm
  | @cons n t rest w w₁ w₂ hfirst _ ih =>
    subst hn hw
    rw [List.map_cons, acquire]
    have hothers := ih (l := l.add w₁ (t.events .global) []) (by simp) rfl
    rw [Ledger.add_add] at hothers
    refine (OpenLibrary.acquire_does hfirst).bind ?_
    -- What comes of the first name is put before what comes of the others.
    cases ht : t.library? with
    | some library =>
      simp only [Trial.result, ht]
      refine (Host.notify_does rfl).bind (hothers.bind ?_)
      exact Does.pure.of_eq (by simp [ofTrials, ht]) (by simp)
    | none =>
      simp only [Trial.result, ht]
      refine (Host.notify_does rfl).bind (hothers.bind ?_)
      exact Does.pure.of_eq (by simp [ofTrials, ht]) (by simp)

theorem closeEach_does (libraries : List (OpenLibrary p)) :
    ∃ w, (closeEach libraries).Does l () (l.add w (OpenLibrary.closings libraries) []) := by
  induction libraries generalizing l with
  | nil => exact ⟨l.world, Does.pure.of_eq rfl l.add_nil.symm⟩
  | cons library rest ih =>
    obtain ⟨w, hrest⟩ := ih
    refine ⟨w, (Host.notify_does rfl).bind (library.close_does.bind ?_)⟩
    exact hrest.of_eq rfl (by simp [OpenLibrary.closings])

/-- What is primed is closed, newest first. -/
theorem release_does (primed : Primed p) :
    ∃ w, primed.release.Does l { primed with libraries := [] }
      (l.add w (OpenLibrary.closings primed.libraries.reverse) []) := by
  obtain ⟨w, hclose⟩ := closeEach_does (l := l) primed.libraries.reverse
  exact ⟨w, hclose.bind .pure⟩

end Primed

end PluginChain
