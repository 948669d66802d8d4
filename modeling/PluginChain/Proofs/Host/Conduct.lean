import Mathlib.Data.List.Nodup
import Mathlib.Data.List.Induction
import PluginChain.Plugin.EntryPoints

/-!
# The conduct of a session towards the outside

A discipline for journals of events. A `Standing` is what matters of a journal so far: how many
modules have opened, which are open, and how far the calls into the primary library have come.
`Step` says which events may come next and what they change; `Conduct` is a whole journal of such
events.

Results:
* `Conduct.append_iff`: a journal in two parts passes through a standing between them.
* `Conduct.balance`: what was open and what was opened is what was closed and what is still open.
* `Conduct.openAfter_eq`: the standing names exactly the modules that the journal leaves open.
* `Conduct.last_of_closed`: what is closed is the newest of the open modules.
* `Conduct.releases`: once the closing of modules has begun, what is open is closed at once, newest
  first.
* `Conduct.stackDiscipline`: a journal that ends with nothing open closes its modules like a stack.
-/

namespace PluginChain

/-! ## Calls into one plugin -/

/-- A pass or a question: what the plugin may be asked for while it serves. -/
def Call.isService : Call → Bool
  | runSync .. | runAsync .. | getAssets => true
  | startUp | shutDown | setAssets .. => false

/-- How far the calls into a plugin have come. -/
inductive Progress where
  /-- No call was made. -/
  | untouched
  /-- Starting up unwound. -/
  | unwound
  /-- The plugin started up. -/
  | started
  /-- The plugin started up and unwound over its assets directory. -/
  | unsettled
  /-- The plugin started up and took its assets directory. -/
  | serving
  /-- The plugin was asked to shut down, whether or not that unwound. -/
  | stopped
deriving DecidableEq, Repr

namespace Progress

/-- Whether the plugin has started up and was not asked to shut down. -/
def isStarted : Progress → Bool
  | started | unsettled | serving => true
  | untouched | unwound | stopped => false

/-- What a call with its outcome makes of the progress. -/
inductive Next : Progress → Call → Bool → Progress → Prop
  | startUp : Next untouched .startUp true started
  | startUpUnwinds : Next untouched .startUp false unwound
  | setAssets {dir : List UInt8} : Next started (.setAssets dir) true serving
  | setAssetsUnwinds {dir : List UInt8} : Next started (.setAssets dir) false unsettled
  | service {call : Call} {completed : Bool} (h : call.isService = true) :
    Next serving call completed serving
  | shutDown {a : Progress} {completed : Bool} (h : a.isStarted = true) :
    Next a .shutDown completed stopped

/-- Only a call that shuts the plugin down ends it. -/
theorem Next.eq_shutDown {a : Progress} {call : Call} {completed : Bool}
    (h : a.Next call completed stopped) :
    call = .shutDown := by
  cases h
  rfl

theorem Next.eq_stopped {a b : Progress} {completed : Bool}
    (h : a.Next .shutDown completed b) : b = stopped := by
  cases h with
  | service h => simp [Call.isService] at h
  | shutDown => rfl

/-- The plugin is not called any more once it was asked to shut down. -/
theorem not_next_stopped {call : Call} {completed : Bool} {b : Progress} :
    ¬ stopped.Next call completed b := by
  rintro ⟨⟩
  contradiction

end Progress

/-! ## Standings -/

/-- What is known of the primary library while it is open. -/
structure Tenure where
  /-- The number of its module. -/
  serial : Nat
  /-- The path it was opened from. -/
  path : String
  /-- The symbols that were found in it, in the order of the lookups. -/
  found : List String := []
  /-- How far the calls into it have come. -/
  progress : Progress := .untouched

namespace Tenure

/-- The library as a module that is open. -/
def slot (t : Tenure) : Nat × String := (t.serial, t.path)

/-- Whether the library may be closed: a plugin that started up is shut down before, if it can
    be. -/
def Closable (t : Tenure) : Prop :=
  t.progress.isStarted = true → Plugin.shutDownSymbol ∉ t.found

end Tenure

/-- What is open, and what may be done next. -/
inductive Posture where
  /-- Libraries are being opened; the open ones are auxiliary. -/
  | gathering (modules : List (Nat × String))
  /-- The primary library is open, after the auxiliary ones. -/
  | holding (modules : List (Nat × String)) (tenure : Tenure)
  /-- What is open is being closed. -/
  | releasing (modules : List (Nat × String))

namespace Posture

/-- Nothing is open. -/
def idle : Posture := gathering []

/-- The modules that are open, oldest first. -/
def modules : Posture → List (Nat × String)
  | gathering ms => ms
  | holding ms t => ms ++ [t.slot]
  | releasing ms => ms

/-- The posture with `ms` left open after a module was closed. -/
def left (ms : List (Nat × String)) : Posture :=
  if ms = [] then idle else releasing ms

/-- The posture after a module was opened. -/
def entered (ms : List (Nat × String)) (m : Nat × String) : Sharing → Posture
  | .global => gathering (ms ++ [m])
  | .isolated => holding ms { serial := m.1, path := m.2 }

@[simp] theorem modules_gathering (ms : List (Nat × String)) : (gathering ms).modules = ms := rfl

@[simp] theorem modules_holding (ms : List (Nat × String)) (t : Tenure) :
    (holding ms t).modules = ms ++ [t.slot] := rfl

@[simp] theorem modules_releasing (ms : List (Nat × String)) : (releasing ms).modules = ms := rfl

@[simp] theorem modules_left (ms : List (Nat × String)) : (left ms).modules = ms := by
  unfold left
  split
  · rename_i h
    exact h.symm
  · rfl

@[simp] theorem modules_entered (ms : List (Nat × String)) (m : Nat × String) (sharing : Sharing) :
    (entered ms m sharing).modules = ms ++ [m] := by
  cases sharing <;> rfl

end Posture

/-- What matters of a journal so far. -/
structure Standing where
  /-- How many modules have opened. -/
  opened : Nat
  posture : Posture

/-- The standing before any event. -/
def Standing.start : Standing := ⟨0, .idle⟩

/-! ## Journals -/

open Posture in
/-- What one event makes of a standing, for the events that may come next. -/
inductive Step : Standing → Event → Standing → Prop
  | refused {n : Nat} {ms : List (Nat × String)} {candidate reason : String} {sharing : Sharing} :
    Step ⟨n, gathering ms⟩ (.refused candidate sharing reason) ⟨n, gathering ms⟩
  | opened {n : Nat} {ms : List (Nat × String)} {path : String} {sharing : Sharing} :
    Step ⟨n, gathering ms⟩ (.opened n path sharing) ⟨n + 1, entered ms (n, path) sharing⟩
  | lookedUp {n : Nat} {ms : List (Nat × String)} {t : Tenure} {symbol : String} {present : Bool}
      (h : t.progress = .untouched) :
    Step ⟨n, holding ms t⟩ (.lookedUp t.serial t.path symbol present)
      ⟨n, holding ms { t with found := t.found ++ if present then [symbol] else [] }⟩
  | called {n : Nat} {ms : List (Nat × String)} {t : Tenure} {call : Call} {completed : Bool}
      {progress : Progress} (found : call.symbol ∈ t.found)
      (next : t.progress.Next call completed progress) :
    Step ⟨n, holding ms t⟩ (.called call ⟨t.serial, completed⟩) ⟨n, holding ms { t with progress }⟩
  | closedPrimary {n : Nat} {ms : List (Nat × String)} {t : Tenure} (h : t.Closable) :
    Step ⟨n, holding ms t⟩ (.closed t.serial t.path) ⟨n, left ms⟩
  | closedFirst {n : Nat} {ms : List (Nat × String)} {m : Nat × String} :
    Step ⟨n, gathering (ms ++ [m])⟩ (.closed m.1 m.2) ⟨n, left ms⟩
  | closedNext {n : Nat} {ms : List (Nat × String)} {m : Nat × String} :
    Step ⟨n, releasing (ms ++ [m])⟩ (.closed m.1 m.2) ⟨n, left ms⟩

/-- A journal of events that lead from one standing to another. -/
inductive Conduct : Standing → List Event → Standing → Prop
  | nil (st : Standing) : Conduct st [] st
  | cons {st mid stop : Standing} {e : Event} {es : List Event} (first : Step st e mid)
      (rest : Conduct mid es stop) : Conduct st (e :: es) stop

namespace Conduct

theorem single {st stop : Standing} {e : Event} (h : Step st e stop) : Conduct st [e] stop :=
  .cons h (.nil stop)

theorem append {st mid stop : Standing} {es fs : List Event} (hes : Conduct st es mid)
    (hfs : Conduct mid fs stop) : Conduct st (es ++ fs) stop := by
  induction hes with
  | nil => exact hfs
  | cons first _ ih => exact .cons first (ih hfs)

theorem append_iff {st stop : Standing} {es fs : List Event} :
    Conduct st (es ++ fs) stop ↔ ∃ mid, Conduct st es mid ∧ Conduct mid fs stop := by
  constructor
  · intro h
    induction es generalizing st with
    | nil => exact ⟨st, .nil st, h⟩
    | cons e es ih =>
      cases h with
      | cons first rest =>
        obtain ⟨mid, hes, hfs⟩ := ih rest
        exact ⟨mid, .cons first hes, hfs⟩
  · rintro ⟨mid, hes, hfs⟩
    exact hes.append hfs

theorem cons_iff {st stop : Standing} {e : Event} {es : List Event} :
    Conduct st (e :: es) stop ↔ ∃ mid, Step st e mid ∧ Conduct mid es stop := by
  constructor
  · rintro (_ | ⟨first, rest⟩)
    exact ⟨_, first, rest⟩
  · rintro ⟨mid, first, rest⟩
    exact .cons first rest

theorem concat_iff {st stop : Standing} {es : List Event} {e : Event} :
    Conduct st (es ++ [e]) stop ↔ ∃ mid, Conduct st es mid ∧ Step mid e stop := by
  rw [append_iff]
  constructor
  · rintro ⟨mid, hes, he⟩
    obtain ⟨_, first, ⟨⟩⟩ := cons_iff.1 he
    exact ⟨mid, hes, first⟩
  · rintro ⟨mid, hes, he⟩
    exact ⟨mid, hes, single he⟩

end Conduct

/-! ## What is opened is closed -/

/-- What was open and what the event opened is what it closed and what is still open. -/
theorem Step.balance {st stop : Standing} {e : Event} (h : Step st e stop) :
    (st.posture.modules ++ e.opened?.toList).Perm (e.closed?.toList ++ stop.posture.modules) := by
  cases h with
  | lookedUp => simp [Tenure.slot]
  | called => simp [Tenure.slot]
  | closedPrimary => simp [Tenure.slot]
  | _ => simp

/-- Modules are numbered in the order in which they open. -/
theorem Step.numbered {st stop : Standing} {e : Event} (h : Step st e stop) :
    List.range st.opened ++ e.opened?.toList.map Prod.fst = List.range stop.opened := by
  cases h with
  | opened => simp [List.range_succ]
  | _ => simp

namespace Conduct

theorem balance {st stop : Standing} {es : List Event} (h : Conduct st es stop) :
    (st.posture.modules ++ es.filterMap Event.opened?).Perm
      (es.filterMap Event.closed? ++ stop.posture.modules) := by
  simp only [List.filterMap_eq_flatMap_toList]
  induction h with
  | nil => simp
  | @cons st mid stop e es first rest ih =>
    simp only [List.flatMap_cons, List.append_assoc]
    have hfirst := first.balance.append_right (es.flatMap fun e => e.opened?.toList)
    rw [List.append_assoc, List.append_assoc] at hfirst
    exact hfirst.trans (ih.append_left _)

theorem numbered {st stop : Standing} {es : List Event} (h : Conduct st es stop) :
    List.range st.opened ++ (es.filterMap Event.opened?).map Prod.fst = List.range stop.opened := by
  simp only [List.filterMap_eq_flatMap_toList]
  induction h with
  | nil => simp
  | cons first rest ih =>
    rw [List.flatMap_cons, List.map_append, ← List.append_assoc, first.numbered, ih]

end Conduct

/-! ## Journals from the start -/

namespace Conduct

variable {es : List Event} {st : Standing}

theorem numbers_eq_range (h : Conduct .start es st) :
    (es.filterMap Event.opened?).map Prod.fst = List.range st.opened := by
  have hnum := h.numbered
  rwa [show Standing.start.opened = 0 from rfl, List.range_zero, List.nil_append] at hnum

/-- No module opens twice. -/
theorem nodup_opened (h : Conduct .start es st) : (es.filterMap Event.opened?).Nodup :=
  List.Nodup.of_map Prod.fst (h.numbers_eq_range ▸ List.nodup_range)

/-- What was opened is what was closed and what is still open. -/
theorem perm_opened (h : Conduct .start es st) :
    (es.filterMap Event.opened?).Perm (es.filterMap Event.closed? ++ st.posture.modules) :=
  h.balance

/-- No module closes twice, and none that was closed is still open. -/
theorem nodup_closed_append (h : Conduct .start es st) :
    (es.filterMap Event.closed? ++ st.posture.modules).Nodup :=
  h.perm_opened.nodup h.nodup_opened

theorem nodup_modules (h : Conduct .start es st) : st.posture.modules.Nodup :=
  (List.nodup_append.1 h.nodup_closed_append).2.1

/-- Closing the newest module leaves the others. -/
theorem erase_newest {ms : List (Nat × String)} {m : Nat × String} (h : (ms ++ [m]).Nodup) :
    (ms ++ [m]).erase m = ms := by
  have hm : m ∉ ms := fun hmem => (List.nodup_append.1 h).2.2 m hmem m (by simp) rfl
  rw [List.erase_append_right _ hm, List.erase_cons_head, List.append_nil]

theorem openAfter_eq (h : Conduct .start es st) : Event.openAfter es = st.posture.modules := by
  induction es using List.reverseRecOn generalizing st with
  | nil =>
    cases h
    rfl
  | append_singleton es e ih =>
    obtain ⟨mid, hes, he⟩ := concat_iff.1 h
    have hnodup := hes.nodup_modules
    rw [Event.openAfter, List.foldl_concat, ← Event.openAfter, ih hes]
    cases he with
    | refused => rfl
    | opened => simp [Event.applyTo]
    | lookedUp => rfl
    | called => rfl
    | closedPrimary => exact (erase_newest hnodup).trans (Posture.modules_left _).symm
    | closedFirst => exact (erase_newest hnodup).trans (Posture.modules_left _).symm
    | closedNext => exact (erase_newest hnodup).trans (Posture.modules_left _).symm

/-- What is closed is the newest of the open modules. -/
theorem last_of_closed {before after : List Event} {serial : Nat} {path : String}
    (h : Conduct .start (before ++ .closed serial path :: after) st) :
    (Event.openAfter before).getLast? = some (serial, path) := by
  obtain ⟨mid, hbefore, hrest⟩ := append_iff.1 h
  obtain ⟨_, hstep, -⟩ := cons_iff.1 hrest
  rw [hbefore.openAfter_eq]
  cases hstep <;> simp [Tenure.slot]

end Conduct

/-! ## Releasing -/

/-- While modules are being closed nothing happens but that the newest is closed. -/
theorem Step.of_releasing {n : Nat} {ms : List (Nat × String)} {e : Event} {stop : Standing}
    (h : Step ⟨n, .releasing ms⟩ e stop) :
    ∃ rest m, ms = rest ++ [m] ∧ e = .closed m.1 m.2 ∧ stop = ⟨n, .left rest⟩ := by
  cases h with
  | closedNext => exact ⟨_, _, rfl, rfl, rfl⟩

/-- After the plugin was asked to shut down nothing happens but that its library is closed. -/
theorem Step.of_stopped {n : Nat} {ms : List (Nat × String)} {t : Tenure} {e : Event}
    {stop : Standing} (h : Step ⟨n, .holding ms t⟩ e stop) (ht : t.progress = .stopped) :
    e = .closed t.serial t.path ∧ stop = ⟨n, .left ms⟩ := by
  cases h with
  | lookedUp hu => simp [ht] at hu
  | called found next => exact absurd (ht ▸ next) Progress.not_next_stopped
  | closedPrimary => exact ⟨rfl, rfl⟩

namespace Conduct

variable {es : List Event} {stop : Standing} {n : Nat} {ms : List (Nat × String)}

theorem releases (h : Conduct ⟨n, .left ms⟩ es stop) (hstop : stop.posture = .idle) :
    ∃ rest, es = ms.reverse.map (fun m => .closed m.1 m.2) ++ rest := by
  induction ms using List.reverseRecOn generalizing es with
  | nil => exact ⟨es, rfl⟩
  | append_singleton ms m ih =>
    rw [Posture.left, if_neg (by simp)] at h
    cases h with
    | nil => simp [Posture.idle] at hstop
    | cons first rest =>
      obtain ⟨ms', m', hms, rfl, rfl⟩ := first.of_releasing
      obtain ⟨rfl, hm⟩ := List.append_inj' hms rfl
      obtain rfl := List.singleton_inj.1 hm
      obtain ⟨es', rfl⟩ := ih rest
      exact ⟨es', by simp⟩

/-- After the plugin was asked to shut down everything is closed at once, newest first. -/
theorem releases_of_stopped {t : Tenure} (h : Conduct ⟨n, .holding ms t⟩ es stop)
    (ht : t.progress = .stopped) (hstop : stop.posture = .idle) :
    ∃ rest, es = (ms ++ [t.slot]).reverse.map (fun m => .closed m.1 m.2) ++ rest := by
  cases h with
  | nil => simp [Posture.idle] at hstop
  | cons first rest =>
    obtain ⟨rfl, rfl⟩ := first.of_stopped ht
    obtain ⟨es', rfl⟩ := rest.releases hstop
    exact ⟨es', by simp [Tenure.slot]⟩

end Conduct

/-! ## Whole lives -/

/-- The opens and closes of a whole life are like those of a stack. -/
structure StackDiscipline (events : List Event) : Prop where
  /-- No two modules have one number. -/
  nodup_opened : ((events.filterMap Event.opened?).map Prod.fst).Nodup
  /-- What is closed is the newest of the modules that are open. -/
  newest_first (before : List Event) (serial : Nat) (path : String) (after : List Event) :
    events = before ++ .closed serial path :: after →
      (Event.openAfter before).getLast? = some (serial, path)
  /-- What was opened is closed exactly once. -/
  closed_once : ∀ m ∈ events.filterMap Event.opened?, (events.filterMap Event.closed?).count m = 1
  /-- In the end nothing is open. -/
  none_open : Event.openAfter events = []

theorem Conduct.stackDiscipline {es : List Event} {st : Standing} (h : Conduct .start es st)
    (hidle : st.posture = .idle) : StackDiscipline es where
  nodup_opened := by
    rw [h.numbers_eq_range]
    exact List.nodup_range
  newest_first before serial path after hes := by
    subst hes
    exact h.last_of_closed
  closed_once m hm := by
    have hperm := h.perm_opened
    rw [hidle, Posture.idle, Posture.modules_gathering, List.append_nil] at hperm
    exact List.count_eq_one_of_mem (hperm.nodup h.nodup_opened) (hperm.mem_iff.1 hm)
  none_open := by
    rw [h.openAfter_eq, hidle]
    rfl

end PluginChain
