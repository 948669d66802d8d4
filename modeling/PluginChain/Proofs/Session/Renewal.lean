import PluginChain.Proofs.Library.Past
import PluginChain.Proofs.Plugin.Past
import PluginChain.Proofs.Session.Conduct
import PluginChain.Platforms.Scripted

/-!
# Loading anew

A session that is not ready holds nothing, and a load reads nothing else of what it did before. So a
load after a failure or an unload does what the first load of a new session does; only the numbers
of the modules go on from those that were opened before.

Main statements:
* `Session.load_follows`: a load does not depend on what happened on its host before.
* `Session.run_load_of_resting`: a session that is not ready loads as a new one.
* `Session.load_repeats`: the two together, for every run that leaves a session without the plugin.
-/

namespace PluginChain

open PluginChain.Action

variable {p : Platform} {past : Host p}

namespace Holdings

/-- The same holdings with their modules numbered `n` higher. -/
def later (n : Nat) (held : Holdings p) : Holdings p where
  primed := held.primed.map (·.later n)
  primary := held.primary.map (·.later n)
  table := held.table.map (·.later n)
  started := held.started

theorem shutDown_follows (held : Holdings p) :
    Follows past id held.shutDown (held.later past.opened).shutDown := by
  obtain ⟨primed, primary, table, started⟩ := held
  cases started with
  | false => exact .pure rfl
  | true =>
    cases table with
    | none => exact .pure rfl
    | some table =>
      simp only [later, shutDown, Option.map_some, SymbolTable.entryPoints_later, if_true]
      cases table.entryPoints with
      | error error => exact .pure rfl
      | ok e =>
        refine e.callShutDown_follows.bind ?_
        rintro (detail | _ | _)
        · exact Host.notify_follows _
        · exact Host.notify_follows _
        · exact Host.notify_follows _

theorem releasePrimary_follows (held : Holdings p) :
    Follows past id held.releasePrimary (held.later past.opened).releasePrimary := by
  obtain ⟨primed, primary, table, started⟩ := held
  cases primary with
  | none => exact .pure rfl
  | some primary => exact (Host.notify_follows _).seq primary.close_follows

theorem releasePrimed_follows (held : Holdings p) :
    Follows past id held.releasePrimed (held.later past.opened).releasePrimed := by
  obtain ⟨primed, primary, table, started⟩ := held
  cases primed with
  | none => exact .pure rfl
  | some primed => exact primed.release_follows.seq (.pure rfl)

theorem release_follows (held : Holdings p) :
    Follows past id held.release (held.later past.opened).release :=
  held.shutDown_follows.seq (held.releasePrimary_follows.seq held.releasePrimed_follows)

end Holdings

namespace Session

/-- The same session with its modules numbered `n` higher. -/
def later (n : Nat) (s : Session p) : Session p :=
  { s with held := s.held.later n }

theorem config_later (n : Nat) (s : Session p) : (s.later n).config = s.config := rfl

variable (s : Session p)

/-! ## A load on a host with a past -/

theorem enter_follows (stage : Stage) :
    Follows past (later past.opened) (s.enter stage) ((s.later past.opened).enter stage) :=
  (Host.notify_follows _).seq (.pure rfl)

theorem teardown_follows :
    Follows past (later past.opened) s.teardown (s.later past.opened).teardown :=
  s.held.release_follows.seq (.pure rfl)

theorem prime_follows : Follows past (later past.opened) s.prime (s.later past.opened).prime := by
  refine (s.enter_follows .priming).bind fun s => ?_
  refine (Primed.acquire_follows _ _ _).bind fun primed => ?_
  have hempty : (primed.later past.opened).libraries.isEmpty = primed.libraries.isEmpty := by
    simp [Primed.later]
  rw [hempty, Primed.identities_later, config_later]
  extract_lets -underBinder rest again
  have hrest : Follows past (later past.opened) (rest ()) (again ()) := .pure rfl
  split
  · exact (Host.notify_follows _).seq hrest
  · exact hrest

theorem openPrimary_follows :
    Follows past (Prod.map (Except.map (OpenLibrary.later past.opened)) (later past.opened))
      s.openPrimary (s.later past.opened).openPrimary := by
  refine (s.enter_follows .loadingPrimary).bind fun s => ?_
  refine (OpenLibrary.acquire_follows _ _ _ _).bind ?_
  rintro (error | primary)
  · exact .pure rfl
  · exact (Host.notify_follows _).seq (.pure rfl)

theorem bindSymbols_follows (primary : OpenLibrary p) :
    Follows past (Prod.map (Except.map (EntryPoints.later past.opened)) (later past.opened))
      (s.bindSymbols primary) ((s.later past.opened).bindSymbols (primary.later past.opened)) := by
  refine (s.enter_follows .resolvingSymbols).bind fun s => ?_
  refine (SymbolTable.resolve_follows _ _).bind ?_
  rintro (error | table)
  · exact primary.close_follows.seq (.pure rfl)
  · simp only [Except.map, SymbolTable.entryPoints_later]
    cases table.entryPoints with
    | error error => exact primary.close_follows.seq (.pure rfl)
    | ok e => exact .pure rfl

theorem start_follows (e : EntryPoints p.Address) :
    Follows past (Prod.map id (later past.opened)) (s.start e)
      ((s.later past.opened).start (e.later past.opened)) := by
  refine (s.enter_follows .initializing).bind fun s => ?_
  refine e.callStartUp_follows.bind ?_
  rintro (detail | _)
  · exact .pure rfl
  · refine (Host.notify_follows _).seq ((e.callSetAssets_follows _).bind ?_)
    rintro (detail | _)
    · exact .pure rfl
    · refine (Host.notify_follows _).seq ((enter_follows _ .ready).bind fun s => .pure rfl)

theorem acquire_follows :
    Follows past (Prod.map id (later past.opened)) s.acquire (s.later past.opened).acquire := by
  refine s.prime_follows.bind fun s => s.openPrimary_follows.bind ?_
  rintro ⟨error | primary, s⟩
  · exact .pure rfl
  · refine (s.bindSymbols_follows primary).bind ?_
    rintro ⟨error | e, s⟩
    · exact .pure rfl
    · exact s.start_follows e

theorem loadFresh_follows :
    Follows past (Prod.map id (later past.opened)) s.loadFresh (s.later past.opened).loadFresh := by
  refine (Host.notify_follows _).seq ((acquire_follows _).bind ?_)
  rintro ⟨error | _, s⟩
  · refine (Host.notify_follows _).seq ((teardown_follows _).bind fun s => ?_)
    exact (s.enter_follows .failed).bind fun s => .pure rfl
  · exact (Host.notify_follows _).seq (.pure rfl)

/-! ## A load after a failure or an unload -/

/-- The report of the last load is overwritten before anything reads it. -/
theorem loadFresh_report (s : Session p) (report : LoadReport) :
    loadFresh { s with report } = s.loadFresh := by
  simp only [loadFresh]

/-- Where nothing is held, nothing is given back before the load, and the stage it starts from is
    the same. -/
theorem run_load_of_empty {s : Session p} (hready : s.stage ≠ .ready) (hheld : s.held = {})
    (h : Host p) :
    s.load.run h = (loadFresh { s with stage := .unloaded }).run h := by
  obtain ⟨config, stage, held, report⟩ := s
  obtain rfl := hheld
  unfold load
  split
  · rename_i hstage
    exact absurd hstage hready
  · rename_i hstage
    obtain rfl : stage = .unloaded := hstage
    rfl
  · rw [Action.run_bind, teardown, Action.run_bind, Holdings.run_release_empty, Action.run_pure]

/-- A session that is settled and not ready loads as a new one does. -/
theorem run_load_of_resting {config : Config} {s : Session p} {a : Posture}
    (hs : s.Settled config a) (hready : s.stage ≠ .ready) (h : Host p) :
    s.load.run h = (new config).load.run h := by
  cases hs with
  | ready _ hstage => exact absurd hstage hready
  | resting hconfig _ hheld =>
    have hsession : ({ s with stage := .unloaded } : Session p) =
        { new config with report := s.report } := by
      simp [new, hconfig, hheld]
    rw [run_load_of_empty hready hheld, hsession, loadFresh_report]
    rfl

/-- What the load of a session and its host left, `again`, is what a `first` load left of a new
    session and a new host, with the journals of `past` before it and the modules numbered on from
    there. -/
structure Repeats (past : Host p) (first again : (Except LoadError Unit × Session p) × Host p) :
    Prop where
  result : again.1.1 = first.1.1
  world : again.2.world = first.2.world
  events : again.2.events = past.events ++ first.2.events.map (Event.later past.opened)
  notices : again.2.notices = past.notices ++ first.2.notices
  report : again.1.2.report = first.1.2.report
  stage : again.1.2.stage = first.1.2.stage
  bindings : again.1.2.held.table.map (·.bindings) = first.1.2.held.table.map (·.bindings)
  primary? : again.1.2.primary? = first.1.2.primary?
  primed : again.1.2.held.primed.map (·.identities) = first.1.2.held.primed.map (·.identities)
  /-- Whatever else is held is the same too. -/
  session : again.1.2 = first.1.2.later past.opened

theorem Repeats.of_eq {past : Host p} {first again : (Except LoadError Unit × Session p) × Host p}
    (h : again = (Prod.map id (later past.opened) first.1, first.2.after past)) :
    Repeats past first again := by
  obtain ⟨⟨result, s⟩, host⟩ := first
  subst h
  refine ⟨rfl, rfl, rfl, rfl, rfl, rfl, ?_, ?_, ?_, rfl⟩
  · simp [later, Holdings.later, SymbolTable.later, Function.comp_def]
  · simp [Session.primary?, later, Holdings.later, OpenLibrary.later, Function.comp_def]
  · simp [later, Holdings.later, Primed.identities_later, Function.comp_def]

/-- After a failure or an unload, a load does what the first load of a new session does in the same
    world. -/
theorem load_repeats (config : Config) (world : p.World) (turns : List (Turn p))
    (hstage : (reached config world turns).1.stage = .failed ∨
      (reached config world turns).1.stage = .unloaded) :
    Repeats (reached config world turns).2
      ((new config).load.run { world := (reached config world turns).2.world })
      ((reached config world turns).1.load.run (reached config world turns).2) := by
  obtain ⟨a, hs, -⟩ := reached_agrees config world turns
  have hready : (reached config world turns).1.stage ≠ .ready := by
    rcases hstage with hstage | hstage <;> simp [hstage]
  rw [run_load_of_resting hs hready]
  generalize (reached config world turns).2 = past
  have hfollows :
      Follows past (Prod.map id (later past.opened)) (new config).load (new config).load :=
    loadFresh_follows (new config)
  have hrun := hfollows { world := past.world }
  rw [Host.new_after] at hrun
  exact .of_eq hrun

/-- A script with the primary library of a stock device and nothing else. -/
def primaryAlone : Script :=
  { libraries := [(Config.stock.primaryLibrary, { exports := Plugin.symbols.map (·.name) })] }

/-- The primary library opens as module 0, starting up unwinds, and then the script is mended. -/
theorem load_repeats_mended :
    let turns : List (Turn Script.platform) := [.asked .load, .outside primaryAlone]
    let unwinding : Script :=
      primaryAlone.setBehavior Plugin.startUpSymbol { unwinding := some .other }
    let reached := reached (p := Script.platform) .stock unwinding turns
    reached.1.stage = .failed ∧ reached.2.opened = 1 ∧
      Repeats reached.2 ((new .stock).load.run { world := reached.2.world })
        (reached.1.load.run reached.2) :=
  ⟨by decide +kernel, by decide +kernel, load_repeats .stock _ _ (.inl (by decide +kernel))⟩

end Session

end PluginChain
