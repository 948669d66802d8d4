import PluginChain.Proofs.Library.Conduct
import PluginChain.Proofs.Plugin.Conduct
import PluginChain.Session.Running

/-!
# Sessions, seen from the journal

What a session holds and what the journal of its host shows to be open are one thing.
`Holdings.Fits` ties the two together at every point where a load may stop, and `Session.Settled`
does so between two operations. Each operation of a session has a contract that keeps them together.

Main statements:
* `Holdings.release_meets`: giving back closes all that is open, wherever a load has stopped.
* `Session.acquire_meets`: a load ends with the session ready, or with something that can be given
  back.
* `Session.perform_meets`, `Session.turn_meets`: every operation leads from a settled session to a
  settled session.
* `Session.reached_agrees`: so does every run.
* `Session.live_shows`: nothing is open after the end of the session.
-/

namespace PluginChain

open PluginChain.Action

variable {p : Platform} {ms : List (Nat × String)}

namespace Holdings

/-- The table and the word whether the plugin has started up belong to the primary library, whose
    tenure is `t`. -/
structure Bound (primary : OpenLibrary p) (table : SymbolTable p.Address) (started : Bool)
    (t : Tenure) : Prop where
  slot : t.slot = primary.slot
  entry : ∃ e, table.entryPoints = .ok e ∧ e.Of t
  started : t.progress.isStarted = started

/-- What is held is what the journal shows to be open. -/
inductive Fits : Holdings p → Posture → Prop
  | nothing : Fits {} .idle
  | primed {primed : Primed p} {a : Posture} (h : a.Auxiliary primed.slots) :
    Fits { primed := some primed } a
  | bound {primed : Primed p} {primary : OpenLibrary p} {table : SymbolTable p.Address}
      {started : Bool} {t : Tenure}
      (h : Bound primary table started t) :
    Fits ⟨some primed, some primary, some table, started⟩ (.holding primed.slots t)

variable {primed : Option (Primed p)} {primary : OpenLibrary p}
  {table : SymbolTable p.Address} {started : Bool} {t : Tenure}

/-- After the plugin was shut down, if it had started up, its library may be closed. -/
theorem shutDown_meets (h : Bound primary table started t) :
    Meets (·.Shows (.holding ms t))
      (shutDown ⟨primed, some primary, some table, started⟩) fun _ h =>
      ∃ progress, { t with progress }.Closable ∧ h.Shows (.holding ms { t with progress }) := by
  obtain ⟨-, ⟨e, hentry, he⟩, hstarted⟩ := h
  cases started with
  | false =>
    apply Meets.pure
    intro h hshows
    refine ⟨t.progress, fun hprogress => ?_, hshows⟩
    rw [hstarted] at hprogress
    cases hprogress
  | true =>
    simp only [shutDown, Option.map_some, hentry, if_true]
    refine (e.callShutDown_meets he hstarted).bind ?_
    rintro (detail | _ | _)
    · exact fun _ h => h
    · exact fun _ h => h
    · exact fun _ h => h

theorem releasePrimary_meets {held : Holdings p} (hheld : held.primary = some primary)
    (hslot : t.slot = primary.slot) (hclosable : t.Closable) :
    Meets (·.Shows (.holding ms t)) held.releasePrimary fun _ h => h.Shows (.left ms) := by
  obtain ⟨hserial, hpath⟩ := Prod.mk.inj hslot
  simp only [releasePrimary, hheld]
  refine .seq (Host.notify_meets _) (primary.close_meets fun n => ?_)
  rw [← hserial, ← hpath]
  exact .closedPrimary hclosable

theorem releasePrimed_meets {held : Holdings p} {primed : Primed p} {a : Posture}
    (hheld : held.primed = some primed) (ha : a.Auxiliary primed.slots) :
    Meets (·.Shows a) held.releasePrimed fun _ h => h.Shows .idle := by
  simp only [releasePrimed, hheld]
  exact fun h hshows => primed.release_meets ha h hshows

/-- Where nothing is held there is nothing to give back. -/
theorem run_release_empty (h : Host p) : (release ({} : Holdings p)).run h = ((), h) := rfl

/-- Giving back closes all that is open. -/
theorem release_meets {held : Holdings p} {a : Posture} (h : held.Fits a) :
    Meets (·.Shows a) held.release fun _ h => h.Shows .idle := by
  cases h with
  | nothing =>
    intro h hshows
    rwa [run_release_empty]
  | primed ha =>
    have hshutDown : Meets (p := p) (·.Shows a) (pure ()) fun _ h => h.Shows a := .pure fun _ h => h
    exact hshutDown.seq (hshutDown.seq (releasePrimed_meets rfl ha))
  | @bound primed primary table started t hbound =>
    refine (shutDown_meets hbound).seq (.of_exists fun progress => .of_and fun hclosable => ?_)
    refine .seq (releasePrimary_meets (t := { t with progress }) rfl hbound.slot hclosable) ?_
    exact releasePrimed_meets rfl .left

end Holdings

namespace Session

variable {config : Config} {held : Holdings p} {a : Posture} {s : Session p}

/-! ## The stages of a load -/

/-- The session has the configuration it was built with and holds `held`, and the journal of its
    host has led to the posture `a`. -/
structure Holds (config : Config) (held : Holdings p) (a : Posture) (s : Session p)
    (h : Host p) : Prop where
  config : s.config = config
  held : s.held = held
  shows : h.Shows a

theorem Holds.of_shows {β : Type} {act : Action p β} {Post : β → Host p → Prop}
    (h : s.config = config → s.held = held → Meets (·.Shows a) act Post) :
    Meets (Holds config held a s) act Post :=
  fun host hs => h hs.config hs.held host hs.shows

theorem enter_meets (stage : Stage) :
    Meets (Holds config held a s) (s.enter stage) fun s h => s.stage = stage ∧
      Holds config held a s h :=
  fun _ h => ⟨rfl, h.config, h.held, h.shows⟩

/-- Neither a notice nor another report changes what is held. -/
theorem notify_meets (n : Notice) (report : LoadReport) :
    Meets (Holds config held a s) (Host.notify n) fun _ h =>
      Holds config held a { s with report } h :=
  fun _ h => ⟨h.config, h.held, h.shows⟩

/-- What is held is given back, and the stage stays. -/
theorem teardown_meets (hfits : held.Fits a) :
    Meets (Holds config held a s) s.teardown fun next h => next.stage = s.stage ∧
      Holds config {} .idle next h := by
  rintro h ⟨hconfig, rfl, hshows⟩
  exact ⟨rfl, hconfig, rfl, Holdings.release_meets hfits h hshows⟩

theorem prime_meets :
    Meets (Holds config {} .idle s) s.prime fun s h =>
      ∃ primed, Holds config { primed := some primed } (.gathering primed.slots) s h := by
  refine (enter_meets .priming).bind fun s => .of_and fun _ =>
    Holds.of_shows fun hconfig hheld => ?_
  refine (Primed.acquire_meets _ _ _).bind fun primed => ?_
  extract_lets -underBinder rest
  have hrest : Meets (·.Shows (.gathering primed.slots)) (rest ()) fun s h =>
      ∃ primed, Holds config { primed := some primed } (.gathering primed.slots) s h :=
    .pure fun h hshows => ⟨primed, hconfig, by rw [hheld], hshows⟩
  split
  · exact .seq (Host.notify_meets _) hrest
  · exact hrest

theorem openPrimary_meets :
    Meets (Holds config held (.gathering ms) s) s.openPrimary fun r h =>
      Outcome (fun primary h => Holds config held (.holding ms (primary.tenure [])) r.2 h)
        (fun _ h => Holds config held (.gathering ms) r.2 h) r.1 h := by
  refine (enter_meets .loadingPrimary).bind fun s => .of_and fun _ =>
    Holds.of_shows fun hconfig hheld => ?_
  refine (OpenLibrary.acquire_meets _ _ _ _).bind ?_
  rintro (error | primary)
  · apply Meets.pure
    intro h hshows
    exact ⟨hconfig, hheld, hshows⟩
  · refine .of_and fun _ => .seq (Host.notify_meets _) (.pure ?_)
    exact fun h hshows => ⟨hconfig, hheld, hshows⟩

/-- Nothing was called in the primary library yet, so it may be closed. -/
theorem closePrimary_meets (primary : OpenLibrary p) (found : List String) :
    Meets (·.Shows (.holding ms (primary.tenure found))) primary.close fun _ h =>
      h.Shows (.left ms) := by
  refine primary.close_meets fun n => .closedPrimary fun hstarted => ?_
  cases hstarted

theorem bindSymbols_meets (primed : Primed p) (primary : OpenLibrary p) :
    Meets (Holds config { primed := some primed } (.holding primed.slots (primary.tenure [])) s)
      (s.bindSymbols primary) fun r h =>
        Outcome
          (fun e h => ∃ table, table.entryPoints = .ok e ∧ e.Of (primary.tenure table.present) ∧
            Holds config ⟨some primed, some primary, some table, false⟩
              (.holding primed.slots (primary.tenure table.present)) r.2 h)
          (fun _ h => Holds config { primed := some primed } (.left primed.slots) r.2 h) r.1 h := by
  refine (enter_meets .resolvingSymbols).bind fun s => .of_and fun _ =>
    Holds.of_shows fun hconfig hheld => ?_
  refine (SymbolTable.resolve_meets _ _).bind ?_
  rintro (error | table)
  · refine .of_exists fun found => (closePrimary_meets primary found).seq (.pure ?_)
    exact fun h hshows => ⟨hconfig, hheld, hshows⟩
  · refine .of_and fun hserial => .of_and fun hspecs => ?_
    cases hentry : table.entryPoints with
    | error error =>
      simp only [hentry]
      refine (closePrimary_meets primary _).seq (.pure ?_)
      exact fun h hshows => ⟨hconfig, hheld, hshows⟩
    | ok e =>
      have he :=
        SymbolTable.entryPoints_of (t := primary.tenure table.present) hspecs hserial rfl hentry
      simp only [hentry]
      apply Meets.pure
      intro h hshows
      exact ⟨table, hentry, he, hconfig, by rw [hheld], hshows⟩

/-! ## Between two operations -/

/-- A session between two operations, and the posture that the journal of its host has led to. -/
inductive Settled (config : Config) (s : Session p) : Posture → Prop
  | resting (hconfig : s.config = config) (hstage : s.stage = .unloaded ∨ s.stage = .failed)
    (hheld : s.held = {}) :
    Settled config s .idle
  | ready {primed : Primed p} {primary : OpenLibrary p} {table : SymbolTable p.Address} {t : Tenure}
      (hconfig : s.config = config) (hstage : s.stage = .ready)
      (hheld : s.held = ⟨some primed, some primary, some table, true⟩)
      (hbound : Holdings.Bound primary table true t) (hserving : t.progress = .serving) :
    Settled config s (.holding primed.slots t)

/-- A settled session whose holdings are what the journal of its host shows to be open. -/
def Agrees (config : Config) (s : Session p) (h : Host p) : Prop :=
  ∃ a, s.Settled config a ∧ h.Shows a

theorem Settled.fits (h : s.Settled config a) : s.held.Fits a := by
  cases h with
  | resting _ _ hheld =>
    rw [hheld]
    exact .nothing
  | ready _ _ hheld hbound _ =>
    rw [hheld]
    exact .bound hbound

theorem Settled.config_eq (h : s.Settled config a) : s.config = config := by
  cases h with
  | resting hconfig => exact hconfig
  | ready hconfig => exact hconfig

/-- Whatever a settled session holds can be given back. -/
theorem Settled.teardown_meets (hs : s.Settled config a) :
    Meets (·.Shows a) s.teardown fun next h => next.stage = s.stage ∧
      Holds config {} .idle next h :=
  fun h hshows => Session.teardown_meets hs.fits h ⟨hs.config_eq, rfl, hshows⟩

/-! ### Loading -/

/-- What a load leaves when it stops: the session can give back what is open. -/
def Stopped (config : Config) (s : Session p) (h : Host p) : Prop :=
  ∃ held a, held.Fits a ∧ Holds config held a s h

theorem start_meets {primed : Primed p} {primary : OpenLibrary p} {table : SymbolTable p.Address}
    {e : EntryPoints p.Address} (hentry : table.entryPoints = .ok e)
    (he : e.Of (primary.tenure table.present)) :
    Meets
      (Holds config ⟨some primed, some primary, some table, false⟩
        (.holding primed.slots (primary.tenure table.present)) s)
      (s.start e) fun r h =>
        Outcome (fun _ h => Agrees config r.2 h) (fun _ h => Stopped config r.2 h) r.1 h := by
  have hbound (progress : Progress) : Holdings.Bound primary table progress.isStarted
      { primary.tenure table.present with progress } :=
    ⟨rfl, ⟨e, hentry, he.withProgress progress⟩, rfl⟩
  refine (enter_meets .initializing).bind fun s => .of_and fun _ =>
    Holds.of_shows fun hconfig hheld => ?_
  refine (e.callStartUp_meets he rfl).bind ?_
  rintro (detail | _)
  · -- The plugin did not start up: it is not shut down either.
    apply Meets.pure
    intro h hshows
    exact ⟨_, _, .bound (hbound .unwound), hconfig, hheld, hshows⟩
  · refine .seq (Host.notify_meets _) ?_
    refine (e.callSetAssets_meets (he.withProgress .started) rfl s.config.assetsDir).bind ?_
    rintro (detail | _)
    · -- It started up and did not take its assets directory: it is to be shut down.
      refine .of_exists fun progress => .of_and fun hstarted => ?_
      apply Meets.pure
      intro h hshows
      exact ⟨_, _, .bound (hbound progress), hconfig, by rw [hheld, hstarted], hshows⟩
    · refine .seq (Host.notify_meets _) ?_
      intro h hshows
      exact ⟨_, .ready hconfig rfl (by simp [enter, hheld]) (hbound .serving) rfl, hshows⟩

/-- A load ends with the session ready, or with something that can be given back. -/
theorem acquire_meets :
    Meets (Holds config {} .idle s) s.acquire fun r h =>
      Outcome (fun _ h => Agrees config r.2 h) (fun _ h => Stopped config r.2 h) r.1 h := by
  refine prime_meets.bind fun s => .of_exists fun primed => openPrimary_meets.bind ?_
  rintro ⟨error | primary, s⟩
  · apply Meets.pure
    intro h hs
    exact ⟨_, _, .primed .gathering, hs⟩
  · refine (bindSymbols_meets primed primary).bind ?_
    rintro ⟨error | e, s⟩
    · -- The primary library was closed on the spot, which leaves the primed ones to be given back.
      apply Meets.pure
      intro h hs
      exact ⟨_, _, .primed .left, hs⟩
    · exact .of_exists fun table => .of_and fun hentry => .of_and fun he => start_meets hentry he

/-- A load that fails gives back what it acquired. -/
theorem loadFresh_meets :
    Meets (Holds config {} .idle s) s.loadFresh fun r h => Agrees config r.2 h := by
  refine (notify_meets _ { symbolSetVersion := Plugin.symbolSetVersion }).seq
    (acquire_meets.bind ?_)
  rintro ⟨error | _, s⟩
  · refine .of_exists fun held => .of_exists fun a => .of_and fun hfits => ?_
    refine (notify_meets _ { s.report with error := some error.message }).seq ?_
    refine (teardown_meets hfits).bind fun s => .of_and fun _ => ?_
    refine (enter_meets .failed).bind fun s => .of_and fun hstage => .pure ?_
    exact fun h hs => ⟨_, .resting hs.config (.inr hstage) hs.held, hs.shows⟩
  · exact fun h hs => hs

theorem load_meets (hs : s.Settled config a) :
    Meets (·.Shows a) s.load fun r h => Agrees config r.2 h := by
  unfold load
  split
  · refine .seq (Host.notify_meets _) ?_
    apply Meets.pure
    intro h hshows
    exact ⟨a, hs, hshows⟩
  · rename_i hstage
    cases hs with
    | resting hconfig _ hheld => exact fun h hshows => loadFresh_meets h ⟨hconfig, hheld, hshows⟩
    | ready _ hready => simp [hstage] at hready
  · -- After a failure nothing is held, and a load gives back what is held before it begins.
    refine hs.teardown_meets.bind fun next => .of_and fun _ => ?_
    exact fun h hnext => loadFresh_meets h ⟨hnext.config, hnext.held, hnext.shows⟩

/-! ### Unloading -/

theorem unload_meets (hs : s.Settled config a) :
    Meets (·.Shows a) s.unload fun next h => Agrees config next h := by
  unfold unload
  split
  · apply Meets.pure
    intro h hshows
    exact ⟨a, hs, hshows⟩
  · refine hs.teardown_meets.bind fun next => .of_and fun _ => (enter_meets .unloaded).imp ?_
    rintro next h ⟨hstage, hnext⟩
    exact ⟨_, .resting hnext.config (.inl hstage) hnext.held, hnext.shows⟩

/-- The end of a session closes all that is open. -/
theorem drop_meets (hs : s.Settled config a) : Meets (·.Shows a) s.drop fun _ h => h.Shows .idle :=
  Holdings.release_meets hs.fits

/-! ### Calling -/

/-- Entry points are given out only while the plugin serves. -/
theorem readyEntry_meets (hs : s.Settled config a) :
    Meets (·.Shows a) s.readyEntry
      (Outcome
        (fun e h => (∃ ms t, a = .holding ms t ∧ e.Of t ∧ t.progress = .serving) ∧ h.Shows a)
        fun _ h => h.Shows a) := by
  unfold readyEntry
  split
  · rename_i table htable hstage
    cases hs with
    | resting _ hresting => simp [hstage] at hresting
    | ready _ _ hheld hbound hserving =>
      obtain ⟨-, ⟨e, hentry, he⟩, -⟩ := hbound
      obtain rfl := Option.some.inj (htable.symm.trans (congrArg Holdings.table hheld))
      rw [hentry]
      apply Meets.pure
      intro h hshows
      exact ⟨⟨_, _, rfl, he, hserving⟩, hshows⟩
  · exact .seq (Host.notify_meets _) (.pure fun _ h => h)

/-- What is done with the entry points leaves the posture as it is, if it does so for a plugin that
    serves. -/
theorem readyEntry_bind_meets {β : Type}
    {next : Except LoadError (EntryPoints p.Address) → Action p β} (hs : s.Settled config a)
    (hready : ∀ (e : EntryPoints p.Address) (ms : List (Nat × String)) (t : Tenure), e.Of t →
      t.progress = .serving →
      Meets (·.Shows (.holding ms t)) (next (.ok e)) fun _ h => h.Shows (.holding ms t))
    (hrefused : ∀ error, Meets (·.Shows a) (next (.error error)) fun _ h => h.Shows a) :
    Meets (·.Shows a) (s.readyEntry >>= next) fun _ h => h.Shows a := by
  refine (readyEntry_meets hs).bind ?_
  rintro (error | e)
  · exact hrefused error
  · refine .of_and fun hserves => ?_
    obtain ⟨ms, t, rfl, he, hserving⟩ := hserves
    exact hready e ms t he hserving

theorem superSample_meets (hs : s.Settled config a) (input output : UInt64) (timeout : Int32) :
    Meets (·.Shows a) (s.superSample input output timeout) fun _ h => h.Shows a := by
  refine readyEntry_bind_meets hs (fun e ms t he hserving => ?_) fun error => .pure fun _ h => h
  exact (e.callRunSync_meets he hserving input output timeout).bind fun _ => .pure fun _ h => h

theorem superSampleAsync_meets (hs : s.Settled config a) (input output callback : UInt64) :
    Meets (·.Shows a) (s.superSampleAsync input output callback) fun _ h => h.Shows a := by
  refine readyEntry_bind_meets hs (fun e ms t he hserving => ?_) fun error => .pure fun _ h => h
  exact (e.callRunAsync_meets he hserving input output callback).bind fun _ => .pure fun _ h => h

theorem assetsDir_meets (hs : s.Settled config a) :
    Meets (·.Shows a) s.assetsDir fun _ h => h.Shows a := by
  refine readyEntry_bind_meets hs (fun e ms t he hserving => ?_) fun error => .pure fun _ h => h
  refine (e.callGetAssets_meets he hserving).bind ?_
  rintro (detail | dir)
  · exact .pure fun _ h => h
  · exact .pure fun _ h => h

/-! ## Runs -/

theorem perform_meets (operation : Operation) :
    Meets (Agrees config s) (s.perform operation) fun next h => Agrees config next h := by
  refine .of_exists fun a => .of_and fun hs => ?_
  have hstays : ∀ h : Host p, h.Shows a → Agrees config s h := fun h hshows => ⟨a, hs, hshows⟩
  cases operation with
  | load => exact (load_meets hs).bind fun r => .pure fun _ h => h
  | unload => exact unload_meets hs
  | superSample input output timeout =>
    exact (superSample_meets hs input output timeout).bind fun _ => .pure hstays
  | superSampleAsync input output callback =>
    exact (superSampleAsync_meets hs input output callback).bind fun _ => .pure hstays
  | assetsDir => exact (assetsDir_meets hs).bind fun _ => .pure hstays

theorem turn_meets (t : Turn p) :
    Meets (Agrees config s) (s.turn t) fun next h => Agrees config next h := by
  cases t with
  | outside world =>
    refine .of_exists fun a => .of_and fun hs => (Host.become_meets _).bind fun _ => .pure ?_
    exact fun h hshows => ⟨a, hs, hshows⟩
  | asked operation => exact perform_meets operation

/-- Whatever a session is asked for, and whatever happens outside it, what it holds is what is
    open. -/
theorem reached_agrees (config : Config) (world : p.World) (turns : List (Turn p)) :
    Agrees config (reached config world turns).1 (reached config world turns).2 := by
  induction turns using List.reverseRecOn with
  | nil => exact ⟨.idle, .resting rfl (.inl rfl) rfl, Host.shows_new world⟩
  | append_singleton turns t ih =>
    rw [reached_concat]
    exact turn_meets t _ ih

theorem live_shows (config : Config) (world : p.World) (turns : List (Turn p)) :
    ((live config turns).run { world }).2.Shows .idle := by
  obtain ⟨a, hs, hshows⟩ := reached_agrees config world turns
  rw [run_live]
  exact drop_meets hs _ hshows

end Session

end PluginChain
