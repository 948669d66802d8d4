import PluginChain.Proofs.Session.Course
import PluginChain.Proofs.Session.Renewal

/-!
# Accounts of loads

An account tells a whole load: what came of the auxiliary libraries and of the primary one, and the
result. The events of the load, its moves and the session that it leaves can be read off the
account.

Main statements:
* `Session.loadFresh_does`: a load comes to what its account says.
* `Session.load_tells`, `Session.load_has_account`: every load of a session that is not ready has an
  account.
-/

namespace PluginChain

open PluginChain.Action

variable {p : Platform}

namespace Stage

/-- The stages that a load passes from the beginning to the end. -/
def ladder : List Stage :=
  [unloaded, priming, loadingPrimary, resolvingSymbols, initializing, ready]

/-- The moves along a list of stages. -/
def legs (stages : List Stage) : List (Stage × Stage) :=
  stages.zip stages.tail

/-- The moves of a load up to a stage of the ladder. -/
def climb (s : Stage) : List (Stage × Stage) :=
  legs (ladder.take (ladder.idxOf s + 1))

end Stage

/-- What came of a load: of the auxiliary libraries, of the primary library, and of the load as a
    whole. -/
structure Account (p : Platform) where
  trials : List (Trial p)
  way : Way p
  result : Except LoadError Unit

namespace Account

/-- The account of a load that begins in the world `w`, after `n` modules have opened. -/
structure Of (c : Config) (n : Nat) (w : p.World) (a : Account p) (w' : p.World) : Prop where
  names : a.trials.map (·.name) = c.auxiliaryLibraries
  course : ∃ w₁, Primed.Goes c.redirects c.systemPaths n a.trials w w₁ ∧
    Session.Course c w₁ a.way a.result w'

variable (c : Config) (n : Nat) (a : Account p)

/-- The auxiliary libraries. -/
def primed : Primed p :=
  .ofTrials a.trials

/-- The primary library, if it opened. -/
def library? : Option (OpenLibrary p) :=
  a.way.primary?.map fun f =>
    ⟨⟨c.primaryLibrary, c.primaryTarget, f.1⟩, .isolated, f.2, n + a.primed.libraries.length⟩

/-- The trial of the primary library. -/
def primaryTrial : Trial p :=
  ⟨c.primaryLibrary, a.way.refused, a.library? c n⟩

/-- The symbols, if all that must be there were found. -/
def symbols : List SymbolStatus :=
  if a.way.bindings.map (·.spec) = Plugin.symbols ∧ ∀ b ∈ a.way.bindings, b.Met then
    a.way.bindings.map Binding.status
  else []

/-- The report of the load. -/
def report : LoadReport where
  symbolSetVersion := Plugin.symbolSetVersion
  primed := a.primed.identities
  misses := a.primed.misses
  primary := (a.library? c n).map (·.identity)
  symbols := a.symbols
  error :=
    match a.result with
    | .ok () => none
    | .error error => some error.message

/-- The session that the load leaves. -/
def session : Session p where
  config := c
  stage :=
    match a.result with
    | .ok () => .ready
    | .error _ => .failed
  held :=
    match a.result, a.library? c n with
    | .ok (), some library =>
      ⟨some a.primed, some library, some ⟨library.serial, a.way.bindings⟩, true⟩
    | _, _ => {}
  report := a.report c n

/-- What the load did to the outside before it ended. -/
def deeds : List Event :=
  a.trials.flatMap (Trial.events .global) ++ (a.primaryTrial c n).events .isolated ++
    (a.library? c n).toList.flatMap fun library =>
      library.lookups a.way.bindings ++ Event.calls library.serial a.way.calls

/-- What the load did to the outside: when it failed, it closed all that it opened, newest first. -/
def events : List Event :=
  a.deeds c n ++
    match a.result with
    | .ok () => []
    | .error _ => OpenLibrary.closings ((a.library? c n).toList ++ a.primed.libraries.reverse)

theorem symbols_of_found {a : Account p} (hspecs : a.way.bindings.map (·.spec) = Plugin.symbols)
    (hmet : ∀ b ∈ a.way.bindings, b.Met) : a.symbols = a.way.bindings.map Binding.status :=
  if_pos ⟨hspecs, hmet⟩

theorem symbols_of_missing {a : Account p} {spec : SymbolSpec} (hb : ⟨spec, none⟩ ∈ a.way.bindings)
    (hrequired : spec.required = true) : a.symbols = [] :=
  if_neg fun hfound => absurd (hfound.2 _ hb hrequired) (by simp)

variable {c n a}

theorem deeds_of_none (h : a.library? c n = none) :
    a.deeds c n =
      a.trials.flatMap (Trial.events .global) ++
        Trial.events (p := p) .isolated ⟨c.primaryLibrary, a.way.refused, none⟩ := by
  simp [deeds, primaryTrial, h]

theorem deeds_of_some {library : OpenLibrary p} (h : a.library? c n = some library) :
    a.deeds c n =
      a.trials.flatMap (Trial.events .global) ++
        Trial.events .isolated ⟨c.primaryLibrary, a.way.refused, some library⟩ ++
        (library.lookups a.way.bindings ++ Event.calls library.serial a.way.calls) := by
  simp [deeds, primaryTrial, h]

theorem events_of_error {error : LoadError} (h : a.result = .error error) :
    a.events c n = a.deeds c n ++
      OpenLibrary.closings ((a.library? c n).toList ++ a.primed.libraries.reverse) := by
  simp [events, h]

theorem report_of_error {error : LoadError} (h : a.result = .error error) :
    a.report c n =
      { symbolSetVersion := Plugin.symbolSetVersion
        primed := a.primed.identities
        misses := a.primed.misses
        primary := (a.library? c n).map (·.identity)
        symbols := a.symbols
        error := some error.message } := by
  simp [report, h]

variable (a)

/-- How the session moved. -/
def moves : List (Stage × Stage) :=
  a.way.stage.climb ++
    match a.result with
    | .ok () => []
    | .error _ => [(a.way.stage, .failed)]

end Account

/-! ## Giving back -/

namespace Holdings

variable {l : Ledger p} {primed : Option (Primed p)} {primary : Option (OpenLibrary p)}

/-- A plugin that did not start up is not shut down. -/
theorem shutDown_does_nothing {held : Holdings p} (h : held.started = false) :
    held.shutDown.Does l () (l.add l.world [] []) := by
  rw [shutDown, if_neg (by simp [h]), Ledger.add_nil]
  exact .pure

/-- A plugin that started up is shut down as the platform answers. -/
theorem shutDown_does {serial : Nat} {bindings : List (Binding p.Address)}
    {stops : List (Call × Bool)} {w : p.World} (hspecs : bindings.map (·.spec) = Plugin.symbols)
    (hmet : ∀ b ∈ bindings, b.Met) (hstops : p.Stops bindings stops l.world w) :
    (shutDown ⟨primed, primary, some ⟨serial, bindings⟩, true⟩).Does l ()
      (l.add w (Event.calls serial stops) []) := by
  obtain ⟨e, hentry, he⟩ := SymbolTable.exists_entryPoints hspecs hmet serial
  obtain rfl := he.serial
  simp only [shutDown, Option.map_some, hentry, if_true]
  cases hstops with
  | unable hlacks =>
    rw [EntryPoints.callShutDown, SymbolTable.address?_unique hspecs he.shutDown hlacks]
    exact Does.pure.bind ((Host.notify_does rfl).of_eq rfl (by simp [Event.calls, Ledger.add_nil]))
  | @asked function ending w w' hhas hcall =>
    simp only [EntryPoints.callShutDown,
      SymbolTable.address?_unique hspecs he.shutDown hhas, bind_assoc]
    refine (Plugin.call_does .shutDown hcall).bind ?_
    cases ending with
    | returned _ => exact Does.pure.bind (Host.notify_does rfl)
    | unwound payload => exact Does.pure.bind (Host.notify_does rfl)

/-- What is held is closed after the plugin was shut down: the primary library, then the primed
    ones, newest first. -/
theorem release_does {held : Holdings p} {stops : List Event} {w : p.World}
    (hstops : held.shutDown.Does l () (l.add w stops [])) :
    ∃ w', held.release.Does l ()
      (l.add w' (stops ++ OpenLibrary.closings
        (held.primary.toList ++ held.primed.toList.flatMap (·.libraries.reverse))) []) := by
  obtain ⟨primed, primary, table, started⟩ := held
  have hprimary : ∃ v, (releasePrimary ⟨primed, primary, table, started⟩).Does (l.add w stops []) ()
      (l.add v (stops ++ OpenLibrary.closings primary.toList) []) := by
    cases primary with
    | none => exact ⟨w, Does.pure.of_eq rfl (by simp [OpenLibrary.closings])⟩
    | some library =>
      refine ⟨_, (Host.notify_does rfl).bind (library.close_does.of_eq rfl (Ledger.add_add ..))⟩
  obtain ⟨v, hprimary⟩ := hprimary
  cases primed with
  | none =>
    refine ⟨v, hstops.bind (hprimary.bind (Does.pure.of_eq rfl (by simp)))⟩
  | some primed =>
    obtain ⟨w', hprimed⟩ :=
      primed.release_does (l := l.add v (stops ++ OpenLibrary.closings primary.toList) [])
    have hdiscarded : (discard primed.release).Does _ () _ := fun h hl => ⟨rfl, (hprimed h hl).2⟩
    refine ⟨w', hstops.bind (hprimary.bind (hdiscarded.of_eq rfl ?_))⟩
    simp [OpenLibrary.closings]

end Holdings

/-! ## The stages -/

section Calls

variable {l : Ledger p} {e : EntryPoints p.Address} {dir : String}

/-- A directory with a NUL in it is not handed over. -/
theorem EntryPoints.callSetAssets_does_nul {before after : List UInt8}
    (hnul : Text.Utf8.encode dir = before ++ 0 :: after) (hfirst : 0 ∉ before) :
    (e.callSetAssets dir).Does l (.error (Plugin.nulDetail before.length)) l := by
  simp only [callSetAssets, Text.Terminated.encode_eq_error hnul hfirst]
  exact .pure

/-- Any other directory is. -/
theorem EntryPoints.callSetAssets_eq (hnul : '\x00' ∉ dir.toList) :
    e.callSetAssets dir =
      Plugin.call e.serial e.setAssets (.setAssets (Text.Utf8.encode dir)) := by
  have hencode : Text.Terminated.encode dir = .ok (Text.Utf8.encode dir) :=
    Text.Terminated.encode_eq_ok_iff.2 ⟨rfl, mt Text.Utf8.zero_mem_encode_iff.1 hnul⟩
  simp only [callSetAssets, hencode]

theorem EntryPoints.callSetAssets_does_unwound {payload : Payload} {w : p.World}
    (hnul : '\x00' ∉ dir.toList)
    (h : p.setAssets e.setAssets (Text.Utf8.encode dir) l.world = (.unwound payload, w)) :
    (e.callSetAssets dir).Does l (.error (Plugin.unwoundDetail Plugin.setAssetsSymbol payload))
      (l.add w (Event.calls e.serial [(.setAssets (Text.Utf8.encode dir), false)]) []) := by
  rw [callSetAssets_eq hnul]
  exact Plugin.call_does (.setAssets (Text.Utf8.encode dir)) h

theorem EntryPoints.callSetAssets_does_returned {w : p.World} (hnul : '\x00' ∉ dir.toList)
    (h : p.setAssets e.setAssets (Text.Utf8.encode dir) l.world = (.returned (), w)) :
    (e.callSetAssets dir).Does l (.ok ())
      (l.add w (Event.calls e.serial [(.setAssets (Text.Utf8.encode dir), true)]) []) := by
  rw [callSetAssets_eq hnul]
  exact Plugin.call_does (.setAssets (Text.Utf8.encode dir)) h

end Calls

namespace Session

variable {l l' : Ledger p} {s : Session p}

theorem enter_does (stage : Stage) :
    (s.enter stage).Does l { s with stage } (l.add l.world [] [(s.stage, stage)]) :=
  (Host.notify_moved_does s.stage stage).bind .pure

theorem teardown_does (h : s.held.release.Does l () l') :
    s.teardown.Does l { s with held := {} } l' :=
  h.bind .pure

theorem prime_does {trials : List (Trial p)} {w : p.World}
    (hnames : trials.map (·.name) = s.config.auxiliaryLibraries)
    (h : Primed.Goes s.config.redirects s.config.systemPaths l.opened trials l.world w) :
    s.prime.Does l
      { s with
        stage := .priming
        held := { s.held with primed := some (.ofTrials trials) }
        report := { s.report with
          primed := (Primed.ofTrials trials).identities
          misses := (Primed.ofTrials trials).misses } }
      (l.add w (trials.flatMap (Trial.events .global)) [(s.stage, .priming)]) := by
  refine (enter_does .priming).bind ?_
  have hprimed := Primed.acquire_does (l := l.add l.world [] [(s.stage, .priming)]) h rfl rfl
  rw [hnames] at hprimed
  refine hprimed.bind ?_
  rw [Ledger.add_add]
  split
  · exact (Host.notify_does rfl).bind .pure
  · exact .pure

theorem openPrimary_does {t : Trial p} {w : p.World} (hname : t.name = s.config.primaryLibrary)
    (hreport : s.report.primary = none)
    (h : t.Goes s.config.redirects s.config.appPaths .isolated l.opened l.world w) :
    s.openPrimary.Does l
      (t.result s.config.redirects s.config.appPaths,
        { s with
          stage := .loadingPrimary
          report := { s.report with primary := t.library?.map (·.identity) } })
      (l.add w (t.events .isolated) [(s.stage, .loadingPrimary)]) := by
  refine (enter_does .loadingPrimary).bind ?_
  have hopened := OpenLibrary.acquire_does (l := l.add l.world [] [(s.stage, .loadingPrimary)]) h
  rw [hname] at hopened
  refine hopened.bind ?_
  rw [Ledger.add_add]
  cases ht : t.library? with
  | some library =>
    simp only [Trial.result, ht]
    exact (Host.notify_does rfl).bind .pure
  | none =>
    simp only [Trial.result, ht, Option.map_none, ← hreport]
    exact .pure

variable (primary : OpenLibrary p) {bindings : List (Binding p.Address)}

theorem bindSymbols_does_finds {w : p.World}
    (h : p.Finds primary.module Plugin.symbols bindings l.world w) :
    ∃ e : EntryPoints p.Address, e.Reads primary.serial bindings ∧
      (s.bindSymbols primary).Does l
        (.ok e,
          { s with
            stage := .resolvingSymbols
            held :=
              { s.held with primary := some primary, table := some ⟨primary.serial, bindings⟩ }
            report := { s.report with symbols := bindings.map Binding.status } })
        (l.add w (primary.lookups bindings) [(s.stage, .resolvingSymbols)]) := by
  obtain ⟨e, hentry, he⟩ := SymbolTable.exists_entryPoints h.specs h.met primary.serial
  refine ⟨e, he, (enter_does .resolvingSymbols).bind ?_⟩
  refine (SymbolTable.resolve_does_finds
    (l := l.add l.world [] [(s.stage, .resolvingSymbols)]) h).bind ?_
  simp only [hentry, Ledger.add_add]
  exact .pure

theorem bindSymbols_does_lacks {spec : SymbolSpec} {w : p.World}
    (h : p.Lacks primary.module Plugin.symbols bindings spec l.world w) :
    (s.bindSymbols primary).Does l
      (.error (.missingSymbol spec.name), { s with stage := .resolvingSymbols })
      (l.add (p.closeModule primary.module w).2
        (primary.lookups (bindings ++ [⟨spec, none⟩]) ++ OpenLibrary.closings [primary])
        [(s.stage, .resolvingSymbols)]) := by
  refine (enter_does .resolvingSymbols).bind ?_
  refine (SymbolTable.resolve_does_lacks
    (l := l.add l.world [] [(s.stage, .resolvingSymbols)]) h).bind ?_
  refine primary.close_does.bind (Does.pure.of_eq rfl ?_)
  simp only [Ledger.add_add, Ledger.world_add, List.nil_append, List.append_nil]

variable {e : EntryPoints p.Address} {w : p.World}

/-- Starting up begins with one call, and how it ended decides what is done next. -/
theorem enter_callStartUp_does {α : Type} {a : α} {ending : Ending Unit}
    {next : Session p → Except String Unit → Action p α}
    (hcall : p.startUp e.startUp l.world = (ending, w))
    (hnext : (next { s with stage := .initializing } (ending.result Plugin.startUpSymbol)).Does
      (l.add w (Event.calls e.serial [(.startUp, ending.completed)]) [(s.stage, .initializing)])
      a l') :
    (s.enter .initializing >>= fun s => e.callStartUp >>= next s).Does l a l' := by
  refine (enter_does .initializing).bind ?_
  refine (Plugin.call_does (l := l.add l.world [] [(s.stage, .initializing)])
    .startUp hcall).bind ?_
  rwa [Ledger.add_add]

theorem start_does_unwound {payload : Payload}
    (hcall : p.startUp e.startUp l.world = (.unwound payload, w)) :
    (s.start e).Does l
      (.error (.startFailed (Plugin.unwoundDetail Plugin.startUpSymbol payload)),
        { s with stage := .initializing })
      (l.add w (Event.calls e.serial [(.startUp, false)]) [(s.stage, .initializing)]) := by
  exact enter_callStartUp_does hcall .pure

/-- A plugin that started up may fail to take its assets directory. -/
theorem start_does_error {detail : String} (hcall : p.startUp e.startUp l.world = (.returned (), w))
    (hset : (e.callSetAssets s.config.assetsDir).Does
      (l.add w (Event.calls e.serial [(.startUp, true)]) [(s.stage, .initializing)])
      (.error detail) l') :
    (s.start e).Does l
      (.error (.startFailed detail),
        { s with stage := .initializing, held := { s.held with started := true } }) l' := by
  refine enter_callStartUp_does hcall ?_
  exact (Host.notify_does rfl).bind (hset.bind .pure)

theorem start_does_ok (hcall : p.startUp e.startUp l.world = (.returned (), w))
    (hset : (e.callSetAssets s.config.assetsDir).Does
      (l.add w (Event.calls e.serial [(.startUp, true)]) [(s.stage, .initializing)]) (.ok ()) l') :
    (s.start e).Does l (.ok (), { s with stage := .ready, held := { s.held with started := true } })
      (l'.add l'.world [] [(.initializing, .ready)]) := by
  refine enter_callStartUp_does hcall ?_
  refine (Host.notify_does rfl).bind (hset.bind ?_)
  exact (Host.notify_does rfl).bind ((enter_does .ready).bind .pure)

/-! ## A whole load -/

theorem loadFresh_does_ok {next : Session p}
    (hacquire : Does (acquire { s with report := { symbolSetVersion := Plugin.symbolSetVersion } })
      l (.ok (), next) l') :
    s.loadFresh.Does l (.ok (), next) l' := by
  refine (Host.notify_does rfl).bind (hacquire.bind ?_)
  exact (Host.notify_does rfl).bind .pure

/-- What a failed load holds is given back before the session is `failed`. -/
theorem loadFresh_does_error {error : LoadError} {next : Session p} {l₁ : Ledger p}
    (hacquire : Does (acquire { s with report := { symbolSetVersion := Plugin.symbolSetVersion } })
      l (.error error, next) l₁)
    (hrelease : next.held.release.Does l₁ () l') :
    s.loadFresh.Does l
      (.error error,
        { next with
          stage := .failed
          held := {}
          report := { next.report with error := some error.message } })
      (l'.add l'.world [] [(next.stage, .failed)]) := by
  have hteardown := teardown_does
    (s := { next with report := { next.report with error := some error.message } }) hrelease
  refine (Host.notify_does rfl).bind
    (hacquire.bind ((Host.notify_does rfl).bind (hteardown.bind ?_)))
  exact (enter_does .failed).bind .pure

/-- The session of a load that begins. -/
def begun (c : Config) : Session p where
  config := c
  report := { symbolSetVersion := Plugin.symbolSetVersion }

/-- The session of a load that has primed the auxiliary libraries. -/
def primedBy (c : Config) (trials : List (Trial p)) : Session p where
  config := c
  stage := .priming
  held := { primed := some (.ofTrials trials) }
  report :=
    { symbolSetVersion := Plugin.symbolSetVersion
      primed := (Primed.ofTrials trials).identities
      misses := (Primed.ofTrials trials).misses }

/-- The session of a load that has attempted the primary library. -/
def openedBy (c : Config) (trials : List (Trial p)) (primary? : Option (OpenLibrary p)) :
    Session p :=
  { primedBy c trials with
    stage := .loadingPrimary
    report := { (primedBy c trials).report with primary := primary?.map (·.identity) } }

/-- The session of a load that has found all symbols. -/
def boundBy (c : Config) (trials : List (Trial p)) (primary : OpenLibrary p)
    (bindings : List (Binding p.Address)) : Session p :=
  { openedBy c trials (some primary) with
    stage := .resolvingSymbols
    held := ⟨some (.ofTrials trials), some primary, some ⟨primary.serial, bindings⟩, false⟩
    report :=
      { (openedBy c trials (some primary)).report with symbols := bindings.map Binding.status } }

section Acquire

variable {c : Config} {trials : List (Trial p)} {t : Trial p} {w₁ w₂ : p.World}
  (hnames : trials.map (·.name) = c.auxiliaryLibraries) (hname : t.name = c.primaryLibrary)
  (hprime : Primed.Goes c.redirects c.systemPaths l.opened trials l.world w₁)
  (hopen : t.Goes c.redirects c.appPaths .isolated
    (l.opened + (Primed.ofTrials trials).libraries.length) w₁ w₂)

include hnames hname hprime hopen

/-- Both kinds of libraries open as their trials go. -/
theorem prime_openPrimary_does :
    ((begun c).prime >>= openPrimary).Does l
      (t.result c.redirects c.appPaths, openedBy c trials t.library?)
      (l.add w₂ (trials.flatMap (Trial.events .global) ++ t.events .isolated)
        (Stage.climb .loadingPrimary)) := by
  refine (prime_does (s := begun c) hnames hprime).bind ?_
  refine (openPrimary_does hname rfl (w := w₂) ?_).of_eq rfl (Ledger.add_add ..)
  rwa [Ledger.opened_add, Primed.length_opened?_trials]

/-- Without the primary library a load is over. -/
theorem acquire_does_missed {error : LoadError}
    (hmissed : t.result c.redirects c.appPaths = .error error) :
    (begun c).acquire.Does l (.error error, openedBy c trials t.library?)
      (l.add w₂ (trials.flatMap (Trial.events .global) ++ t.events .isolated)
        (Stage.climb .loadingPrimary)) := by
  have hopened := prime_openPrimary_does hnames hname hprime hopen
  rw [hmissed] at hopened
  exact hopened.bind_bind .pure

variable {library : OpenLibrary p} (hfound : t.library? = some library)

include hfound

/-- A library that lacks a symbol is closed on the spot. -/
theorem acquire_does_lacks {bindings : List (Binding p.Address)} {spec : SymbolSpec} {w₃ : p.World}
    (hlacks : p.Lacks library.module Plugin.symbols bindings spec w₂ w₃) :
    (begun c).acquire.Does l
      (.error (.missingSymbol spec.name),
        { openedBy c trials (some library) with stage := .resolvingSymbols })
      (l.add (p.closeModule library.module w₃).2
        (trials.flatMap (Trial.events .global) ++ t.events .isolated ++
          (library.lookups (bindings ++ [⟨spec, none⟩]) ++ OpenLibrary.closings [library]))
        (Stage.climb .resolvingSymbols)) := by
  have hopened := prime_openPrimary_does hnames hname hprime hopen
  simp only [Trial.result, hfound] at hopened
  have hclosed := bindSymbols_does_lacks (s := openedBy c trials (some library))
    (l := l.add w₂ (trials.flatMap (Trial.events .global) ++ t.events .isolated)
      (Stage.climb .loadingPrimary)) library hlacks
  rw [Ledger.add_add] at hclosed
  exact hopened.bind_bind (hclosed.bind .pure)

end Acquire

/-- Where the primary library is offered, what is left is starting the plugin up. -/
theorem acquire_does_offers {c : Config} {trials : List (Trial p)}
    {refused : List (String × String)} {location : String} {module : p.Module} {w₁ w₂ : p.World}
    {library : OpenLibrary p} (hnames : trials.map (·.name) = c.auxiliaryLibraries)
    (hprime : Primed.Goes c.redirects c.systemPaths l.opened trials l.world w₁)
    (hoffers : Offers c refused location module bindings w₁ w₂)
    (hlibrary : library = ⟨⟨c.primaryLibrary, c.primaryTarget, location⟩, .isolated, module,
      l.opened + (Primed.ofTrials trials).libraries.length⟩) :
    ∃ e : EntryPoints p.Address, e.Reads library.serial bindings ∧
      ∀ r l', ((boundBy c trials library bindings).start e).Does
          (l.add w₂
            (trials.flatMap (Trial.events .global) ++
              Trial.events .isolated ⟨c.primaryLibrary, refused, some library⟩ ++
                library.lookups bindings)
            (Stage.climb .resolvingSymbols)) r l' →
        (begun c).acquire.Does l r l' := by
  obtain ⟨v, hopens, hfinds⟩ := hoffers
  have hmodule : library.module = module := by rw [hlibrary]
  have hopen : Trial.Goes c.redirects c.appPaths .isolated
      (l.opened + (Primed.ofTrials trials).libraries.length)
      ⟨c.primaryLibrary, refused, some library⟩ w₁ v := by
    rw [hlibrary]
    exact .opened hopens
  have hopened := prime_openPrimary_does hnames rfl hprime hopen
  obtain ⟨e, he, hbinds⟩ := bindSymbols_does_finds (s := openedBy c trials (some library))
    (l := l.add v (trials.flatMap (Trial.events .global) ++
      Trial.events .isolated ⟨c.primaryLibrary, refused, some library⟩)
      (Stage.climb .loadingPrimary)) library (hmodule ▸ hfinds)
  rw [Ledger.add_add] at hbinds
  exact ⟨e, he, fun r l' hstart => hopened.bind_bind (hbinds.bind hstart)⟩

/-- A load that fails gives back what it holds, and its account says so. -/
theorem loadFresh_does_failed {c : Config} {a : Account p} {error : LoadError} {next : Session p}
    {v w : p.World} {done stops : List Event} (hresult : a.result = .error error)
    (hacquire : (begun c).acquire.Does l (.error error, next) (l.add v done a.way.stage.climb))
    (hstage : next.stage = a.way.stage) (hconfig : next.config = c)
    (hprimed : next.held.primed = some a.primed)
    (hreport : { next.report with error := some error.message } = a.report c l.opened)
    (hstops : next.held.shutDown.Does (l.add v done a.way.stage.climb) ()
      ((l.add v done a.way.stage.climb).add w stops []))
    (hevents : done ++ stops ++
      OpenLibrary.closings (next.held.primary.toList ++ a.primed.libraries.reverse) =
      a.events c l.opened) :
    ∃ w', (new c).loadFresh.Does l (a.result, a.session c l.opened)
      (l.add w' (a.events c l.opened) a.moves) := by
  obtain ⟨w', hrelease⟩ := Holdings.release_does hstops
  rw [hprimed, Option.toList_some, List.flatMap_singleton] at hrelease
  refine ⟨w', (loadFresh_does_error (s := new c) hacquire hrelease).of_eq ?_ ?_⟩
  · simp only [Account.session, hresult, hreport, hconfig]
  · simp only [Account.moves, hresult, hstage, ← hevents, Ledger.add_add, Ledger.world_add,
      List.append_nil, List.append_assoc]

/-- A load that fails once all symbols are found. -/
theorem loadFresh_does_startFailed {c : Config} {a : Account p} {error : LoadError}
    {library : OpenLibrary p} {started : Bool} {calls stops : List (Call × Bool)} {v w : p.World}
    {next : Session p} (hresult : a.result = .error error) (hstage : a.way.stage = .initializing)
    (hlibrary : a.library? c l.opened = some library)
    (hspecs : a.way.bindings.map (·.spec) = Plugin.symbols) (hmet : ∀ b ∈ a.way.bindings, b.Met)
    (hcalls : a.way.calls = calls ++ stops)
    (hnext : next =
      { boundBy c a.trials library a.way.bindings with
        stage := .initializing
        held := { (boundBy c a.trials library a.way.bindings).held with started } })
    (hacquire : (begun c).acquire.Does l (.error error, next)
      (l.add v
        (a.trials.flatMap (Trial.events .global) ++
          Trial.events .isolated ⟨c.primaryLibrary, a.way.refused, some library⟩ ++
            library.lookups a.way.bindings ++
          Event.calls library.serial calls)
        (Stage.climb .initializing)))
    (hstops : ∀ l₁ : Ledger p, l₁.world = v →
      next.held.shutDown.Does l₁ () (l₁.add w (Event.calls library.serial stops) [])) :
    ∃ w', (new c).loadFresh.Does l (a.result, a.session c l.opened)
      (l.add w' (a.events c l.opened) a.moves) := by
  rw [← hstage] at hacquire
  subst hnext
  refine loadFresh_does_failed hresult hacquire hstage.symm rfl rfl ?_ (hstops _ rfl) ?_
  · rw [Account.report_of_error hresult, Account.symbols_of_found hspecs hmet, hlibrary]
    rfl
  · rw [Account.events_of_error hresult, Account.deeds_of_some hlibrary, hlibrary, hcalls]
    simp [boundBy, Account.primed, Event.calls]

/-- A load comes to what its account says. -/
theorem loadFresh_does {c : Config} {a : Account p} {w : p.World} (h : a.Of c l.opened l.world w) :
    ∃ w', (new c).loadFresh.Does l (a.result, a.session c l.opened)
      (l.add w' (a.events c l.opened) a.moves) := by
  obtain ⟨trials, way, result⟩ := a
  obtain ⟨hnames, w₁, hprime, hcourse⟩ := h
  simp only at hnames hprime hcourse
  cases hcourse with
  | @notFound refused reason w₂ hall hrefuses hlast =>
    have hmissed :
        Trial.result c.redirects c.appPaths (⟨c.primaryLibrary, refused, none⟩ : Trial p) =
        .error (.notFound c.primaryTarget c.primaryCandidates reason) := by
      rw [Trial.result, List.getLastD_eq_getLast?, hlast]
      rfl
    have hacquire := acquire_does_missed hnames rfl hprime (.missed hall hrefuses) hmissed
    refine loadFresh_does_failed rfl hacquire rfl rfl rfl ?_ (Holdings.shutDown_does_nothing rfl) ?_
    · rw [Account.report_of_error rfl]
      rfl
    · rw [Account.events_of_error rfl, Account.deeds_of_none rfl]
      simp [Account.library?, Account.primed, openedBy, primedBy]
  | @missingSymbol refused location module bindings spec w₂ w₃ hopens hlacks =>
    have hacquire := acquire_does_lacks (t := ⟨c.primaryLibrary, refused, some _⟩) hnames rfl
      hprime (.opened hopens) rfl hlacks
    refine loadFresh_does_failed rfl hacquire rfl rfl rfl ?_ (Holdings.shutDown_does_nothing rfl) ?_
    · rw [Account.report_of_error rfl, Account.symbols_of_missing (by simp) hlacks.required]
      rfl
    · rw [Account.events_of_error rfl, Account.deeds_of_some rfl]
      simp only [Event.calls, List.map_nil, List.append_nil, List.append_assoc]
      rfl
  | @startUpUnwinds refused location module bindings startUp payload w₂ w₃ hoffers hstartUp hcall =>
    obtain ⟨e, he, hacquire⟩ := acquire_does_offers hnames hprime hoffers rfl
    obtain rfl := SymbolTable.address_unique hoffers.specs he.startUp hstartUp
    have hfailed := hacquire _ _ (start_does_unwound hcall)
    rw [Ledger.add_add, he.serial] at hfailed
    exact loadFresh_does_startFailed rfl rfl rfl hoffers.specs hoffers.met
      (List.append_nil _).symm rfl hfailed
      fun l₁ hl => hl ▸ Holdings.shutDown_does_nothing rfl
  | @nulInAssets refused location module bindings startUp before after stops w₂ w₃ w₄
      hoffers hstartUp hcall hnul hfirst hstops =>
    obtain ⟨e, he, hacquire⟩ := acquire_does_offers hnames hprime hoffers rfl
    obtain rfl := SymbolTable.address_unique hoffers.specs he.startUp hstartUp
    have hfailed :=
      hacquire _ _ (start_does_error hcall (EntryPoints.callSetAssets_does_nul hnul hfirst))
    rw [Ledger.add_add, he.serial] at hfailed
    exact loadFresh_does_startFailed rfl rfl rfl hoffers.specs hoffers.met rfl rfl hfailed
      fun l₁ hl => Holdings.shutDown_does hoffers.specs hoffers.met (hl ▸ hstops)
  | @setAssetsUnwinds refused location module bindings startUp setAssets payload stops w₂ w₃
      w₄ w₅ hoffers hstartUp hcall hnul hsetAssets hset hstops =>
    obtain ⟨e, he, hacquire⟩ := acquire_does_offers hnames hprime hoffers rfl
    obtain rfl := SymbolTable.address_unique hoffers.specs he.startUp hstartUp
    obtain rfl := SymbolTable.address_unique hoffers.specs he.setAssets hsetAssets
    have hfailed :=
      hacquire _ _ (start_does_error hcall (EntryPoints.callSetAssets_does_unwound hnul hset))
    rw [Ledger.add_add, Ledger.add_add, he.serial, ← Event.calls_append] at hfailed
    exact loadFresh_does_startFailed rfl rfl rfl hoffers.specs hoffers.met rfl rfl hfailed
      fun l₁ hl => Holdings.shutDown_does hoffers.specs hoffers.met (hl ▸ hstops)
  | @loaded refused location module bindings startUp setAssets w₂ w₃ w₄ hoffers hstartUp hcall
      hnul hsetAssets hset =>
    obtain ⟨e, he, hacquire⟩ := acquire_does_offers hnames hprime hoffers rfl
    obtain rfl := SymbolTable.address_unique hoffers.specs he.startUp hstartUp
    obtain rfl := SymbolTable.address_unique hoffers.specs he.setAssets hsetAssets
    have hacquired :=
      hacquire _ _ (start_does_ok hcall (EntryPoints.callSetAssets_does_returned hnul hset))
    refine ⟨w, (loadFresh_does_ok (s := new c) hacquired).of_eq ?_ ?_⟩
    · rw [Account.session, Account.report, Account.symbols_of_found hoffers.specs hoffers.met]
      rfl
    · simp only [Ledger.add_add, Ledger.world_add]
      rw [Account.events, Account.deeds_of_some rfl, he.serial]
      simp only [Event.calls, List.map_cons, List.map_nil, List.append_nil, List.append_assoc,
        List.cons_append, List.nil_append]
      rfl

end Session

namespace Account

theorem exists_of (c : Config) (n : Nat) (w : p.World) :
    ∃ (a : Account p) (w' : p.World), a.Of c n w w' := by
  obtain ⟨trials, w₁, hnames, hprime⟩ :=
    Primed.exists_goes (p := p) c.redirects c.systemPaths c.auxiliaryLibraries n w
  obtain ⟨way, result, w', hcourse⟩ := Session.exists_course c w₁
  exact ⟨⟨trials, way, result⟩, w', hnames, w₁, hprime, hcourse⟩

/-- The calls of a load are those that its account names. -/
theorem call?_events {c : Config} {n : Nat} {w w' : p.World} {a : Account p} (h : a.Of c n w w') :
    (a.events c n).filterMap Event.call? = a.way.calls := by
  obtain ⟨-, w₁, -, hcourse⟩ := h
  have hcalls : (a.deeds c n).filterMap Event.call? = a.way.calls := by
    obtain ⟨location, module, _, hprimary, -⟩ | ⟨hprimary, -, hnone, -⟩ := hcourse.primary_cases
    · simp [deeds, library?, hprimary]
    · simp [deeds, library?, hprimary, hnone]
  rw [events, List.filterMap_append, hcalls]
  cases a.result <;> simp

/-- The account `a` tells of a load on the host `h` with the outcome `r`. -/
structure Tells (a : Account p) (c : Config) (h : Host p)
    (r : (Except LoadError Unit × Session p) × Host p) :
    Prop where
  of : ∃ w, a.Of c h.opened h.world w
  result : r.1.1 = a.result
  session : r.1.2 = a.session c h.opened
  events : r.2.events = h.events ++ a.events c h.opened
  moves : r.2.moves = h.moves ++ a.moves

end Account

namespace Session

variable {config : Config} {s : Session p} {posture : Posture} (hs : s.Settled config posture)
  (hready : s.stage ≠ .ready) (h : Host p)

include hs hready

/-- A session that is settled and not ready loads as the platform answers. -/
theorem load_tells {a : Account p} {w : p.World} (ha : a.Of config h.opened h.world w) :
    a.Tells config h (s.load.run h) := by
  obtain ⟨w', hload⟩ := loadFresh_does (l := h.ledger) ha
  obtain ⟨hresult, hledger⟩ := hload h rfl
  have hfresh : (new config : Session p).load = (new config).loadFresh := rfl
  have hevents := congrArg Ledger.events hledger
  have hmoves := congrArg Ledger.moves hledger
  rw [Host.events_ledger, Ledger.events_add] at hevents
  rw [Host.moves_ledger, Ledger.moves_add] at hmoves
  rw [run_load_of_resting hs hready, hfresh]
  exact ⟨⟨w, ha⟩, congrArg Prod.fst hresult, congrArg Prod.snd hresult, hevents, hmoves⟩

theorem load_has_account : ∃ a : Account p, a.Tells config h (s.load.run h) := by
  obtain ⟨a, w, ha⟩ := Account.exists_of config h.opened h.world
  exact ⟨a, load_tells hs hready h ha⟩

omit hs hready

/-- So does a load after any run that leaves a session without the plugin. -/
theorem reached_has_account {world : p.World} {turns : List (Turn p)}
    (hready : (reached config world turns).1.stage ≠ .ready) :
    ∃ a : Account p,
      a.Tells config (reached config world turns).2
        ((reached config world turns).1.load.run (reached config world turns).2) := by
  obtain ⟨posture, hs, -⟩ := reached_agrees config world turns
  exact load_has_account hs hready (reached config world turns).2

end Session

end PluginChain
