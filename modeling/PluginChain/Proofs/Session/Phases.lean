import PluginChain.Proofs.Session.Reporting

/-!
# The phases of a load

What a load does to the outside falls into phases that never mix: it attempts the auxiliary
libraries, then the primary one, looks symbols up in it, starts the plugin up, and, if it fails,
shuts the plugin down and closes what it opened. `Phases` is such a sequence, and `Phases.Of` says
what may happen in each phase.

Main statements:
* `Account.exists_phases`: the events that an account tells of are phases, one after the other.
* `Session.load_phases`: so are the events of every load of a session that is not ready.
-/

namespace PluginChain

variable {p : Platform}

/-- What a load does to the outside, phase by phase. -/
structure Phases where
  /-- The auxiliary libraries by name, each with the attempts at it. -/
  auxiliary : List (String × List Event)
  /-- The attempts at the primary library. -/
  primary : List Event
  lookups : List Event
  /-- The calls that start the plugin up and hand it its assets directory. -/
  starting : List Event
  /-- The calls that shut the plugin down. -/
  stopping : List Event
  closings : List Event

namespace Phases

/-- The phases, one after the other. -/
def events (f : Phases) : List Event :=
  f.auxiliary.flatMap (·.2) ++ f.primary ++ f.lookups ++ f.starting ++ f.stopping ++ f.closings

/-- The modules that open, as numbers and paths. -/
def opened (f : Phases) : List (Nat × String) :=
  f.events.filterMap Event.opened?

/-- The names of the symbols that are looked up. -/
def symbols (f : Phases) : List String :=
  (f.lookups.filterMap Event.lookup?).map Prod.fst

/-- What happens in each phase of a load with the configuration `c` that comes to `result`. -/
structure Of (c : Config) (result : Except LoadError Unit) (f : Phases) : Prop where
  /-- The auxiliary libraries come in the order of the configuration. -/
  names : f.auxiliary.map Prod.fst = c.auxiliaryLibraries
  /-- They are attempted for the whole process. -/
  auxiliary :
    ∀ a ∈ f.auxiliary, ∃ identity?, Sought c.redirects c.systemPaths .global a.1 a.2 identity?
  /-- The primary library is attempted for the plugin alone. -/
  primary :
    ∃ identity?, Sought c.redirects c.appPaths .isolated c.primaryLibrary f.primary identity?
  /-- No library opens twice. -/
  once : ∀ attempts ∈ f.primary :: f.auxiliary.map Prod.snd,
    (attempts.filterMap Event.opened?).length ≤ 1
  /-- The number of a module is its own. -/
  numbered : (f.opened.map Prod.fst).Nodup
  /-- Symbols are looked up in the primary library, which has opened. -/
  lookups : ∀ e ∈ f.lookups, ∃ serial path symbol present,
    .opened serial path .isolated ∈ f.primary ∧ e = .lookedUp serial path symbol present
  /-- They are looked up in their order, none of them twice. -/
  symbols : f.symbols <+: Plugin.symbols.map (·.name)
  symbols_nodup : f.symbols.Nodup
  /-- Calls go to the primary library. -/
  calls : ∀ e ∈ f.starting ++ f.stopping, ∃ serial path call completed,
    .opened serial path .isolated ∈ f.primary ∧ e = .called call ⟨serial, completed⟩
  /-- They are made only after all symbols were looked up. -/
  complete : f.starting ++ f.stopping ≠ [] → f.symbols = Plugin.symbols.map (·.name)
  /-- The plugin is started up before it is handed its assets directory. -/
  starting :
    (f.starting.filterMap Event.call?).map Prod.fst <+:
      [.startUp, .setAssets (Text.Utf8.encode c.assetsDir)]
  stopping : (f.stopping.filterMap Event.call?).map Prod.fst <+: [.shutDown]
  /-- Nothing is given back if the load goes well. -/
  ok : result = .ok () → f.stopping = [] ∧ f.closings = []
  /-- Otherwise all that opened is closed, newest first. -/
  failed :
    ∀ error, result = .error error → f.closings = f.opened.reverse.map fun m => .closed m.1 m.2

end Phases

/-! ## Attempts -/

/-- At most the last attempt at a library opens it. -/
theorem Sought.length_opened?_le {redirects : Redirects} {paths : List String} {sharing : Sharing}
    {name : String} {es : List Event} {identity? : Option Identity}
    (h : Sought redirects paths sharing name es identity?) :
    (es.filterMap Event.opened?).length ≤ 1 := by
  cases h with
  | opened => simp
  | missed => simp

/-! ## Calls -/

theorem Platform.Stops.isPrefix {bindings : List (Binding p.Address)} {stops : List (Call × Bool)}
    {w w' : p.World} (h : p.Stops bindings stops w w') : stops.map Prod.fst <+: [.shutDown] := by
  cases h with
  | unable => exact List.nil_prefix
  | asked => exact List.prefix_rfl

namespace Session.Course

variable {c : Config} {w w' : p.World} {way : Way p} {result : Except LoadError Unit}

/-- However far a load came, it looked symbols up in their order. -/
theorem specs_isPrefix (h : Course c w way result w') :
    way.bindings.map (·.spec) <+: Plugin.symbols := by
  cases h with
  | notFound => exact List.nil_prefix
  | missingSymbol _ hlacks =>
    obtain ⟨rest, hrest⟩ := hlacks.among
    exact ⟨rest, by simp [hrest]⟩
  | startUpUnwinds hoffers => exact hoffers.specs ▸ List.prefix_rfl
  | nulInAssets hoffers => exact hoffers.specs ▸ List.prefix_rfl
  | setAssetsUnwinds hoffers => exact hoffers.specs ▸ List.prefix_rfl
  | loaded hoffers => exact hoffers.specs ▸ List.prefix_rfl

/-- A load that made calls had looked all symbols up. -/
theorem specs_of_calls (h : Course c w way result w') (hcalls : way.calls ≠ []) :
    way.bindings.map (·.spec) = Plugin.symbols := by
  cases h with
  | notFound => exact absurd rfl hcalls
  | missingSymbol => exact absurd rfl hcalls
  | startUpUnwinds hoffers => exact hoffers.specs
  | nulInAssets hoffers => exact hoffers.specs
  | setAssetsUnwinds hoffers => exact hoffers.specs
  | loaded hoffers => exact hoffers.specs

/-- The plugin is started up first, and shut down last if the load fails. -/
theorem exists_calls (h : Course c w way result w') :
    ∃ starts stops, way.calls = starts ++ stops ∧
      starts.map Prod.fst <+: [.startUp, .setAssets (Text.Utf8.encode c.assetsDir)] ∧
      stops.map Prod.fst <+: [.shutDown] ∧ (result = .ok () → stops = []) := by
  cases h with
  | notFound => exact ⟨[], [], rfl, List.nil_prefix, List.nil_prefix, fun _ => rfl⟩
  | missingSymbol => exact ⟨[], [], rfl, List.nil_prefix, List.nil_prefix, fun _ => rfl⟩
  | startUpUnwinds => exact ⟨[_], [], rfl, ⟨[_], rfl⟩, List.nil_prefix, fun _ => rfl⟩
  | nulInAssets _ _ _ _ _ hstops =>
    exact ⟨[_], _, rfl, ⟨[_], rfl⟩, hstops.isPrefix, fun hok => nomatch hok⟩
  | setAssetsUnwinds _ _ _ _ _ _ hstops =>
    exact ⟨[_, _], _, rfl, List.prefix_rfl, hstops.isPrefix, fun hok => nomatch hok⟩
  | loaded => exact ⟨[_, _], [], rfl, List.prefix_rfl, List.nil_prefix, fun _ => rfl⟩

end Session.Course

/-! ## The phases of an account -/

namespace Account

variable {c : Config} {n : Nat} {w w' : p.World} {a : Account p}

/-- The libraries that a load opened, in the order of opening. -/
def libraries (c : Config) (n : Nat) (a : Account p) : List (OpenLibrary p) :=
  a.primed.libraries ++ (a.library? c n).toList

/-- The libraries that a load opens are numbered from `n` on. -/
theorem serials (h : a.Of c n w w') :
    (a.libraries c n).map (·.serial) = List.range' n (a.libraries c n).length := by
  obtain ⟨-, _, hprime, -⟩ := h
  have hserials : a.primed.libraries.map (·.serial) = List.range' n a.primed.libraries.length :=
    hprime.serials
  cases hprimary : a.way.primary? with
  | none => simp [libraries, library?, hprimary, hserials]
  | some found => simp [libraries, library?, hprimary, hserials, List.range'_concat]

/-- The calls `made` of functions of the primary library, as events. -/
def callEvents (c : Config) (n : Nat) (a : Account p) (made : List (Call × Bool)) : List Event :=
  (a.library? c n).toList.flatMap fun library => Event.calls library.serial made

theorem callEvents_nil : a.callEvents c n [] = [] := by
  cases hlibrary : a.library? c n <;> simp [callEvents, hlibrary, Event.calls]

theorem callEvents_append (starts stops : List (Call × Bool)) :
    a.callEvents c n (starts ++ stops) = a.callEvents c n starts ++ a.callEvents c n stops := by
  cases hlibrary : a.library? c n <;> simp [callEvents, hlibrary, Event.calls_append]

theorem call?_callEvents_isPrefix (made : List (Call × Bool)) :
    (a.callEvents c n made).filterMap Event.call? <+: made := by
  cases hlibrary : a.library? c n <;> simp [callEvents, hlibrary]

/-- The phases of a load with the calls `starts` and `stops`. -/
def phases (c : Config) (n : Nat) (a : Account p) (starts stops : List (Call × Bool)) : Phases where
  auxiliary := a.trials.map fun t => (t.name, t.events .global)
  primary := (a.primaryTrial c n).events .isolated
  lookups := (a.library? c n).toList.flatMap fun library => library.lookups a.way.bindings
  starting := a.callEvents c n starts
  stopping := a.callEvents c n stops
  closings :=
    match a.result with
    | .ok () => []
    | .error _ => OpenLibrary.closings (a.libraries c n).reverse

/-- The phases are the events of the load. -/
theorem events_phases {starts stops : List (Call × Bool)} (hcalls : a.way.calls = starts ++ stops) :
    (a.phases c n starts stops).events = a.events c n := by
  have hdeeds : a.deeds c n =
      a.trials.flatMap (Trial.events .global) ++ (a.primaryTrial c n).events .isolated ++
        (a.phases c n starts stops).lookups ++ (a.phases c n starts stops).starting ++
        (a.phases c n starts stops).stopping := by
    cases hlibrary : a.library? c n with
    | none => simp [phases, deeds, callEvents, hlibrary]
    | some library => simp [phases, deeds, callEvents, hlibrary, hcalls, Event.calls_append]
  have hreverse : (a.libraries c n).reverse = (a.library? c n).toList ++
      a.primed.libraries.reverse := by
    cases hlibrary : a.library? c n <;> simp [libraries, hlibrary]
  cases hresult : a.result <;>
    simp only [Phases.events, events, hdeeds, phases, List.flatMap_map, hresult, hreverse]

theorem opened?_events :
    (a.events c n).filterMap Event.opened? = (a.libraries c n).map (·.slot) := by
  have htrials : (a.trials.flatMap (Trial.events .global)).filterMap Event.opened? =
      a.primed.libraries.map (·.slot) := by
    rw [List.filterMap_flatMap, primed, Primed.ofTrials,
      List.filterMap_eq_flatMap_toList, List.map_flatMap]
    simp only [Trial.opened?_events]
  cases hlibrary : a.library? c n with
  | none => cases hresult : a.result <;>
    simp [events, deeds, hresult, hlibrary, libraries, htrials, primaryTrial]
  | some library =>
    cases hresult : a.result <;>
      simp [events, deeds, hresult, hlibrary, libraries, htrials, primaryTrial, OpenLibrary.lookups]

/-- Without the primary library no symbol is looked up and no call is made. -/
theorem nothing_of_none (h : a.Of c n w w') (hnone : a.library? c n = none) :
    a.way.bindings = [] ∧ a.way.calls = [] := by
  obtain ⟨-, _, -, hcourse⟩ := h
  obtain ⟨location, module, _, hprimary, -⟩ | ⟨-, hbindings, hcalls, -⟩ := hcourse.primary_cases
  · simp [library?, hprimary] at hnone
  · exact ⟨hbindings, hcalls⟩

/-- What is looked up are the symbols of the account. -/
theorem symbols_phases (h : a.Of c n w w') (starts stops : List (Call × Bool)) :
    (a.phases c n starts stops).symbols = a.way.bindings.map (·.spec.name) := by
  cases hlibrary : a.library? c n with
  | none => simp [Phases.symbols, phases, hlibrary, (nothing_of_none h hlibrary).1]
  | some library =>
    simp [Phases.symbols, phases, hlibrary, OpenLibrary.lookups, Event.lookups, Event.lookup?,
      List.filterMap_map, Function.comp_def]

/-- The primary library opens in its own phase. -/
theorem opened_mem_primary {library : OpenLibrary p}
    (hlibrary : library ∈ (a.library? c n).toList) :
    .opened library.serial library.identity.location .isolated ∈
      (a.primaryTrial c n).events .isolated :=
  List.mem_append_right _ (List.mem_map.2 ⟨library, hlibrary, rfl⟩)

/-- The events that an account tells of are phases of a load, one after the other. -/
theorem exists_phases (h : a.Of c n w w') :
    ∃ f : Phases, f.events = a.events c n ∧ f.Of c a.result := by
  obtain ⟨_, _, hprimary⟩ := primaryTrial_goes h
  obtain ⟨hnames, w₁, hprime, hcourse⟩ := id h
  obtain ⟨starts, stops, hcalls, hstarts, hstops, hok⟩ := hcourse.exists_calls
  have hevents : (a.phases c n starts stops).events = a.events c n := events_phases hcalls
  have hopened : (a.phases c n starts stops).opened = (a.libraries c n).map (·.slot) := by
    rw [Phases.opened, hevents, opened?_events]
  have hsymbols : (a.phases c n starts stops).symbols <+: Plugin.symbols.map (·.name) := by
    have hnames := hcourse.specs_isPrefix.map (·.name)
    rw [List.map_map] at hnames
    rw [symbols_phases h]
    exact hnames
  refine ⟨a.phases c n starts stops, hevents, ?_⟩
  constructor
  case names =>
    rw [← hnames, phases, List.map_map]
    rfl
  case auxiliary => exact List.forall_mem_map.2 fun t ht => ⟨_, hprime.sought t ht⟩
  case primary => exact ⟨_, hprimary.sought⟩
  case once =>
    refine List.forall_mem_cons.2 ⟨hprimary.sought.length_opened?_le, ?_⟩
    rw [phases, List.map_map]
    exact List.forall_mem_map.2 fun t ht => (hprime.sought t ht).length_opened?_le
  case numbered =>
    have hnumbers : (a.phases c n starts stops).opened.map Prod.fst =
        (a.libraries c n).map (·.serial) := by
      rw [hopened, List.map_map]
      rfl
    rw [hnumbers, serials h]
    exact List.nodup_range'
  case lookups =>
    intro e he
    obtain ⟨library, hlibrary, he⟩ := List.mem_flatMap.1 he
    obtain ⟨b, -, rfl⟩ := List.mem_map.1 he
    exact ⟨_, _, _, _, opened_mem_primary hlibrary, rfl⟩
  case symbols => exact hsymbols
  case symbols_nodup => exact hsymbols.sublist.nodup (by decide)
  case calls =>
    intro e he
    rw [phases, ← callEvents_append] at he
    obtain ⟨library, hlibrary, he⟩ := List.mem_flatMap.1 he
    obtain ⟨call, -, rfl⟩ := List.mem_map.1 he
    exact ⟨_, _, _, _, opened_mem_primary hlibrary, rfl⟩
  case complete =>
    intro hmade
    have hway : a.way.calls ≠ [] := by
      intro hnone
      rw [phases, ← callEvents_append, ← hcalls, hnone] at hmade
      exact hmade callEvents_nil
    rw [symbols_phases h, ← hcourse.specs_of_calls hway, List.map_map]
    rfl
  case starting => exact ((call?_callEvents_isPrefix starts).map Prod.fst).trans hstarts
  case stopping => exact ((call?_callEvents_isPrefix stops).map Prod.fst).trans hstops
  case ok =>
    intro hresult
    rw [phases, hok hresult]
    exact ⟨callEvents_nil, by rw [hresult]⟩
  case failed =>
    intro error hresult
    rw [hopened, phases, hresult, ← List.map_reverse, List.map_map]
    rfl

end Account

namespace Session

/-- The events of a load are phases that never mix, after every run that leaves a session without
    the plugin. -/
theorem load_phases (config : Config) (world : p.World) (turns : List (Turn p))
    (hready : (reached config world turns).1.stage ≠ .ready) :
    let s := (reached config world turns).1
    let h := (reached config world turns).2
    ∃ f : Phases, (s.load.run h).2.events = h.events ++ f.events ∧
      f.Of config (s.load.run h).1.1 := by
  obtain ⟨a, ha⟩ := reached_has_account hready
  obtain ⟨w', hof⟩ := ha.of
  obtain ⟨f, hevents, hf⟩ := Account.exists_phases hof
  refine ⟨f, ?_, ?_⟩
  · rw [ha.events, hevents]
  · rw [ha.result]
    exact hf

/-- A load after one in which the plugin unwound, on a device with one of the auxiliary
    libraries. -/
theorem load_phases_unwinding :
    let unwinding : Script :=
      (primaryAlone.install "libai_client.so" {}).setBehavior Plugin.startUpSymbol
        { unwinding := some .other }
    let reached := reached (p := Script.platform) .stock unwinding [.asked .load]
    reached.1.stage ≠ .ready ∧
      ∃ f : Phases, (reached.1.load.run reached.2).2.events = reached.2.events ++ f.events ∧
        f.Of .stock (reached.1.load.run reached.2).1.1 :=
  ⟨by decide +kernel, load_phases (p := Script.platform) .stock _ [.asked .load]
    (by decide +kernel)⟩

end Session

end PluginChain
