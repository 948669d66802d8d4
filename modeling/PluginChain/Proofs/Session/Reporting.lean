import Mathlib.Data.List.Perm.Basic
import PluginChain.Proofs.Session.Account

/-!
# What a load report describes

The report of a session describes its last load, whatever else was asked of the session since.
`Describes` reads the report off the events of that load and its result alone.

Main statements:
* `Account.describes`: the report of a load describes it.
* `Session.reached_reporting`: after every run the report describes the last load, or is empty if
  there was none.
-/

namespace PluginChain

variable {p : Platform}

namespace Event

/-- The symbol that an event looked up, with the word whether it was there. -/
def lookup? : Event → Option (String × Bool)
  | lookedUp _ _ symbol present => some (symbol, present)
  | _ => none

/-- The candidate that an event opened with this sharing. -/
def openedWith? (sharing : Sharing) : Event → Option String
  | opened _ candidate s => if s = sharing then some candidate else none
  | _ => none

end Event

/-- The attempts at the library `name`, in order, and the names of the library if one opened: its
    candidates are attempted until one opens, or all of them are refused. -/
inductive Sought (redirects : Redirects) (paths : List String) (sharing : Sharing) (name : String) :
    List Event → Option Identity → Prop
  | opened {serial : Nat} {location : String} {refused : List (String × String)}
      {rest : List String}
      (h : candidates (redirects.resolve name) paths = refused.map Prod.fst ++ location :: rest) :
    Sought redirects paths sharing name
      (Event.refusals sharing refused ++ [.opened serial location sharing])
      (some ⟨name, redirects.resolve name, location⟩)
  | missed {refused : List (String × String)}
      (h : refused.map Prod.fst = candidates (redirects.resolve name) paths) :
    Sought redirects paths sharing name (Event.refusals sharing refused) none

/-- A report that describes a load of a session with the configuration `c`, with its result and its
    events. -/
structure Describes (c : Config) (result : Except LoadError Unit) (events : List Event)
    (report : LoadReport) :
    Prop where
  version : report.symbolSetVersion = Plugin.symbolSetVersion
  /-- The auxiliary libraries are attempted first, then the primary one, and nothing else is. What
      is primed are the auxiliary libraries that opened, and the misses are the names of the
      others. -/
  sought : ∃ (auxiliary : List (String × List Event × Option Identity)) (primary rest : List Event),
    events = auxiliary.flatMap (·.2.1) ++ primary ++ rest ∧ (∀ e ∈ rest, e.attempted? = none) ∧
      auxiliary.map (·.1) = c.auxiliaryLibraries ∧
      (∀ a ∈ auxiliary, Sought c.redirects c.systemPaths .global a.1 a.2.1 a.2.2) ∧
      Sought c.redirects c.appPaths .isolated c.primaryLibrary primary report.primary ∧
      report.primed = auxiliary.filterMap (·.2.2) ∧
      report.misses = (auxiliary.filter (·.2.2.isNone)).map (·.1)
  /-- Each auxiliary library is accounted for once. -/
  complete : (report.primed.map (·.requested) ++ report.misses).Perm c.auxiliaryLibraries
  /-- What is primed is what was opened for the whole process. -/
  primed : report.primed.map (·.location) = events.filterMap (Event.openedWith? .global)
  /-- The primary library is what was opened for the plugin alone. -/
  primary : report.primary.toList.map (·.location) = events.filterMap (Event.openedWith? .isolated)
  /-- All symbols are there, with the word whether each was found, if those that must be there were
      found. -/
  symbols :
    (∀ spec ∈ Plugin.symbols, spec.required = true →
      (spec.name, true) ∈ events.filterMap Event.lookup?) →
    report.symbols.map (fun s => (⟨s.name, s.required⟩ : SymbolSpec)) = Plugin.symbols ∧
      report.symbols.map (fun s => (s.name, s.present)) = events.filterMap Event.lookup?
  noSymbols :
    (∃ spec ∈ Plugin.symbols, spec.required = true ∧
      (spec.name, true) ∉ events.filterMap Event.lookup?) →
      report.symbols = []
  ok_iff : report.error = none ↔ result = .ok ()
  error : ∀ error, result = .error error → report.error = some error.message

/-! ## Reading a report off the events -/

namespace Trial

theorem Goes.sought {redirects : Redirects} {paths : List String} {sharing : Sharing} {n : Nat}
    {t : Trial p} {w w' : p.World} (h : t.Goes redirects paths sharing n w w') :
    Sought redirects paths sharing t.name (t.events sharing) (t.library?.map (·.identity)) := by
  cases h with
  | opened hopens =>
    obtain ⟨⟨rest, hrest⟩, -⟩ := hopens
    exact .opened hrest
  | @missed name refused w w' hall _ =>
    have hevents : Trial.events sharing (⟨name, refused, none⟩ : Trial p) =
        Event.refusals sharing refused :=
      List.append_nil _
    rw [hevents]
    exact .missed hall

variable (sharing : Sharing) (t : Trial p)

@[simp] theorem openedWith?_events :
    (t.events sharing).filterMap (Event.openedWith? sharing) =
      t.library?.toList.map (·.identity.location) := by
  simp [events, Event.refusals, List.filterMap_map, Function.comp_def, Event.openedWith?]

theorem openedWith?_events_of_ne {other : Sharing} (h : sharing ≠ other) :
    (t.events sharing).filterMap (Event.openedWith? other) = [] := by
  simp [events, Event.refusals, List.filterMap_map, Function.comp_def, Event.openedWith?, h]

@[simp] theorem lookup?_events : (t.events sharing).filterMap Event.lookup? = [] := by
  simp [events, Event.refusals, List.filterMap_map, Function.comp_def, Event.lookup?]

end Trial

namespace Primed

theorem Goes.sought {redirects : Redirects} {paths : List String} {n : Nat}
    {trials : List (Trial p)} {w w' : p.World} (h : Goes redirects paths n trials w w') :
    ∀ t ∈ trials,
      Sought redirects paths .global t.name (t.events .global) (t.library?.map (·.identity)) := by
  induction h with
  | nil => exact fun t ht => absurd ht List.not_mem_nil
  | cons first _ ih => exact List.forall_mem_cons.2 ⟨first.sought, ih⟩

variable (trials : List (Trial p))

@[simp] theorem openedWith?_trials :
    (trials.flatMap (Trial.events .global)).filterMap (Event.openedWith? .global) =
      (ofTrials trials).libraries.map (·.identity.location) := by
  rw [List.filterMap_flatMap]
  simp only [Trial.openedWith?_events, ofTrials]
  rw [List.filterMap_eq_flatMap_toList, List.map_flatMap]

@[simp] theorem openedWith?_isolated_trials :
    (trials.flatMap (Trial.events .global)).filterMap (Event.openedWith? .isolated) = [] := by
  simp [List.filterMap_flatMap, Trial.openedWith?_events_of_ne]

@[simp] theorem lookup?_trials :
    (trials.flatMap (Trial.events .global)).filterMap Event.lookup? = [] := by
  simp [List.filterMap_flatMap]

end Primed

/-- What was found in the lookups, by the names of the symbols. -/
def Binding.findings {α : Type} (bindings : List (Binding α)) : List (String × Bool) :=
  bindings.map fun b => (b.spec.name, b.address?.isSome)

/-- If all symbols were looked up and those that must be there were found, their names are among the
    findings. -/
theorem Binding.mem_findings {α : Type} {bindings : List (Binding α)}
    (hspecs : bindings.map (·.spec) = Plugin.symbols) (hmet : ∀ b ∈ bindings, b.Met)
    {spec : SymbolSpec} (hspec : spec ∈ Plugin.symbols) (hrequired : spec.required = true) :
    (spec.name, true) ∈ findings bindings := by
  rw [← hspecs] at hspec
  obtain ⟨b, hb, rfl⟩ := List.mem_map.1 hspec
  exact List.mem_map.2 ⟨b, hb, by rw [hmet b hb hrequired]⟩

/-- A symbol that ends the lookup was not found before: each name is looked up once. -/
theorem Platform.Lacks.not_mem_findings {module : p.Module} {bindings : List (Binding p.Address)}
    {spec : SymbolSpec} {w w' : p.World} (h : p.Lacks module Plugin.symbols bindings spec w w') :
    spec ∈ Plugin.symbols ∧ (spec.name, true) ∉ Binding.findings (bindings ++ [⟨spec, none⟩]) := by
  obtain ⟨rest, hrest⟩ := h.among
  refine ⟨hrest ▸ by simp, fun hmem => ?_⟩
  have hnodup : (Plugin.symbols.map (·.name)).Nodup := by decide
  rw [hrest, List.map_append, List.map_map, List.map_cons, List.nodup_append] at hnodup
  obtain ⟨b, hb, hfound⟩ := List.mem_map.1 hmem
  obtain ⟨hname, hpresent⟩ := Prod.mk.inj hfound
  rcases List.mem_append.1 hb with hb | hb
  · exact hnodup.2.2 _ (List.mem_map.2 ⟨b, hb, rfl⟩) _ List.mem_cons_self hname
  · obtain rfl := List.mem_singleton.1 hb
    cases hpresent

/-- All symbols were looked up and those that must be there were found, or one that must be there
    was not found. -/
theorem Session.Course.findings_cases {c : Config} {w : p.World} {way : Way p}
    {result : Except LoadError Unit} {w' : p.World} (h : Course c w way result w') :
    (way.bindings.map (·.spec) = Plugin.symbols ∧ ∀ b ∈ way.bindings, b.Met) ∨
      ∃ spec ∈ Plugin.symbols, spec.required = true ∧
        (spec.name, true) ∉ Binding.findings way.bindings := by
  cases h with
  | notFound => exact .inr ⟨⟨Plugin.startUpSymbol, true⟩, by decide, rfl, List.not_mem_nil⟩
  | missingSymbol _ hlacks =>
    obtain ⟨hspec, hmissing⟩ := hlacks.not_mem_findings
    exact .inr ⟨_, hspec, hlacks.required, hmissing⟩
  | startUpUnwinds hoffers => exact .inl ⟨hoffers.specs, hoffers.met⟩
  | nulInAssets hoffers => exact .inl ⟨hoffers.specs, hoffers.met⟩
  | setAssetsUnwinds hoffers => exact .inl ⟨hoffers.specs, hoffers.met⟩
  | loaded hoffers => exact .inl ⟨hoffers.specs, hoffers.met⟩

/-- What opened goes by the names that were asked for, and the misses are the others. -/
theorem Primed.perm_ofTrials {redirects : Redirects} {paths : List String} {n : Nat}
    {trials : List (Trial p)} {w w' : p.World} (h : Goes redirects paths n trials w w') :
    ((ofTrials trials).identities.map (·.requested) ++ (ofTrials trials).misses).Perm
      (trials.map (·.name)) := by
  induction h with
  | nil => exact .nil
  | cons first _ ih =>
    cases first with
    | opened _ => exact ih.cons _
    | missed _ _ => exact List.perm_middle.trans (ih.cons _)

theorem Event.openedWith?_of_attempted? {sharing : Sharing} {es : List Event}
    (h : ∀ e ∈ es, e.attempted? = none) :
    es.filterMap (openedWith? sharing) = [] := by
  refine List.filterMap_eq_nil_iff.2 fun e he => ?_
  cases e with
  | opened => cases h _ he
  | _ => rfl

namespace Account

variable {c : Config} {n : Nat} {w w' : p.World} {a : Account p}

/-- After a load has opened libraries it only looks symbols up, calls the plugin and closes
    libraries. -/
theorem exists_rest (h : a.Of c n w w') :
    ∃ rest, a.events c n =
        a.trials.flatMap (Trial.events .global) ++ (a.primaryTrial c n).events .isolated ++ rest ∧
      (∀ e ∈ rest, e.attempted? = none) ∧
        rest.filterMap Event.lookup? = Binding.findings a.way.bindings := by
  have hbindings : a.library? c n = none → a.way.bindings = [] := by
    intro hnone
    obtain ⟨-, _, -, hcourse⟩ := h
    obtain ⟨location, module, _, hprimary, -⟩ | ⟨-, hbindings, -⟩ := hcourse.primary_cases
    · simp [library?, hprimary] at hnone
    · exact hbindings
  have hclosings (libraries : List (OpenLibrary p)) :
      (∀ e ∈ OpenLibrary.closings libraries, e.attempted? = none) ∧
        (OpenLibrary.closings libraries).filterMap Event.lookup? = [] := by
    simp [OpenLibrary.closings, Event.attempted?, Event.lookup?,
      List.filterMap_map, Function.comp_def]
  obtain ⟨last, hlast, hattempted, hlookup⟩ : ∃ last, a.events c n = a.deeds c n ++ last ∧
      (∀ e ∈ last, e.attempted? = none) ∧ last.filterMap Event.lookup? = [] := by
    cases hresult : a.result with
    | ok => exact ⟨[], by simp [events, hresult], by simp, rfl⟩
    | error error => exact ⟨_, events_of_error hresult, hclosings _⟩
  cases hlibrary : a.library? c n with
  | none =>
    refine ⟨last, ?_, hattempted, ?_⟩
    · rw [hlast, deeds_of_none hlibrary, primaryTrial, hlibrary]
    · rw [hlookup, hbindings hlibrary]
      rfl
  | some library =>
    refine ⟨library.lookups a.way.bindings ++ Event.calls library.serial a.way.calls ++ last,
      ?_, ?_, ?_⟩
    · rw [hlast, deeds_of_some hlibrary, primaryTrial, hlibrary]
      simp only [List.append_assoc]
    · simp only [List.forall_mem_append, OpenLibrary.lookups, Event.lookups, Event.calls,
        List.forall_mem_map]
      exact ⟨⟨fun _ _ => rfl, fun _ _ => rfl⟩, hattempted⟩
    · simp [OpenLibrary.lookups, Event.lookups, Event.calls, Event.lookup?, hlookup,
        List.filterMap_map, Function.comp_def, Binding.findings]

/-- The primary library opens, or not, as its trial goes. -/
theorem primaryTrial_goes (h : a.Of c n w w') :
    ∃ w₁ w₂, (a.primaryTrial c n).Goes c.redirects c.appPaths .isolated
      (n + a.primed.libraries.length) w₁ w₂ := by
  obtain ⟨-, w₁, -, hcourse⟩ := h
  obtain ⟨trials, way, result⟩ := a
  obtain ⟨stage, refused, primary?, bindings, calls⟩ := way
  obtain ⟨location, module, w₂, rfl, hopens⟩ | ⟨rfl, -, -, hall, w₂, hrefuses⟩ :=
    hcourse.primary_cases
  · exact ⟨w₁, w₂, .opened hopens⟩
  · exact ⟨w₁, w₂, .missed hall hrefuses⟩

/-- The report of a load describes it. -/
theorem describes (h : a.Of c n w w') : Describes c a.result (a.events c n) (a.report c n) := by
  obtain ⟨rest, hevents, hattempted, hlookup⟩ := exists_rest h
  obtain ⟨_, _, hprimary⟩ := primaryTrial_goes h
  obtain ⟨hnames, w₁, hprime, hcourse⟩ := h
  have hfindings : (a.events c n).filterMap Event.lookup? = Binding.findings a.way.bindings := by
    simp [hevents, hlookup]
  refine ⟨rfl, ?_, ?_, ?_, ?_, ?_, ?_, ?_, ?_⟩
  · refine ⟨a.trials.map fun t => (t.name, t.events .global, t.library?.map (·.identity)), _, rest,
      ?_, hattempted, ?_, ?_,
      hprimary.sought, ?_, ?_⟩
    · rw [hevents, List.flatMap_map]
    · rw [List.map_map]
      exact hnames
    · exact List.forall_mem_map.2 hprime.sought
    · simp [report, primed, Primed.identities, Primed.ofTrials,
        List.filterMap_map, List.map_filterMap]
    · simp [report, primed, Primed.ofTrials, List.filter_map, Function.comp_def]
  · exact hnames ▸ Primed.perm_ofTrials hprime
  · simp [hevents, Event.openedWith?_of_attempted? hattempted, Trial.openedWith?_events_of_ne,
      report, primed, Primed.identities]
  · have hopened : (a.events c n).filterMap (Event.openedWith? .isolated) =
        (a.library? c n).toList.map (·.identity.location) := by
      simp [hevents, Event.openedWith?_of_attempted? hattempted, primaryTrial]
    rw [hopened]
    cases hlibrary : a.library? c n <;> simp [report, hlibrary]
  · intro hfound
    rw [hfindings] at hfound ⊢
    rcases hcourse.findings_cases with ⟨hspecs, hmet⟩ | ⟨spec, hspec, hrequired, hmissing⟩
    · rw [report, symbols_of_found hspecs hmet]
      refine ⟨?_, ?_⟩
      · rw [List.map_map]
        exact hspecs
      · rw [List.map_map]
        rfl
    · exact absurd (hfound spec hspec hrequired) hmissing
  · rintro ⟨spec, hspec, hrequired, hmissing⟩
    rw [hfindings] at hmissing
    exact if_neg fun hfound => hmissing (Binding.mem_findings hfound.1 hfound.2 hspec hrequired)
  · cases hresult : a.result <;> simp [report, hresult]
  · intro error herror
    simp [report, herror]

/-- A load that ends well reports the library that the session holds. -/
theorem report_primary_session (h : a.Of c n w w') (hready : (a.session c n).stage = .ready) :
    (a.session c n).report.primary = (a.session c n).primary? := by
  obtain ⟨-, _, -, hcourse⟩ := h
  obtain ⟨trials, way, result⟩ := a
  cases hcourse with
  | loaded => rfl
  | _ => cases hready

end Account

/-! ## Runs -/

namespace Session

variable {config : Config} {world : p.World} {turns before : List (Turn p)}

/-- Only a load of a session that is not ready makes it hold anything: another turn leaves it as it
    is, or takes it down. -/
theorem turn_idle {s : Session p} {t : Turn p} (h : Host p)
    (hidle : t = .asked .load → s.stage = .ready) :
    ((s.turn t).run h).1 = s ∨
      ((s.turn t).run h).1 = { s with stage := .unloaded, held := {} } := by
  cases t with
  | outside world => exact .inl rfl
  | asked operation =>
    cases operation with
    | load => exact .inl (by simp [turn, perform, load, hidle rfl])
    | unload =>
      by_cases hstage : s.stage = .unloaded
      · exact .inl (by simp [turn, perform, unload, hstage])
      · exact .inr (by simp [turn, perform, unload, hstage, teardown, enter])
    | superSample input output timeout => exact .inl rfl
    | superSampleAsync input output callback => exact .inl rfl
    | assetsDir => exact .inl rfl

/-- Only a load of a session that is not ready changes the report. -/
theorem report_turn {s : Session p} {t : Turn p} (h : Host p)
    (hidle : t = .asked .load → s.stage = .ready) :
    ((s.turn t).run h).1.report = s.report := by
  rcases turn_idle h hidle with hsame | hdown
  · rw [hsame]
  · rw [hdown]

variable (config world turns before)

/-- Of the loads that the session was asked for in the run `turns` while it was not ready, the last
    one came after `before`. -/
structure LastLoad : Prop where
  stage : (reached config world before).1.stage ≠ .ready
  since : ∃ after, turns = before ++ .asked .load :: after ∧
    ∀ middle rest, after = middle ++ .asked .load :: rest →
      (reached config world (before ++ .asked .load :: middle)).1.stage = .ready

/-- What the report of a session says after the run `turns`. -/
structure Reporting : Prop where
  /-- Nothing as long as no load did anything; then it describes the last load that did. -/
  last :
    ((∀ before after, turns = before ++ .asked .load :: after →
      (reached config world before).1.stage = .ready) ∧
      (reached config world turns).1.report = {}) ∨
    ∃ before, LastLoad config world turns before ∧
      let s := (reached config world before).1
      let h := (reached config world before).2
      Describes config (s.load.run h).1.1 (Host.eventsSince h (s.load.run h).2)
        (reached config world turns).1.report
  /-- While the session is ready, the report names the library that is held. -/
  ready : (reached config world turns).1.stage = .ready →
    (reached config world turns).1.report.primary = (reached config world turns).1.primary?

variable {config world turns before}

/-- Where a list with a last member has `x` in it, `x` is the last member or comes before it. -/
theorem split_concat {α : Type} {after middle rest : List α} {t x : α}
    (h : after ++ [t] = middle ++ x :: rest) :
    (middle = after ∧ t = x) ∨ ∃ others, after = middle ++ x :: others := by
  rcases List.eq_nil_or_concat rest with rfl | ⟨others, u, rfl⟩
  · obtain ⟨rfl, hlast⟩ := List.append_inj' h rfl
    exact .inl ⟨rfl, List.head_eq_of_cons_eq hlast⟩
  · rw [List.concat_eq_append, ← List.cons_append, ← List.append_assoc] at h
    exact .inr ⟨others, List.append_inj_left' h rfl⟩

/-- A load that does something is the last one. -/
theorem LastLoad.of_load (hready : (reached config world turns).1.stage ≠ .ready) :
    LastLoad config world (turns ++ [.asked .load]) turns :=
  ⟨hready, [], rfl, fun middle rest hnil => by simp at hnil⟩

/-- It stays the last one in turns that load nothing. -/
theorem LastLoad.concat {t : Turn p} (h : LastLoad config world turns before)
    (hidle : t = .asked .load → (reached config world turns).1.stage = .ready) :
    LastLoad config world (turns ++ [t]) before := by
  obtain ⟨hstage, after, rfl, hsince⟩ := h
  refine ⟨hstage, after ++ [t], by simp, fun middle rest hsplit => ?_⟩
  rcases split_concat hsplit with ⟨rfl, ht⟩ | ⟨others, hafter⟩
  · exact hidle ht
  · exact hsince middle others hafter

/-- A load that does something is described by the report that it leaves. -/
theorem describes_load (hready : (reached config world turns).1.stage ≠ .ready) :
    let s := (reached config world turns).1
    let h := (reached config world turns).2
    Describes config (s.load.run h).1.1 (Host.eventsSince h (s.load.run h).2)
      (s.load.run h).1.2.report := by
  obtain ⟨a, ha⟩ := reached_has_account hready
  obtain ⟨w', hof⟩ := ha.of
  simp only [Host.eventsSince, ha.events, ha.result, ha.session, List.drop_left]
  exact Account.describes hof

theorem reached_last (config : Config) (world : p.World) (turns : List (Turn p)) :
    ((∀ before after, turns = before ++ .asked .load :: after →
      (reached config world before).1.stage = .ready) ∧
      (reached config world turns).1.report = {}) ∨
    ∃ before, LastLoad config world turns before ∧
      let s := (reached config world before).1
      let h := (reached config world before).2
      Describes config (s.load.run h).1.1 (Host.eventsSince h (s.load.run h).2)
        (reached config world turns).1.report := by
  induction turns using List.reverseRecOn with
  | nil => exact .inl ⟨fun before after hnil => by simp at hnil, rfl⟩
  | append_singleton turns t ih =>
    by_cases hload : t = .asked .load ∧ (reached config world turns).1.stage ≠ .ready
    · obtain ⟨rfl, hready⟩ := hload
      refine .inr ⟨turns, .of_load hready, ?_⟩
      rw [reached_concat]
      exact describes_load hready
    · -- The turn loads nothing, so the report stays and so does the load that it describes.
      have hidle : t = .asked .load → (reached config world turns).1.stage = .ready := by
        simpa using hload
      rw [reached_concat, report_turn _ hidle]
      refine ih.imp (fun ⟨hnone, hempty⟩ => ⟨fun before after hsplit => ?_, hempty⟩)
        fun ⟨before, hlast, hdescribes⟩ => ⟨before, hlast.concat hidle, hdescribes⟩
      rcases split_concat hsplit with ⟨rfl, ht⟩ | ⟨others, hturns⟩
      · exact hidle ht
      · exact hnone before others hturns

/-- While the session is ready, a turn keeps the report and the library together. -/
theorem turn_primary {s : Session p} {posture : Posture} {h : Host p}
    (hs : s.Settled config posture) (hprimary : s.stage = .ready → s.report.primary = s.primary?)
    (t : Turn p) :
    ((s.turn t).run h).1.stage = .ready →
      ((s.turn t).run h).1.report.primary = ((s.turn t).run h).1.primary? := by
  by_cases hload : t = .asked .load ∧ s.stage ≠ .ready
  · obtain ⟨rfl, hready⟩ := hload
    obtain ⟨a, ha⟩ := load_has_account hs hready h
    obtain ⟨w', hof⟩ := ha.of
    have hleft : ((s.turn (.asked .load)).run h).1 = a.session config h.opened := ha.session
    rw [hleft]
    exact Account.report_primary_session hof
  · rcases turn_idle (t := t) h (by simpa using hload) with hsame | hdown
    · rwa [hsame]
    · rw [hdown]
      nofun

theorem reached_primary (config : Config) (world : p.World) (turns : List (Turn p)) :
    (reached config world turns).1.stage = .ready →
      (reached config world turns).1.report.primary = (reached config world turns).1.primary? := by
  induction turns using List.reverseRecOn with
  | nil => exact fun hready => by cases hready
  | append_singleton turns t ih =>
    obtain ⟨posture, hs, -⟩ := reached_agrees config world turns
    rw [reached_concat]
    exact turn_primary hs ih t

/-- After every run the report describes the last load, and while the session is ready it names the
    library that is held. -/
theorem reached_reporting (config : Config) (world : p.World) (turns : List (Turn p)) :
    Reporting config world turns :=
  ⟨reached_last config world turns, reached_primary config world turns⟩

end Session

end PluginChain
