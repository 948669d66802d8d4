import PluginChain.Proofs.Session.Account

/-!
# What decides a load

A load of a session that is not ready succeeds if and only if a candidate for the primary library
opens, all symbols that must be there are found in the first one that does, and the plugin starts up
and takes its assets directory. Otherwise the first of these that fails decides the error. What the
platform answers is what it answers after priming.

Main statements:
* `Session.load_result_iff`: the result of a load is that of its course.
* `Session.load_verdict`: the conditions for each result, for every run that leaves a session
  without the plugin.
-/

namespace PluginChain.Session

variable {p : Platform}

/-- The world that the priming of a load on the host `h` leaves. -/
def primedWorld (c : Config) (h : Host p) : p.World :=
  ((Primed.acquire c.redirects c.systemPaths c.auxiliaryLibraries).run h).2.world

theorem primedWorld_eq {c : Config} {h : Host p} {trials : List (Trial p)} {w : p.World}
    (hnames : trials.map (·.name) = c.auxiliaryLibraries)
    (hprime : Primed.Goes c.redirects c.systemPaths h.opened trials h.world w) :
    primedWorld c h = w := by
  have hdoes := Primed.acquire_does (l := h.ledger) hprime rfl rfl
  rw [hnames] at hdoes
  exact congrArg Ledger.world (hdoes h rfl).2

/-- A load results in what its course names, and in nothing else. -/
theorem load_result_iff {config : Config} {s : Session p} {posture : Posture}
    (hs : s.Settled config posture) (hready : s.stage ≠ .ready) (h : Host p)
    (result : Except LoadError Unit) :
    (s.load.run h).1.1 = result ↔ ∃ way w', Course config (primedWorld config h) way result w' := by
  obtain ⟨a, ha⟩ := load_has_account hs hready h
  obtain ⟨w', hnames, w, hprime, hcourse⟩ := ha.of
  rw [primedWorld_eq hnames hprime]
  constructor
  · rintro rfl
    rw [ha.result]
    exact ⟨a.way, w', hcourse⟩
  · rintro ⟨way, v, hother⟩
    have htold : (⟨a.trials, way, result⟩ : Account p).Tells config h (s.load.run h) :=
      load_tells hs hready h ⟨hnames, w, hprime, hother⟩
    exact htold.result

/-! ## The conditions -/

section

variable (c : Config) (w : p.World)

/-- The plugin is offered and starts up: the world is `w'` then. -/
def StartsUp (bindings : List (Binding p.Address)) (w' : p.World) : Prop :=
  ∃ refused location module startUp w₁, Offers c refused location module bindings w w₁ ∧
    ⟨⟨Plugin.startUpSymbol, true⟩, some startUp⟩ ∈ bindings ∧
      p.startUp startUp w₁ = (.returned (), w')

/-- The plugin is offered, starts up and takes its assets directory, which holds no NUL. -/
def Succeeds : Prop :=
  ∃ bindings w₁ setAssets w₂, StartsUp c w bindings w₁ ∧ '\x00' ∉ c.assetsDir.toList ∧
    ⟨⟨Plugin.setAssetsSymbol, true⟩, some setAssets⟩ ∈ bindings ∧
    p.setAssets setAssets (Text.Utf8.encode c.assetsDir) w₁ = (.returned (), w₂)

/-- No candidate opens; `reason` is what the platform says of the last one. -/
def NoneOpens (reason : String) : Prop :=
  ∃ refused w₁, refused.map Prod.fst = c.primaryCandidates ∧ p.Refuses .isolated refused w w₁ ∧
    (refused.map Prod.snd).getLast? = some reason

/-- The first candidate that opens lacks `name`, and no symbol before it that must be there. -/
def LacksSymbol (name : String) : Prop :=
  ∃ refused location module bindings spec w₁ w₂,
    p.Opens .isolated c.primaryCandidates refused location module w w₁ ∧
    p.Lacks module Plugin.symbols bindings spec w₁ w₂ ∧ name = spec.name

/-- The plugin is offered, and the first thing that goes wrong then is worded `detail`: starting up
    unwinds, or the assets directory has a NUL in it, or the plugin unwinds over its assets
    directory. -/
inductive StartFails : String → Prop
  | startUp {refused : List (String × String)} {location : String} {module : p.Module}
      {bindings : List (Binding p.Address)} {startUp : p.Address} {payload : Payload}
      {w₁ w₂ : p.World} (hoffers : Offers c refused location module bindings w w₁)
      (hstartUp : ⟨⟨Plugin.startUpSymbol, true⟩, some startUp⟩ ∈ bindings)
      (hcall : p.startUp startUp w₁ = (.unwound payload, w₂)) :
    StartFails (Plugin.unwoundDetail Plugin.startUpSymbol payload)
  | nul {bindings : List (Binding p.Address)} {before after : List UInt8} {w₁ : p.World}
      (hstarts : StartsUp c w bindings w₁)
      (hnul : Text.Utf8.encode c.assetsDir = before ++ 0 :: after) (hfirst : 0 ∉ before) :
    StartFails (Plugin.nulDetail before.length)
  | setAssets {bindings : List (Binding p.Address)} {setAssets : p.Address} {payload : Payload}
      {w₁ w₂ : p.World} (hstarts : StartsUp c w bindings w₁) (hnul : '\x00' ∉ c.assetsDir.toList)
      (hsetAssets : ⟨⟨Plugin.setAssetsSymbol, true⟩, some setAssets⟩ ∈ bindings)
      (hset : p.setAssets setAssets (Text.Utf8.encode c.assetsDir) w₁ = (.unwound payload, w₂)) :
    StartFails (Plugin.unwoundDetail Plugin.setAssetsSymbol payload)

/-- What decides the result of a load: `w` is the world that priming has left, and `events` is what
    the load did to the outside. -/
structure Verdict (result : Except LoadError Unit) (events : List Event) : Prop where
  ok_iff : result = .ok () ↔ Succeeds c w
  /-- The error names what was looked for and all candidates in order. -/
  notFound_iff : ∀ name attempted reason, result = .error (.notFound name attempted reason) ↔
    name = c.primaryTarget ∧ attempted = c.primaryCandidates ∧ NoneOpens c w reason
  missingSymbol_iff : ∀ name, result = .error (.missingSymbol name) ↔ LacksSymbol c w name
  startFailed_iff : ∀ detail, result = .error (.startFailed detail) ↔ StartFails c w detail
  /-- There is no other error. -/
  only : ∀ error, result = .error error →
    (∃ name attempted reason, error = .notFound name attempted reason) ∨
      (∃ name, error = .missingSymbol name) ∨
      ∃ detail, error = .startFailed detail
  /-- An assets directory with a NUL in it is not handed over. -/
  nul : '\x00' ∈ c.assetsDir.toList → ∀ dir record, .called (.setAssets dir) record ∉ events

end

/-! ## Reading the conditions off a course -/

section

variable {c : Config} {w : p.World}

theorem course_ok_iff : (∃ way w', Course c w way (.ok ()) w') ↔ Succeeds c w := by
  constructor
  · rintro ⟨way, w', hcourse⟩
    cases hcourse with
    | loaded hoffers hstartUp hcall hnul hsetAssets hset =>
      exact ⟨_, _, _, w', ⟨_, _, _, _, _, hoffers, hstartUp, hcall⟩, hnul, hsetAssets, hset⟩
  · rintro ⟨_, _, _, w', ⟨_, _, _, _, _, hoffers, hstartUp, hcall⟩, hnul, hsetAssets, hset⟩
    exact ⟨_, w', .loaded hoffers hstartUp hcall hnul hsetAssets hset⟩

theorem course_notFound_iff {name reason : String} {attempted : List String} :
    (∃ way w', Course c w way (.error (.notFound name attempted reason)) w') ↔
      name = c.primaryTarget ∧ attempted = c.primaryCandidates ∧ NoneOpens c w reason := by
  constructor
  · rintro ⟨way, w', hcourse⟩
    cases hcourse with
    | notFound hall hrefuses hlast => exact ⟨rfl, rfl, _, w', hall, hrefuses, hlast⟩
  · rintro ⟨rfl, rfl, _, w₁, hall, hrefuses, hlast⟩
    exact ⟨_, w₁, .notFound hall hrefuses hlast⟩

theorem course_missingSymbol_iff {name : String} :
    (∃ way w', Course c w way (.error (.missingSymbol name)) w') ↔ LacksSymbol c w name := by
  constructor
  · rintro ⟨way, w', hcourse⟩
    cases hcourse with
    | missingSymbol hopens hlacks => exact ⟨_, _, _, _, _, _, w', hopens, hlacks, rfl⟩
  · rintro ⟨_, _, _, _, _, _, w₂, hopens, hlacks, rfl⟩
    exact ⟨_, w₂, .missingSymbol hopens hlacks⟩

theorem course_startFailed_iff {detail : String} :
    (∃ way w', Course c w way (.error (.startFailed detail)) w') ↔ StartFails c w detail := by
  constructor
  · rintro ⟨way, w', hcourse⟩
    cases hcourse with
    | startUpUnwinds hoffers hstartUp hcall => exact .startUp hoffers hstartUp hcall
    | nulInAssets hoffers hstartUp hcall hnul hfirst _ =>
      exact .nul ⟨_, _, _, _, _, hoffers, hstartUp, hcall⟩ hnul hfirst
    | setAssetsUnwinds hoffers hstartUp hcall hnul hsetAssets hset _ =>
      exact .setAssets ⟨_, _, _, _, _, hoffers, hstartUp, hcall⟩ hnul hsetAssets hset
  · rintro (⟨hoffers, hstartUp, hcall⟩ | ⟨⟨_, _, _, _, _, hoffers, hstartUp, hcall⟩, hnul, hfirst⟩ |
      ⟨⟨_, _, _, _, _, hoffers, hstartUp, hcall⟩, hnul, hsetAssets, hset⟩)
    · exact ⟨_, _, .startUpUnwinds hoffers hstartUp hcall⟩
    · obtain ⟨stops, w', hstops⟩ := Platform.exists_stops hoffers.specs _
      exact ⟨_, w', .nulInAssets hoffers hstartUp hcall hnul hfirst hstops⟩
    · obtain ⟨stops, w', hstops⟩ := Platform.exists_stops hoffers.specs _
      exact ⟨_, w', .setAssetsUnwinds hoffers hstartUp hcall hnul hsetAssets hset hstops⟩

/-- A course ends well or in one of three errors. -/
theorem Course.error_cases {way : Way p} {error : LoadError} {w' : p.World}
    (h : Course c w way (.error error) w') :
    (∃ name attempted reason, error = .notFound name attempted reason) ∨
      (∃ name, error = .missingSymbol name) ∨
      ∃ detail, error = .startFailed detail := by
  cases h with
  | notFound => exact .inl ⟨_, _, _, rfl⟩
  | missingSymbol => exact .inr (.inl ⟨_, rfl⟩)
  | startUpUnwinds => exact .inr (.inr ⟨_, rfl⟩)
  | nulInAssets => exact .inr (.inr ⟨_, rfl⟩)
  | setAssetsUnwinds => exact .inr (.inr ⟨_, rfl⟩)

/-- Only a directory without a NUL is handed over. -/
theorem Course.not_mem_nul {way : Way p} {result : Except LoadError Unit} {w' : p.World}
    (h : Course c w way result w') (hnul : '\x00' ∈ c.assetsDir.toList) (dir : List UInt8)
    (completed : Bool) :
    (.setAssets dir, completed) ∉ way.calls := by
  cases h with
  | notFound => exact List.not_mem_nil
  | missingSymbol => exact List.not_mem_nil
  | startUpUnwinds => simp
  | nulInAssets _ _ _ _ _ hstops => cases hstops <;> simp
  | setAssetsUnwinds _ _ _ hnone => exact absurd hnul hnone
  | loaded _ _ _ hnone => exact absurd hnul hnone

end

/-- What decides a load, after every run that leaves a session without the plugin. -/
theorem load_verdict (config : Config) (world : p.World) (turns : List (Turn p))
    (hready : (reached config world turns).1.stage ≠ .ready) :
    let s := (reached config world turns).1
    let h := (reached config world turns).2
    Verdict config (primedWorld config h) (s.load.run h).1.1
      (Host.eventsSince h (s.load.run h).2) := by
  obtain ⟨posture, hs, -⟩ := reached_agrees config world turns
  generalize (reached config world turns).1 = s at hs hready
  generalize (reached config world turns).2 = h
  have hresult := load_result_iff hs hready h
  refine ⟨?_, ?_, ?_, ?_, ?_, ?_⟩
  · rw [hresult, course_ok_iff]
  · intro name attempted reason
    rw [hresult, course_notFound_iff]
  · intro name
    rw [hresult, course_missingSymbol_iff]
  · intro detail
    rw [hresult, course_startFailed_iff]
  · intro error herror
    obtain ⟨way, w', hcourse⟩ := (hresult _).1 herror
    exact hcourse.error_cases
  · intro hnul dir record hmem
    obtain ⟨a, ha⟩ := load_has_account hs hready h
    obtain ⟨w', hof⟩ := ha.of
    obtain ⟨-, _, -, hcourse⟩ := id hof
    refine hcourse.not_mem_nul hnul dir record.completed ?_
    rw [← Account.call?_events hof]
    rw [Host.eventsSince, ha.events, List.drop_left] at hmem
    exact List.mem_filterMap.2 ⟨_, hmem, rfl⟩

/-- A new session of a stock device, with the primary library there. -/
theorem load_verdict_primaryAlone :
    let s := (reached (p := Script.platform) .stock primaryAlone []).1
    let h := (reached (p := Script.platform) .stock primaryAlone []).2
    s.stage ≠ .ready ∧
      Verdict .stock (primedWorld .stock h) (s.load.run h).1.1
        (Host.eventsSince h (s.load.run h).2) :=
  ⟨by decide +kernel, load_verdict (p := Script.platform) .stock primaryAlone []
    (by decide +kernel)⟩

end PluginChain.Session
