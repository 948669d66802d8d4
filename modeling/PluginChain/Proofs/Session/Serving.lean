import PluginChain.Proofs.Session.Reporting
import PluginChain.Proofs.Session.Verdict

/-!
# What a session answers to calls

A session that is ready is as its last load left it, whatever happened outside it since. So its
calls go to the functions that the load found, each call to the plugin is made once, with the
arguments as they were given, and nothing but the platform answers it. A session that is not ready
makes no call.

Main statements:
* `Session.ready_account`: a ready session is what its last load left.
* `Session.Offers.unique`: the platform has one way to offer the plugin.
* `Session.serves_of_found`: what a session that holds the plugin answers to calls.
* `Session.reached_calling`: what a session answers to calls, after every run.
-/

namespace PluginChain

open PluginChain.Action

variable {p : Platform} {α β : Type}

/-! ## What makes a session ready -/

namespace Session

variable {config : Config} {world : p.World} {turns : List (Turn p)}

/-- A turn that loads nothing and leaves a session ready leaves it as it is. -/
theorem run_turn_of_ready {s : Session p} {t : Turn p} {h : Host p}
    (hidle : t = .asked .load → s.stage = .ready) (hready : ((s.turn t).run h).1.stage = .ready) :
    ((s.turn t).run h).1 = s := by
  rcases turn_idle h hidle with hsame | hdown
  · exact hsame
  · rw [hdown] at hready
    cases hready

/-- A ready session is what its last load left, which went well. -/
theorem ready_account (hready : (reached config world turns).1.stage = .ready) :
    ∃ before, LastLoad config world turns before ∧ ∃ a : Account p,
      a.Tells config (reached config world before).2
        ((reached config world before).1.load.run (reached config world before).2) ∧
      a.result = .ok () ∧
      (reached config world turns).1 = a.session config (reached config world before).2.opened := by
  induction turns using List.reverseRecOn with
  | nil => cases hready
  | append_singleton turns t ih =>
    by_cases hload : t = .asked .load ∧ (reached config world turns).1.stage ≠ .ready
    · obtain ⟨rfl, hstage⟩ := hload
      obtain ⟨a, ha⟩ := reached_has_account hstage
      have hsession : (reached config world (turns ++ [.asked .load])).1 =
          a.session config (reached config world turns).2.opened := by
        rw [reached_concat]
        exact ha.session
      refine ⟨turns, .of_load hstage, a, ha, ?_, hsession⟩
      rw [hsession] at hready
      cases hresult : a.result with
      | ok => rfl
      | error error => simp [Account.session, hresult] at hready
    · have hidle : t = .asked .load → (reached config world turns).1.stage = .ready := by
        simpa using hload
      rw [reached_concat] at hready ⊢
      have hsame := run_turn_of_ready hidle hready
      rw [hsame] at hready ⊢
      obtain ⟨before, hlast, hrest⟩ := ih hready
      exact ⟨before, hlast.concat hidle, hrest⟩

/-- There is one last load. -/
theorem LastLoad.unique {before other : List (Turn p)} (h : LastLoad config world turns before)
    (hother : LastLoad config world turns other) : other = before := by
  obtain ⟨hstage, after, rfl, hsince⟩ := h
  obtain ⟨hstageOther, afterOther, hsplit, hsinceOther⟩ := hother
  rcases List.append_eq_append_iff.1 hsplit with ⟨middle, rfl, hmiddle⟩ | ⟨middle, rfl, hmiddle⟩
  · cases middle with
    | nil => simp
    | cons t middle =>
      obtain ⟨rfl, rfl⟩ := List.cons.inj hmiddle
      exact absurd (hsince middle afterOther rfl) hstageOther
  · cases middle with
    | nil => simp
    | cons t middle =>
      obtain ⟨rfl, rfl⟩ := List.cons.inj hmiddle
      exact absurd (hsinceOther middle after rfl) hstage

/-- The platform has one way to offer the plugin. -/
theorem Offers.unique {refused refused' : List (String × String)} {location location' : String}
    {module module' : p.Module} {bindings bindings' : List (Binding p.Address)} {w w' v : p.World}
    (h : Offers config refused location module bindings w w')
    (h' : Offers config refused' location' module' bindings' w v) : bindings' = bindings := by
  obtain ⟨w₁, hopens, hfinds⟩ := h
  obtain ⟨v₁, hopens', hfinds'⟩ := h'
  -- Both are read off what the session makes of the answers on a host in that world.
  let host : Host p := { world := w }
  obtain ⟨hlibrary, hledger⟩ :=
    OpenLibrary.firstOf_does_opened (l := host.ledger) "" "" "" hopens host rfl
  obtain ⟨hlibrary', hledger'⟩ :=
    OpenLibrary.firstOf_does_opened (l := host.ledger) "" "" "" hopens' host rfl
  obtain ⟨rfl, rfl⟩ : location = location' ∧ module = module' := by
    simpa using hlibrary.symm.trans hlibrary'
  obtain rfl : w₁ = v₁ := congrArg Ledger.world (hledger.symm.trans hledger')
  let opened : Host p := { world := w₁ }
  let library : OpenLibrary p := ⟨⟨"", "", location⟩, .isolated, module, 0⟩
  have hfound {found : List (Binding p.Address)} {v : p.World}
      (hfinds : p.Finds module Plugin.symbols found w₁ v) :
      ((SymbolTable.resolve library Plugin.symbols).run opened).1 = .ok ⟨library.serial, found⟩ :=
    (SymbolTable.resolve_does_finds (l := opened.ledger) hfinds opened rfl).1
  simpa using (hfound hfinds').symm.trans (hfound hfinds)

/-- The last load of the run `turns` found the plugin with the symbols `bindings`. -/
def FoundAtLoad (config : Config) (world : p.World) (turns : List (Turn p))
    (bindings : List (Binding p.Address)) :
    Prop :=
  ∃ before, LastLoad config world turns before ∧ ∃ refused location module w,
    Offers config refused location module bindings
      (primedWorld config (reached config world before).2) w

theorem FoundAtLoad.unique {bindings bindings' : List (Binding p.Address)}
    (h : FoundAtLoad config world turns bindings) (h' : FoundAtLoad config world turns bindings') :
    bindings' = bindings := by
  obtain ⟨before, hlast, _, _, _, _, hoffers⟩ := h
  obtain ⟨_, hlast', _, _, _, _, hoffers'⟩ := h'
  obtain rfl := hlast.unique hlast'
  exact hoffers.unique hoffers'

end Session

/-! ## One call -/

/-- The action calls the plugin once: the platform is asked for the call and ends it in the way
    `ending`, which decides the result, and nothing else is done on the host. -/
def CallsOnce (act : Action p β) (h : Host p) (serial : Nat) (call : Call)
    (request : StateM p.World (Ending α)) (Outcome : Ending α → β → Prop) : Prop :=
  ∃ ending w, request h.world = (ending, w) ∧ Outcome ending (act.run h).1 ∧
    (act.run h).2 =
      { h with world := w, events := h.events ++ [.called call ⟨serial, ending.completed⟩] }

/-- A call comes to what the platform answers, and leaves nothing but its event. -/
theorem Plugin.run_call {h : Host p} {serial : Nat} {function : p.Address} {entry : Call}
    {ending : Ending entry.Answer} {w : p.World}
    (hcall : p.call function entry h.world = (ending, w)) :
    (Plugin.call serial function entry).run h =
      (ending.result entry.symbol,
        { h with
          world := w
          events := h.events ++ [.called entry ⟨serial, ending.completed⟩] }) := by
  have hanswer : p.answer (.call serial function entry) h.world = (ending, w) := hcall
  cases ending with
  | returned value => simp [call, hanswer, Request.event, Ending.result]
  | unwound payload => simp [call, hanswer, Request.event, Ending.result]

/-- An action that calls the plugin and does nothing on the host with what the call comes to. -/
theorem CallsOnce.of_run {act : Action p β} {h : Host p} {serial : Nat} {entry : Call}
    {function : p.Address} {Outcome : Ending entry.Answer → β → Prop}
    {k : Except String entry.Answer → Action p β}
    (hact : act.run h = (Plugin.call serial function entry >>= k).run h)
    (hnext : ∀ (ending : Ending entry.Answer) (after : Host p), ∃ b,
      (k (ending.result entry.symbol)).run after = (b, after) ∧ Outcome ending b) :
    CallsOnce act h serial entry (p.call function entry) Outcome := by
  rcases hcall : p.call function entry h.world with ⟨ending, w⟩
  obtain ⟨b, hb, houtcome⟩ := hnext ending
    { h with world := w, events := h.events ++ [.called entry ⟨serial, ending.completed⟩] }
  rw [run_bind, Plugin.run_call hcall, hb] at hact
  exact ⟨ending, w, hcall, by rwa [hact], by rw [hact]⟩

namespace Session

/-- What a pass results in: it went well if the plugin says so, and it failed if the plugin says
    otherwise or the call unwound. -/
inductive PassOutcome (function refusal : String) : Ending Bool → Except LoadError Unit → Prop
  | done : PassOutcome function refusal (.returned true) (.ok ())
  | refused : PassOutcome function refusal (.returned false) (.error (.callFailed refusal))
  | unwound (payload : Payload) :
    PassOutcome function refusal (.unwound payload)
      (.error (.callFailed (Plugin.unwoundDetail function payload)))

theorem passOutcome_passResult (function refusal : String) (ending : Ending Bool) :
    PassOutcome function refusal ending (passResult refusal (ending.result function)) := by
  rcases ending with ⟨_ | _⟩ | payload
  · exact .refused
  · exact .done
  · exact .unwound payload

/-- What the question for the assets directory results in: a null pointer is no directory, and bytes
    are read as text. -/
inductive AssetsOutcome : Ending (Option (List UInt8)) → Except LoadError (Option String) → Prop
  | null : AssetsOutcome (.returned none) (.ok none)
  | bytes (bytes : List UInt8) :
    AssetsOutcome (.returned (some bytes)) (.ok (some (Text.Terminated.decode bytes)))
  | unwound (payload : Payload) :
    AssetsOutcome (.unwound payload)
      (.error (.callFailed (Plugin.unwoundDetail Plugin.getAssetsSymbol payload)))

/-! ## Calls on a session -/

/-- What a session without the plugin answers to calls: it gives notice of its stage and does
    nothing else. -/
structure Declines (s : Session p) (h : Host p) : Prop where
  superSample : ∀ input output timeout,
    (s.superSample input output timeout).run h =
      (.error .notReady, { h with notices := h.notices ++ [.unavailable s.stage] })
  superSampleAsync : ∀ input output callback,
    (s.superSampleAsync input output callback).run h =
      (.error .notReady, { h with notices := h.notices ++ [.unavailable s.stage] })
  assetsDir :
    s.assetsDir.run h =
      (.error .notReady, { h with notices := h.notices ++ [.unavailable s.stage] })

/-- What a session answers to calls that holds the plugin in `library`, with the symbols
    `bindings`. -/
structure Serves (s : Session p) (h : Host p) (library : OpenLibrary p)
    (bindings : List (Binding p.Address)) :
    Prop where
  primary : s.held.primary = some library
  superSample :
    ∃ function, ⟨⟨Plugin.runSyncSymbol, true⟩, some function⟩ ∈ bindings ∧ ∀ input output timeout,
    CallsOnce (s.superSample input output timeout) h library.serial (.runSync input output timeout)
      (p.runSync function input output timeout) (PassOutcome Plugin.runSyncSymbol syncRefusal)
  supportsAsync_iff :
    s.supportsAsync = true ↔ ∃ function, ⟨⟨Plugin.runAsyncSymbol, false⟩, some function⟩ ∈ bindings
  superSampleAsync : ∀ function, ⟨⟨Plugin.runAsyncSymbol, false⟩, some function⟩ ∈ bindings →
    ∀ input output callback,
      CallsOnce (s.superSampleAsync input output callback) h library.serial
        (.runAsync input output callback)
        (p.runAsync function input output callback) (PassOutcome Plugin.runAsyncSymbol asyncRefusal)
  /-- A plugin that takes no pass without waiting is not called for one. -/
  noAsync : s.supportsAsync = false → ∀ input output callback,
    (s.superSampleAsync input output callback).run h =
      (.error (.callFailed (Plugin.lackingDetail Plugin.runAsyncSymbol)), h)
  assetsDir : ∀ function, ⟨⟨Plugin.getAssetsSymbol, false⟩, some function⟩ ∈ bindings →
    CallsOnce s.assetsDir h library.serial .getAssets (p.getAssets function) AssetsOutcome
  /-- A plugin that does not tell its assets directory is not called for it. -/
  noAssets : (∀ function, ⟨⟨Plugin.getAssetsSymbol, false⟩, some function⟩ ∉ bindings) →
    s.assetsDir.run h = (.ok none, h)

theorem declines_of_stage {s : Session p} (hstage : s.stage ≠ .ready)
    (h : Host p) : Declines s h := by
  have hentry : s.readyEntry.run h =
      (.error .notReady, { h with notices := h.notices ++ [.unavailable s.stage] }) := by
    unfold readyEntry
    split
    · rename_i hready
      exact absurd hready hstage
    · rfl
  constructor
  case superSample =>
    intro input output timeout
    rw [superSample, run_bind, hentry]
    rfl
  case superSampleAsync =>
    intro input output callback
    rw [superSampleAsync, run_bind, hentry]
    rfl
  case assetsDir =>
    rw [assetsDir, run_bind, hentry]
    rfl

theorem serves_of_held {s : Session p} {library : OpenLibrary p}
    {bindings : List (Binding p.Address)} {primed : Option (Primed p)} (hstage : s.stage = .ready)
    (hheld : s.held = ⟨primed, some library, some ⟨library.serial, bindings⟩, true⟩)
    (hspecs : bindings.map (·.spec) = Plugin.symbols) (hmet : ∀ b ∈ bindings, b.Met) (h : Host p) :
    Serves s h library bindings := by
  obtain ⟨e, hentry, he⟩ := SymbolTable.exists_entryPoints hspecs hmet library.serial
  have hready : s.readyEntry.run h = (.ok e, h) := by
    simp [readyEntry, hheld, hstage, hentry]
  have hasync : s.supportsAsync = e.runAsync.isSome := by
    have hget := SymbolTable.get?_of_mem hspecs he.runAsync library.serial
    simp only at hget
    rw [supportsAsync, hheld, Option.any_some, SymbolTable.contains, hget]
  constructor
  case primary => rw [hheld]
  case superSample =>
    refine ⟨e.runSync, he.runSync, fun input output timeout => ?_⟩
    refine .of_run (k := fun answer => pure (passResult syncRefusal answer)) ?_
      fun ending after => ⟨_, rfl, passOutcome_passResult _ _ ending⟩
    rw [superSample, run_bind, hready, ← he.serial]
    rfl
  case supportsAsync_iff =>
    rw [hasync, Option.isSome_iff_exists]
    constructor
    · rintro ⟨function, hfunction⟩
      exact ⟨function, hfunction ▸ he.runAsync⟩
    · rintro ⟨function, hfunction⟩
      exact ⟨function, SymbolTable.address?_unique hspecs he.runAsync hfunction⟩
  case superSampleAsync =>
    intro function hfunction input output callback
    refine .of_run (k := fun answer => pure (passResult asyncRefusal answer)) ?_
      fun ending after => ⟨_, rfl, passOutcome_passResult _ _ ending⟩
    rw [superSampleAsync, run_bind, hready, ← he.serial]
    simp only [EntryPoints.callRunAsync, SymbolTable.address?_unique hspecs he.runAsync hfunction]
  case noAsync =>
    intro hlacks input output callback
    rw [hasync, Option.isSome_eq_false_iff, Option.isNone_iff_eq_none] at hlacks
    rw [superSampleAsync, run_bind, hready]
    simp only [EntryPoints.callRunAsync, hlacks]
    rfl
  case assetsDir =>
    intro function hfunction
    apply CallsOnce.of_run
    · rw [assetsDir, run_bind, hready, ← he.serial]
      simp only [EntryPoints.callGetAssets,
        SymbolTable.address?_unique hspecs he.getAssets hfunction, bind_assoc]
      rfl
    · rintro (⟨_ | bytes⟩ | payload) after
      · exact ⟨_, rfl, .null⟩
      · exact ⟨_, rfl, .bytes bytes⟩
      · exact ⟨_, rfl, .unwound payload⟩
  case noAssets =>
    intro hlacks
    have hnone : e.getAssets = none :=
      Option.eq_none_iff_forall_ne_some.2 fun function hfunction =>
        hlacks function (hfunction ▸ he.getAssets)
    rw [assetsDir, run_bind, hready]
    simp only [EntryPoints.callGetAssets, hnone]
    rfl

/-! ## After every run -/

section

variable (config : Config) (world : p.World) (turns : List (Turn p))

/-- What a session answers to calls after the run `turns`. -/
structure Calling : Prop where
  /-- Neither the session nor its report is changed by a call, and no module is opened or closed. -/
  unchanged : ∀ operation : Operation, operation ≠ .load → operation ≠ .unload →
    let s := (reached config world turns).1
    let h := (reached config world turns).2
    ((s.perform operation).run h).1 = s ∧
      ((s.perform operation).run h).2.openModules = h.openModules
  declines : (reached config world turns).1.stage ≠ .ready →
    Declines (reached config world turns).1 (reached config world turns).2
  serves : (reached config world turns).1.stage = .ready → ∃ library bindings,
    FoundAtLoad config world turns bindings ∧
      Serves (reached config world turns).1 (reached config world turns).2 library bindings
  supportsAsync_iff : (reached config world turns).1.supportsAsync = true ↔
    (reached config world turns).1.stage = .ready ∧ ∃ bindings function,
      FoundAtLoad config world turns bindings ∧
        ⟨⟨Plugin.runAsyncSymbol, false⟩, some function⟩ ∈ bindings

end

variable {config : Config} {world : p.World} {turns : List (Turn p)}

/-- A ready session serves calls with the symbols that its last load found. -/
theorem serves_of_ready (hready : (reached config world turns).1.stage = .ready) :
    ∃ library bindings, FoundAtLoad config world turns bindings ∧
      Serves (reached config world turns).1 (reached config world turns).2 library bindings := by
  obtain ⟨before, hlast, ⟨trials, way, result⟩, ha, hresult, hsession⟩ := ready_account hready
  obtain ⟨_, hnames, w₁, hprime, hcourse⟩ := ha.of
  subst hresult
  cases hcourse with
  | @loaded refused location module bindings startUp setAssets w₂ w₃ w₄ hoffers =>
    have hworld := primedWorld_eq hnames hprime
    have hfound : FoundAtLoad config world turns bindings :=
      ⟨before, hlast, refused, location, module, w₂, hworld ▸ hoffers⟩
    have hserves := serves_of_held hready (congrArg Session.held hsession) hoffers.specs hoffers.met
      (reached config world turns).2
    exact ⟨_, bindings, hfound, hserves⟩

/-- What the last load found is what a ready session serves calls with. -/
theorem serves_of_found {bindings : List (Binding p.Address)}
    (hready : (reached config world turns).1.stage = .ready)
    (hfound : FoundAtLoad config world turns bindings) :
    ∃ library,
      Serves (reached config world turns).1 (reached config world turns).2 library bindings := by
  obtain ⟨library, bindings', hfound', hserves⟩ := serves_of_ready hready
  obtain rfl := hfound.unique hfound'
  exact ⟨library, hserves⟩

/-- A call leaves the session and the modules that are open as they are. -/
theorem run_perform_of_call {s : Session p} {posture : Posture} {h : Host p} {operation : Operation}
    (hs : s.Settled config posture) (hshows : h.Shows posture) (hload : operation ≠ .load)
    (hunload : operation ≠ .unload) :
    ((s.perform operation).run h).1 = s ∧
      ((s.perform operation).run h).2.openModules = h.openModules := by
  have hopen {after : Host p} (hafter : after.Shows posture) : after.openModules = h.openModules :=
    hafter.openAfter_eq.trans hshows.openAfter_eq.symm
  cases operation with
  | load => exact absurd rfl hload
  | unload => exact absurd rfl hunload
  | superSample input output timeout =>
    exact ⟨rfl, hopen (superSample_meets hs input output timeout h hshows)⟩
  | superSampleAsync input output callback =>
    exact ⟨rfl, hopen (superSampleAsync_meets hs input output callback h hshows)⟩
  | assetsDir => exact ⟨rfl, hopen (assetsDir_meets hs h hshows)⟩

/-- What a session answers to calls, after every run. -/
theorem reached_calling (config : Config) (world : p.World) (turns : List (Turn p)) :
    Calling config world turns := by
  obtain ⟨posture, hs, hshows⟩ := reached_agrees config world turns
  constructor
  case unchanged =>
    intro operation hload hunload
    exact run_perform_of_call hs hshows hload hunload
  case declines => exact fun hstage => declines_of_stage hstage _
  case serves => exact serves_of_ready
  case supportsAsync_iff =>
    constructor
    · intro hasync
      have hready : (reached config world turns).1.stage = .ready := by
        cases hs with
        | resting _ _ hheld => simp [supportsAsync, hheld] at hasync
        | ready _ hstage => exact hstage
      obtain ⟨library, bindings, hfound, hserves⟩ := serves_of_ready hready
      obtain ⟨function, hfunction⟩ := hserves.supportsAsync_iff.1 hasync
      exact ⟨hready, bindings, function, hfound, hfunction⟩
    · rintro ⟨hready, bindings, function, hfound, hfunction⟩
      obtain ⟨library, hserves⟩ := serves_of_found hready hfound
      exact hserves.supportsAsync_iff.2 ⟨function, hfunction⟩

end Session

end PluginChain
