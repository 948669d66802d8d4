import PluginChain.Proofs.Host.Contracts
import PluginChain.Proofs.Steps
import PluginChain.Plugin.EntryPoints

/-!
# Looking symbols up and calling the plugin, seen from the journal

Main statements: what the lookups and each call leave in the journal, as contracts on the tenure of
the primary library. `EntryPoints.Of` ties entry points to the library whose symbols they are; it
makes every call admissible.
-/

namespace PluginChain

open PluginChain.Action

variable {p : Platform} {α : Type} {ms : List (Nat × String)}

/-! ## Symbols -/

namespace SymbolTable

/-- When no name was looked up twice, the names with an address are those that the table finds. -/
theorem isSome_get?_iff {t : SymbolTable α} (hnodup : (t.bindings.map (·.spec.name)).Nodup)
    (name : String) :
    (t.get? name).isSome = true ↔ name ∈ t.present := by
  obtain ⟨serial, bindings⟩ := t
  simp only [get?, present] at hnodup ⊢
  induction bindings with
  | nil => simp
  | cons b rest ih =>
    rw [List.map_cons, List.nodup_cons] at hnodup
    by_cases hname : b.spec.name = name
    · have hrest : name ∉ (rest.filter fun b => b.address?.isSome).map (·.spec.name) := by
        intro hmem
        obtain ⟨c, hc, hcname⟩ := List.mem_map.1 hmem
        exact hnodup.1 (hname ▸ hcname ▸ List.mem_map_of_mem (List.mem_filter.1 hc).1)
      by_cases haddress : b.address?.isSome = true
      · simp [hname, haddress]
      · simpa [hname, haddress] using hrest
    · have hne : name ≠ b.spec.name := fun h => hname h.symm
      by_cases haddress : b.address?.isSome = true
      · simpa [hname, hne, haddress] using ih hnodup.2
      · simpa [hname, haddress] using ih hnodup.2

theorem require_eq_ok {t : SymbolTable α} {name : String} {address : α}
    (h : t.require name = .ok address) :
    t.get? name = some address := by
  unfold require at h
  split at h
  · rename_i hget
    rw [hget, Except.ok.inj h]
  · cases h

end SymbolTable

namespace EntryPoints

/-- The entry points are the addresses of functions that were found in the library of `t`. -/
structure Of (e : EntryPoints α) (t : Tenure) : Prop where
  serial : e.serial = t.serial
  startUp : Plugin.startUpSymbol ∈ t.found
  setAssets : Plugin.setAssetsSymbol ∈ t.found
  runSync : Plugin.runSyncSymbol ∈ t.found
  shutDown : e.shutDown.isSome = true ↔ Plugin.shutDownSymbol ∈ t.found
  getAssets : e.getAssets.isSome = true ↔ Plugin.getAssetsSymbol ∈ t.found
  runAsync : e.runAsync.isSome = true ↔ Plugin.runAsyncSymbol ∈ t.found

/-- What was found in the library decides, however far the calls into it have come. -/
theorem Of.withProgress {e : EntryPoints α} {t : Tenure} (h : e.Of t) (progress : Progress) :
    e.Of { t with progress } :=
  ⟨h.serial, h.startUp, h.setAssets, h.runSync, h.shutDown, h.getAssets, h.runAsync⟩

end EntryPoints

/-- The entry points of a table are of the library in which its symbols were looked up. -/
theorem SymbolTable.entryPoints_of {table : SymbolTable α} {e : EntryPoints α} {t : Tenure}
    (hspecs : table.bindings.map (·.spec) = Plugin.symbols) (hserial : table.serial = t.serial)
    (hfound : t.found = table.present) (h : table.entryPoints = .ok e) : e.Of t := by
  have hnodup : (table.bindings.map (·.spec.name)).Nodup := by
    have hnames : table.bindings.map (·.spec.name) = Plugin.symbols.map (·.name) := by
      rw [← hspecs, List.map_map]
      rfl
    rw [hnames]
    decide
  have hiff (name : String) : (table.get? name).isSome = true ↔ name ∈ t.found :=
    hfound ▸ isSome_get?_iff hnodup name
  have hrequired {name : String} {address : α} (hrequire : table.require name = .ok address) :
      name ∈ t.found := by
    rw [← hiff, require_eq_ok hrequire]
    rfl
  unfold entryPoints at h
  obtain ⟨startUp, hstartUp, h⟩ := bind_eq_ok_iff.1 h
  obtain ⟨setAssets, hsetAssets, h⟩ := bind_eq_ok_iff.1 h
  obtain ⟨runSync, hrunSync, h⟩ := bind_eq_ok_iff.1 h
  cases h
  exact ⟨hserial, hrequired hstartUp, hrequired hsetAssets, hrequired hrunSync,
    hiff _, hiff _, hiff _⟩

/-! ### Looking up -/

/-- The library while symbols are looked up in it. -/
def OpenLibrary.tenure (l : OpenLibrary p) (found : List String) : Tenure :=
  { serial := l.serial, path := l.identity.location, found }

theorem OpenLibrary.lookup_meets (l : OpenLibrary p) (symbol : String) (found : List String) :
    Meets (·.Shows (.holding ms (l.tenure found))) (l.lookup symbol) fun address? h =>
      h.Shows (.holding ms (l.tenure (found ++ if address?.isSome then [symbol] else []))) := by
  exact (Host.ask_meets fun _ _ => .lookedUp rfl).bind fun _ => .pure fun _ h => h

namespace SymbolTable

/-- Looking symbols up in `l` succeeds with one binding for each of `specs`, or some of them were
    looked up. -/
def Looked (ms : List (Nat × String)) (l : OpenLibrary p) (found : List String)
    (specs : List SymbolSpec) :
    Except LoadError (List (Binding p.Address)) → Host p → Prop :=
  Outcome
    (fun bindings h => bindings.map (·.spec) = specs ∧
      h.Shows (.holding ms (l.tenure (found ++ present ⟨l.serial, bindings⟩))))
    fun _ h => ∃ found, h.Shows (.holding ms (l.tenure found))

theorem bindAll_meets (l : OpenLibrary p) (specs : List SymbolSpec) (found : List String) :
    Meets (·.Shows (.holding ms (l.tenure found))) (bindAll l specs) (Looked ms l found specs) := by
  induction specs generalizing found with
  | nil =>
    apply Meets.pure
    intro h hshows
    exact ⟨rfl, by simpa [present] using hshows⟩
  | cons spec rest ih =>
    rw [bindAll]
    refine (l.lookup_meets spec.name found).bind fun address? => ?_
    by_cases hfatal : (address?.isNone && spec.required) = true
    · rw [if_pos hfatal]
      exact .seq (Host.notify_meets _) (.pure fun _ h => ⟨_, h⟩)
    · rw [if_neg hfatal]
      extract_lets continuation
      have hrest :
          Meets
            (·.Shows
              (.holding ms (l.tenure (found ++ if address?.isSome then [spec.name] else []))))
            (continuation ()) (Looked ms l found (spec :: rest)) := by
        refine (ih _).bind ?_
        rintro (error | bindings)
        · exact .pure fun _ h => h
        · refine .of_and fun hspecs => ?_
          apply Meets.pure
          intro h hshows
          refine ⟨by simp [hspecs], ?_⟩
          cases address? <;> simpa [present] using hshows
      by_cases habsent : address?.isNone = true
      · rw [if_pos habsent]
        exact .seq (Host.notify_meets _) hrest
      · rw [if_neg habsent]
        exact hrest

theorem resolve_meets (l : OpenLibrary p) (specs : List SymbolSpec) :
    Meets (·.Shows (.holding ms (l.tenure []))) (resolve l specs)
      (Outcome
        (fun table h => table.serial = l.serial ∧ table.bindings.map (·.spec) = specs ∧
          h.Shows (.holding ms (l.tenure table.present)))
        fun _ h => ∃ found, h.Shows (.holding ms (l.tenure found))) := by
  refine (bindAll_meets l specs []).bind ?_
  rintro (error | bindings)
  · exact .pure fun _ h => h
  · exact .pure fun _ h => ⟨rfl, h⟩

end SymbolTable

/-! ## Calls -/

/-- A call leads on from the progress so far, one way if it returns and one way if it unwinds. -/
theorem Plugin.call_meets {t : Tenure} {serial : Nat} (entry : Call) {a b : Progress}
    (hserial : serial = t.serial) (hfound : entry.symbol ∈ t.found)
    (hreturned : t.progress.Next entry true a) (hunwound : t.progress.Next entry false b)
    (function : p.Address) :
    Meets (·.Shows (.holding ms t)) (Plugin.call serial function entry)
      (Outcome (fun _ h => h.Shows (.holding ms { t with progress := a }))
        fun _ h => h.Shows (.holding ms { t with progress := b })) := by
  subst hserial
  have hstep : ∀ n (ending : Ending entry.Answer),
      Step ⟨n, .holding ms t⟩ (.called entry ⟨t.serial, ending.completed⟩)
        ⟨n, .holding ms { t with progress := if ending.completed then a else b }⟩ := by
    rintro n (value | payload)
    · exact .called hfound hreturned
    · exact .called hfound hunwound
  refine (Host.ask_meets hstep).bind ?_
  rintro (value | payload)
  · exact .pure fun _ h => h
  · exact .pure fun _ h => h

/-- A service leaves the plugin serving, whether or not the call returns. -/
theorem Plugin.call_service_meets {t : Tenure} {serial : Nat} (entry : Call)
    (hserial : serial = t.serial) (hfound : entry.symbol ∈ t.found)
    (hservice : entry.isService = true) (hserving : t.progress = .serving) (function : p.Address) :
    Meets (·.Shows (.holding ms t)) (Plugin.call serial function entry) fun _ h =>
      h.Shows (.holding ms t) := by
  obtain ⟨_, path, found, _⟩ := t
  obtain rfl := hserving
  refine (Plugin.call_meets entry hserial hfound (.service hservice)
    (.service hservice) function).imp ?_
  rintro (error | value) h hshows
  · exact hshows
  · exact hshows

namespace EntryPoints

variable {e : EntryPoints p.Address} {t : Tenure}

theorem callStartUp_meets (he : e.Of t) (ht : t.progress = .untouched) :
    Meets (·.Shows (.holding ms t)) e.callStartUp
      (Outcome (fun _ h => h.Shows (.holding ms { t with progress := .started }))
        fun _ h => h.Shows (.holding ms { t with progress := .unwound })) :=
  Plugin.call_meets .startUp he.serial he.startUp (by rw [ht]; exact .startUp)
    (by rw [ht]; exact .startUpUnwinds) _

/-- A directory that cannot be handed over leaves the plugin as it started up. -/
theorem callSetAssets_meets (he : e.Of t) (ht : t.progress = .started) (dir : String) :
    Meets (·.Shows (.holding ms t)) (e.callSetAssets dir)
      (Outcome (fun _ h => h.Shows (.holding ms { t with progress := .serving }))
        fun _ h => ∃ progress : Progress, progress.isStarted = true ∧
          h.Shows (.holding ms { t with progress })) := by
  unfold callSetAssets
  split
  · apply Meets.pure
    intro h hshows
    refine ⟨.started, rfl, ?_⟩
    rwa [← ht]
  · rename_i bytes _
    refine (Plugin.call_meets (.setAssets bytes) he.serial he.setAssets
      (by rw [ht]; exact .setAssets) (by rw [ht]; exact .setAssetsUnwinds) _).imp ?_
    rintro (error | value) h hshows
    · exact ⟨.unsettled, rfl, hshows⟩
    · exact hshows

/-- However shutting down ends, and even if the plugin cannot be shut down, its library may be
    closed then. -/
theorem callShutDown_meets (he : e.Of t) (ht : t.progress.isStarted = true) :
    Meets (·.Shows (.holding ms t)) e.callShutDown fun _ h =>
      ∃ progress, { t with progress }.Closable ∧ h.Shows (.holding ms { t with progress }) := by
  have hstopped : Tenure.Closable { t with progress := .stopped } := by
    simp [Tenure.Closable, Progress.isStarted]
  unfold callShutDown
  split
  · rename_i hlacking
    apply Meets.pure
    intro h hshows
    refine ⟨t.progress, fun _ hfound => ?_, hshows⟩
    have hsome := he.shutDown.2 hfound
    rw [hlacking] at hsome
    cases hsome
  · rename_i function hfunction
    have hfound := he.shutDown.1 (by rw [hfunction]; rfl)
    refine (Plugin.call_meets .shutDown he.serial hfound (.shutDown ht) (.shutDown ht) _).bind ?_
    rintro (detail | ⟨⟩)
    · apply Meets.pure
      intro h hshows
      exact ⟨.stopped, hstopped, hshows⟩
    · apply Meets.pure
      intro h hshows
      exact ⟨.stopped, hstopped, hshows⟩

theorem callGetAssets_meets (he : e.Of t) (ht : t.progress = .serving) :
    Meets (·.Shows (.holding ms t)) e.callGetAssets fun _ h => h.Shows (.holding ms t) := by
  unfold callGetAssets
  split
  · exact .pure fun _ h => h
  · rename_i function hfunction
    have hfound := he.getAssets.1 (by rw [hfunction]; rfl)
    refine (Plugin.call_service_meets .getAssets he.serial hfound rfl ht _).bind ?_
    rintro (detail | _ | bytes)
    · exact .pure fun _ h => h
    · exact .pure fun _ h => h
    · exact .pure fun _ h => h

theorem callRunSync_meets (he : e.Of t) (ht : t.progress = .serving) (input output : UInt64)
    (timeout : Int32) :
    Meets (·.Shows (.holding ms t)) (e.callRunSync input output timeout) fun _ h =>
      h.Shows (.holding ms t) :=
  Plugin.call_service_meets (.runSync input output timeout) he.serial he.runSync rfl ht _

theorem callRunAsync_meets (he : e.Of t) (ht : t.progress = .serving)
    (input output callback : UInt64) :
    Meets (·.Shows (.holding ms t)) (e.callRunAsync input output callback) fun _ h =>
      h.Shows (.holding ms t) := by
  unfold callRunAsync
  split
  · exact .pure fun _ h => h
  · rename_i function hfunction
    have hfound := he.runAsync.1 (by rw [hfunction]; rfl)
    exact Plugin.call_service_meets (.runAsync input output callback) he.serial hfound rfl ht _

end EntryPoints

end PluginChain
