import PluginChain.Proofs.Config.Validity
import PluginChain.Proofs.Session.Reporting
import PluginChain.Proofs.Session.Verdict

/-!
# A valid configuration confines a load

What a load attempts to open is a bare file name, alone or under one of the search paths that the
configuration gives. No redirection leads out of them, and a load does not fail for an assets
directory that cannot be handed over.

Main statements:
* `Sought.attemptsWithin`: the attempts at a library stay within its search paths if its name is
  redirected to a bare one.
* `Session.load_confined`: with a valid configuration a load stays within the search paths.
-/

namespace PluginChain

variable {p : Platform}

/-- The candidate is the bare file name `name`, alone or under one of the `paths`. -/
structure Within (paths : List String) (name candidate : String) : Prop where
  bare : Bare name
  place : candidate = name ∨ ∃ path ∈ paths, candidate = path ++ "/" ++ name

theorem within_of_mem_candidates {paths : List String} {name candidate : String} (hname : Bare name)
    (h : candidate ∈ candidates name paths) : Within paths name candidate := by
  refine ⟨hname, ?_⟩
  rcases List.mem_cons.1 h with rfl | hpath
  · exact .inl rfl
  · obtain ⟨path, hmem, rfl⟩ := List.mem_map.1 hpath
    exact .inr ⟨path, hmem, rfl⟩

/-- The event is an attempt, with this sharing, at a candidate within the search paths. -/
inductive Event.AttemptsWithin (sharing : Sharing) (paths : List String) : Event → Prop
  | refused {name candidate reason : String} (h : Within paths name candidate) :
    AttemptsWithin sharing paths (.refused candidate sharing reason)
  | opened {serial : Nat} {name candidate : String} (h : Within paths name candidate) :
    AttemptsWithin sharing paths (.opened serial candidate sharing)

namespace Sought

variable {redirects : Redirects} {paths : List String} {sharing : Sharing} {name : String}
  {events : List Event} {identity? : Option Identity}

theorem attemptsWithin (h : Sought redirects paths sharing name events identity?)
    (hbare : Bare (redirects.resolve name)) : ∀ e ∈ events, e.AttemptsWithin sharing paths := by
  have hrefusals {refused : List (String × String)}
      (hlisted : refused.map Prod.fst ⊆ candidates (redirects.resolve name) paths) :
      ∀ e ∈ Event.refusals sharing refused, e.AttemptsWithin sharing paths := by
    refine List.forall_mem_map.2 fun r hr => .refused (within_of_mem_candidates hbare ?_)
    exact hlisted (List.mem_map_of_mem hr)
  cases h with
  | @opened serial location refused rest hcandidates =>
    have hlocation : Within paths (redirects.resolve name) location :=
      within_of_mem_candidates hbare (by simp [hcandidates])
    refine List.forall_mem_append.2 ⟨hrefusals ?_, List.forall_mem_singleton.2 (.opened hlocation)⟩
    rw [hcandidates]
    exact List.subset_append_left ..
  | missed hcandidates => exact hrefusals (hcandidates ▸ List.Subset.refl _)

theorem identity_within {i : Identity} (h : Sought redirects paths sharing name events (some i))
    (hbare : Bare (redirects.resolve name)) : Within paths i.resolved i.location := by
  cases h with
  | opened hcandidates => exact within_of_mem_candidates hbare (by simp [hcandidates])

end Sought

namespace Session

/-- A load of a session with the configuration `c` that came to `result`, did `events` to the
    outside and left `report` stayed within the search paths. -/
structure Confined (c : Config) (result : Except LoadError Unit) (events : List Event)
    (report : LoadReport) :
    Prop where
  /-- The attempts at the auxiliary libraries come first and stay within the paths of the system,
      those at the primary library follow and stay within the paths of the application, and there
      are no others. -/
  attempts : ∃ priming opening rest, events = priming ++ opening ++ rest ∧
    (∀ e ∈ priming, e.AttemptsWithin .global c.systemPaths) ∧
    (∀ e ∈ opening, e.AttemptsWithin .isolated c.appPaths) ∧ ∀ e ∈ rest, e.attempted? = none
  /-- No redirection turns a bare name into a path. -/
  redirected : ∀ name, Bare name → Bare (c.redirects.resolve name)
  primed : ∀ i ∈ report.primed, Within c.systemPaths i.resolved i.location
  primary : ∀ i, report.primary = some i → Within c.appPaths i.resolved i.location
  notFound : ∀ name attempted reason, result = .error (.notFound name attempted reason) →
    Bare name ∧ ∀ candidate ∈ attempted, Within c.appPaths name candidate
  /-- The assets directory does not stand in the way. -/
  assets : ∀ why, result ≠ .error (.startFailed ("invalid assets dir" ++ why))

/-- A start that fails is not blamed on an assets directory without a NUL. -/
theorem StartFails.not_invalid_assets {c : Config} {w : p.World} {detail : String}
    (h : StartFails c w detail) (hnul : '\x00' ∉ c.assetsDir.toList) (why : String) :
    detail ≠ "invalid assets dir" ++ why := by
  have hfunction (function : String) (payload : Payload)
      (hfirst : function.toList.head? = some 'C') :
      Plugin.unwoundDetail function payload ≠ "invalid assets dir" ++ why := by
    intro heq
    have hheads := congrArg (fun s : String => s.toList.head?) heq
    simp [Plugin.unwoundDetail, String.toList_append, List.head?_append, hfirst] at hheads
  cases h with
  | startUp => exact hfunction _ _ rfl
  | nul _ hbytes _ => exact absurd (Text.Utf8.zero_mem_encode_iff.1 (by simp [hbytes])) hnul
  | setAssets => exact hfunction _ _ rfl

/-- With a valid configuration a load stays within the search paths, after every run that leaves a
    session without the plugin. -/
theorem load_confined (config : Config) (hvalid : config.validate = .ok ()) (world : p.World)
    (turns : List (Turn p)) (hready : (reached config world turns).1.stage ≠ .ready) :
    let s := (reached config world turns).1
    let h := (reached config world turns).2
    Confined config (s.load.run h).1.1 (Host.eventsSince h (s.load.run h).2)
      (s.load.run h).1.2.report := by
  have hvalid := Config.validate_eq_ok_iff.1 hvalid
  have hprimaryBare : Bare config.primaryTarget := hvalid.bare_resolve hvalid.primary
  obtain ⟨auxiliary, primary, rest, hevents, hattempted, hnames, hauxiliary,
    hprimary, hprimed, -⟩ :=
    (describes_load (p := p) hready).sought
  obtain ⟨posture, hs, -⟩ := reached_agrees config world turns
  have hresult := load_result_iff hs hready (reached config world turns).2
  have hbare : ∀ a ∈ auxiliary, Bare (config.redirects.resolve a.1) := fun a ha =>
    hvalid.bare_resolve (hvalid.auxiliary _ (hnames ▸ List.mem_map_of_mem ha))
  constructor
  case attempts =>
    refine ⟨_, primary, rest, hevents, ?_, hprimary.attemptsWithin hprimaryBare, hattempted⟩
    intro e he
    obtain ⟨a, ha, hea⟩ := List.mem_flatMap.1 he
    exact (hauxiliary a ha).attemptsWithin (hbare a ha) e hea
  case redirected => exact fun name hname => hvalid.bare_resolve hname
  case primed =>
    intro i hi
    rw [hprimed] at hi
    obtain ⟨a, ha, hopened⟩ := List.mem_filterMap.1 hi
    exact (hopened ▸ hauxiliary a ha).identity_within (hbare a ha)
  case primary =>
    intro i hi
    exact (hi ▸ hprimary).identity_within hprimaryBare
  case notFound =>
    intro name attempted reason herror
    obtain ⟨rfl, rfl, -⟩ := course_notFound_iff.1 ((hresult _).1 herror)
    exact ⟨hprimaryBare, fun candidate hmem => within_of_mem_candidates hprimaryBare hmem⟩
  case assets =>
    intro why herror
    exact (course_startFailed_iff.1 ((hresult _).1 herror)).not_invalid_assets
      hvalid.assetsNoNul why rfl

/-- The first load of a session whose primary library is redirected by the built-in table to a name
    that the configuration redirects in turn, on a device without that library. -/
theorem load_confined_redirected :
    let config := { Config.stock with primaryLibrary := "libiGraphicsCore.huawei.so" }.withRedirect
      "libigs_client.so" "libai_client.so"
    let s := (reached (p := Script.platform) config primaryAlone []).1
    let h := (reached (p := Script.platform) config primaryAlone []).2
    config.validate = .ok () ∧ s.stage ≠ .ready ∧
      Confined config (s.load.run h).1.1 (Host.eventsSince h (s.load.run h).2)
        (s.load.run h).1.2.report :=
  ⟨rfl, by decide +kernel, load_confined (p := Script.platform) _ rfl primaryAlone []
    (by decide +kernel)⟩

end Session

end PluginChain
