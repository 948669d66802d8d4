import PluginChain.Proofs.CommandLine.Effective
import PluginChain.Proofs.Session.Reporting

/-!
# Dependencies and what was primed

Which of the libraries that an image needs are covered by priming is told from the configuration,
and no library is opened for it. It agrees with what a load reports: what was primed is never told
to be uncovered, and if all auxiliary libraries opened, what is told to be uncovered is what the
report does not cover.

Main statements:
* `Describes.resolved_sublist`: what is primed are targets of priming, in their order; without a
  miss it is all of them.
* `CommandLine.marked_markNeeded`: the command `needed` marks what is not told to be uncovered.
* `CommandLine.load_covers`: the report of every load of a session that is not ready agrees with
  what is told.
-/

namespace PluginChain

variable {p : Platform}

/-! ## What a report covers -/

/-- A library was primed for `name`, or for what `name` is redirected to. -/
def LoadReport.Covers (r : LoadReport) (c : Config) (name : String) : Prop :=
  ∃ i ∈ r.primed, i.resolved = name ∨ i.resolved = c.redirects.resolve name

instance (r : LoadReport) (c : Config) (name : String) : Decidable (r.Covers c name) :=
  inferInstanceAs
    (Decidable (∃ i ∈ r.primed, i.resolved = name ∨ i.resolved = c.redirects.resolve name))

theorem LoadReport.covers_iff {r : LoadReport} {c : Config} {name : String} :
    r.Covers c name ↔ name ∈ r.primed.map (·.resolved) ∨
      c.redirects.resolve name ∈ r.primed.map (·.resolved) := by
  simp only [Covers, List.mem_map, and_or_left, exists_or]

theorem Config.primes_iff {c : Config} {name : String} :
    c.primes name = true ↔ name ∈ c.primingTargets ∨
      c.redirects.resolve name ∈ c.primingTargets := by
  simp [primes]

/-- What is told of the libraries that an image needs agrees with the report. -/
structure LoadReport.Agrees (r : LoadReport) (c : Config) (needed : List String) : Prop where
  /-- Nothing that was primed is told to be uncovered. -/
  covered : ∀ name ∈ unprimed needed c, ¬ r.Covers c name
  /-- If nothing was missed, all that is not covered is told, as often as it is needed and in that
      order. -/
  uncovered : r.misses = [] → unprimed needed c = needed.filter fun name => ¬ r.Covers c name

/-! ## What is primed -/

/-- What opened of the libraries that were sought is what their names are redirected to, in
    order. -/
theorem Sought.resolved_sublist {redirects : Redirects} {paths : List String} {sharing : Sharing}
    {found : List (String × List Event × Option Identity)}
    (h : ∀ f ∈ found, Sought redirects paths sharing f.1 f.2.1 f.2.2) :
    ((found.filterMap (·.2.2)).map (·.resolved)).Sublist
      ((found.map (·.1)).map redirects.resolve) := by
  induction found with
  | nil => exact .slnil
  | cons f found ih =>
    obtain ⟨hfirst, hothers⟩ := List.forall_mem_cons.1 h
    obtain ⟨name, events, identity?⟩ := f
    dsimp only at hfirst
    cases hfirst with
    | opened _ => exact (ih hothers).cons_cons _
    | missed _ => exact (ih hothers).cons _

namespace Describes

variable {c : Config} {result : Except LoadError Unit} {events : List Event} {r : LoadReport}

/-- What is primed are targets of priming, in their order. -/
theorem resolved_sublist (h : Describes c result events r) :
    (r.primed.map (·.resolved)).Sublist c.primingTargets := by
  obtain ⟨auxiliary, _, _, -, -, hnames, hsought, -, hprimed, -⟩ := h.sought
  rw [hprimed, Config.primingTargets, ← hnames]
  exact Sought.resolved_sublist hsought

/-- If nothing was missed, all targets of priming are primed. -/
theorem resolved_eq (h : Describes c result events r) (hmisses : r.misses = []) :
    r.primed.map (·.resolved) = c.primingTargets := by
  refine h.resolved_sublist.eq_of_length ?_
  have hlength := h.complete.length_eq
  rw [hmisses, List.append_nil, List.length_map] at hlength
  rw [List.length_map, Config.primingTargets, List.length_map, hlength]

/-- What is told of the libraries that an image needs agrees with a report of a load. -/
theorem agrees (h : Describes c result events r) (needed : List String) : r.Agrees c needed := by
  have hsubset := h.resolved_sublist.subset
  constructor
  case covered =>
    intro name hname hcovers
    have hprimes : c.primes name = true :=
      Config.primes_iff.2 ((LoadReport.covers_iff.1 hcovers).imp (@hsubset _) (@hsubset _))
    rw [(mem_unprimed_iff.1 hname).2] at hprimes
    cases hprimes
  case uncovered =>
    intro hmisses
    have hiff (name : String) : c.primes name = true ↔ r.Covers c name := by
      rw [Config.primes_iff, LoadReport.covers_iff, h.resolved_eq hmisses]
    simp only [unprimed, ← hiff, decide_not, Bool.decide_eq_true]

end Describes

namespace CommandLine

/-! ## What is printed -/

/-- The names `needed` are printed once each and in order: those that are `uncovered` as they are,
    the others with a mark. -/
inductive Marked : (needed uncovered printed : List String) → Prop
  | nil : Marked [] [] []
  | plain (name : String) {needed uncovered printed : List String}
    (rest : Marked needed uncovered printed) :
    Marked (name :: needed) (name :: uncovered) (name :: printed)
  | marked (name : String) {needed uncovered printed : List String}
    (rest : Marked needed uncovered printed) :
    Marked (name :: needed) uncovered ((name ++ " (primed)") :: printed)

/-- Marking by a test marks the names that fail it. -/
theorem marked_map (test : String → Bool) (needed : List String) :
    Marked needed (needed.filter test) (needed.map fun name => if test name then name
      else name ++ " (primed)") := by
  induction needed with
  | nil => exact .nil
  | cons name needed ih =>
    cases htest : test name with
    | true => simpa [htest] using ih.plain name
    | false => simpa [htest] using ih.marked name

/-- The marks stand where a library is not told to be uncovered. -/
theorem marked_markNeeded (c : Config) (needed : List String) :
    Marked needed (unprimed needed c) (markNeeded c needed) := by
  have hprinted : markNeeded c needed =
      needed.map fun name => if !c.primes name then name else name ++ " (primed)" := by
    refine List.map_congr_left fun name hname => ?_
    simp [mem_unprimed_iff, hname]
  rw [hprinted]
  exact marked_map (fun name => !c.primes name) needed

/-- The command `needed` marks, under the configuration `c`, the libraries that are not told to be
    uncovered. -/
structure Marks (p : Platform) (c : Config) : Prop where
  /-- Whoever asks is told. -/
  prints : ∀ (s : Surroundings) (arguments : List String) (path : Path) (path? : Option Path)
    (image : Array UInt8) (needed : List String),
    Invocation.ofArguments arguments s.environment = .ok ⟨.needed path, path?⟩ →
    effectiveConfig s path? = .ok c →
    s.fileAt path = .ok image → Elf.neededLibraries image = .ok needed →
    ∃ printed, Marked needed (unprimed needed c) printed ∧
      ∀ h : Host p, (run s arguments).run h = ({ code := 0, out := lines printed }, h)
  /-- If the configuration is valid, there are surroundings in which every image can be asked
      about. -/
  asked : c.validate = .ok () → ∀ image, ∃ s arguments path path?,
    Invocation.ofArguments arguments s.environment = .ok ⟨.needed path, path?⟩ ∧
      effectiveConfig s path? = .ok c ∧ s.fileAt path = .ok image

theorem marks (c : Config) : Marks p c := by
  constructor
  case prints =>
    intro s arguments path path? image needed harguments hconfig hfile hneeded
    refine ⟨markNeeded c needed, marked_markNeeded c needed, fun h => ?_⟩
    rw [run_eq_perform harguments hconfig, perform, listNeeded]
    simp only [hfile, hneeded]
    rfl
  case asked =>
    intro hvalid image
    let configFile : Path := Text.Utf8.encode "osrkit.toml"
    let fileAt (path : Path) : Except FileError (Array UInt8) :=
      if path = configFile then .ok (Text.Utf8.encode c.print).toArray else .ok image
    have hconfig : fileAt configFile = .ok (Text.Utf8.encode c.print).toArray := if_pos rfl
    have himage : fileAt (Text.Utf8.encode "plugin.so") = .ok image := if_neg (by decide)
    exact ⟨⟨fun _ => none, fileAt⟩, ["--config", "osrkit.toml", "needed", "plugin.so"], _,
      some configFile, rfl,
      effectiveConfig_written hconfig hvalid, himage⟩

/-- What is told of the libraries that an image needs agrees with the report of a load, after every
    run that leaves a session without the plugin. -/
theorem load_covers (config : Config) (world : p.World) (turns : List (Turn p))
    (hready : (Session.reached config world turns).1.stage ≠ .ready) :
    let s := (Session.reached config world turns).1
    let h := (Session.reached config world turns).2
    (∀ needed, (s.load.run h).1.2.report.Agrees config needed) ∧ Marks p config :=
  ⟨(Session.describes_load hready).agrees, marks config⟩

/-- The first load of a session with the defaults, on a device on which nothing is missing. -/
theorem load_covers_nothingMissed :
    let device : Script := ["libigs_client.so", "libai_client.so", "libai_infra.so"].foldl
      (fun device name => device.install name {}) Session.primaryAlone
    let reached := Session.reached (p := Script.platform) .stock device []
    reached.1.stage ≠ .ready ∧ (reached.1.load.run reached.2).1.2.report.misses = [] ∧
      (∀ needed, (reached.1.load.run reached.2).1.2.report.Agrees .stock needed) ∧
        Marks Script.platform .stock :=
  ⟨by decide +kernel, by decide +kernel,
    load_covers (p := Script.platform) .stock _ [] (by decide +kernel)⟩

end CommandLine

end PluginChain
