import Mathlib.Data.List.Forall2
import PluginChain.Proofs.CommandLine.Effective
import PluginChain.Proofs.Session.Reporting

/-!
# What is listed is what is attempted

The command `candidates` lists where a library would be opened from, and opens nothing. What a load
attempts keeps to these lists: the candidates of each auxiliary library and then those of the
primary one are attempted in the order listed, until one opens.

Main statements:
* `Trial.Goes.keepsTo`: the attempts at one library keep to its candidates.
* `Account.foretells`: the attempts of a load keep to the lists.
* `CommandLine.load_foretold`: so do those of every load of a session that is not ready, and the
  lists are printed.
-/

namespace PluginChain

variable {p : Platform}

/-! ## What is listed -/

namespace Config

/-- The candidates that are listed for `name`, under the search paths of the application or of the
    system. -/
def listing (c : Config) (name : String) (app : Bool) : List String :=
  candidates (c.redirects.resolve name) (if app then c.appPaths else c.systemPaths)

/-- The line that is printed before the candidates of a name that is redirected. -/
def redirectionLine (c : Config) (name : String) : List String :=
  if c.redirects.resolve name = name then [] else [name ++ " -> " ++ c.redirects.resolve name]

end Config

/-! ## What is attempted -/

/-- Attempts at candidates, each with the word whether it opened. -/
abbrev Attempts := List (String × Bool)

/-- Nothing opened in these attempts. -/
def Attempts.AllRefused (attempts : Attempts) : Prop :=
  ∀ a ∈ attempts, a.2 = false

/-- The attempts keep to what is listed: they go through it in order and end with the first
    candidate that opens. -/
structure Attempts.KeepsTo (attempts : Attempts) (listed : List String) : Prop where
  ne_nil : attempts ≠ []
  isPrefix : attempts.map Prod.fst <+: listed
  /-- Only the last attempt may open. -/
  refused : AllRefused attempts.dropLast
  /-- Nothing is left out if nothing opens. -/
  whole : attempts.AllRefused → attempts.map Prod.fst = listed

/-- The candidate that an event attempted, with the word whether it opened, and with its sharing. -/
def Event.attempt? : Event → Option (Sharing × String × Bool)
  | refused candidate sharing _ => some (sharing, candidate, false)
  | opened _ candidate sharing => some (sharing, candidate, true)
  | _ => none

theorem Event.attempt?_of_attempted? {es : List Event} (h : ∀ e ∈ es, e.attempted? = none) :
    es.filterMap attempt? = [] := by
  refine List.filterMap_eq_nil_iff.2 fun e he => ?_
  cases e with
  | refused => cases h _ he
  | opened => cases h _ he
  | _ => rfl

/-- The attempts of a load that comes to `result`, as the configuration `c` foretells them: those at
    the auxiliary libraries in turn, and those at the primary one. -/
structure Foretells (c : Config) (result : Except LoadError Unit) (events : List Event)
    (auxiliary : List Attempts) (primary : Attempts) : Prop where
  /-- There are no others. -/
  attempts : events.filterMap Event.attempt? =
    auxiliary.flatten.map (Prod.mk .global) ++ primary.map (Prod.mk .isolated)
  keepsAuxiliary :
    List.Forall₂ (fun name attempts => Attempts.KeepsTo attempts (c.listing name false))
      c.auxiliaryLibraries auxiliary
  keepsPrimary : primary.KeepsTo (c.listing c.primaryLibrary true)
  /-- The load ends for want of the primary library if and only if nothing opens as that. -/
  notFound_iff : (∃ name attempted reason, result = .error (.notFound name attempted reason)) ↔
    primary.AllRefused
  /-- The error names what was attempted. -/
  attempted : ∀ name attempted reason, result = .error (.notFound name attempted reason) →
    attempted = primary.map Prod.fst

/-! ## The attempts of a load -/

namespace Trial

/-- The attempts of a trial. -/
def attempts (t : Trial p) : Attempts :=
  t.refused.map (fun r => (r.1, false)) ++ t.library?.toList.map fun l =>
    (l.identity.location, true)

theorem attempt?_events (sharing : Sharing) (t : Trial p) :
    (t.events sharing).filterMap Event.attempt? = t.attempts.map (Prod.mk sharing) := by
  simp [events, attempts, Event.refusals, List.filterMap_map, Function.comp_def, Event.attempt?]

theorem allRefused_iff (t : Trial p) : t.attempts.AllRefused ↔ t.library? = none := by
  cases hlibrary : t.library? <;> simp [attempts, Attempts.AllRefused, hlibrary]

/-- The attempts at a library keep to its candidates. -/
theorem Goes.keepsTo {redirects : Redirects} {paths : List String} {sharing : Sharing} {n : Nat}
    {t : Trial p} {w w' : p.World} (h : t.Goes redirects paths sharing n w w') :
    t.attempts.KeepsTo (candidates (redirects.resolve t.name) paths) := by
  cases h with
  | @opened name refused location module w w' hopens =>
    obtain ⟨⟨rest, hrest⟩, -⟩ := hopens
    constructor
    case ne_nil => simp [attempts]
    case isPrefix => exact ⟨rest, by simp [attempts, hrest]⟩
    case refused => simp [attempts, Attempts.AllRefused]
    case whole =>
      exact fun hrefused => absurd ((allRefused_iff _).1 hrefused) (Option.some_ne_none _)
  | @missed name refused w w' hall _ =>
    have hattempts : attempts (⟨name, refused, none⟩ : Trial p) =
        refused.map fun r => (r.1, false) :=
      List.append_nil _
    have hmap : (attempts (⟨name, refused, none⟩ : Trial p)).map Prod.fst =
        candidates (redirects.resolve name) paths := by
      rw [hattempts, List.map_map]
      exact hall
    constructor
    case ne_nil =>
      intro hnil
      rw [hnil] at hmap
      exact candidates_ne_nil _ _ hmap.symm
    case isPrefix => exact hmap ▸ List.prefix_rfl
    case refused =>
      have hrefused : (attempts (⟨name, refused, none⟩ : Trial p)).AllRefused :=
        (allRefused_iff _).2 rfl
      exact fun a ha => hrefused a (List.dropLast_subset _ ha)
    case whole => exact fun _ => hmap

end Trial

/-- Priming keeps to the candidates of each library in turn. -/
theorem Primed.Goes.keepsTo {redirects : Redirects} {paths : List String} {n : Nat}
    {trials : List (Trial p)} {w w' : p.World} (h : Goes redirects paths n trials w w') :
    ∀ t ∈ trials, t.attempts.KeepsTo (candidates (redirects.resolve t.name) paths) := by
  induction h with
  | nil => exact fun t ht => absurd ht List.not_mem_nil
  | cons first _ ih => exact List.forall_mem_cons.2 ⟨first.keepsTo, ih⟩

namespace Account

variable {c : Config} {n : Nat} {w w' : p.World} {a : Account p}

/-- The primary library is missing if and only if the load ends for want of it, with all its
    candidates named. -/
theorem notFound_cases (h : a.Of c n w w') :
    (a.library? c n = none ∧ ∃ reason,
      a.result = .error (.notFound c.primaryTarget c.primaryCandidates reason)) ∨
      a.library? c n ≠ none ∧ ∀ name attempted reason,
        a.result ≠ .error (.notFound name attempted reason) := by
  obtain ⟨-, _, -, hcourse⟩ := h
  obtain ⟨trials, way, result⟩ := a
  cases hcourse with
  | notFound => exact .inl ⟨rfl, _, rfl⟩
  | _ => exact .inr ⟨nofun, nofun⟩

/-- The attempts of a load keep to what is listed. -/
theorem foretells (h : a.Of c n w w') :
    Foretells c a.result (a.events c n) (a.trials.map (·.attempts))
      (a.primaryTrial c n).attempts := by
  obtain ⟨rest, hevents, hattempted, -⟩ := exists_rest h
  obtain ⟨_, _, hprimary⟩ := primaryTrial_goes h
  have hcases := notFound_cases h
  obtain ⟨hnames, w₁, hprime, -⟩ := h
  have hkeeps : (a.primaryTrial c n).attempts.KeepsTo c.primaryCandidates := hprimary.keepsTo
  have hnone : (a.primaryTrial c n).attempts.AllRefused ↔ a.library? c n = none :=
    Trial.allRefused_iff _
  constructor
  case attempts =>
    simp [hevents, Event.attempt?_of_attempted? hattempted, Trial.attempt?_events,
      List.flatMap_def, List.map_flatten, Function.comp_def]
  case keepsAuxiliary =>
    rw [← hnames, List.forall₂_map_left_iff, List.forall₂_map_right_iff, List.forall₂_same]
    exact hprime.keepsTo
  case keepsPrimary => exact hkeeps
  case notFound_iff =>
    rw [hnone]
    rcases hcases with ⟨hlibrary, reason, hresult⟩ | ⟨hlibrary, hresult⟩
    · exact ⟨fun _ => hlibrary, fun _ => ⟨_, _, reason, hresult⟩⟩
    · exact ⟨fun ⟨_, _, _, h⟩ => absurd h (hresult _ _ _), fun h => absurd h hlibrary⟩
  case attempted =>
    intro name attempted reason herror
    rcases hcases with ⟨hlibrary, reason', hresult⟩ | ⟨-, hresult⟩
    · cases hresult.symm.trans herror
      exact (hkeeps.whole (hnone.2 hlibrary)).symm
    · exact absurd herror (hresult _ _ _)

end Account

/-! ## The command -/

namespace CommandLine

/-- The command `candidates` lists, for each name, what is listed for it under the configuration
    `c`. -/
structure Lists (p : Platform) (c : Config) : Prop where
  /-- Whoever asks is told. -/
  prints : ∀ (s : Surroundings) (arguments : List String) (name : String) (app : Bool)
    (path? : Option Path),
    Invocation.ofArguments arguments s.environment = .ok ⟨.candidates name app, path?⟩ →
    effectiveConfig s path? = .ok c →
    ∀ h : Host p, (run s arguments).run h =
      ({ code := 0, out := lines (c.redirectionLine name ++ c.listing name app) }, h)
  /-- There are surroundings in which every name can be asked for. -/
  asked : ∃ s path?, effectiveConfig s path? = .ok c ∧ ∀ name app, ∃ arguments,
    Invocation.ofArguments arguments s.environment = .ok ⟨.candidates name app, path?⟩

/-- A valid configuration can be listed under: it is written to a file, which the arguments name. -/
theorem lists_of_valid {c : Config} (hvalid : c.validate = .ok ()) : Lists p c := by
  constructor
  case prints =>
    intro s arguments name app path? harguments hconfig h
    rw [run_eq_perform harguments hconfig]
    rfl
  case asked =>
    refine ⟨⟨fun _ => none, fun _ => .ok (Text.Utf8.encode c.print).toArray⟩,
      some (Text.Utf8.encode "osrkit.toml"),
      effectiveConfig_written rfl hvalid, ?_⟩
    intro name app
    cases app with
    | false => exact ⟨["--config", "osrkit.toml", "candidates", "--", name], rfl⟩
    | true => exact ⟨["--config", "osrkit.toml", "candidates", "--app", "--", name], rfl⟩

/-- What is attempted in a load keeps to what is listed, after every run that leaves a session
    without the plugin. -/
theorem load_foretold (config : Config) (hvalid : config.validate = .ok ()) (world : p.World)
    (turns : List (Turn p)) (hready : (Session.reached config world turns).1.stage ≠ .ready) :
    let s := (Session.reached config world turns).1
    let h := (Session.reached config world turns).2
    (∃ auxiliary primary,
      Foretells config (s.load.run h).1.1 (Host.eventsSince h (s.load.run h).2) auxiliary primary) ∧
        Lists p config := by
  obtain ⟨a, ha⟩ := Session.reached_has_account hready
  obtain ⟨w', hof⟩ := ha.of
  simp only [Host.eventsSince, ha.events, ha.result, List.drop_left]
  exact ⟨⟨_, _, Account.foretells hof⟩, lists_of_valid hvalid⟩

/-- The first load of a session with the defaults, on a device with the primary library alone. -/
theorem load_foretold_primaryAlone :
    let reached := Session.reached (p := Script.platform) .stock Session.primaryAlone []
    Config.stock.validate = .ok () ∧ reached.1.stage ≠ .ready ∧
      (∃ auxiliary primary, Foretells .stock (reached.1.load.run reached.2).1.1
        (Host.eventsSince reached.2 (reached.1.load.run reached.2).2) auxiliary primary) ∧
      Lists Script.platform .stock :=
  ⟨Config.validate_stock, by decide +kernel,
    load_foretold (p := Script.platform) .stock Config.validate_stock Session.primaryAlone []
      (by decide +kernel)⟩

end CommandLine

end PluginChain
