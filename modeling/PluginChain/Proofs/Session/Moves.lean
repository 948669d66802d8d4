import PluginChain.Proofs.Session.Account
import PluginChain.Proofs.Session.Transcript

/-!
# How a session moves

A session gives notice of every move from one stage to the next. The moves of a whole run are a path
through the stages, except that a session which failed goes back to `unloaded` without notice when
it is loaded again. Which stages a load enters is decided by its result, and no operation but a load
and an unload moves a session.

Main statements:
* `Session.turn_path`: a turn continues the path.
* `Session.reached_movement`: what moves a session, and how, after every run.
-/

namespace PluginChain

open PluginChain.Action

variable {p : Platform} {α β : Type}

namespace Stage

/-- The moves that a session may make: up the ladder one stage at a time, from every stage of a load
    to `failed`, and back to `unloaded` when what was loaded is given back. -/
inductive Edge : Stage → Stage → Prop
  | begin : Edge unloaded priming
  | primed : Edge priming loadingPrimary
  | opened : Edge loadingPrimary resolvingSymbols
  | resolved : Edge resolvingSymbols initializing
  | started : Edge initializing ready
  | fails {stage : Stage} (h : stage ∈ [priming, loadingPrimary, resolvingSymbols, initializing]) :
    Edge stage failed
  | unloads {stage : Stage} (h : stage ∈ [ready, failed]) : Edge stage unloaded

/-- A path through the stages. -/
inductive Path : Stage → List (Stage × Stage) → Stage → Prop
  | nil (stage : Stage) : Path stage [] stage
  | cons {a b c : Stage} {ms : List (Stage × Stage)} (edge : Edge a b) (rest : Path b ms c) :
    Path a ((a, b) :: ms) c
  /-- A failed session is loaded again. -/
  | again {ms : List (Stage × Stage)} {stage : Stage}
    (rest : Path unloaded ((unloaded, priming) :: ms) stage) :
    Path failed ((unloaded, priming) :: ms) stage

theorem Path.append {a b c : Stage} {ms ns : List (Stage × Stage)} (hms : Path a ms b)
    (hns : Path b ns c) :
    Path a (ms ++ ns) c := by
  induction hms with
  | nil => exact hns
  | cons edge _ ih => exact .cons edge (ih hns)
  | again _ ih => exact .again (ih hns)

/-- The stages that a load enters, by its result. -/
inductive Passes : Except LoadError Unit → List Stage → Prop
  | ok : Passes (.ok ()) [priming, loadingPrimary, resolvingSymbols, initializing, ready]
  | notFound {name : String} {attempted : List String} {reason : String} :
    Passes (.error (.notFound name attempted reason)) [priming, loadingPrimary, failed]
  | missingSymbol {name : String} :
    Passes (.error (.missingSymbol name)) [priming, loadingPrimary, resolvingSymbols, failed]
  | startFailed {detail : String} :
    Passes (.error (.startFailed detail)) [priming, loadingPrimary, resolvingSymbols,
      initializing, failed]

end Stage

/-- The stage that a load with this error ends at. -/
def LoadError.stage? : LoadError → Option Stage
  | notFound .. => some .loadingPrimary
  | missingSymbol _ => some .resolvingSymbols
  | startFailed _ => some .initializing
  | notReady => none
  | callFailed _ => none

/-- The moves `ms` of a load that leaves the session at `stage`. -/
structure LoadMoves (result : Except LoadError Unit) (stage : Stage)
    (ms : List (Stage × Stage)) : Prop where
  /-- They go from `unloaded` through the stages that the result names. -/
  passes : ∃ stages, Stage.Passes result stages ∧ ms = Stage.legs (.unloaded :: stages) ∧
    stages.getLast? = some stage
  /-- Each begins where the one before it has ended. -/
  chain : ms.IsChain fun a b => a.2 = b.1
  /-- Where a load fails decides how, and it never fails at another stage. -/
  failed_iff : ∀ a, (a, .failed) ∈ ms ↔ ∃ error, result = .error error ∧ error.stage? = some a
  path : Stage.Path .unloaded ms stage

/-- What a result names is all there is to say about the moves of a load. -/
theorem LoadMoves.of_passes {result : Except LoadError Unit} {stages : List Stage} {stage : Stage}
    (h : Stage.Passes result stages) (hlast : stages.getLast? = some stage) :
    LoadMoves result stage (Stage.legs (.unloaded :: stages)) := by
  refine ⟨⟨stages, h, rfl, hlast⟩, ?_, ?_, ?_⟩
  · cases h <;> simp [Stage.legs]
  · intro a
    cases h <;> simp [Stage.legs, LoadError.stage?, eq_comm]
  · cases h with
    | ok =>
      obtain rfl := Option.some.inj hlast
      exact .cons .begin (.cons .primed (.cons .opened (.cons .resolved (.cons .started (.nil _)))))
    | notFound =>
      obtain rfl := Option.some.inj hlast
      exact .cons .begin (.cons .primed (.cons (.fails (by decide)) (.nil _)))
    | missingSymbol =>
      obtain rfl := Option.some.inj hlast
      exact .cons .begin (.cons .primed (.cons .opened (.cons (.fails (by decide)) (.nil _))))
    | startFailed =>
      obtain rfl := Option.some.inj hlast
      exact .cons .begin
        (.cons .primed (.cons .opened (.cons .resolved (.cons (.fails (by decide)) (.nil _)))))

/-- A load goes on from where a session rests. -/
theorem LoadMoves.path_of_resting {result : Except LoadError Unit} {stage rest : Stage}
    {ms : List (Stage × Stage)} (h : LoadMoves result stage ms)
    (hrest : rest = .unloaded ∨ rest = .failed) : Stage.Path rest ms stage := by
  rcases hrest with rfl | rfl
  · exact h.path
  · obtain ⟨stages, hpasses, rfl, -⟩ := h.passes
    have hpath := h.path
    cases hpasses with
    | ok => exact .again hpath
    | notFound => exact .again hpath
    | missingSymbol => exact .again hpath
    | startFailed => exact .again hpath

/-- The moves that an account tells of are those that its result names. -/
theorem Account.loadMoves {c : Config} {n : Nat} {w w' : p.World} {a : Account p}
    (h : a.Of c n w w') :
    LoadMoves a.result (a.session c n).stage a.moves := by
  obtain ⟨-, _, -, hcourse⟩ := h
  obtain ⟨trials, way, result⟩ := a
  cases hcourse with
  | notFound => exact .of_passes .notFound rfl
  | missingSymbol => exact .of_passes .missingSymbol rfl
  | startUpUnwinds => exact .of_passes .startFailed rfl
  | nulInAssets => exact .of_passes .startFailed rfl
  | setAssetsUnwinds => exact .of_passes .startFailed rfl
  | loaded => exact .of_passes .ok rfl

/-! ## Runs -/

namespace Session

variable {s : Session p} {config : Config} {posture : Posture} {h : Host p}

/-- An unload is one move. -/
theorem run_unload_moves (hstage : s.stage ≠ .unloaded) (h : Host p) :
    (s.unload.run h).1.stage = .unloaded ∧ (s.unload.run h).2.moves = h.moves ++
      [(s.stage, .unloaded)] := by
  rw [unload, if_neg hstage]
  refine ⟨rfl, ?_⟩
  rw [← s.held.release_made.moves_eq h]
  simp [teardown, enter, Host.moves, Notice.move?]

theorem Settled.stage_cases (hs : s.Settled config posture) :
    s.stage = .ready ∨ s.stage = .unloaded ∨ s.stage = .failed := by
  cases hs with
  | resting _ hstage => exact .inr hstage
  | ready _ hstage => exact .inl hstage

theorem load_moves (hs : s.Settled config posture) (hready : s.stage ≠ .ready) (h : Host p) :
    ∃ ms, (s.load.run h).2.moves = h.moves ++ ms ∧
      LoadMoves (s.load.run h).1.1 (s.load.run h).1.2.stage ms := by
  obtain ⟨a, ha⟩ := load_has_account hs hready h
  obtain ⟨w', hof⟩ := ha.of
  refine ⟨a.moves, ha.moves, ?_⟩
  rw [ha.result, ha.session]
  exact Account.loadMoves hof

theorem load_path (hs : s.Settled config posture) (hpath : Stage.Path .unloaded h.moves s.stage) :
    Stage.Path .unloaded (s.load.run h).2.moves (s.load.run h).1.2.stage := by
  rcases hs.stage_cases with hready | hrest
  · have hstays : (s.load.run h).1.2.stage = s.stage := by simp [load, hready]
    rwa [(s.load_made_of_ready hready).moves_eq, hstays]
  · have hready : s.stage ≠ .ready := by
      rcases hrest with hrest | hrest <;> simp [hrest]
    obtain ⟨ms, hmoves, hload⟩ := load_moves hs hready h
    rw [hmoves]
    exact hpath.append (hload.path_of_resting hrest)

theorem unload_path (hs : s.Settled config posture) (hpath : Stage.Path .unloaded h.moves s.stage) :
    Stage.Path .unloaded (s.unload.run h).2.moves (s.unload.run h).1.stage := by
  by_cases hstage : s.stage = .unloaded
  · rwa [unload, if_pos hstage]
  · obtain ⟨hunloaded, hmoves⟩ := run_unload_moves hstage h
    rw [hunloaded, hmoves]
    refine hpath.append (.cons (.unloads ?_) (.nil _))
    rcases hs.stage_cases with hready | hrest | hfailed
    · simp [hready]
    · exact absurd hrest hstage
    · simp [hfailed]

/-- Whatever the turn is, it continues the path. -/
theorem turn_path (hs : s.Settled config posture) (hpath : Stage.Path .unloaded h.moves s.stage)
    (t : Turn p) :
    Stage.Path .unloaded ((s.turn t).run h).2.moves ((s.turn t).run h).1.stage := by
  cases t with
  | outside world => exact hpath
  | asked operation =>
    cases operation with
    | load => exact load_path hs hpath
    | unload => exact unload_path hs hpath
    | superSample input output timeout =>
      have hmoves := (s.superSample_made input output timeout).moves_eq h
      exact hmoves ▸ hpath
    | superSampleAsync input output callback =>
      have hmoves := (s.superSampleAsync_made input output callback).moves_eq h
      exact hmoves ▸ hpath
    | assetsDir =>
      have hmoves := s.assetsDir_made.moves_eq h
      exact hmoves ▸ hpath

theorem reached_path (config : Config) (world : p.World) (turns : List (Turn p)) :
    Stage.Path .unloaded (reached config world turns).2.moves
      (reached config world turns).1.stage := by
  induction turns using List.reverseRecOn with
  | nil => exact .nil _
  | append_singleton turns t ih =>
    obtain ⟨posture, hs, -⟩ := reached_agrees config world turns
    rw [reached_concat]
    exact turn_path hs ih t

/-- How a session got to its stage, and how it goes on from there. -/
structure Movement (s : Session p) (h : Host p) : Prop where
  /-- All moves so far are a path to the stage where the session stands. -/
  path : Stage.Path .unloaded h.moves s.stage
  /-- A load of a session that is not ready makes the moves that its result names. -/
  load : s.stage ≠ .ready →
    ∃ ms, (s.load.run h).2.moves = h.moves ++ ms ∧
      LoadMoves (s.load.run h).1.1 (s.load.run h).1.2.stage ms
  /-- A load of a ready session makes none. -/
  loadReady : s.stage = .ready → (s.load.run h).2.moves = h.moves
  /-- An unload makes one move, from `ready` or from `failed`. -/
  unload : s.stage ≠ .unloaded → (s.stage = .ready ∨ s.stage = .failed) ∧
    (s.unload.run h).2.moves = h.moves ++ [(s.stage, .unloaded)]
  /-- An unload of an unloaded session makes none. -/
  unloadUnloaded : s.stage = .unloaded → (s.unload.run h).2.moves = h.moves
  /-- Nothing else moves a session. -/
  superSample :
    ∀ input output timeout, ((s.superSample input output timeout).run h).2.moves = h.moves
  superSampleAsync : ∀ input output callback,
    ((s.superSampleAsync input output callback).run h).2.moves = h.moves
  assetsDir : (s.assetsDir.run h).2.moves = h.moves
  drop : (s.drop.run h).2.moves = h.moves

/-- How the session moves in every run. -/
theorem reached_movement (config : Config) (world : p.World) (turns : List (Turn p)) :
    Movement (reached config world turns).1 (reached config world turns).2 := by
  obtain ⟨posture, hs, -⟩ := reached_agrees config world turns
  have hpath := reached_path config world turns
  generalize (reached config world turns).1 = s at hs hpath
  generalize (reached config world turns).2 = h at hpath
  refine ⟨hpath, fun hready => load_moves hs hready h,
    fun hready => (s.load_made_of_ready hready).moves_eq h, fun hstage => ?_, fun hstage => ?_,
    fun input output timeout => (s.superSample_made input output timeout).moves_eq h,
    fun input output callback => (s.superSampleAsync_made input output callback).moves_eq h,
    s.assetsDir_made.moves_eq h, s.drop_made.moves_eq h⟩
  · have hcases := hs.stage_cases
    exact ⟨by simpa [hstage] using hcases, (run_unload_moves hstage h).2⟩
  · rw [unload, if_pos hstage]
    rfl

end Session

end PluginChain
