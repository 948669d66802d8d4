import PluginChain.Proofs.Host.Tenancy
import PluginChain.Proofs.Session.Conduct

/-!
# What every run of a session keeps to

Nothing is assumed of the platform, and between two operations everything outside the session may
change.

Main statements:
* `Session.reached_whole`: between two operations a session holds everything that it loads, or
  nothing.
* `Session.live_stackDiscipline`: what a session opens it closes like a stack, and its end closes
  what an unload would have closed.
* `Session.live_callDiscipline`: the calls that a session makes keep to the libraries they go to.
-/

namespace PluginChain.Session

variable {p : Platform}

/-! ## What is held -/

/-- A session that stands between two operations is ready and holds everything that it loads, or it
    is not and holds nothing. -/
structure Whole (s : Session p) (h : Host p) : Prop where
  /-- There are three stages to stand at. -/
  stage : s.stage = .unloaded ∨ s.stage = .ready ∨ s.stage = .failed
  /-- When it is ready, the primed libraries are open in the order in which they were primed, then
      the primary library, and nothing else is. -/
  ready : s.stage = .ready → ∃ primed primary table,
    s.held = ⟨some primed, some primary, some table, true⟩ ∧
    h.openModules = primed.slots ++ [primary.slot]
  /-- When it is not, nothing that it opened is still open. -/
  empty : s.stage = .unloaded ∨ s.stage = .failed →
    s.held = ⟨none, none, none, false⟩ ∧ h.openModules = []
  isReady_iff : s.isReady = true ↔ s.stage = .ready
  primary?_iff : s.primary?.isSome = true ↔ s.stage = .ready

theorem Settled.whole {config : Config} {s : Session p} {a : Posture} {h : Host p}
    (hs : s.Settled config a) (hshows : h.Shows a) : Whole s h := by
  have hopen : h.openModules = a.modules := hshows.openAfter_eq
  cases hs with
  | resting _ hstage hheld =>
    have hready : s.stage ≠ .ready := by
      rcases hstage with hstage | hstage <;> simp [hstage]
    refine ⟨?_, fun h => absurd h hready, fun _ => ⟨hheld, hopen⟩, ?_, ?_⟩
    · rcases hstage with hstage | hstage <;> simp [hstage]
    · simp [isReady, hready]
    · simp [primary?, hheld, hready]
  | @ready primed primary table t _ hstage hheld hbound _ =>
    refine ⟨.inr (.inl hstage), fun _ => ⟨primed, primary, table, hheld, ?_⟩, ?_, ?_, ?_⟩
    · rw [hopen, Posture.modules_holding, hbound.slot]
    · simp [hstage]
    · simp [isReady, hstage, hheld]
    · simp [primary?, hstage, hheld]

/-- After every operation of every run the session holds everything or nothing, as its stage
    says. -/
theorem reached_whole (config : Config) (world : p.World) (turns : List (Turn p)) :
    Whole (reached config world turns).1 (reached config world turns).2 := by
  obtain ⟨a, hs, hshows⟩ := reached_agrees config world turns
  exact hs.whole hshows

/-! ## Opening and closing -/

/-- The end of a session does to the outside what an unload before it would have done. -/
theorem events_drop_eq (s : Session p) (h : Host p) :
    (s.drop.run h).2.events = ((s.unload >>= drop).run h).2.events := by
  by_cases hstage : s.stage = .unloaded
  · rw [unload, if_pos hstage]
    rfl
  · rw [unload, if_neg hstage]
    -- The unload gives back what is held, so that the end finds nothing to give back.
    have hend : ∀ past : Host p,
        ({ s with held := {}, stage := .unloaded } : Session p).drop.run past = ((), past) :=
      Holdings.run_release_empty
    simp only [Action.run_bind, teardown, enter, Action.run_pure, Host.run_notify, hend]
    rfl

/-- A whole life opens and closes modules like a stack, and it makes no difference to the outside
    whether a session is unloaded before its end. -/
theorem live_stackDiscipline (config : Config) (world : p.World) (turns : List (Turn p)) :
    StackDiscipline ((live config turns).run { world }).2.events ∧
      ((live config turns).run { world }).2.events =
        ((live config (turns ++ [.asked .unload])).run { world }).2.events := by
  constructor
  · exact Conduct.stackDiscipline (live_shows config world turns) rfl
  · rw [run_live, run_live, reached_concat]
    exact events_drop_eq _ _

/-! ## Calling -/

/-- A whole life makes its calls while the library they go to is open, in the order that the plugin
    asks for. -/
theorem live_callDiscipline (config : Config) (world : p.World) (turns : List (Turn p)) :
    CallDiscipline ((live config turns).run { world }).2.events :=
  Conduct.callDiscipline (live_shows config world turns) rfl

end PluginChain.Session
