import PluginChain.Session.Calls

/-!
# Runs of a session

A run is a list of turns. In a turn either the session is asked for an operation, or everything
outside the session changes: libraries come, go and are replaced, and the plugin behaves otherwise
from then on. The life of a session is a run and the end of the session after it.
-/

namespace PluginChain

variable {p : Platform}

/-- What a session can be asked for. -/
inductive Operation where
  | load
  | unload
  | superSample (input output : UInt64) (timeout : Int32)
  | superSampleAsync (input output callback : UInt64)
  | assetsDir
deriving DecidableEq, Repr

/-- One turn of a run. -/
inductive Turn (p : Platform) where
  /-- The outside becomes `world`. -/
  | outside (world : p.World)
  /-- The session is asked for an operation. -/
  | asked (operation : Operation)

namespace Session

/-- What an operation leaves of the session. Its result is not kept. -/
def perform (s : Session p) : Operation → Action p (Session p)
  | .load => do
    let (_, s) ← s.load
    return s
  | .unload => s.unload
  | .superSample input output timeout => do
    let _ ← s.superSample input output timeout
    return s
  | .superSampleAsync input output callback => do
    let _ ← s.superSampleAsync input output callback
    return s
  | .assetsDir => do
    let _ ← s.assetsDir
    return s

/-- What a turn leaves of the session. -/
def turn (s : Session p) : Turn p → Action p (Session p)
  | .outside world => do
    Host.become world
    return s
  | .asked operation => s.perform operation

/-- What a run leaves of the session. -/
def after (s : Session p) (turns : List (Turn p)) : Action p (Session p) :=
  turns.foldlM turn s

/-- The session and its host after a run that begins with a new session in `world`. -/
def reached (config : Config) (world : p.World) (turns : List (Turn p)) : Session p × Host p :=
  ((new config).after turns).run { world }

/-- The whole life of a session: a run, then its end. -/
def live (config : Config) (turns : List (Turn p)) : Action p Unit := do
  let s ← (new config).after turns
  s.drop

theorem run_after_concat (s : Session p) (turns : List (Turn p)) (t : Turn p) (h : Host p) :
    (s.after (turns ++ [t])).run h =
      (((s.after turns).run h).1.turn t).run ((s.after turns).run h).2 := by
  simp [after, List.foldlM_append]

/-- The last turn of a run acts on what the turns before it reached. -/
theorem reached_concat (config : Config) (world : p.World) (turns : List (Turn p)) (t : Turn p) :
    reached config world (turns ++ [t]) =
      ((reached config world turns).1.turn t).run (reached config world turns).2 :=
  run_after_concat ..

theorem run_live (config : Config) (world : p.World) (turns : List (Turn p)) :
    (live config turns).run { world } =
      (reached config world turns).1.drop.run (reached config world turns).2 := rfl

end Session

end PluginChain
