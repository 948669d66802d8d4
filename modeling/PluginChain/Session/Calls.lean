import PluginChain.Session.Loading

/-!
# Calls on a session

A ready session passes calls on to the plugin. A call that fails leaves the session ready; a session
that is not ready makes no call.

In `osrkit` these are `ready_entry`, `super_sample`, `super_sample_async` and `assets_dir` of a
`PluginSession`.
-/

namespace PluginChain.Session

variable {p : Platform}

/-- The wording of a pass that the plugin itself calls failed. -/
def syncRefusal : String := "synchronous super-sampling reported failure"

/-- The wording of a submitted pass that the plugin itself calls failed. -/
def asyncRefusal : String := "asynchronous super-sampling reported failure"

/-- The entry points of a ready session. -/
def readyEntry (s : Session p) : Action p (Except LoadError (EntryPoints p.Address)) := do
  match s.held.table, s.stage with
  | some table, .ready => return table.entryPoints
  | _, stage =>
    Host.notify (.unavailable stage)
    return .error .notReady

/-- The result of a pass: the plugin says whether it went well. -/
def passResult (refusal : String) : Except String Bool → Except LoadError Unit
  | .ok true => .ok ()
  | .ok false => .error (.callFailed refusal)
  | .error detail => .error (.callFailed detail)

/-- Runs one pass and waits for it. The timeout is passed on as it is. -/
def superSample (s : Session p) (input output : UInt64) (timeout : Int32) :
    Action p (Except LoadError Unit) := do
  match ← s.readyEntry with
  | .error error => return .error error
  | .ok entry => return passResult syncRefusal (← entry.callRunSync input output timeout)

/-- Submits one pass; the plugin reports its end through `callback`. -/
def superSampleAsync (s : Session p) (input output callback : UInt64) :
    Action p (Except LoadError Unit) := do
  match ← s.readyEntry with
  | .error error => return .error error
  | .ok entry => return passResult asyncRefusal (← entry.callRunAsync input output callback)

/-- The assets directory that the plugin reports, if it reports one. -/
def assetsDir (s : Session p) : Action p (Except LoadError (Option String)) := do
  match ← s.readyEntry with
  | .error error => return .error error
  | .ok entry =>
    match ← entry.callGetAssets with
    | .ok dir => return .ok dir
    | .error detail => return .error (.callFailed detail)

end PluginChain.Session
