import PluginChain.Proofs.Library.Past
import PluginChain.Plugin.EntryPoints

/-!
# The plugin on a host with a past

Looking symbols up and calling the plugin do not depend on what happened before, but for the number
of the module.
-/

namespace PluginChain

open PluginChain.Action

variable {p : Platform} {past : Host p} {α : Type}

theorem OpenLibrary.lookup_follows (l : OpenLibrary p) (symbol : String) :
    Follows past id (l.lookup symbol) ((l.later past.opened).lookup symbol) := by
  exact (Host.ask_follows (.lookup l.module l.slot symbol)).bind fun _ => .pure rfl

/-- The entry points with their module numbered `n` higher. -/
def EntryPoints.later (n : Nat) (e : EntryPoints α) : EntryPoints α :=
  { e with serial := n + e.serial }

namespace SymbolTable

/-- The table with its module numbered `n` higher. -/
def later (n : Nat) (t : SymbolTable α) : SymbolTable α :=
  { t with serial := n + t.serial }

theorem entryPoints_later (n : Nat) (t : SymbolTable α) :
    (t.later n).entryPoints = t.entryPoints.map (EntryPoints.later n) := by
  have hrequire (name : String) : (t.later n).require name = t.require name := rfl
  simp only [entryPoints, hrequire]
  cases t.require Plugin.startUpSymbol with
  | error error => rfl
  | ok startUp =>
    cases t.require Plugin.setAssetsSymbol with
    | error error => rfl
    | ok setAssets =>
      cases t.require Plugin.runSyncSymbol with
      | error error => rfl
      | ok runSync => rfl

theorem bindAll_follows (l : OpenLibrary p) (specs : List SymbolSpec) :
    Follows past id (bindAll l specs) (bindAll (l.later past.opened) specs) := by
  induction specs with
  | nil => exact .pure rfl
  | cons spec rest ih =>
    rw [bindAll, bindAll]
    refine (l.lookup_follows spec.name).bind fun address? => ?_
    by_cases hfatal : (address?.isNone && spec.required) = true
    · rw [if_pos hfatal, id, if_pos hfatal]
      exact (Host.notify_follows _).seq (.pure rfl)
    · rw [if_neg hfatal, id, if_neg hfatal]
      extract_lets continuation again
      have hrest : Follows past id (continuation ()) (again ()) := by
        refine ih.bind ?_
        rintro (error | bindings)
        · exact .pure rfl
        · exact .pure rfl
      split
      · exact (Host.notify_follows _).seq hrest
      · exact hrest

theorem resolve_follows (l : OpenLibrary p) (specs : List SymbolSpec) :
    Follows past (Except.map (later past.opened)) (resolve l specs)
      (resolve (l.later past.opened) specs) := by
  refine (bindAll_follows l specs).bind ?_
  rintro (error | bindings)
  · exact .pure rfl
  · exact .pure rfl

end SymbolTable

theorem Plugin.call_follows (serial : Nat) (function : p.Address) (entry : Call) :
    Follows past id (call serial function entry) (call (past.opened + serial) function entry) := by
  refine (Host.ask_follows (.call serial function entry)).bind ?_
  rintro (value | payload)
  · exact .pure rfl
  · exact .pure rfl

namespace EntryPoints

variable (e : EntryPoints p.Address)

theorem callStartUp_follows : Follows past id e.callStartUp (e.later past.opened).callStartUp :=
  Plugin.call_follows _ _ _

theorem callShutDown_follows :
    Follows past id e.callShutDown (e.later past.opened).callShutDown := by
  obtain ⟨serial, startUp, setAssets, runSync, shutDown, getAssets, runAsync⟩ := e
  cases shutDown with
  | none => exact .pure rfl
  | some function =>
    refine (Plugin.call_follows serial function .shutDown).bind ?_
    rintro (detail | _)
    · exact .pure rfl
    · exact .pure rfl

theorem callSetAssets_follows (dir : String) :
    Follows past id (e.callSetAssets dir) ((e.later past.opened).callSetAssets dir) := by
  unfold callSetAssets
  split
  · exact .pure rfl
  · exact Plugin.call_follows _ _ _

end EntryPoints

end PluginChain
