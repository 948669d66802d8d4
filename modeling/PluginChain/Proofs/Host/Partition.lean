import PluginChain.Platforms.Scripted

/-!
# Platforms in parts

A platform may keep its libraries apart: what happens to one path is decided by what there is at
that path, and the functions of the plugin go by a script of their own. A `Partition` says so of a
platform. Nothing that a session does with one path shows at another then.

Main statements:
* `Parts.OfPath.agree`: where two worlds agree on a path, a request for it is answered alike, and
  they go on agreeing.
* `Parts.OfPath.agree_of_notMem`: a request for one path changes nothing elsewhere.
* `Script.partition`: a scripted platform keeps its libraries apart.
-/

namespace PluginChain

variable {p : Platform} {α : Type}

/-- A view of the worlds of a platform: what there is at each path, and how the functions of the
    plugin behave. -/
structure Parts (p : Platform) where
  /-- What there may be at a path. -/
  Entry : Type
  /-- How the functions of the plugin may behave. -/
  Script : Type
  entry (w : p.World) (path : String) : Entry
  script (w : p.World) : Script

namespace Parts

variable (parts : Parts p)

/-- A request that concerns the path `own` alone: the answer and what becomes of the path are
    decided by what there is at the path, and everything else stays as it is. -/
structure OfPath (own : String) (request : StateM p.World α) : Prop where
  answer : ∀ {v w}, parts.entry v own = parts.entry w own → (request v).1 = (request w).1
  entry : ∀ {v w}, parts.entry v own = parts.entry w own →
    parts.entry (request v).2 own = parts.entry (request w).2 own
  others : ∀ {path} w, path ≠ own → parts.entry (request w).2 path = parts.entry w path
  script : ∀ w, parts.script (request w).2 = parts.script w

/-- A request that goes by the script: the answer and what becomes of the script are decided by the
    script. -/
structure OfScript (request : StateM p.World α) : Prop where
  answer : ∀ {v w}, parts.script v = parts.script w → (request v).1 = (request w).1
  script : ∀ {v w}, parts.script v = parts.script w →
    parts.script (request v).2 = parts.script (request w).2

/-- Two worlds in which the same is at each of the `paths`, and the plugin behaves in the same
    way. -/
structure Agree (paths : List String) (v w : p.World) : Prop where
  entry : ∀ path ∈ paths, parts.entry v path = parts.entry w path
  script : parts.script v = parts.script w

variable {parts} {paths : List String} {u v w : p.World} {own : String} {request : StateM p.World α}

theorem Agree.refl (w : p.World) : parts.Agree paths w w :=
  ⟨fun _ _ => rfl, rfl⟩

theorem Agree.symm (h : parts.Agree paths v w) : parts.Agree paths w v :=
  ⟨fun path hpath => (h.entry path hpath).symm, h.script.symm⟩

theorem Agree.trans (huv : parts.Agree paths u v) (hvw : parts.Agree paths v w) :
    parts.Agree paths u w :=
  ⟨fun path hpath => (huv.entry path hpath).trans (hvw.entry path hpath),
    huv.script.trans hvw.script⟩

/-- Where two worlds agree on a path, a request for it is answered alike, and they go on
    agreeing. -/
theorem OfPath.agree {a : α} {v' : p.World} (h : parts.OfPath own request) (hown : own ∈ paths)
    (hagree : parts.Agree paths v w) (hv : request v = (a, v')) :
    ∃ w', request w = (a, w') ∧ parts.Agree paths v' w' := by
  have hentry := hagree.entry own hown
  have hanswer := h.answer hentry
  have hpath : ∀ path ∈ paths, parts.entry (request v).2 path = parts.entry (request w).2 path := by
    intro path hmem
    by_cases heq : path = own
    · rw [heq]
      exact h.entry hentry
    · rw [h.others v heq, h.others w heq]
      exact hagree.entry path hmem
  have hscript : parts.script (request v).2 = parts.script (request w).2 := by
    rw [h.script, h.script]
    exact hagree.script
  rw [hv] at hanswer hpath hscript
  exact ⟨(request w).2, Prod.ext hanswer.symm rfl, hpath, hscript⟩

/-- A request for another path changes nothing at the `paths`. -/
theorem OfPath.agree_of_notMem {a : α} {w' : p.World} (h : parts.OfPath own request)
    (hown : own ∉ paths) (hw : request w = (a, w')) : parts.Agree paths w w' := by
  have hothers : ∀ path ∈ paths, parts.entry (request w).2 path = parts.entry w path :=
    fun path hmem => h.others w fun heq => hown (heq ▸ hmem)
  have hscript := h.script w
  rw [hw] at hothers hscript
  exact ⟨fun path hmem => (hothers path hmem).symm, hscript.symm⟩

theorem OfScript.agree {a : α} {v' : p.World} (h : parts.OfScript request)
    (hscript : parts.script v = parts.script w) (hv : request v = (a, v')) :
    ∃ w', request w = (a, w') ∧ parts.script v' = parts.script w' := by
  have hanswer := h.answer hscript
  have hnext := h.script hscript
  rw [hv] at hanswer hnext
  exact ⟨(request w).2, Prod.ext hanswer.symm rfl, hnext⟩

end Parts

/-- A platform that keeps its libraries apart: opening a path and looking symbols up in what was
    opened there concern that path alone, and what a load calls goes by the script. -/
structure Partition (p : Platform) extends Parts p where
  /-- The path that a module was opened from. -/
  path : p.Module → String
  openModule : ∀ candidate sharing, toParts.OfPath candidate (p.openModule candidate sharing)
  path_openModule :
    ∀ {candidate sharing w module}, (p.openModule candidate sharing w).1 = .ok module →
    path module = candidate
  lookup : ∀ module symbol, toParts.OfPath (path module) (p.lookup module symbol)
  startUp : ∀ function, toParts.OfScript (p.startUp function)
  shutDown : ∀ function, toParts.OfScript (p.shutDown function)
  setAssets : ∀ function dir, toParts.OfScript (p.setAssets function dir)

/-! ## Scripted platforms -/

namespace Script

theorem lookup_install_self (s : Script) (path : String) (library : ScriptedLibrary) :
    (s.install path library).libraries.lookup path = some library := by
  simp [install]

/-- Replacing one library leaves the others. -/
theorem lookup_install_of_ne {path other : String} (hne : other ≠ path) (s : Script)
    (library : ScriptedLibrary) :
    (s.install path library).libraries.lookup other = s.libraries.lookup other := by
  have hkey : (other == path) = false := beq_false_of_ne hne
  have hfilter (es : List (String × ScriptedLibrary)) :
      (es.filter fun e => e.1 != path).lookup other = es.lookup other := by
    induction es with
    | nil => rfl
    | cons e rest ih =>
      obtain ⟨key, entry⟩ := e
      by_cases hpath : key = path
      · subst hpath
        simp [List.lookup_cons, hkey, ih]
      · simp [List.lookup_cons, hpath, ih]
  simp [install, List.lookup_cons, hkey, hfilter]

/-- What there is at a path, and how the functions behave. -/
def parts : Parts platform where
  Entry := Option ScriptedLibrary
  Script := List (String × Behavior)
  entry s path := s.libraries.lookup path
  script s := s.functions

/-- The module that an open of `path` gives, or the reason why it fails, if `library?` is there. -/
def answerAt (path : String) (library? : Option ScriptedLibrary) :
    Except String String × Option ScriptedLibrary :=
  match library? with
  | none => (.error (missingReason path), none)
  | some library =>
    match library.failures, library.reason with
    | some (n + 1), reason =>
      (.error (reason.getD (missingReason path)), some { library with failures := some n })
    | none, some reason => (.error reason, none)
    | _, _ => (.ok path, none)

theorem openModule_eq (path : String) (sharing : Sharing) :
    platform.openModule path sharing = fun s : Script =>
      ((answerAt path (s.libraries.lookup path)).1,
        ((answerAt path (s.libraries.lookup path)).2.map (s.install path)).getD s) := by
  funext s
  simp only [platform, openAt]
  cases s.libraries.lookup path with
  | none => rfl
  | some library =>
    obtain ⟨exports, nulls, reason, failures⟩ := library
    rcases failures with _ | _ | n <;> cases reason <;> rfl

theorem openModule_ofPath (candidate : String) (sharing : Sharing) :
    parts.OfPath candidate (platform.openModule candidate sharing) := by
  rw [openModule_eq]
  constructor
  case answer =>
    intro v w h
    have hlookup : v.libraries.lookup candidate = w.libraries.lookup candidate := h
    rw [hlookup]
  case entry =>
    intro v w h
    have hlookup : v.libraries.lookup candidate = w.libraries.lookup candidate := h
    rw [hlookup]
    cases (answerAt candidate (w.libraries.lookup candidate)).2 with
    | none => exact h
    | some library => exact (lookup_install_self ..).trans (lookup_install_self ..).symm
  case others =>
    intro path w hne
    cases (answerAt candidate (w.libraries.lookup candidate)).2 with
    | none => rfl
    | some library => exact lookup_install_of_ne hne w library
  case script =>
    intro w
    cases (answerAt candidate (w.libraries.lookup candidate)).2 <;> rfl

/-- A module is the path that it was opened from. -/
theorem eq_of_answerAt {path module : String} {library? : Option ScriptedLibrary}
    (h : (answerAt path library?).1 = .ok module) : module = path := by
  unfold answerAt at h
  split at h
  · cases h
  · split at h <;> cases h
    rfl

theorem eq_of_openModule {candidate module : String} {sharing : Sharing} {s : Script}
    (h : (platform.openModule candidate sharing s).1 = .ok module) : module = candidate := by
  rw [openModule_eq] at h
  exact eq_of_answerAt h

theorem lookup_ofPath (module symbol : String) :
    parts.OfPath module (platform.lookup module symbol) where
  answer {v w} h := by
    have hlookup : v.libraries.lookup module = w.libraries.lookup module := h
    simp only [platform, lookupAt, hlookup]
  entry h := h
  others _ _ := rfl
  script _ := rfl

theorem ending_ofScript {α : Type} (function : String) (value : Behavior → α) :
    parts.OfScript fun s : Script => (s.ending function value, s) where
  answer {v w} h := by
    have hfunctions : v.functions = w.functions := h
    simp only [ending, behavior, hfunctions]
  script h := h

/-- A scripted platform keeps its libraries apart. -/
def partition : Partition platform where
  toParts := parts
  path := id
  openModule := openModule_ofPath
  path_openModule := eq_of_openModule
  lookup := lookup_ofPath
  startUp function := ending_ofScript function _
  shutDown function := ending_ofScript function _
  setAssets function _ := ending_ofScript function _

end Script

end PluginChain
