import Mathlib.Logic.Unique
import PluginChain.Config.Basic
import PluginChain.Proofs.Steps

/-!
# What a valid configuration promises

A configuration is valid if every library name in it is a bare file name and its assets directory
can be handed over. The redirections in force then keep bare names bare, the built-in ones as well
as the configured ones: every target in the table is bare, and the target is not redirected again.

Main statements:
* `Config.validate_eq_ok_iff`: validation accepts exactly the valid configurations.
* `Config.Valid.bare_resolve`: under a valid configuration a bare name is redirected to a bare name.
-/

namespace PluginChain

/-- A file name that is neither blank nor a path. -/
structure Bare (name : String) : Prop where
  notBlank : Text.isBlank name = false
  noSlash : '/' ∉ name.toList
  noNul : '\x00' ∉ name.toList

namespace Redirects

variable {name target : String}

/-- What a table sends a name to after entries were added, it was sent to before, or one of the
    entries says so. -/
theorem mem_or_target?_of_insertList {es : List (String × String)} {r : Redirects}
    (h : (r.insertList es).target? name = some target) :
    (name, target) ∈ es ∨ r.target? name = some target := by
  rw [target?_insertList, Option.or_eq_some_iff] at h
  rcases h with hwritten | ⟨-, hbefore⟩
  · obtain ⟨later, earlier, hes, -⟩ := List.lookup_eq_some_iff.1 hwritten
    exact .inl (List.mem_reverse.1 (hes ▸ List.mem_append_right _ List.mem_cons_self))
  · exact .inr hbefore

/-- The built-in redirections lead to bare names. -/
theorem bare_builtinEntries : ∀ e ∈ builtinEntries, Bare e.2 := by
  intro e he
  obtain rfl := List.mem_singleton.1 he
  exact ⟨by decide, by decide, by decide⟩

end Redirects

namespace Config

/-- A configuration that a session can act on. -/
structure Valid (c : Config) : Prop where
  primary : Bare c.primaryLibrary
  auxiliary : ∀ name ∈ c.auxiliaryLibraries, Bare name
  redirected : ∀ e ∈ c.extraRedirects.entries, Bare e.1 ∧ Bare e.2
  assetsNotBlank : Text.isBlank c.assetsDir = false
  assetsNoNul : '\x00' ∉ c.assetsDir.toList

variable {c : Config} {field : NameField}

/-! ## What the checks accept -/

theorem checkName_eq_ok_iff {name : String} : checkName field name = .ok () ↔ Bare name := by
  unfold checkName
  split
  · rename_i hblank
    exact ⟨nofun, fun h => absurd hblank (by simp [h.notBlank])⟩
  · rename_i hblank
    split
    · rename_i hheld
      refine ⟨nofun, fun h => ?_⟩
      rcases Bool.or_eq_true_iff.1 hheld with hslash | hnul
      · exact absurd (List.contains_iff_mem.1 hslash) h.noSlash
      · exact absurd (List.contains_iff_mem.1 hnul) h.noNul
    · rename_i hheld
      have hnone : '/' ∉ name.toList ∧ '\x00' ∉ name.toList := by simpa using hheld
      exact ⟨fun _ => ⟨by simpa using hblank, hnone.1, hnone.2⟩, fun _ => rfl⟩

theorem checkNames_eq_ok_iff {names : List String} :
    checkNames field names = .ok () ↔ ∀ name ∈ names, Bare name := by
  induction names with
  | nil => simp [checkNames]
  | cons name names ih =>
    simp only [checkNames, bind_eq_ok_iff, Unique.exists_iff, PUnit.default_eq_unit,
      checkName_eq_ok_iff, ih, List.forall_mem_cons]

theorem checkAssets_eq_ok_iff {dir : String} :
    checkAssets dir = .ok () ↔ Text.isBlank dir = false ∧ '\x00' ∉ dir.toList := by
  unfold checkAssets
  split
  · rename_i hblank
    simp [hblank]
  · rename_i hblank
    simp [hblank]

/-- Validation accepts exactly the valid configurations. -/
theorem validate_eq_ok_iff : c.validate = .ok () ↔ c.Valid := by
  simp only [validate, bind_eq_ok_iff, Unique.exists_iff, PUnit.default_eq_unit,
    checkName_eq_ok_iff, checkNames_eq_ok_iff, checkAssets_eq_ok_iff, List.forall_mem_flatMap,
    List.forall_mem_cons, List.not_mem_nil, false_implies, implies_true, and_true]
  constructor
  · rintro ⟨hprimary, hauxiliary, hredirected, hblank, hnul⟩
    exact ⟨hprimary, hauxiliary, hredirected, hblank, hnul⟩
  · intro h
    exact ⟨h.primary, h.auxiliary, h.redirected, h.assetsNotBlank, h.assetsNoNul⟩

/-! ## Redirection -/

/-- Under a valid configuration every target of a redirection is bare. -/
theorem Valid.bare_of_target? (h : c.Valid) {name target : String}
    (htarget : c.redirects.target? name = some target) : Bare target := by
  rcases Redirects.mem_or_target?_of_insertList htarget with hextra | hbuiltin
  · exact (h.redirected _ hextra).2
  · rcases Redirects.mem_or_target?_of_insertList hbuiltin with hentry | hempty
    · exact Redirects.bare_builtinEntries _ hentry
    · exact absurd hempty (by simp)

/-- Under a valid configuration a bare name is redirected to a bare name. -/
theorem Valid.bare_resolve (h : c.Valid) {name : String} (hname : Bare name) :
    Bare (c.redirects.resolve name) := by
  cases htarget : c.redirects.target? name with
  | none => rwa [Redirects.resolve_of_target?_none htarget]
  | some target =>
    rw [Redirects.resolve_of_target? htarget]
    exact h.bare_of_target? htarget

end Config

end PluginChain
