import PluginChain.Config.Building
import PluginChain.Proofs.Library.Redirects

/-!
# What settings come to

A setting writes one slot of a configuration: a field, or the entry of one name among the
redirections. Each slot shows the last setting that wrote it, and a configuration is what its slots
show, so settings of different slots can be made in any order.

Main statements:
* `Config.setting?_build`: the last setting for a slot is the one that counts.
* `Config.eq_of_setting?`: a configuration is what its slots show.
* `Config.build_perm`: settings that do not contradict each other can be made in any order.
-/

namespace PluginChain

namespace Config

/-- What a setting writes. -/
inductive Slot where
  | primaryLibrary
  | systemPaths
  | appPaths
  | auxiliaryLibraries
  | assetsDir
  | redirect (name : String)
deriving DecidableEq

/-- The slot that a setting writes. -/
def Setting.slot : Setting → Slot
  | primaryLibrary _ => .primaryLibrary
  | systemPaths _ => .systemPaths
  | appPaths _ => .appPaths
  | auxiliaryLibraries _ => .auxiliaryLibraries
  | assetsDir _ => .assetsDir
  | redirect name _ => .redirect name

/-- What a slot shows, as the setting that writes it. -/
def setting? (c : Config) : Slot → Option Setting
  | .primaryLibrary => some (.primaryLibrary c.primaryLibrary)
  | .systemPaths => some (.systemPaths c.systemPaths)
  | .appPaths => some (.appPaths c.appPaths)
  | .auxiliaryLibraries => some (.auxiliaryLibraries c.auxiliaryLibraries)
  | .assetsDir => some (.assetsDir c.assetsDir)
  | .redirect name => (c.extraRedirects.target? name).map (.redirect name)

variable {c d : Config}

theorem setting?_set (c : Config) (a : Setting) (slot : Slot) :
    (c.set a).setting? slot = if slot = a.slot then some a else c.setting? slot := by
  cases a with
  | redirect name target =>
    cases slot with
    | redirect n =>
      simp only [set, withRedirect, setting?, Setting.slot, Redirects.target?_insert,
        Slot.redirect.injEq]
      split
      · rename_i hname
        rw [hname]
        rfl
      · rfl
    | _ => rfl
  | _ => cases slot <;> rfl

/-- The last setting for a slot is the one that counts. -/
theorem setting?_build (c : Config) (settings : List Setting) (slot : Slot) :
    (c.build settings).setting? slot =
      (settings.reverse.find? fun a => a.slot = slot).or (c.setting? slot) := by
  induction settings generalizing c with
  | nil => rfl
  | cons a settings ih =>
    rw [build, List.foldl_cons, ← build, ih, setting?_set, List.reverse_cons,
      List.find?_append, Option.or_assoc]
    by_cases h : a.slot = slot
    · simp [h]
    · simp [h, Ne.symm h]

/-- A configuration is what its slots show. -/
theorem eq_of_setting? (h : ∀ slot, c.setting? slot = d.setting? slot) : c = d := by
  have hredirects : c.extraRedirects = d.extraRedirects := by
    refine Redirects.eq_of_target? fun name => ?_
    have hname := h (.redirect name)
    exact Option.map_injective (fun _ _ hsame => (Setting.redirect.inj hsame).2) hname
  have hprimary := Setting.primaryLibrary.inj (Option.some.inj (h .primaryLibrary))
  have hsystem := Setting.systemPaths.inj (Option.some.inj (h .systemPaths))
  have happ := Setting.appPaths.inj (Option.some.inj (h .appPaths))
  have hauxiliary := Setting.auxiliaryLibraries.inj (Option.some.inj (h .auxiliaryLibraries))
  have hassets := Setting.assetsDir.inj (Option.some.inj (h .assetsDir))
  cases c
  cases d
  rw [Config.mk.injEq]
  exact ⟨hprimary, hsystem, happ, hauxiliary, hassets, hredirects⟩

/-- Two settings that do not contradict each other can be made in either order. -/
theorem set_comm {a b : Setting} (h : a.slot = b.slot → a = b) (c : Config) :
    (c.set a).set b = (c.set b).set a := by
  by_cases hslot : a.slot = b.slot
  · rw [h hslot]
  · refine eq_of_setting? fun slot => ?_
    simp only [setting?_set]
    by_cases ha : slot = a.slot
    · subst ha
      simp [hslot]
    · simp [ha]

/-- Settings that do not contradict each other can be made in any order. -/
theorem build_perm {settings settings' : List Setting} (hperm : settings.Perm settings')
    (h : ∀ a ∈ settings, ∀ b ∈ settings, a.slot = b.slot → a = b) (c : Config) :
    c.build settings = c.build settings' :=
  hperm.foldl_eq' (fun a ha b hb c => set_comm (h a ha b hb) c) c

end Config

end PluginChain
