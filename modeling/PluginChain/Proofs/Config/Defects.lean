import PluginChain.Proofs.Config.Building
import PluginChain.Proofs.Config.Validity

/-!
# The first defect

What validation finds is the first defect: names are looked at in an order that the fields and the
names themselves decide, and everything before the defect is in order. It does not depend on how the
configuration was built.

Main statements:
* `Config.validate_eq_error_iff`: validation reports exactly the first defect.
* `Config.validate_judged`: what validation says of any configuration, however it was built.
-/

namespace PluginChain

/-! ## The first of a list -/

section First

variable {α : Type} {passes fails : α → Prop}

/-- A member of `xs` fails, and all members before it pass. -/
def FirstOf (passes fails : α → Prop) (xs : List α) : Prop :=
  ∃ earlier x later, xs = earlier ++ x :: later ∧ (∀ y ∈ earlier, passes y) ∧ fails x

theorem not_firstOf_nil : ¬ FirstOf passes fails [] := by
  rintro ⟨earlier, x, later, h, -⟩
  simp at h

theorem firstOf_cons_iff {x : α} {xs : List α} :
    FirstOf passes fails (x :: xs) ↔ fails x ∨ passes x ∧ FirstOf passes fails xs := by
  constructor
  · rintro ⟨_ | ⟨y, earlier⟩, z, later, hxs, hpasses, hfails⟩
    · obtain ⟨rfl, -⟩ := List.cons.inj hxs
      exact .inl hfails
    · obtain ⟨rfl, rfl⟩ := List.cons.inj hxs
      rw [List.forall_mem_cons] at hpasses
      exact .inr ⟨hpasses.1, earlier, z, later, rfl, hpasses.2, hfails⟩
  · rintro (hfails | ⟨hpasses, earlier, z, later, rfl, hearlier, hfails⟩)
    · exact ⟨[], x, xs, rfl, by simp, hfails⟩
    · exact ⟨x :: earlier, z, later, rfl, List.forall_mem_cons.2 ⟨hpasses, hearlier⟩, hfails⟩

/-- In an ascending list what stands before a member is what is less. -/
theorem firstOf_iff_of_ascending {xs : List (String × α)} {passes fails : String × α → Prop}
    (h : xs.Pairwise fun a b => a.1 < b.1) :
    FirstOf passes fails xs ↔ ∃ x ∈ xs, (∀ y ∈ xs, y.1 < x.1 → passes y) ∧ fails x := by
  constructor
  · rintro ⟨earlier, x, later, rfl, hpasses, hfails⟩
    refine ⟨x, List.mem_append_right _ List.mem_cons_self, fun y hy hless => ?_, hfails⟩
    rcases List.mem_append.1 hy with hy | hy
    · exact hpasses y hy
    · have hlater := (List.pairwise_cons.1 (List.pairwise_append.1 h).2.1).1
      rcases List.mem_cons.1 hy with rfl | hy
      · exact absurd hless (String.lt_irrefl _)
      · exact absurd (String.lt_trans hless (hlater y hy)) (String.lt_irrefl _)
  · rintro ⟨x, hx, hpasses, hfails⟩
    obtain ⟨earlier, later, rfl⟩ := List.append_of_mem hx
    have hless := (List.pairwise_append.1 h).2.2
    exact ⟨earlier, x, later, rfl,
      fun y hy => hpasses y (List.mem_append_left _ hy) (hless y hy x List.mem_cons_self), hfails⟩

end First

namespace Config

/-! ## Defects -/

/-- What is wrong with a library name: that it is blank counts before what it holds. -/
inductive NameDefect (field : NameField) (name : String) : Defect → Prop
  | blank (h : Text.isBlank name = true) : NameDefect field name (.blankName field)
  | notBare (hblank : Text.isBlank name = false) (h : '/' ∈ name.toList ∨ '\x00' ∈ name.toList) :
    NameDefect field name (.notBare field name)

/-- What is wrong with an assets directory. -/
inductive AssetsDefect (dir : String) : Defect → Prop
  | blank (h : Text.isBlank dir = true) : AssetsDefect dir .blankAssets
  | nul (hblank : Text.isBlank dir = false) (h : '\x00' ∈ dir.toList) :
    AssetsDefect dir .nulInAssets

/-- The first defect of a configuration. -/
inductive FirstDefect (c : Config) (defect : Defect) : Prop
  | primary (h : NameDefect .primaryLibrary c.primaryLibrary defect)
  | auxiliary {earlier later : List String} {name : String} (hprimary : Bare c.primaryLibrary)
    (hnames : c.auxiliaryLibraries = earlier ++ name :: later)
    (hearlier : ∀ name ∈ earlier, Bare name) (h : NameDefect .auxiliaryLibraries name defect)
  /-- A name is looked at before its target, and both before any greater name. -/
  | redirected {name target : String} (hprimary : Bare c.primaryLibrary)
    (hauxiliary : ∀ name ∈ c.auxiliaryLibraries, Bare name)
    (hentry : (name, target) ∈ c.extraRedirects.entries)
    (hless : ∀ e ∈ c.extraRedirects.entries, e.1 < name → Bare e.1 ∧ Bare e.2)
    (h : NameDefect .extraRedirects name defect)
  | target {name target : String} (hprimary : Bare c.primaryLibrary)
    (hauxiliary : ∀ name ∈ c.auxiliaryLibraries, Bare name)
    (hentry : (name, target) ∈ c.extraRedirects.entries)
    (hless : ∀ e ∈ c.extraRedirects.entries, e.1 < name → Bare e.1 ∧ Bare e.2) (hname : Bare name)
    (h : NameDefect .extraRedirects target defect)
  | assets (hprimary : Bare c.primaryLibrary)
    (hauxiliary : ∀ name ∈ c.auxiliaryLibraries, Bare name)
    (hredirected : ∀ e ∈ c.extraRedirects.entries, Bare e.1 ∧ Bare e.2)
    (h : AssetsDefect c.assetsDir defect)

variable {c : Config} {field : NameField} {defect : Defect}

/-! ## What the checks report -/

theorem checkName_eq_error_iff {name : String} :
    checkName field name = .error defect ↔ NameDefect field name defect := by
  unfold checkName
  constructor
  · intro h
    split at h
    · rename_i hblank
      cases h
      exact .blank hblank
    · rename_i hblank
      split at h
      · rename_i hheld
        cases h
        exact .notBare (by simpa using hblank) (by simpa using hheld)
      · cases h
  · rintro (hblank | ⟨hblank, hheld⟩)
    · rw [if_pos hblank]
    · rw [if_neg (by simp [hblank]), if_pos (by simpa using hheld)]

theorem checkAssets_eq_error_iff {dir : String} :
    checkAssets dir = .error defect ↔ AssetsDefect dir defect := by
  unfold checkAssets
  constructor
  · intro h
    split at h
    · rename_i hblank
      cases h
      exact .blank hblank
    · rename_i hblank
      split at h
      · rename_i hheld
        cases h
        exact .nul (by simpa using hblank) (by simpa using hheld)
      · cases h
  · rintro (hblank | ⟨hblank, hheld⟩)
    · rw [if_pos hblank]
    · rw [if_neg (by simp [hblank]), if_pos (by simpa using hheld)]

theorem checkNames_eq_error_iff {names : List String} :
    checkNames field names = .error defect ↔ FirstOf Bare (NameDefect field · defect) names := by
  induction names with
  | nil => exact ⟨nofun, fun h => absurd h not_firstOf_nil⟩
  | cons name names ih =>
    rw [checkNames, bind_eq_error_iff, Unique.exists_iff, checkName_eq_error_iff,
      checkName_eq_ok_iff, ih, firstOf_cons_iff]

/-- Of an entry the name is looked at before the target. -/
theorem checkNames_flatMap_eq_error_iff {entries : List (String × String)} :
    checkNames field (entries.flatMap fun e => [e.1, e.2]) = .error defect ↔
      FirstOf (fun e => Bare e.1 ∧ Bare e.2)
        (fun e => NameDefect field e.1 defect ∨ Bare e.1 ∧ NameDefect field e.2 defect)
        entries := by
  induction entries with
  | nil => exact ⟨nofun, fun h => absurd h not_firstOf_nil⟩
  | cons e entries ih =>
    rw [List.flatMap_cons, List.cons_append, List.cons_append, List.nil_append, checkNames,
      checkNames, bind_eq_error_iff, Unique.exists_iff, bind_eq_error_iff, Unique.exists_iff,
      checkName_eq_error_iff, checkName_eq_error_iff, checkName_eq_ok_iff,
      checkName_eq_ok_iff, ih, firstOf_cons_iff]
    tauto

/-- Validation reports exactly the first defect. -/
theorem validate_eq_error_iff : c.validate = .error defect ↔ c.FirstDefect defect := by
  simp only [validate, bind_eq_error_iff, Unique.exists_iff, PUnit.default_eq_unit,
    checkName_eq_error_iff, checkName_eq_ok_iff, checkNames_flatMap_eq_error_iff,
    checkNames_eq_ok_iff, checkAssets_eq_error_iff, List.forall_mem_flatMap,
    List.forall_mem_cons, List.not_mem_nil, false_implies, implies_true, and_true]
  rw [checkNames_eq_error_iff, firstOf_iff_of_ascending c.extraRedirects.ascending]
  constructor
  · rintro (hprimary | ⟨hprimary, ⟨earlier, name, later, hnames, hearlier, hname⟩ |
      ⟨hauxiliary,
        ⟨⟨name, target⟩, hentry, hless, hname | ⟨hname, htarget⟩⟩ | ⟨hredirected, hassets⟩⟩⟩)
    · exact .primary hprimary
    · exact .auxiliary hprimary hnames hearlier hname
    · exact .redirected hprimary hauxiliary hentry hless hname
    · exact .target hprimary hauxiliary hentry hless hname htarget
    · exact .assets hprimary hauxiliary hredirected hassets
  · intro h
    cases h with
    | primary h => exact .inl h
    | auxiliary hprimary hnames hearlier h =>
      exact .inr ⟨hprimary, .inl ⟨_, _, _, hnames, hearlier, h⟩⟩
    | redirected hprimary hauxiliary hentry hless h =>
      exact .inr ⟨hprimary, .inr ⟨hauxiliary, .inl ⟨_, hentry, hless, .inl h⟩⟩⟩
    | target hprimary hauxiliary hentry hless hname h =>
      exact .inr ⟨hprimary, .inr ⟨hauxiliary, .inl ⟨_, hentry, hless, .inr ⟨hname, h⟩⟩⟩⟩
    | assets hprimary hauxiliary hredirected h =>
      exact .inr ⟨hprimary, .inr ⟨hauxiliary, .inr ⟨hredirected, h⟩⟩⟩

/-! ## However it was built -/

/-- What validation says of a configuration. -/
structure Judged (c : Config) : Prop where
  ok_iff : c.validate = .ok () ↔ c.Valid
  error_iff : ∀ defect, c.validate = .error defect ↔ c.FirstDefect defect
  /-- Settings from any configuration on that come to the same fields are judged the same. -/
  build : ∀ (base : Config) (settings : List Setting),
    (∀ slot, (base.build settings).setting? slot = c.setting? slot) →
      (base.build settings).validate = c.validate
  /-- The last setting for a slot decides what it shows. -/
  last : ∀ settings slot, (c.build settings).setting? slot =
    (settings.reverse.find? fun a => a.slot = slot).or (c.setting? slot)
  /-- Settings that do not contradict each other are judged the same in any order. -/
  perm : ∀ settings settings', settings.Perm settings' →
    (∀ a ∈ settings, ∀ b ∈ settings, a.slot = b.slot → a = b) →
    (c.build settings').validate = (c.build settings).validate
  /-- What the environment overrides are settings. -/
  environment : ∀ e : Environment, c.overriddenBy e = c.build e.settings

theorem validate_judged (c : Config) : Judged c := by
  constructor
  case ok_iff => exact validate_eq_ok_iff
  case error_iff => exact fun defect => validate_eq_error_iff
  case build => exact fun base settings hsame => congrArg validate (eq_of_setting? hsame)
  case last => exact setting?_build c
  case perm =>
    exact fun settings settings' hperm hagree => congrArg validate (build_perm hperm hagree c).symm
  case environment => exact overriddenBy_eq_build c

end Config

end PluginChain
