import PluginChain.CommandLine.Running
import PluginChain.Platforms.Scripted
import PluginChain.Proofs.Config.RoundTrip

/-!
# The effective configuration

A command goes by the configuration in the file, or the defaults, with what the environment
overrides. Overriding twice is overriding once, and a valid configuration is read as it was written.
So what the command `config` prints is a fixed point: read from a file, it is printed again, whether
the environment overrides it as before or not at all.

Main statements:
* `effectiveConfig_eq_ok_iff`: the configuration that a command goes by.
* `run_effective`: what is printed is printed again, and without a valid configuration nothing is
  printed.
-/

namespace PluginChain

/-! ## Overriding -/

namespace Config

/-- The variables that override fields. -/
def overriding : List String :=
  [Environment.primaryVariable, Environment.assetsVariable]

variable {c : Config} {e e' : Environment}

/-- What is overridden depends on these variables alone. -/
theorem overriddenBy_congr (h : ∀ name ∈ overriding, e name = e' name) :
    c.overriddenBy e = c.overriddenBy e' := by
  obtain ⟨hprimary, hassets, -⟩ : e Environment.primaryVariable = e' Environment.primaryVariable ∧
      e Environment.assetsVariable = e' Environment.assetsVariable ∧ True := by
    simpa [overriding] using h
  simp only [overriddenBy, Environment.text?, hprimary, hassets]

/-- Nothing is overridden if these variables are not set. -/
theorem overriddenBy_unset (h : ∀ name ∈ overriding, e name = none) : c.overriddenBy e = c :=
  @overriddenBy_congr c e (fun _ => none) h

/-- Overriding twice is overriding once. -/
theorem overriddenBy_overriddenBy (c : Config) (e : Environment) :
    (c.overriddenBy e).overriddenBy e = c.overriddenBy e := by
  cases hprimary : e.text? Environment.primaryVariable <;>
    cases hassets : e.text? Environment.assetsVariable <;>
    simp [overriddenBy, hprimary, hassets]

/-- The defaults are valid. -/
theorem validate_stock : stock.validate = .ok () := by rfl

theorem checked_eq_ok_iff {d : Config} : c.checked = .ok d ↔ c = d ∧ c.validate = .ok () := by
  cases hvalidate : c.validate <;> simp [checked, hvalidate]

end Config

namespace CommandLine

/-- The configuration that a command begins with, be it valid or not: the one in the file, or the
    defaults. -/
inductive Base (s : Surroundings) : Option Path → Config → Prop
  | stock : Base s none .stock
  | file {path : Path} {content : Array UInt8} {text : String} {c : Config}
      (hfile : s.fileAt path = .ok content) (htext : Text.Utf8.decode? content.toList = some text)
      (hdocument : (Toml.parse text).bind Config.ofEntries? = some c) :
    Base s (some path) c

variable {p : Platform} {s again : Surroundings} {path? : Option Path} {c base : Config}

/-- There is at most one configuration to begin with. -/
theorem Base.eq {other : Config} (h : Base s path? base) (hother : Base s path? other) :
    base = other := by
  cases h with
  | stock =>
    cases hother
    rfl
  | file hfile htext hdocument =>
    cases hother with
    | file hfile' htext' hdocument' =>
      cases hfile.symm.trans hfile'
      cases htext.symm.trans htext'
      exact Option.some.inj (hdocument.symm.trans hdocument')

/-- A configuration to begin with is taken if it is valid. -/
theorem baseConfig_eq_ok_iff :
    baseConfig s path? = .ok c ↔ Base s path? c ∧ c.validate = .ok () := by
  constructor
  · intro h
    cases path? with
    | none =>
      cases h
      exact ⟨.stock, Config.validate_stock⟩
    | some path =>
      obtain ⟨content, text, d, hfile, htext, hdocument, hchecked⟩ : ∃ content text d,
          s.fileAt path = .ok content ∧ Text.Utf8.decode? content.toList = some text ∧
            (Toml.parse text).bind Config.ofEntries? = some d ∧ d.checked = .ok c := by
        simp only [baseConfig, Config.ofFile, Config.parse] at h
        grind
      obtain ⟨rfl, hvalid⟩ := Config.checked_eq_ok_iff.1 hchecked
      exact ⟨.file hfile htext hdocument, hvalid⟩
  · rintro ⟨hbase, hvalid⟩
    have hchecked : c.checked = .ok c := Config.checked_eq_ok_iff.2 ⟨rfl, hvalid⟩
    cases hbase with
    | stock => rfl
    | file hfile htext hdocument =>
      simp only [baseConfig, hfile, Config.ofFile, htext, Config.parse, hdocument, hchecked]

/-- The configuration that a command goes by: one that is valid, overridden by the environment and
    still valid. -/
theorem effectiveConfig_eq_ok_iff :
    effectiveConfig s path? = .ok c ↔
      ∃ base, Base s path? base ∧ base.validate = .ok () ∧ c = base.overriddenBy s.environment ∧
        c.validate = .ok () := by
  constructor
  · intro h
    obtain ⟨base, hbase, hchecked⟩ : ∃ base, baseConfig s path? = .ok base ∧
        (base.overriddenBy s.environment).checked = .ok c := by
      rw [effectiveConfig] at h
      grind
    obtain ⟨hstarts, hvalid⟩ := baseConfig_eq_ok_iff.1 hbase
    obtain ⟨rfl, hc⟩ := Config.checked_eq_ok_iff.1 hchecked
    exact ⟨base, hstarts, hvalid, rfl, hc⟩
  · rintro ⟨base, hstarts, hvalid, rfl, hc⟩
    have hbase : baseConfig s path? = .ok base := baseConfig_eq_ok_iff.2 ⟨hstarts, hvalid⟩
    have hchecked := Config.checked_eq_ok_iff.2 ⟨rfl, hc⟩
    rw [effectiveConfig, hbase]
    simp only [hchecked]

/-- A command goes by the valid configuration that was written to its file, if the environment
    leaves it as it is. -/
theorem effectiveConfig_print {path : Path}
    (hfile : s.fileAt path = .ok (Text.Utf8.encode c.print).toArray) (hvalid : c.validate = .ok ())
    (hkept : c.overriddenBy s.environment = c) :
    effectiveConfig s (some path) = .ok c := by
  have hdocument : (Toml.parse c.print).bind Config.ofEntries? = some c := by
    rw [Config.toml_parse_print, Option.bind_some, Config.ofEntries?_toEntries]
  have htext : Text.Utf8.decode? (Text.Utf8.encode c.print).toArray.toList = some c.print := by
    rw [Text.Utf8.decode?_encode]
  exact effectiveConfig_eq_ok_iff.2 ⟨c, .file hfile htext hdocument, hvalid, hkept.symm, hvalid⟩

/-- So does a command with no variables set. -/
theorem effectiveConfig_written {fileAt : Path → Except FileError (Array UInt8)} {path : Path}
    (hfile : fileAt path = .ok (Text.Utf8.encode c.print).toArray) (hvalid : c.validate = .ok ()) :
    effectiveConfig ⟨fun _ => none, fileAt⟩ (some path) = .ok c :=
  effectiveConfig_print hfile hvalid (Config.overriddenBy_unset fun _ _ => rfl)

/-! ## Commands under it -/

variable {arguments : List String} {i : Invocation} {message : String}

/-- A command is carried out under the configuration that it goes by. -/
theorem run_eq_perform (harguments : Invocation.ofArguments arguments s.environment = .ok i)
    (hconfig : effectiveConfig s i.config = .ok c) :
    run (p := p) s arguments = perform s c i.command := by
  simp only [run, harguments, Invocation.run, hconfig]

/-- Without a configuration nothing is done and nothing is printed but the error. -/
theorem run_eq_failure (harguments : Invocation.ofArguments arguments s.environment = .ok i)
    (hconfig : effectiveConfig s i.config = .error message) :
    run (p := p) s arguments = pure (failure message) := by
  simp only [run, harguments, Invocation.run, hconfig]

/-- Surroundings in which the file at `path` holds `text` and the environment overrides nothing, or
    what it overrides in the surroundings `s`. -/
structure Follows (s : Surroundings) (path : Path) (text : String)
    (again : Surroundings) : Prop where
  file : again.fileAt path = .ok (Text.Utf8.encode text).toArray
  overriding : (∀ name ∈ Config.overriding, again.environment name = none) ∨
    ∀ name ∈ Config.overriding, again.environment name = s.environment name

/-- What the invocation `i`, which the arguments make in the surroundings `s`, does with its
    configuration. -/
structure Effective (p : Platform) (s : Surroundings) (arguments : List String)
    (i : Invocation) : Prop where
  /-- It prints the configuration, overridden by the environment, if it is valid before and
      after. -/
  prints : i.command = .config → ∀ base, Base s i.config base → base.validate = .ok () →
    (base.overriddenBy s.environment).validate = .ok () →
    ∀ h : Host p,
    (run s arguments).run h = ({ code := 0, out := (base.overriddenBy s.environment).print }, h)
  /-- What it prints is printed again if it is in the file. -/
  again : i.command = .config → ∀ h : Host p, ((run s arguments).run h).1.code = 0 →
    ∀ path surroundings others, Follows s path ((run s arguments).run h).1.out surroundings →
      Invocation.ofArguments others surroundings.environment = .ok ⟨.config, some path⟩ →
      ∀ h' : Host p,
      (run surroundings others).run h' = ({ code := 0, out := ((run s arguments).run h).1.out }, h')
  /-- Nothing is printed but an error if the configuration is not valid, overridden as it is. -/
  invalid : ∀ base defect, Base s i.config base →
    (base.overriddenBy s.environment).validate = .error defect →
    ∃ err, ∀ h : Host p, (run s arguments).run h = ({ code := 1, out := "", err }, h)

/-- What a command prints as its configuration is that configuration, which is valid and overridden
    already. -/
theorem exists_config_of_code (harguments : Invocation.ofArguments arguments s.environment = .ok i)
    (hcommand : i.command = .config) {h : Host p} (hcode : ((run s arguments).run h).1.code = 0) :
    ∃ c : Config, ((run s arguments).run h).1.out = c.print ∧ c.validate = .ok () ∧
      c.overriddenBy s.environment = c := by
  cases hconfig : effectiveConfig s i.config with
  | error message =>
    rw [run_eq_failure harguments hconfig] at hcode
    exact absurd hcode (show (1 : UInt32) ≠ 0 by decide)
  | ok c =>
    obtain ⟨base, -, -, rfl, hvalid⟩ := effectiveConfig_eq_ok_iff.1 hconfig
    refine ⟨_, ?_, hvalid, Config.overriddenBy_overriddenBy base s.environment⟩
    rw [run_eq_perform harguments hconfig, hcommand]
    rfl

/-- The environment leaves a configuration as it is if it overrides nothing, or what was overridden
    before. -/
theorem Follows.overriddenBy {path : Path} {text : String} (h : Follows s path text again)
    (hkept : c.overriddenBy s.environment = c) : c.overriddenBy again.environment = c := by
  rcases h.overriding with hunset | hsame
  · exact Config.overriddenBy_unset hunset
  · rw [Config.overriddenBy_congr hsame, hkept]

/-- What the command `config` prints is a fixed point: from a file it is printed again. If the
    configuration is not valid, no command prints it or anything else. -/
theorem run_effective (s : Surroundings) (arguments : List String) (i : Invocation)
    (harguments : Invocation.ofArguments arguments s.environment = .ok i) :
    Effective p s arguments i := by
  constructor
  case prints =>
    intro hcommand base hbase hvalid hoverridden h
    have hconfig := effectiveConfig_eq_ok_iff.2 ⟨base, hbase, hvalid, rfl, hoverridden⟩
    rw [run_eq_perform harguments hconfig, hcommand]
    rfl
  case again =>
    intro hcommand h hcode path surroundings others hfollows hothers h'
    obtain ⟨c, hout, hvalid, hkept⟩ := exists_config_of_code harguments hcommand hcode
    rw [hout] at hfollows ⊢
    rw [run_eq_perform hothers
      (effectiveConfig_print hfollows.file hvalid (hfollows.overriddenBy hkept))]
    rfl
  case invalid =>
    intro base defect hbase hinvalid
    cases hconfig : effectiveConfig s i.config with
    | error message =>
      refine ⟨(failure message).err, fun h => ?_⟩
      rw [run_eq_failure harguments hconfig]
      rfl
    | ok c =>
      obtain ⟨other, hother, -, rfl, hvalid⟩ := effectiveConfig_eq_ok_iff.1 hconfig
      rw [hbase.eq hother, hvalid] at hinvalid
      cases hinvalid

/-- The defaults with another primary library, printed where there are no files. -/
theorem run_effective_overridden :
    let s : Surroundings := {
      environment := fun name =>
        if name = Environment.primaryVariable then some (Text.Utf8.encode "libother.so") else none
      fileAt := fun _ => .error .notFound }
    Invocation.ofArguments ["config"] s.environment = .ok ⟨.config, none⟩ ∧
      Effective Script.platform s ["config"] ⟨.config, none⟩ :=
  ⟨rfl, run_effective _ ["config"] ⟨.config, none⟩ rfl⟩

end CommandLine

end PluginChain
