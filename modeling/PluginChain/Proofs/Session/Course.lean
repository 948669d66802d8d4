import PluginChain.Proofs.Plugin.Answers
import PluginChain.Session.Basic

/-!
# The course of a load

What a platform answers from one request to the next decides how a load ends. `Course` has one rule
for each outcome, for the part of a load that comes after priming: it names the outcome, and how far
the load came with the primary library.

Main statements:
* `Session.exists_course`: whatever the platform answers, there is a course.
-/

namespace PluginChain

variable {p : Platform}

namespace Config

/-- The name that the primary library is opened by. -/
def primaryTarget (c : Config) : String :=
  c.redirects.resolve c.primaryLibrary

/-- The candidates for the primary library. -/
def primaryCandidates (c : Config) : List String :=
  candidates c.primaryTarget c.appPaths

end Config

/-- The primary library, as far as a load came with it. -/
structure Way (p : Platform) where
  /-- The last stage that the load entered before it ended. -/
  stage : Stage
  /-- The candidates that did not open, with the reasons. -/
  refused : List (String × String)
  /-- The candidate that opened, with its module. -/
  primary? : Option (String × p.Module) := none
  /-- What was looked up. -/
  bindings : List (Binding p.Address) := []
  /-- The calls that were made, with the word whether they returned. -/
  calls : List (Call × Bool) := []

namespace Session

/-- The platform offers the plugin: `location` is the first candidate for the primary library that
    opens, and all symbols that must be there are found in it. -/
def Offers (c : Config) (refused : List (String × String)) (location : String) (module : p.Module)
    (bindings : List (Binding p.Address)) (w w' : p.World) : Prop :=
  ∃ w₁, p.Opens .isolated c.primaryCandidates refused location module w w₁ ∧
    p.Finds module Plugin.symbols bindings w₁ w'

namespace Offers

variable {c : Config} {refused : List (String × String)} {location : String} {module : p.Module}
  {bindings : List (Binding p.Address)} {w w' : p.World}

theorem opens (h : Offers c refused location module bindings w w') :
    ∃ w₁, p.Opens .isolated c.primaryCandidates refused location module w w₁ := by
  obtain ⟨w₁, hopens, -⟩ := h
  exact ⟨w₁, hopens⟩

theorem specs (h : Offers c refused location module bindings w w') :
    bindings.map (·.spec) = Plugin.symbols := by
  obtain ⟨_, -, hfinds⟩ := h
  exact hfinds.specs

theorem met (h : Offers c refused location module bindings w w') : ∀ b ∈ bindings, b.Met := by
  obtain ⟨_, -, hfinds⟩ := h
  exact hfinds.met

end Offers

/-- How the primary library opens and starts up in the world `w` that priming has left, what the
    load results in, and the world in which everything is released then if the load fails. -/
inductive Course (c : Config) (w : p.World) : Way p → Except LoadError Unit → p.World → Prop
  /-- No candidate opens. -/
  | notFound {refused : List (String × String)} {reason : String} {w₁ : p.World}
      (hall : refused.map Prod.fst = c.primaryCandidates)
      (hrefuses : p.Refuses .isolated refused w w₁)
      (hlast : (refused.map Prod.snd).getLast? = some reason) :
    Course c w { stage := .loadingPrimary, refused }
      (.error (.notFound c.primaryTarget c.primaryCandidates reason)) w₁
  /-- The first candidate that opens lacks a symbol. -/
  | missingSymbol {refused : List (String × String)} {location : String} {module : p.Module}
      {bindings : List (Binding p.Address)} {spec : SymbolSpec} {w₁ w₂ : p.World}
      (hopens : p.Opens .isolated c.primaryCandidates refused location module w w₁)
      (hlacks : p.Lacks module Plugin.symbols bindings spec w₁ w₂) :
    Course c w
      { stage := .resolvingSymbols, refused, primary? := some (location, module)
        bindings := bindings ++ [⟨spec, none⟩] }
      (.error (.missingSymbol spec.name)) w₂
  /-- Starting up unwinds. -/
  | startUpUnwinds {refused : List (String × String)} {location : String} {module : p.Module}
      {bindings : List (Binding p.Address)} {startUp : p.Address} {payload : Payload}
      {w₁ w₂ : p.World} (hoffers : Offers c refused location module bindings w w₁)
      (hstartUp : ⟨⟨Plugin.startUpSymbol, true⟩, some startUp⟩ ∈ bindings)
      (hcall : p.startUp startUp w₁ = (.unwound payload, w₂)) :
    Course c w
      { stage := .initializing, refused, primary? := some (location, module), bindings
        calls := [(.startUp, false)] }
      (.error (.startFailed (Plugin.unwoundDetail Plugin.startUpSymbol payload))) w₂
  /-- The plugin starts up, and its assets directory holds a NUL. -/
  | nulInAssets {refused : List (String × String)} {location : String} {module : p.Module}
      {bindings : List (Binding p.Address)} {startUp : p.Address} {before after : List UInt8}
      {stops : List (Call × Bool)} {w₁ w₂ w₃ : p.World}
      (hoffers : Offers c refused location module bindings w w₁)
      (hstartUp : ⟨⟨Plugin.startUpSymbol, true⟩, some startUp⟩ ∈ bindings)
      (hcall : p.startUp startUp w₁ = (.returned (), w₂))
      (hnul : Text.Utf8.encode c.assetsDir = before ++ 0 :: after) (hfirst : 0 ∉ before)
      (hstops : p.Stops bindings stops w₂ w₃) :
    Course c w
      { stage := .initializing, refused, primary? := some (location, module), bindings
        calls := (.startUp, true) :: stops }
      (.error (.startFailed (Plugin.nulDetail before.length))) w₃
  /-- The plugin starts up and unwinds over its assets directory. -/
  | setAssetsUnwinds {refused : List (String × String)} {location : String} {module : p.Module}
      {bindings : List (Binding p.Address)} {startUp setAssets : p.Address} {payload : Payload}
      {stops : List (Call × Bool)} {w₁ w₂ w₃ w₄ : p.World}
      (hoffers : Offers c refused location module bindings w w₁)
      (hstartUp : ⟨⟨Plugin.startUpSymbol, true⟩, some startUp⟩ ∈ bindings)
      (hcall : p.startUp startUp w₁ = (.returned (), w₂)) (hnul : '\x00' ∉ c.assetsDir.toList)
      (hsetAssets : ⟨⟨Plugin.setAssetsSymbol, true⟩, some setAssets⟩ ∈ bindings)
      (hset : p.setAssets setAssets (Text.Utf8.encode c.assetsDir) w₂ = (.unwound payload, w₃))
      (hstops : p.Stops bindings stops w₃ w₄) :
    Course c w
      { stage := .initializing, refused, primary? := some (location, module), bindings
        calls := (.startUp, true) :: (.setAssets (Text.Utf8.encode c.assetsDir), false) :: stops }
      (.error (.startFailed (Plugin.unwoundDetail Plugin.setAssetsSymbol payload))) w₄
  /-- The plugin starts up and takes its assets directory. -/
  | loaded {refused : List (String × String)} {location : String} {module : p.Module}
      {bindings : List (Binding p.Address)} {startUp setAssets : p.Address} {w₁ w₂ w₃ : p.World}
      (hoffers : Offers c refused location module bindings w w₁)
      (hstartUp : ⟨⟨Plugin.startUpSymbol, true⟩, some startUp⟩ ∈ bindings)
      (hcall : p.startUp startUp w₁ = (.returned (), w₂)) (hnul : '\x00' ∉ c.assetsDir.toList)
      (hsetAssets : ⟨⟨Plugin.setAssetsSymbol, true⟩, some setAssets⟩ ∈ bindings)
      (hset : p.setAssets setAssets (Text.Utf8.encode c.assetsDir) w₂ = (.returned (), w₃)) :
    Course c w
      { stage := .ready, refused, primary? := some (location, module), bindings
        calls := [(.startUp, true), (.setAssets (Text.Utf8.encode c.assetsDir), true)] }
      (.ok ()) w₃

/-- Starting up goes well or not, and so does handing over the assets directory. -/
theorem exists_course_of_offers {c : Config} {refused : List (String × String)} {location : String}
    {module : p.Module} {bindings : List (Binding p.Address)} {w w₁ : p.World}
    (hoffers : Offers c refused location module bindings w w₁) :
    ∃ way result w', Course c w way result w' := by
  obtain ⟨e, -, he⟩ := SymbolTable.exists_entryPoints hoffers.specs hoffers.met 0
  have hstops := Platform.exists_stops hoffers.specs
  rcases hcall : p.startUp e.startUp w₁ with ⟨⟨⟩ | payload, w₂⟩
  · by_cases hnul : '\x00' ∈ c.assetsDir.toList
    · obtain ⟨before, after, hencode, hfirst⟩ :=
        List.eq_append_cons_of_mem (Text.Utf8.zero_mem_encode_iff.2 hnul)
      obtain ⟨stops, w₃, hstops⟩ := hstops w₂
      exact ⟨_, _, w₃, .nulInAssets hoffers he.startUp hcall hencode hfirst hstops⟩
    · rcases hset : p.setAssets e.setAssets (Text.Utf8.encode c.assetsDir) w₂
        with ⟨⟨⟩ | payload, w₃⟩
      · exact ⟨_, _, w₃, .loaded hoffers he.startUp hcall hnul he.setAssets hset⟩
      · obtain ⟨stops, w₄, hstops⟩ := hstops w₃
        exact ⟨_, _, w₄, .setAssetsUnwinds hoffers he.startUp hcall hnul he.setAssets hset hstops⟩
  · exact ⟨_, _, w₂, .startUpUnwinds hoffers he.startUp hcall⟩

/-- Whatever the platform answers, there is a course. -/
theorem exists_course (c : Config) (w : p.World) : ∃ way result w', Course c w way result w' := by
  rcases Platform.opens_or_refuses .isolated c.primaryCandidates w with
    ⟨refused, location, module, w₁, hopens⟩ | ⟨refused, w₁, hall, hrefuses⟩
  · rcases Platform.finds_or_lacks module Plugin.symbols w₁
      with ⟨bindings, w₂, hfinds⟩ | ⟨bindings, spec, w₂, hlacks⟩
    · exact exists_course_of_offers ⟨w₁, hopens, hfinds⟩
    · exact ⟨_, _, w₂, .missingSymbol hopens hlacks⟩
  · have hnonempty : refused.map Prod.snd ≠ [] := by
      intro hnone
      apply candidates_ne_nil c.primaryTarget c.appPaths
      rw [← Config.primaryCandidates, ← hall, List.map_eq_nil_iff.1 hnone, List.map_nil]
    exact ⟨_, _, w₁, .notFound hall hrefuses (List.getLast?_eq_some_getLast hnonempty)⟩

/-- Whatever became of the load, the primary library opened and was looked into, or no candidate
    opened. -/
theorem Course.primary_cases {c : Config} {w w' : p.World} {way : Way p}
    {result : Except LoadError Unit} (h : Course c w way result w') :
    (∃ location module w₁, way.primary? = some (location, module) ∧
        p.Opens .isolated c.primaryCandidates way.refused location module w w₁) ∨
      way.primary? = none ∧ way.bindings = [] ∧ way.calls = [] ∧
        way.refused.map Prod.fst = c.primaryCandidates ∧ ∃ w₁,
          p.Refuses .isolated way.refused w w₁ := by
  have hoffered {refused : List (String × String)} {location : String} {module : p.Module}
      {bindings : List (Binding p.Address)} {w₁ : p.World}
        (hoffers : Offers c refused location module bindings w w₁) :
      ∃ l m w₂, some (location, module) = some (l, m) ∧
        p.Opens .isolated c.primaryCandidates refused l m w w₂ := by
    obtain ⟨w₂, hopens⟩ := hoffers.opens
    exact ⟨location, module, w₂, rfl, hopens⟩
  cases h with
  | notFound hall hrefuses => exact .inr ⟨rfl, rfl, rfl, hall, _, hrefuses⟩
  | missingSymbol hopens => exact .inl ⟨_, _, _, rfl, hopens⟩
  | startUpUnwinds hoffers => exact .inl (hoffered hoffers)
  | nulInAssets hoffers => exact .inl (hoffered hoffers)
  | setAssetsUnwinds hoffers => exact .inl (hoffered hoffers)
  | loaded hoffers => exact .inl (hoffered hoffers)

end Session

end PluginChain
