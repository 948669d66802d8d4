import PluginChain.Proofs.Plugin.Answers
import PluginChain.Platforms.Scripted

/-!
# What a table says of its library

Here a library answers the lookup of a symbol by the name alone, and a null address counts as none.
The symbols of a list are then looked up in order, as often as each is listed, until one that must
be there has no address. If there is no such one, the table says of each what the library has, even
of a name that is listed both as one that must be there and as one that need not.

Main statements:
* `Platform.Binds.eq_by`: what the lookups find is what the library has.
* `SymbolTable.tells_by`: the table of symbols that were all found or need not be there.
* `SymbolTable.resolve_resolution`: every lookup of a list of symbols is a `Resolution`.
-/

namespace PluginChain

variable {p : Platform} {α : Type}

/-! ## Libraries that answer by the name -/

theorem Lookup.address?_eq_some_iff {l : Lookup α} {address : α} :
    l.address? = some address ↔ l = .found address := by
  cases l <;> simp [address?]

/-- A symbol with the address that `answer` gives, if it gives one. -/
def Binding.by (answer : String → Lookup α) (spec : SymbolSpec) : Binding α :=
  ⟨spec, (answer spec.name).address?⟩

/-- The symbol has an address. -/
def SymbolSpec.Found (answer : String → Lookup α) (spec : SymbolSpec) : Prop :=
  ∃ address, answer spec.name = .found address

theorem SymbolSpec.found_iff {answer : String → Lookup α} {spec : SymbolSpec} :
    spec.Found answer ↔ (answer spec.name).address?.isSome = true := by
  simp [Found, Option.isSome_iff_exists, Lookup.address?_eq_some_iff]

theorem SymbolSpec.not_found_iff {answer : String → Lookup α} {spec : SymbolSpec} :
    ¬ spec.Found answer ↔ (answer spec.name).address? = none := by
  rw [found_iff, Option.not_isSome_iff_eq_none]

theorem Binding.met_by_iff {answer : String → Lookup α} {spec : SymbolSpec} :
    (Binding.by answer spec).Met ↔ (spec.required = true → spec.Found answer) := by
  rw [SymbolSpec.found_iff]
  rfl

namespace Platform

variable (p) (module : p.Module)

/-- The world after symbols were looked up in a module. -/
def lookedUp (w : p.World) (names : List String) : p.World :=
  names.foldl (fun w name => (p.lookup module name w).2) w

/-- The module answers by the name: whatever was looked up before, the answer to `name` is
    `answer name`. -/
def AnswersBy (answer : String → Lookup p.Address) (w : p.World) : Prop :=
  ∀ before name, (p.lookup module name (p.lookedUp module w before)).1 = answer name

variable {p module}

/-- It still does after another lookup. -/
theorem AnswersBy.next {answer : String → Lookup p.Address} {w : p.World}
    (h : p.AnswersBy module answer w) (name : String) :
    p.AnswersBy module answer (p.lookup module name w).2 :=
  fun before => h (name :: before)

/-- What lookups find is what the library has. -/
theorem Binds.eq_by {answer : String → Lookup p.Address} {bindings : List (Binding p.Address)}
    {w w' : p.World} (hbinds : p.Binds module bindings w w') (hanswer : p.AnswersBy module answer w)
    {specs : List SymbolSpec} (hspecs : bindings.map (·.spec) = specs) :
    bindings = specs.map (Binding.by answer) ∧ w' = p.lookedUp module w (specs.map (·.name)) := by
  subst hspecs
  induction hbinds with
  | nil w => exact ⟨rfl, rfl⟩
  | @cons spec found rest w w₁ w₂ hlookup _ ih =>
    obtain rfl : found = answer spec.name := by
      rw [← hanswer [] spec.name, lookedUp, List.foldl_nil, hlookup]
    have hnext := hanswer.next spec.name
    rw [hlookup] at hnext
    obtain ⟨hrest, hworld⟩ := ih hnext
    refine ⟨congrArg _ hrest, ?_⟩
    rw [hworld, List.map_cons, List.map_cons, lookedUp, lookedUp, List.foldl_cons, hlookup]

end Platform

/-- A library of a script answers by the name, as nothing in a script changes when a symbol is
    looked up. -/
theorem Script.answersBy (s : Script) (path : String) :
    Script.platform.AnswersBy path (s.lookupAt path) s := by
  intro before name
  have hworld : Script.platform.lookedUp path s before = s := by
    induction before with
    | nil => rfl
    | cons first before ih => exact ih
  rw [hworld]
  rfl

/-- The lookups of symbols in a library that answers by the name, as events. -/
def OpenLibrary.lookupsBy (library : OpenLibrary p) (answer : String → Lookup p.Address)
    (specs : List SymbolSpec) :
    List Event :=
  library.lookups (specs.map (Binding.by answer))

namespace SymbolTable

/-! ## Tables -/

/-- The table says of each of `specs` what `answer` says of it. -/
structure Tells (t : SymbolTable α) (answer : String → Lookup α)
    (specs : List SymbolSpec) : Prop where
  status :
    t.status = specs.map fun spec => ⟨spec.name, spec.required, (answer spec.name).address?.isSome⟩
  get?_iff : ∀ name address, t.get? name = some address ↔
    name ∈ specs.map (·.name) ∧ answer name = .found address
  contains_iff : ∀ name, t.contains name = true ↔
    name ∈ specs.map (·.name) ∧ ∃ address, answer name = .found address
  /-- The names without an address, in order and as often as they are listed. -/
  absent : t.absent = (specs.filter fun spec => (answer spec.name).address?.isNone).map (·.name)
  optional : ∀ spec ∈ specs, (answer spec.name).address? = none → spec.required = false

/-- The first entry for a name has the address that every entry for it has. -/
theorem get?_by (n : Nat) (answer : String → Lookup α) (specs : List SymbolSpec) (name : String) :
    (⟨n, specs.map (Binding.by answer)⟩ : SymbolTable α).get? name =
      if name ∈ specs.map (·.name) then (answer name).address? else none := by
  simp only [get?]
  induction specs with
  | nil => rfl
  | cons spec specs ih =>
    by_cases hname : spec.name = name
    · subst hname
      simp [Binding.by]
    · have hne : name ≠ spec.name := fun h => hname h.symm
      simpa [Binding.by, hname, hne] using ih

/-- The table of symbols that were all found or need not be there. -/
theorem tells_by (n : Nat) {answer : String → Lookup α} {specs : List SymbolSpec}
    (hmet : ∀ spec ∈ specs, spec.required = true → spec.Found answer) :
    (⟨n, specs.map (Binding.by answer)⟩ : SymbolTable α).Tells answer specs := by
  have hget (name : String) (address : α) :
      (⟨n, specs.map (Binding.by answer)⟩ : SymbolTable α).get? name = some address ↔
        name ∈ specs.map (·.name) ∧ answer name = .found address := by
    rw [get?_by]
    split
    · rename_i hmem
      simp only [hmem, true_and, Lookup.address?_eq_some_iff]
    · rename_i hmem
      simp only [hmem, false_and, reduceCtorEq]
  refine ⟨?_, hget, fun name => ?_, ?_, fun spec hspec hnone => ?_⟩
  · rw [status, List.map_map]
    rfl
  · rw [contains, Option.isSome_iff_exists]
    simp only [hget, exists_and_left]
  · rw [absent, List.filter_map, List.map_map]
    rfl
  · rw [Bool.eq_false_iff]
    intro hrequired
    obtain ⟨address, hfound⟩ := hmet spec hspec hrequired
    rw [hfound] at hnone
    cases hnone

/-! ## Lookups -/

/-- How looking `specs` up in `library` went on the host `h`, which became `h'`, and the result. -/
inductive Resolution (library : OpenLibrary p) (answer : String → Lookup p.Address)
    (specs : List SymbolSpec) (h h' : Host p) : Except LoadError (SymbolTable p.Address) → Prop
  /-- All symbols were looked up, each once. -/
  | found {table : SymbolTable p.Address}
      (met : ∀ spec ∈ specs, spec.required = true → spec.Found answer)
      (events : h'.events = h.events ++ library.lookupsBy answer specs)
      (world : h'.world = p.lookedUp library.module h.world (specs.map (·.name)))
      (tells : table.Tells answer specs) :
    Resolution library answer specs h h' (.ok table)
  /-- The symbols were looked up to the first that must be there and has no address. -/
  | missing {before : List SymbolSpec} {spec : SymbolSpec} {rest : List SymbolSpec}
      (order : specs = before ++ spec :: rest) (required : spec.required = true)
      (lacks : ¬ spec.Found answer)
      (met : ∀ earlier ∈ before, earlier.required = true → earlier.Found answer)
      (events : h'.events = h.events ++ library.lookupsBy answer (before ++ [spec]))
      (world : h'.world = p.lookedUp library.module h.world ((before ++ [spec]).map (·.name))) :
    Resolution library answer specs h h' (.error (.missingSymbol spec.name))

/-- A lookup fails if and only if a symbol that must be there has no address. -/
theorem Resolution.fails_iff {library : OpenLibrary p} {answer : String → Lookup p.Address}
    {specs : List SymbolSpec} {h h' : Host p} {result : Except LoadError (SymbolTable p.Address)}
    (hresolution : Resolution library answer specs h h' result) :
    (∃ error, result = .error error) ↔ ∃ spec ∈ specs, spec.required = true ∧
      ¬ spec.Found answer := by
  cases hresolution with
  | found met =>
    refine ⟨nofun, ?_⟩
    rintro ⟨spec, hspec, hrequired, hlacks⟩
    exact absurd (met spec hspec hrequired) hlacks
  | @missing before spec rest order required lacks =>
    exact ⟨fun _ => ⟨spec, by simp [order], required, lacks⟩, fun _ => ⟨_, rfl⟩⟩

/-- Every lookup of a list of symbols, in a library that answers by the name, goes in one of the two
    ways. -/
theorem resolve_resolution (library : OpenLibrary p) (specs : List SymbolSpec)
    (answer : String → Lookup p.Address) (h : Host p)
    (hanswer : p.AnswersBy library.module answer h.world) :
    let r := (resolve library specs).run h
    Resolution library answer specs h r.2 r.1 ∧
      ((∃ error, r.1 = .error error) ↔ ∃ spec ∈ specs, spec.required = true ∧
        ¬ spec.Found answer) := by
  have hresolution : Resolution library answer specs h ((resolve library specs).run h).2
      ((resolve library specs).run h).1 := by
    rcases Platform.finds_or_lacks library.module specs h.world with
      ⟨bindings, w, hfinds⟩ | ⟨bindings, spec, w, hlacks⟩
    · obtain ⟨hresult, hledger⟩ := resolve_does_finds (l := h.ledger) hfinds h rfl
      obtain ⟨hspecs, hmet, hbinds⟩ := hfinds
      obtain ⟨hby, hworld⟩ := hbinds.eq_by hanswer hspecs
      subst hby
      rw [List.forall_mem_map] at hmet
      have hmet : ∀ spec ∈ specs, spec.required = true → spec.Found answer := fun spec hspec =>
        Binding.met_by_iff.1 (hmet spec hspec)
      rw [hresult]
      exact .found hmet (congrArg Ledger.events hledger)
        ((congrArg Ledger.world hledger).trans hworld)
        (tells_by _ hmet)
    · obtain ⟨hresult, hledger⟩ := resolve_does_lacks (l := h.ledger) hlacks h rfl
      obtain ⟨⟨rest, horder⟩, hmet, hrequired, w₁, found, hbinds, hlookup, hnone⟩ := hlacks
      obtain ⟨hby, rfl⟩ := hbinds.eq_by hanswer rfl
      -- The lookup that ended it was answered by the name too.
      obtain rfl : found = answer spec.name := by rw [← hanswer _ spec.name, hlookup]
      have hbindings : (bindings.map (·.spec) ++ [spec]).map (Binding.by answer) = bindings ++
          [⟨spec, none⟩] := by
        rw [List.map_append, ← hby, List.map_singleton, Binding.by, hnone]
      have hlast : w =
          p.lookedUp library.module h.world ((bindings.map (·.spec) ++ [spec]).map (·.name)) := by
        rw [List.map_append, List.map_singleton, Platform.lookedUp, List.foldl_append,
          List.foldl_cons, List.foldl_nil]
        exact (congrArg Prod.snd hlookup).symm
      rw [hresult]
      refine .missing horder hrequired (SymbolSpec.not_found_iff.2 hnone) ?_ ?_
        ((congrArg Ledger.world hledger).trans hlast)
      · rw [hby] at hmet
        simp only [List.forall_mem_map, Binding.met_by_iff] at hmet
        exact List.forall_mem_map.2 hmet
      · rw [OpenLibrary.lookupsBy, hbindings]
        exact congrArg Ledger.events hledger
  exact ⟨hresolution, hresolution.fails_iff⟩

/-- A symbol with a null address is listed as one that need not be there, and after another one as
    one that must be. -/
theorem resolve_resolution_bothClasses :
    let script : Script := { libraries := [("lib.so", { exports := ["a"], nulls := ["b"] })] }
    let library : OpenLibrary Script.platform :=
      ⟨⟨"lib.so", "lib.so", "lib.so"⟩, .isolated, "lib.so", 0⟩
    let specs : List SymbolSpec := [⟨"b", false⟩, ⟨"a", true⟩, ⟨"b", true⟩, ⟨"c", true⟩]
    let h : Host Script.platform := { world := script }
    let r := (resolve library specs).run h
    Script.platform.AnswersBy library.module (script.lookupAt "lib.so") h.world ∧
      r.1 = .error (.missingSymbol "b") ∧
        Resolution library (script.lookupAt "lib.so") specs h r.2 r.1 ∧
      ((∃ error, r.1 = .error error) ↔
        ∃ spec ∈ specs, spec.required = true ∧ ¬ spec.Found (script.lookupAt "lib.so")) :=
  ⟨Script.answersBy _ _, rfl, resolve_resolution _ _ _ _ (Script.answersBy _ _)⟩

end SymbolTable

end PluginChain
