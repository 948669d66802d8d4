import Mathlib.Data.List.Nodup
import PluginChain.Proofs.Library.Trials
import PluginChain.Plugin.EntryPoints

/-!
# How symbols are found and calls end

What a platform answers to the lookups of symbols decides which table they make, and what it answers
to a call decides how the call ends. `Platform.Finds` and `Platform.Lacks` say what it answers to
lookups, `Platform.Stops` what it answers when the plugin is to be shut down.

Main statements:
* `Platform.finds_or_lacks`: all required symbols are found, or there is a first one that is
  missing.
* `SymbolTable.resolve_does_finds`, `SymbolTable.resolve_does_lacks`: what the platform answers is
  what the lookup of the symbols comes to.
* `SymbolTable.exists_entryPoints`: a table of the symbols of the plugin with all required ones has
  its entry points.
* `Plugin.call_does`: a call comes to what the platform answers.
-/

namespace PluginChain

open PluginChain.Action

variable {p : Platform} {α : Type}

/-! ## What a platform answers -/

namespace Binding

/-- A symbol that must be there has an address. -/
def Met (b : Binding α) : Prop :=
  b.spec.required = true → b.address?.isSome = true

instance (b : Binding α) : Decidable b.Met :=
  inferInstanceAs (Decidable (_ → _))

/-- A symbol and the word whether it has an address. -/
def status (b : Binding α) : SymbolStatus :=
  ⟨b.spec.name, b.spec.required, b.address?.isSome⟩

end Binding

/-- The lookups of symbols in the module `serial`, as events. -/
def Event.lookups (serial : Nat) (location : String) (bindings : List (Binding α)) : List Event :=
  bindings.map fun b => .lookedUp serial location b.spec.name b.address?.isSome

@[simp] theorem Event.opened?_lookups (serial : Nat) (location : String)
    (bindings : List (Binding α)) :
    (lookups serial location bindings).filterMap opened? = [] := by
  simp [lookups, List.filterMap_map]

/-- The lookups of symbols in a library, as events. -/
def OpenLibrary.lookups (library : OpenLibrary p) (bindings : List (Binding α)) : List Event :=
  Event.lookups library.serial library.identity.location bindings

@[simp] theorem OpenLibrary.call?_lookups (library : OpenLibrary p)
    (bindings : List (Binding p.Address)) :
    (library.lookups bindings).filterMap Event.call? = [] := by
  simp [lookups, Event.lookups, List.filterMap_map]

namespace Platform

variable (p) (module : p.Module)

/-- Symbols that are looked up in turn, each with its address if it has one. -/
inductive Binds : List (Binding p.Address) → p.World → p.World → Prop
  | nil (w : p.World) : Binds [] w w
  | cons {spec : SymbolSpec} {answer : Lookup p.Address} {rest : List (Binding p.Address)}
      {w w₁ w₂ : p.World}
      (first : p.lookup module spec.name w = (answer, w₁)) (others : Binds rest w₁ w₂) :
    Binds (⟨spec, answer.address?⟩ :: rest) w w₂

/-- All symbols `specs` are looked up in turn, and those that must be there have addresses. -/
structure Finds (specs : List SymbolSpec) (bindings : List (Binding p.Address))
    (w w' : p.World) : Prop where
  specs : bindings.map (·.spec) = specs
  met : ∀ b ∈ bindings, b.Met
  binds : p.Binds module bindings w w'

/-- Of the symbols `specs`, looked up in turn, `spec` is the first that must be there and has no
    address; what was looked up before it are the `bindings`. -/
structure Lacks (specs : List SymbolSpec) (bindings : List (Binding p.Address)) (spec : SymbolSpec)
    (w w' : p.World) : Prop where
  among : ∃ rest, specs = bindings.map (·.spec) ++ spec :: rest
  met : ∀ b ∈ bindings, b.Met
  required : spec.required = true
  lacks : ∃ w₁ answer, p.Binds module bindings w w₁ ∧ p.lookup module spec.name w₁ = (answer, w') ∧
    answer.address? = none

variable {p module}

/-- All symbols that must be there have addresses, or there is a first one that has none. -/
theorem finds_or_lacks (module : p.Module) (specs : List SymbolSpec) (w : p.World) :
    (∃ bindings w', p.Finds module specs bindings w w') ∨
      ∃ bindings spec w', p.Lacks module specs bindings spec w w' := by
  induction specs generalizing w with
  | nil => exact .inl ⟨[], w, rfl, by simp, .nil w⟩
  | cons spec specs ih =>
    rcases hlookup : p.lookup module spec.name w with ⟨answer, w₁⟩
    by_cases hmet : (⟨spec, answer.address?⟩ : Binding p.Address).Met
    · rcases ih w₁ with ⟨bindings, w₂, rfl, hall, hbinds⟩ | ⟨bindings, missing, w₂, hlacks⟩
      · exact .inl ⟨_, w₂, rfl, List.forall_mem_cons.2 ⟨hmet, hall⟩, .cons hlookup hbinds⟩
      · obtain ⟨⟨rest, rfl⟩, hall, hrequired, w₃, other, hbinds, hnone⟩ := hlacks
        exact .inr ⟨_, missing, w₂, ⟨rest, rfl⟩, List.forall_mem_cons.2 ⟨hmet, hall⟩, hrequired, w₃,
          other, .cons hlookup hbinds, hnone⟩
    · simp only [Binding.Met, Classical.not_imp, Option.not_isSome_iff_eq_none] at hmet
      exact .inr ⟨[], spec, w₁, ⟨specs, rfl⟩, by simp, hmet.1, w, answer, .nil w, hlookup, hmet.2⟩

end Platform

/-! ## Looking up -/

variable {l l' : Ledger p}

theorem OpenLibrary.lookup_does (library : OpenLibrary p) (spec : SymbolSpec)
    {answer : Lookup p.Address} {w : p.World}
    (h : p.lookup library.module spec.name l.world = (answer, w)) :
    (library.lookup spec.name).Does l answer.address?
      (l.add w (library.lookups [⟨spec, answer.address?⟩]) []) := by
  exact (Host.ask_does (.lookup library.module library.slot spec.name) h).bind .pure

namespace SymbolTable

variable {library : OpenLibrary p} {bindings : List (Binding p.Address)} {specs : List SymbolSpec}

/-- Symbols that end no lookup are put before what comes of the others. -/
theorem bindAll_does_append (specs : List SymbolSpec) {w w' : p.World}
    (hbinds : p.Binds library.module bindings w w') (hmet : ∀ b ∈ bindings, b.Met)
    {a : Except LoadError (List (Binding p.Address))} (hw : l.world = w)
    (hrest : (bindAll library specs).Does
      (l.add w' (library.lookups bindings) []) a l') :
    (bindAll library (bindings.map (·.spec) ++ specs)).Does l (a.map (bindings ++ ·)) l' := by
  induction hbinds generalizing l with
  | nil w =>
    subst hw
    refine Does.of_eq (a := a) ?_ (by cases a <;> rfl) rfl
    simpa [OpenLibrary.lookups, Event.lookups, Ledger.add_nil] using hrest
  | @cons spec answer rest w w₁ w₂ hlookup _ ih =>
    subst hw
    obtain ⟨hfirst, hothers⟩ := List.forall_mem_cons.1 hmet
    have hgoes : ¬ (answer.address?.isNone && spec.required) = true := by
      intro hfatal
      rw [Bool.and_eq_true, Option.isNone_iff_eq_none] at hfatal
      simp [Binding.Met, hfatal] at hfirst
    have hnext := ih (l := l.add w₁ (library.lookups [⟨spec, answer.address?⟩]) []) hothers rfl
      (by simpa [OpenLibrary.lookups, Event.lookups] using hrest)
    rw [List.map_cons, List.cons_append, bindAll]
    refine (library.lookup_does spec hlookup).bind ?_
    rw [if_neg hgoes]
    extract_lets continuation
    have hcontinuation : (continuation ()).Does
        (l.add w₁ (library.lookups [⟨spec, answer.address?⟩]) [])
        (a.map (⟨spec, answer.address?⟩ :: rest ++ ·)) l' := by
      refine hnext.bind ?_
      cases a with
      | error error => exact .pure
      | ok others => exact .pure
    split
    · exact (Host.notify_does rfl).bind hcontinuation
    · exact hcontinuation

theorem resolve_does_finds {w : p.World} (h : p.Finds library.module specs bindings l.world w) :
    (resolve library specs).Does l (.ok ⟨library.serial, bindings⟩)
      (l.add w (library.lookups bindings) []) := by
  obtain ⟨rfl, hmet, hbinds⟩ := h
  have hall := bindAll_does_append [] hbinds hmet rfl .pure
  rw [List.append_nil] at hall
  refine hall.bind ?_
  exact Does.pure.of_eq (by simp) rfl

theorem resolve_does_lacks {spec : SymbolSpec} {w : p.World}
    (h : p.Lacks library.module specs bindings spec l.world w) :
    (resolve library specs).Does l (.error (.missingSymbol spec.name))
      (l.add w (library.lookups (bindings ++ [⟨spec, none⟩])) []) := by
  obtain ⟨⟨rest, rfl⟩, hmet, hrequired, w₁, answer, hbinds, hlookup, hnone⟩ := h
  have hlast : (bindAll library (spec :: rest)).Does
      (l.add w₁ (library.lookups bindings) [])
      (.error (.missingSymbol spec.name))
      (l.add w (library.lookups (bindings ++ [⟨spec, none⟩])) []) := by
    rw [bindAll]
    refine (library.lookup_does spec hlookup).bind ?_
    rw [if_pos (by simp [hnone, hrequired])]
    refine (Host.notify_does rfl).bind (Does.pure.of_eq rfl ?_)
    simp [OpenLibrary.lookups, Event.lookups, hnone]
  exact (bindAll_does_append _ hbinds hmet rfl hlast).bind .pure

/-! ## Entry points -/

/-- Each symbol of the plugin is looked up once. -/
theorem binding_eq_of_name {bindings : List (Binding α)}
    (hspecs : bindings.map (·.spec) = Plugin.symbols) {b c : Binding α} (hb : b ∈ bindings)
    (hc : c ∈ bindings) (hname : b.spec.name = c.spec.name) : b = c := by
  have hnodup : (bindings.map (·.spec.name)).Nodup := by
    have hnames : bindings.map (·.spec.name) = Plugin.symbols.map (·.name) := by
      rw [← hspecs, List.map_map]
      rfl
    rw [hnames]
    decide
  exact List.inj_on_of_nodup_map hnodup hb hc hname

/-- So it has one address, or none. -/
theorem address?_unique {bindings : List (Binding α)}
    (hspecs : bindings.map (·.spec) = Plugin.symbols) {spec : SymbolSpec} {a b : Option α}
    (ha : ⟨spec, a⟩ ∈ bindings) (hb : ⟨spec, b⟩ ∈ bindings) : a = b :=
  congrArg Binding.address? (binding_eq_of_name hspecs ha hb rfl)

theorem address_unique {bindings : List (Binding α)}
    (hspecs : bindings.map (·.spec) = Plugin.symbols) {spec : SymbolSpec} {a b : α}
    (ha : ⟨spec, some a⟩ ∈ bindings) (hb : ⟨spec, some b⟩ ∈ bindings) : a = b :=
  Option.some.inj (address?_unique hspecs ha hb)

/-- A table finds the address that a symbol of the plugin was found at. -/
theorem get?_of_mem {bindings : List (Binding α)} (hspecs : bindings.map (·.spec) = Plugin.symbols)
    {b : Binding α} (hb : b ∈ bindings) (n : Nat) :
    (⟨n, bindings⟩ : SymbolTable α).get? b.spec.name = b.address? := by
  unfold get?
  cases hfind : bindings.find? fun c => c.spec.name = b.spec.name with
  | none => simpa using List.find?_eq_none.1 hfind b hb
  | some c =>
    have hname : c.spec.name = b.spec.name := by simpa using List.find?_some hfind
    rw [binding_eq_of_name hspecs (List.mem_of_find?_eq_some hfind) hb hname]
    rfl

end SymbolTable

/-- Entry points that are the addresses at which the symbols of the plugin were found. -/
structure EntryPoints.Reads (e : EntryPoints α) (serial : Nat)
    (bindings : List (Binding α)) : Prop where
  serial : e.serial = serial
  startUp : ⟨⟨Plugin.startUpSymbol, true⟩, some e.startUp⟩ ∈ bindings
  setAssets : ⟨⟨Plugin.setAssetsSymbol, true⟩, some e.setAssets⟩ ∈ bindings
  runSync : ⟨⟨Plugin.runSyncSymbol, true⟩, some e.runSync⟩ ∈ bindings
  shutDown : ⟨⟨Plugin.shutDownSymbol, false⟩, e.shutDown⟩ ∈ bindings
  getAssets : ⟨⟨Plugin.getAssetsSymbol, false⟩, e.getAssets⟩ ∈ bindings
  runAsync : ⟨⟨Plugin.runAsyncSymbol, false⟩, e.runAsync⟩ ∈ bindings

namespace SymbolTable

/-- Where all symbols that must be there were found, the entry points are those addresses. -/
theorem exists_entryPoints {bindings : List (Binding α)}
    (hspecs : bindings.map (·.spec) = Plugin.symbols) (hmet : ∀ b ∈ bindings, b.Met) (n : Nat) :
    ∃ e, (⟨n, bindings⟩ : SymbolTable α).entryPoints = .ok e ∧ e.Reads n bindings := by
  have hmem {spec : SymbolSpec} (hspec : spec ∈ Plugin.symbols) : ∃ address?,
      ⟨spec, address?⟩ ∈ bindings := by
    rw [← hspecs] at hspec
    obtain ⟨b, hb, rfl⟩ := List.mem_map.1 hspec
    exact ⟨b.address?, hb⟩
  have hrequired (name : String) (hspec : ⟨name, true⟩ ∈ Plugin.symbols) :
      ∃ address, (⟨⟨name, true⟩, some address⟩ : Binding α) ∈ bindings ∧
        (⟨n, bindings⟩ : SymbolTable α).require name = .ok address := by
    obtain ⟨address?, hb⟩ := hmem hspec
    obtain ⟨address, rfl⟩ := Option.isSome_iff_exists.1 (hmet _ hb rfl)
    refine ⟨address, hb, ?_⟩
    have hget := get?_of_mem hspecs hb n
    simp only at hget
    rw [require, hget]
  have hoptional (name : String) (hspec : ⟨name, false⟩ ∈ Plugin.symbols) :
      (⟨⟨name, false⟩, (⟨n, bindings⟩ : SymbolTable α).get? name⟩ : Binding α) ∈ bindings := by
    obtain ⟨address?, hb⟩ := hmem hspec
    have hget := get?_of_mem hspecs hb n
    simp only at hget
    rwa [hget]
  obtain ⟨startUp, hstartUp, hrequire₁⟩ := hrequired Plugin.startUpSymbol (by decide)
  obtain ⟨setAssets, hsetAssets, hrequire₂⟩ := hrequired Plugin.setAssetsSymbol (by decide)
  obtain ⟨runSync, hrunSync, hrequire₃⟩ := hrequired Plugin.runSyncSymbol (by decide)
  refine ⟨⟨n, startUp, setAssets, runSync, _, _, _⟩, ?_, rfl, hstartUp, hsetAssets, hrunSync,
    hoptional _ (by decide),
    hoptional _ (by decide), hoptional _ (by decide)⟩
  rw [entryPoints, hrequire₁, hrequire₂, hrequire₃]
  rfl

end SymbolTable

/-! ## Calls -/

namespace Ending

/-- What a call of `function` comes to. -/
def result (function : String) : Ending α → Except String α
  | returned value => .ok value
  | unwound payload => .error (Plugin.unwoundDetail function payload)

end Ending

/-- Calls of functions of the module `serial`, each with the word whether it returned, as events. -/
def Event.calls (serial : Nat) (calls : List (Call × Bool)) : List Event :=
  calls.map fun c => .called c.1 ⟨serial, c.2⟩

theorem Event.calls_append (serial : Nat) (made others : List (Call × Bool)) :
    calls serial (made ++ others) = calls serial made ++ calls serial others :=
  List.map_append

@[simp] theorem Event.opened?_calls (serial : Nat) (made : List (Call × Bool)) :
    (calls serial made).filterMap opened? = [] := by
  simp [calls, List.filterMap_map]

@[simp] theorem Event.call?_calls (serial : Nat) (made : List (Call × Bool)) :
    (calls serial made).filterMap call? = made := by
  simp [calls, List.filterMap_map, Function.comp_def]

/-- A call comes to what the platform answers. -/
theorem Plugin.call_does {serial : Nat} {function : p.Address} (entry : Call)
    {ending : Ending entry.Answer} {w : p.World} (h : p.call function entry l.world = (ending, w)) :
    (Plugin.call serial function entry).Does l (ending.result entry.symbol)
      (l.add w (Event.calls serial [(entry, ending.completed)]) []) := by
  refine (Host.ask_does (.call serial function entry) h).bind ?_
  cases ending with
  | returned value => exact .pure
  | unwound payload => exact .pure

namespace Platform

/-- How a plugin that started up is shut down: it is called if it has a function for that, and not
    otherwise. -/
inductive Stops (p : Platform) (bindings : List (Binding p.Address)) :
    List (Call × Bool) → p.World → p.World → Prop
  | unable {w : p.World} (hlacks : ⟨⟨Plugin.shutDownSymbol, false⟩, none⟩ ∈ bindings) :
    Stops p bindings [] w w
  | asked {function : p.Address} {ending : Ending Unit} {w w' : p.World}
      (hhas : ⟨⟨Plugin.shutDownSymbol, false⟩, some function⟩ ∈ bindings)
      (hcall : p.shutDown function w = (ending, w')) :
      Stops p bindings [(.shutDown, ending.completed)] w w'

theorem exists_stops {bindings : List (Binding p.Address)}
    (hspecs : bindings.map (·.spec) = Plugin.symbols) (w : p.World) :
    ∃ calls w', p.Stops bindings calls w w' := by
  have hspec : ⟨Plugin.shutDownSymbol, false⟩ ∈ bindings.map (·.spec) := by
    rw [hspecs]
    decide
  obtain ⟨⟨spec, function | function⟩, hb, rfl⟩ := List.mem_map.1 hspec
  · exact ⟨[], w, .unable hb⟩
  · exact ⟨_, _, .asked hb rfl⟩

end Platform

end PluginChain
