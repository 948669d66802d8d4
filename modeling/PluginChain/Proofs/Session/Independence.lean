import PluginChain.Proofs.Host.Partition
import PluginChain.Proofs.Session.Account

/-!
# Auxiliary libraries do not decide a load

On a platform that keeps its libraries apart, priming leaves the candidates for the primary library
as they were. So two loads that find the same at those candidates end in the same way and call the
plugin in the same way, whatever came of their auxiliary libraries.

Main statements:
* `Primed.Goes.agree`: priming changes nothing at the candidates for the primary library.
* `Session.Course.agree`: what there is at those candidates decides the course of a load.
* `Session.load_independent`: the two together, for loads with any auxiliary libraries.
-/

namespace PluginChain

variable {p : Platform} (P : Partition p) {paths : List String} {sharing : Sharing}
  {v v' w w' : p.World}

/-! ## Requests for other paths -/

section Elsewhere

theorem Platform.Refuses.agree_of_notMem {refused : List (String × String)}
    (h : p.Refuses sharing refused w w')
    (helsewhere : ∀ path ∈ refused.map Prod.fst, path ∉ paths) : P.Agree paths w w' := by
  induction h with
  | nil w => exact .refl w
  | cons first _ ih =>
    obtain ⟨hhead, htail⟩ := List.forall_mem_cons.1 helsewhere
    exact ((P.openModule _ _).agree_of_notMem hhead first).trans (ih htail)

theorem Platform.Opens.agree_of_notMem {names : List String} {refused : List (String × String)}
    {location : String} {module : p.Module} (h : p.Opens sharing names refused location module w w')
    (helsewhere : ∀ path ∈ names, path ∉ paths) : P.Agree paths w w' := by
  obtain ⟨⟨rest, rfl⟩, w₁, hrefuses, hopen⟩ := h
  have hrefused :=
    hrefuses.agree_of_notMem P fun path hpath => helsewhere path (List.mem_append_left _ hpath)
  exact hrefused.trans ((P.openModule _ _).agree_of_notMem (helsewhere location (by simp)) hopen)

theorem Trial.Goes.agree {redirects : Redirects} {searched : List String} {n : Nat} {t : Trial p}
    (h : t.Goes redirects searched sharing n w w')
    (helsewhere : ∀ path ∈ candidates (redirects.resolve t.name) searched, path ∉ paths) :
    P.Agree paths w w' := by
  cases h with
  | opened hopens => exact hopens.agree_of_notMem P helsewhere
  | missed hall hrefuses => exact hrefuses.agree_of_notMem P (hall ▸ helsewhere)

/-- Priming changes nothing at paths that are no candidates for auxiliary libraries. -/
theorem Primed.Goes.agree {redirects : Redirects} {searched : List String} {n : Nat}
    {trials : List (Trial p)} (h : Primed.Goes redirects searched n trials w w')
    (helsewhere : ∀ name ∈ trials.map (·.name),
      ∀ path ∈ candidates (redirects.resolve name) searched,
      path ∉ paths) : P.Agree paths w w' := by
  induction h with
  | nil n w => exact .refl w
  | cons first _ ih =>
    obtain ⟨hhead, htail⟩ := List.forall_mem_cons.1 helsewhere
    exact (first.agree P hhead).trans (ih htail)

end Elsewhere

/-! ## The same requests in two worlds -/

section Twice

variable {P} (hagree : P.Agree paths v w)

include hagree

theorem Platform.Refuses.agree {refused : List (String × String)}
    (h : p.Refuses sharing refused v v') (hmem : ∀ path ∈ refused.map Prod.fst, path ∈ paths) :
    ∃ w', p.Refuses sharing refused w w' ∧ P.Agree paths v' w' := by
  induction h generalizing w with
  | nil v => exact ⟨w, .nil w, hagree⟩
  | cons first _ ih =>
    obtain ⟨hhead, htail⟩ := List.forall_mem_cons.1 hmem
    obtain ⟨w₁, hfirst, hagree⟩ := (P.openModule _ _).agree hhead hagree first
    obtain ⟨w', hothers, hagree⟩ := ih hagree htail
    exact ⟨w', .cons hfirst hothers, hagree⟩

theorem Platform.Opens.agree {names : List String} {refused : List (String × String)}
    {location : String} {module : p.Module} (h : p.Opens sharing names refused location module v v')
    (hmem : ∀ path ∈ names, path ∈ paths) :
    P.path module ∈ paths ∧
      ∃ w', p.Opens sharing names refused location module w w' ∧ P.Agree paths v' w' := by
  obtain ⟨⟨rest, rfl⟩, v₁, hrefuses, hopen⟩ := h
  have hlocation : location ∈ paths := hmem location (by simp)
  obtain ⟨w₁, hrefused, hagree⟩ :=
    hrefuses.agree hagree fun path hpath => hmem path (List.mem_append_left _ hpath)
  obtain ⟨w', hopened, hagree⟩ := (P.openModule _ _).agree hlocation hagree hopen
  refine ⟨?_, w', ⟨⟨rest, rfl⟩, w₁, hrefused, hopened⟩, hagree⟩
  rwa [P.path_openModule (congrArg Prod.fst hopen)]

variable {module : p.Module} (hmodule : P.path module ∈ paths)

include hmodule

theorem Platform.Binds.agree {bindings : List (Binding p.Address)}
    (h : p.Binds module bindings v v') :
    ∃ w', p.Binds module bindings w w' ∧ P.Agree paths v' w' := by
  induction h generalizing w with
  | nil v => exact ⟨w, .nil w, hagree⟩
  | cons first _ ih =>
    obtain ⟨w₁, hfirst, hagree⟩ := (P.lookup _ _).agree hmodule hagree first
    obtain ⟨w', hothers, hagree⟩ := ih hagree
    exact ⟨w', .cons hfirst hothers, hagree⟩

theorem Platform.Finds.agree {specs : List SymbolSpec} {bindings : List (Binding p.Address)}
    (h : p.Finds module specs bindings v v') :
    ∃ w', p.Finds module specs bindings w w' ∧ P.Agree paths v' w' := by
  obtain ⟨w', hbinds, hagree⟩ := h.binds.agree hagree hmodule
  exact ⟨w', ⟨h.specs, h.met, hbinds⟩, hagree⟩

theorem Platform.Lacks.agree {specs : List SymbolSpec} {bindings : List (Binding p.Address)}
    {spec : SymbolSpec} (h : p.Lacks module specs bindings spec v v') :
    ∃ w', p.Lacks module specs bindings spec w w' ∧ P.Agree paths v' w' := by
  obtain ⟨v₁, answer, hbinds, hlookup, hnone⟩ := h.lacks
  obtain ⟨w₁, hbound, hagree⟩ := hbinds.agree hagree hmodule
  obtain ⟨w', hlooked, hagree⟩ := (P.lookup _ _).agree hmodule hagree hlookup
  exact ⟨w', ⟨h.among, h.met, h.required, w₁, answer, hbound, hlooked, hnone⟩, hagree⟩

end Twice

theorem Platform.Stops.agree {P : Partition p} {bindings : List (Binding p.Address)}
    {stops : List (Call × Bool)} (h : p.Stops bindings stops v v')
    (hscript : P.script v = P.script w) : ∃ w', p.Stops bindings stops w w' := by
  cases h with
  | unable hlacks => exact ⟨w, .unable hlacks⟩
  | asked hhas hcall =>
    obtain ⟨w', hcalled, -⟩ := (P.shutDown _).agree hscript hcall
    exact ⟨w', .asked hhas hcalled⟩

/-- The same configuration with other auxiliary libraries. -/
def Config.withAuxiliary (c : Config) (names paths : List String) : Config :=
  { c with auxiliaryLibraries := names, systemPaths := paths }

@[simp] theorem Config.primaryLibrary_withAuxiliary (c : Config) (names paths : List String) :
    (c.withAuxiliary names paths).primaryLibrary = c.primaryLibrary := rfl

@[simp] theorem Config.primaryTarget_withAuxiliary (c : Config) (names paths : List String) :
    (c.withAuxiliary names paths).primaryTarget = c.primaryTarget := rfl

/-- No candidate for an auxiliary library is one for the primary library. -/
def Config.Apart (c : Config) : Prop :=
  ∀ name ∈ c.auxiliaryLibraries, ∀ path ∈ candidates (c.redirects.resolve name) c.systemPaths,
    path ∉ c.primaryCandidates

instance (c : Config) : Decidable c.Apart :=
  inferInstanceAs (Decidable (∀ name ∈ _, ∀ path ∈ _, _))

namespace Session

variable {P} {c : Config}

theorem Offers.agree {refused : List (String × String)} {location : String} {module : p.Module}
    {bindings : List (Binding p.Address)} (h : Offers c refused location module bindings v v')
    (hagree : P.Agree c.primaryCandidates v w) :
    ∃ w', Offers c refused location module bindings w w' ∧ P.script v' = P.script w' := by
  obtain ⟨v₁, hopens, hfinds⟩ := h
  obtain ⟨hmodule, w₁, hopened, hagree⟩ := hopens.agree hagree fun _ hpath => hpath
  obtain ⟨w', hfound, hagree⟩ := hfinds.agree hagree hmodule
  exact ⟨w', ⟨w₁, hopened, hfound⟩, hagree.script⟩

/-- What there is at the candidates for the primary library decides the course of a load, whatever
    the auxiliary libraries are. -/
theorem Course.agree {way : Way p} {result : Except LoadError Unit} (h : Course c v way result v')
    (hagree : P.Agree c.primaryCandidates v w) (names paths : List String) :
    ∃ w', Course (c.withAuxiliary names paths) w way result w' := by
  cases h with
  | notFound hall hrefuses hlast =>
    obtain ⟨w', hrefused, -⟩ := hrefuses.agree hagree fun _ hpath => hall ▸ hpath
    exact ⟨w', .notFound hall hrefused hlast⟩
  | missingSymbol hopens hlacks =>
    obtain ⟨hmodule, w₁, hopened, hagree⟩ := hopens.agree hagree fun _ hpath => hpath
    obtain ⟨w', hlacked, -⟩ := hlacks.agree hagree hmodule
    exact ⟨w', .missingSymbol hopened hlacked⟩
  | startUpUnwinds hoffers hstartUp hcall =>
    obtain ⟨w₁, hoffered, hscript⟩ := hoffers.agree hagree
    obtain ⟨w', hcalled, -⟩ := (P.startUp _).agree hscript hcall
    exact ⟨w', .startUpUnwinds hoffered hstartUp hcalled⟩
  | nulInAssets hoffers hstartUp hcall hnul hfirst hstops =>
    obtain ⟨w₁, hoffered, hscript⟩ := hoffers.agree hagree
    obtain ⟨w₂, hcalled, hscript⟩ := (P.startUp _).agree hscript hcall
    obtain ⟨w', hstopped⟩ := hstops.agree hscript
    exact ⟨w', .nulInAssets hoffered hstartUp hcalled hnul hfirst hstopped⟩
  | setAssetsUnwinds hoffers hstartUp hcall hnul hsetAssets hset hstops =>
    obtain ⟨w₁, hoffered, hscript⟩ := hoffers.agree hagree
    obtain ⟨w₂, hcalled, hscript⟩ := (P.startUp _).agree hscript hcall
    obtain ⟨w₃, htaken, hscript⟩ := (P.setAssets _ _).agree hscript hset
    obtain ⟨w', hstopped⟩ := hstops.agree hscript
    exact ⟨w', .setAssetsUnwinds hoffered hstartUp hcalled hnul hsetAssets htaken hstopped⟩
  | loaded hoffers hstartUp hcall hnul hsetAssets hset =>
    obtain ⟨w₁, hoffered, hscript⟩ := hoffers.agree hagree
    obtain ⟨w₂, hcalled, hscript⟩ := (P.startUp _).agree hscript hcall
    obtain ⟨w', htaken, -⟩ := (P.setAssets _ _).agree hscript hset
    exact ⟨w', .loaded hoffered hstartUp hcalled hnul hsetAssets htaken⟩

/-- Priming on two hosts that agree about the primary library leaves them in agreement. -/
theorem agree_of_primed {d : Config} {h k : Host p} {first second : List (Trial p)}
    (hsame : c.primaryCandidates = d.primaryCandidates) (hc : c.Apart) (hd : d.Apart)
    (hagree : P.Agree c.primaryCandidates h.world k.world)
    (hfirst : first.map (·.name) = c.auxiliaryLibraries)
    (hsecond : second.map (·.name) = d.auxiliaryLibraries)
    (hv : Primed.Goes c.redirects c.systemPaths h.opened first h.world v)
    (hw : Primed.Goes d.redirects d.systemPaths k.opened second k.world w) :
    P.Agree c.primaryCandidates v w := by
  have hfirst' : P.Agree c.primaryCandidates h.world v := hv.agree P (hfirst ▸ hc)
  have hsecond' : P.Agree c.primaryCandidates k.world w := hw.agree P (hsame ▸ hsecond ▸ hd)
  exact hfirst'.symm.trans (hagree.trans hsecond')

/-- Two loads, on the hosts `h` and `k`, that are the same but for the auxiliary libraries. -/
structure SameLoad (h k : Host p) (first second : (Except LoadError Unit × Session p) × Host p) :
    Prop where
  result : first.1.1 = second.1.1
  stage : first.1.2.stage = second.1.2.stage
  primary? : first.1.2.primary? = second.1.2.primary?
  statuses : first.1.2.held.table.map (·.status) = second.1.2.held.table.map (·.status)
  reportPrimary : first.1.2.report.primary = second.1.2.report.primary
  reportSymbols : first.1.2.report.symbols = second.1.2.report.symbols
  reportError : first.1.2.report.error = second.1.2.report.error
  /-- The calls with their arguments, each with the word whether it returned. -/
  calls :
    (Host.eventsSince h first.2).filterMap Event.call? =
      (Host.eventsSince k second.2).filterMap Event.call?

/-- Two accounts that differ in their auxiliary libraries alone tell of the same load. -/
theorem SameLoad.of_accounts {names paths : List String} {h k : Host p} {a b : Account p}
    {first second : (Except LoadError Unit × Session p) × Host p} (ha : a.Tells c h first)
    (hb : b.Tells (c.withAuxiliary names paths) k second) (hway : a.way = b.way)
    (hresult : a.result = b.result) :
    SameLoad h k first second := by
  obtain ⟨trials, way, result⟩ := a
  obtain ⟨others, _, _⟩ := b
  obtain rfl := hway
  obtain rfl := hresult
  obtain ⟨v', hof⟩ := ha.of
  obtain ⟨w', hof'⟩ := hb.of
  constructor
  case result => exact ha.result.trans hb.result.symm
  case calls =>
    rw [Host.eventsSince, Host.eventsSince, ha.events, hb.events, List.drop_left, List.drop_left,
      Account.call?_events hof, Account.call?_events hof']
  all_goals rw [ha.session, hb.session]
  case stage => rfl
  case reportSymbols => rfl
  case reportError => rfl
  case reportPrimary =>
    cases hprimary : way.primary? <;>
      simp [Account.session, Account.report, Account.library?, hprimary]
  -- The primary library and its symbols are held if the load went well.
  case primary? =>
    cases result <;> cases hprimary : way.primary? <;>
      simp [Account.session, Session.primary?, Account.library?, hprimary]
  case statuses =>
    cases result <;> cases hprimary : way.primary? <;>
      simp [Account.session, Account.library?, SymbolTable.status, hprimary]

/-- A fresh session loads in the same way whatever its auxiliary libraries are, if nothing but they
    differs. -/
theorem load_independent (P : Partition p) (c : Config) (names paths : List String) (h k : Host p)
    (hagree : P.Agree c.primaryCandidates h.world k.world) (hc : c.Apart)
    (hd : (c.withAuxiliary names paths).Apart) :
    SameLoad h k ((new c).load.run h) ((new (c.withAuxiliary names paths)).load.run k) := by
  have hsettled (d : Config) : (new d : Session p).Settled d .idle := .resting rfl (.inl rfl) rfl
  have hfresh (d : Config) : (new d : Session p).stage ≠ .ready := by simp [new]
  obtain ⟨a, ha⟩ := load_has_account (hsettled c) (hfresh c) h
  obtain ⟨v', hnames, v, hprime, hcourse⟩ := ha.of
  obtain ⟨others, w, hothers, hprime'⟩ :=
    Primed.exists_goes (p := p) (c.withAuxiliary names paths).redirects paths names k.opened k.world
  have hprimed : P.Agree c.primaryCandidates v w :=
    agree_of_primed (d := c.withAuxiliary names paths) rfl hc hd hagree hnames
      hothers hprime hprime'
  obtain ⟨w', hcourse'⟩ := hcourse.agree hprimed names paths
  have hb : (⟨others, a.way, a.result⟩ : Account p).Tells (c.withAuxiliary names paths) k
      ((new (c.withAuxiliary names paths)).load.run k) :=
    load_tells (hsettled _) (hfresh _) k ⟨hothers, w, hprime', hcourse'⟩
  exact .of_accounts ha hb rfl rfl

/-- A stock device without vendor libraries, and one that asks for another auxiliary library which
    is there. -/
theorem load_independent_primaryAlone :
    let other := Config.stock.withAuxiliary ["libaux.so"] ["/vendor/lib64"]
    let equipped := primaryAlone.install "libaux.so" {}
    let first : Host Script.platform := { world := primaryAlone }
    let second : Host Script.platform := { world := equipped }
    Script.parts.Agree Config.stock.primaryCandidates first.world second.world ∧
      Config.stock.Apart ∧ other.Apart ∧
      SameLoad first second ((new .stock).load.run first) ((new other).load.run second) := by
  have hother : "libaux.so" ∉ Config.stock.primaryCandidates := by decide +kernel
  have hagree :
      Script.parts.Agree Config.stock.primaryCandidates primaryAlone
        (primaryAlone.install "libaux.so" {}) :=
    ⟨fun path hpath =>
      (Script.lookup_install_of_ne (ne_of_mem_of_not_mem hpath hother) primaryAlone {}).symm, rfl⟩
  have hc : Config.stock.Apart := by decide +kernel
  have hd : (Config.stock.withAuxiliary ["libaux.so"] ["/vendor/lib64"]).Apart := by decide +kernel
  exact ⟨hagree, hc, hd, load_independent Script.partition .stock _ _ _ _ hagree hc hd⟩

end Session

end PluginChain
