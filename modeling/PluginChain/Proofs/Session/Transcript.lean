import Mathlib.Data.List.Induction
import PluginChain.Proofs.Host.Transcript
import PluginChain.Session.Running

/-!
# The journal of a session

Everything a session does on its host is made of requests to the platform and of notices. So its
journal is a transcript: there is one event for each request, in order, and the platform was asked
for nothing else.

Main statements:
* `Session.perform_made`, `Session.drop_made`: what operations are made of.
* `Session.reached_recorded`: the events of a run are the transcripts of its operations, one after
  the other, and what happens outside the session leaves no event.
* `Session.live_recorded`: so are the events of a whole life.
-/

namespace PluginChain

open PluginChain.Action

variable {p : Platform} {Says : Notice → Prop}

/-! ## Libraries -/

namespace OpenLibrary

theorem lookup_made (l : OpenLibrary p) (symbol : String) : Made Says (l.lookup symbol) :=
  (Made.ask _).bind fun _ => .pure _

theorem close_made (l : OpenLibrary p) : Made (·.move? = none) l.close :=
  (Made.still rfl).seq (.ask _)

theorem attempt_made (candidate : String) (sharing : Sharing) :
    Made (p := p) Says (attempt candidate sharing) := by
  refine Made.nextSerial.bind fun serial => (Made.ask _).bind ?_
  rintro (reason | module)
  · exact .pure _
  · exact .pure _

theorem firstOf_made (requested resolved : String) (sharing : Sharing) (names : List String)
    (reason : String) :
    Made (p := p) (·.move? = none) (firstOf requested resolved sharing reason names) := by
  induction names generalizing reason with
  | nil => exact .pure _
  | cons candidate rest ih =>
    refine (attempt_made candidate sharing).bind ?_
    rintro (reason | ⟨module, serial⟩)
    · exact (Made.still rfl).seq (ih reason)
    · exact (Made.still rfl).seq (.pure _)

theorem redirect_made (redirects : Redirects) (name : String) :
    Made (p := p) (·.move? = none) (redirect redirects name) := by
  unfold redirect
  split
  · exact (Made.still rfl).seq (.pure _)
  · exact .pure _

theorem acquire_made (redirects : Redirects) (name : String) (paths : List String)
    (sharing : Sharing) :
    Made (p := p) (·.move? = none) (acquire redirects name paths sharing) := by
  refine (redirect_made redirects name).bind fun resolved => ?_
  extract_lets rest
  have hrest : Made (·.move? = none) (rest ()) := by
    refine (firstOf_made name resolved sharing _ _).bind ?_
    rintro (reason | l)
    · exact (Made.still rfl).seq (.pure _)
    · exact .pure _
  split
  · exact (Made.still rfl).seq hrest
  · exact hrest

end OpenLibrary

namespace Primed

theorem acquire_made (redirects : Redirects) (paths names : List String) :
    Made (p := p) (·.move? = none) (acquire redirects paths names) := by
  induction names with
  | nil => exact .pure _
  | cons name rest ih =>
    refine (OpenLibrary.acquire_made redirects name paths .global).bind ?_
    rintro (error | library)
    · exact (Made.still rfl).seq (ih.bind fun _ => .pure _)
    · exact (Made.still rfl).seq (ih.bind fun _ => .pure _)

theorem closeEach_made (libraries : List (OpenLibrary p)) :
    Made (·.move? = none) (closeEach libraries) := by
  induction libraries with
  | nil => exact .pure _
  | cons library rest ih => exact (Made.still rfl).seq (library.close_made.seq ih)

end Primed

/-! ## The plugin -/

namespace SymbolTable

theorem bindAll_made (library : OpenLibrary p) (specs : List SymbolSpec) :
    Made (·.move? = none) (bindAll library specs) := by
  induction specs with
  | nil => exact .pure _
  | cons spec rest ih =>
    refine (library.lookup_made spec.name).bind fun address? => ?_
    split
    · exact (Made.still rfl).seq (.pure _)
    · extract_lets continuation
      have hrest : Made (·.move? = none) (continuation ()) := by
        refine ih.bind ?_
        rintro (error | bindings)
        · exact .pure _
        · exact .pure _
      split
      · exact (Made.still rfl).seq hrest
      · exact hrest

theorem resolve_made (library : OpenLibrary p) (specs : List SymbolSpec) :
    Made (·.move? = none) (resolve library specs) := by
  refine (bindAll_made library specs).bind ?_
  rintro (error | bindings)
  · exact .pure _
  · exact .pure _

end SymbolTable

theorem Plugin.call_made (serial : Nat) (function : p.Address) (entry : Call) :
    Made Says (call serial function entry) := by
  refine (Made.ask _).bind ?_
  rintro (value | payload)
  · exact .pure _
  · exact .pure _

namespace EntryPoints

variable (e : EntryPoints p.Address)

theorem callShutDown_made : Made Says e.callShutDown := by
  unfold callShutDown
  split
  · exact .pure _
  · refine (Plugin.call_made _ _ _).bind ?_
    rintro (detail | _)
    · exact .pure _
    · exact .pure _

theorem callSetAssets_made (dir : String) : Made Says (e.callSetAssets dir) := by
  unfold callSetAssets
  split
  · exact .pure _
  · exact Plugin.call_made _ _ _

theorem callGetAssets_made : Made Says e.callGetAssets := by
  unfold callGetAssets
  split
  · exact .pure _
  · refine (Plugin.call_made _ _ _).bind ?_
    rintro (detail | _ | bytes)
    · exact .pure _
    · exact .pure _
    · exact .pure _

theorem callRunAsync_made (input output callback : UInt64) :
    Made Says (e.callRunAsync input output callback) := by
  unfold callRunAsync
  split
  · exact .pure _
  · exact Plugin.call_made _ _ _

end EntryPoints

/-! ## What a session holds -/

namespace Holdings

variable (held : Holdings p)

theorem shutDown_made : Made (·.move? = none) held.shutDown := by
  unfold shutDown
  split
  · split
    · refine (EntryPoints.callShutDown_made _).bind ?_
      rintro (detail | _ | _)
      · exact .still rfl
      · exact .still rfl
      · exact .still rfl
    · exact .pure _
  · exact .pure _

theorem releasePrimary_made : Made (·.move? = none) held.releasePrimary := by
  unfold releasePrimary
  split
  · exact (Made.still rfl).seq (OpenLibrary.close_made _)
  · exact .pure _

theorem releasePrimed_made : Made (·.move? = none) held.releasePrimed := by
  unfold releasePrimed
  split
  · exact (Primed.closeEach_made _).seq (.pure _)
  · exact .pure _

theorem release_made : Made (·.move? = none) held.release :=
  held.shutDown_made.seq (held.releasePrimary_made.seq held.releasePrimed_made)

end Holdings

/-! ## Operations -/

namespace Session

variable (s : Session p)

theorem readyEntry_made : Made (·.move? = none) s.readyEntry := by
  unfold readyEntry
  split
  · exact .pure _
  · exact (Made.still rfl).seq (.pure _)

theorem superSample_made (input output : UInt64) (timeout : Int32) :
    Made (·.move? = none) (s.superSample input output timeout) := by
  refine s.readyEntry_made.bind ?_
  rintro (error | e)
  · exact .pure _
  · exact (Plugin.call_made _ _ _).bind fun _ => .pure _

theorem superSampleAsync_made (input output callback : UInt64) :
    Made (·.move? = none) (s.superSampleAsync input output callback) := by
  refine s.readyEntry_made.bind ?_
  rintro (error | e)
  · exact .pure _
  · exact (e.callRunAsync_made input output callback).bind fun _ => .pure _

theorem assetsDir_made : Made (·.move? = none) s.assetsDir := by
  refine s.readyEntry_made.bind ?_
  rintro (error | e)
  · exact .pure _
  · refine e.callGetAssets_made.bind ?_
    rintro (detail | dir)
    · exact .pure _
    · exact .pure _

theorem drop_made : Made (·.move? = none) s.drop :=
  s.held.release_made

/-- A load of a ready session gives one notice, and it is of no move. -/
theorem load_made_of_ready (hready : s.stage = .ready) : Made (·.move? = none) s.load := by
  unfold load
  rw [hready]
  exact (Made.still rfl).seq (.pure _)

/-! The other operations move the session, so they give notices of every kind. -/

theorem enter_made (stage : Stage) : Made (fun _ => True) (s.enter stage) :=
  (Made.notify trivial).seq (.pure _)

theorem teardown_made : Made (fun _ => True) s.teardown :=
  s.held.release_made.freely.seq (.pure _)

theorem prime_made : Made (fun _ => True) s.prime := by
  refine (s.enter_made .priming).bind fun s => ?_
  refine (Primed.acquire_made _ _ _).freely.bind fun primed => ?_
  split
  · exact (Made.notify trivial).seq (.pure _)
  · exact .pure _

theorem openPrimary_made : Made (fun _ => True) s.openPrimary := by
  refine (s.enter_made .loadingPrimary).bind fun s => ?_
  refine (OpenLibrary.acquire_made _ _ _ _).freely.bind ?_
  rintro (error | primary)
  · exact .pure _
  · exact (Made.notify trivial).seq (.pure _)

theorem bindSymbols_made (primary : OpenLibrary p) :
    Made (fun _ => True) (s.bindSymbols primary) := by
  refine (s.enter_made .resolvingSymbols).bind fun s => ?_
  refine (SymbolTable.resolve_made primary _).freely.bind ?_
  rintro (error | table)
  · exact primary.close_made.freely.seq (.pure _)
  · dsimp only
    split
    · exact primary.close_made.freely.seq (.pure _)
    · exact .pure _

theorem start_made (e : EntryPoints p.Address) : Made (fun _ => True) (s.start e) := by
  refine (s.enter_made .initializing).bind fun s => (Plugin.call_made _ _ _).bind ?_
  rintro (detail | _)
  · exact .pure _
  · refine (Made.notify trivial).seq ((e.callSetAssets_made _).bind ?_)
    rintro (detail | _)
    · exact .pure _
    · exact (Made.notify trivial).seq ((enter_made _ .ready).bind fun _ => .pure _)

theorem acquire_made : Made (fun _ => True) s.acquire := by
  refine s.prime_made.bind fun s => s.openPrimary_made.bind ?_
  rintro ⟨error | primary, s⟩
  · exact .pure _
  · refine (s.bindSymbols_made primary).bind ?_
    rintro ⟨error | e, s⟩
    · exact .pure _
    · exact s.start_made e

theorem loadFresh_made : Made (fun _ => True) s.loadFresh := by
  refine (Made.notify trivial).seq ((acquire_made _).bind ?_)
  rintro ⟨error | _, s⟩
  · refine (Made.notify trivial).seq ((teardown_made _).bind fun s => ?_)
    exact (s.enter_made .failed).bind fun _ => .pure _
  · exact (Made.notify trivial).seq (.pure _)

theorem load_made : Made (fun _ => True) s.load := by
  unfold load
  split
  · exact (Made.notify trivial).seq (.pure _)
  · exact s.loadFresh_made
  · exact s.teardown_made.bind fun _ => loadFresh_made _

theorem unload_made : Made (fun _ => True) s.unload := by
  unfold unload
  split
  · exact .pure _
  · exact s.teardown_made.bind fun s => s.enter_made .unloaded

/-- Whatever a session is asked for, it makes requests and gives notices, and does nothing else. -/
theorem perform_made (operation : Operation) : Made (fun _ => True) (s.perform operation) := by
  cases operation with
  | load => exact s.load_made.bind fun _ => .pure _
  | unload => exact s.unload_made
  | superSample input output timeout =>
    exact (s.superSample_made input output timeout).freely.bind fun _ => .pure _
  | superSampleAsync input output callback =>
    exact (s.superSampleAsync_made input output callback).freely.bind fun _ => .pure _
  | assetsDir => exact s.assetsDir_made.freely.bind fun _ => .pure _

/-! ## Runs -/

/-- What the turns of a run that begins in the world `w` leave: the events are the transcripts of
    the operations, one after the other, and the last turn leaves the world `w'`. -/
inductive Recorded (p : Platform) : p.World → List (Turn p) → List Event → p.World → Prop
  | nil (w : p.World) : Recorded p w [] [] w
  | outside {w w₁ : p.World} {turns : List (Turn p)} {es : List Event}
      (before : Recorded p w turns es w₁) (w₂ : p.World) :
    Recorded p w (turns ++ [.outside w₂]) es w₂
  | asked {w w₁ w₂ : p.World} {turns : List (Turn p)} {es fs : List Event}
      (before : Recorded p w turns es w₁) (operation : Operation)
      (transcript : Transcript p (es.filterMap Event.opened?).length w₁ fs w₂) :
    Recorded p w (turns ++ [.asked operation]) (es ++ fs) w₂

/-- The events of a run are the transcripts of its operations, and its modules are counted by
    them. -/
theorem reached_recorded (config : Config) (world : p.World) (turns : List (Turn p)) :
    Recorded p world turns (reached config world turns).2.events
      (reached config world turns).2.world ∧
      (reached config world turns).2.opened =
        ((reached config world turns).2.events.filterMap Event.opened?).length := by
  induction turns using List.reverseRecOn with
  | nil => exact ⟨.nil world, rfl⟩
  | append_singleton turns t ih =>
    rw [reached_concat]
    obtain ⟨hrecorded, hopened⟩ := ih
    generalize reached config world turns = r at hrecorded hopened
    obtain ⟨s, h⟩ := r
    cases t with
    | outside w => exact ⟨hrecorded.outside w, hopened⟩
    | asked operation =>
      obtain ⟨fs, hevents, hcount, htranscript⟩ := (s.perform_made operation).transcribes h
      change Recorded p world _ ((s.perform operation).run h).2.events
        ((s.perform operation).run h).2.world ∧
        ((s.perform operation).run h).2.opened =
          (((s.perform operation).run h).2.events.filterMap Event.opened?).length
      rw [hevents]
      refine ⟨hrecorded.asked operation (hopened ▸ htranscript), ?_⟩
      rw [hcount, hopened, List.filterMap_append, List.length_append]

/-- The events of a whole life are those of its run, and then the transcript of giving back what was
    held. -/
theorem live_recorded (config : Config) (world : p.World) (turns : List (Turn p)) :
    ∃ es fs w, ((live config turns).run { world }).2.events = es ++ fs ∧
      Recorded p world turns es w ∧
      Transcript p (es.filterMap Event.opened?).length w fs
        ((live config turns).run { world }).2.world := by
  obtain ⟨hrecorded, hopened⟩ := reached_recorded config world turns
  obtain ⟨fs, hevents, -, htranscript⟩ :=
    (reached config world turns).1.drop_made.transcribes (reached config world turns).2
  exact ⟨_, fs, _, hevents, hrecorded, hopened ▸ htranscript⟩

end Session

end PluginChain
