import PluginChain.Proofs.Host.Conduct

/-!
# The calls into a plugin while its library is open

What a journal says of one primary library, from the event that opened it to the event that closes
it. The calls in between are a word of a small language, `CallWord`; `Progress.Word` is the part of
it that one progress stands for.

Results:
* `Progress.Word.next`: one more call keeps the calls a word of the progress it leads to.
* `Conduct.opened_of_holding`: a primary library that is open was opened, and not closed since.
* `Conduct.tenancy`: what the journal since then says of the library, as long as it is not closed.
* `Conduct.callDiscipline`: the journal of a whole life keeps every rule for calls.
-/

namespace PluginChain

/-! ## Words of calls -/

/-- Calls with the word whether they returned, from a start that returned on and without a shutdown:
    at most one call hands over the assets directory, and only after it returned the plugin
    serves. -/
inductive Served : List (Call × Bool) → Prop
  | started : Served [(.startUp, true)]
  | unsettled (dir : List UInt8) : Served [(.startUp, true), (.setAssets dir, false)]
  | serving (dir : List UInt8) {services : List (Call × Bool)}
    (h : ∀ c ∈ services, c.1.isService = true) :
    Served ((.startUp, true) :: (.setAssets dir, true) :: services)

/-- The calls into a plugin between the opening and the closing of its library. The plugin is shut
    down, once and as the last call, if it started up and is `stoppable`. -/
inductive CallWord (stoppable : Prop) : List (Call × Bool) → Prop
  | uncalled : CallWord stoppable []
  | unwound : CallWord stoppable [(.startUp, false)]
  | stopped {served : List (Call × Bool)} (h : stoppable) (hs : Served served) (completed : Bool) :
    CallWord stoppable (served ++ [(.shutDown, completed)])
  | unstoppable {served : List (Call × Bool)} (h : ¬ stoppable) (hs : Served served) :
    CallWord stoppable served

namespace Progress

/-- The calls that lead to a progress. -/
inductive Word : Progress → List (Call × Bool) → Prop
  | untouched : Word untouched []
  | unwound : Word unwound [(.startUp, false)]
  | started : Word started [(.startUp, true)]
  | unsettled (dir : List UInt8) : Word unsettled [(.startUp, true), (.setAssets dir, false)]
  | serving (dir : List UInt8) {services : List (Call × Bool)}
    (h : ∀ c ∈ services, c.1.isService = true) :
    Word serving ((.startUp, true) :: (.setAssets dir, true) :: services)
  | stopped {served : List (Call × Bool)} (hs : Served served) (completed : Bool) :
    Word stopped (served ++ [(.shutDown, completed)])

theorem Word.served {a : Progress} {calls : List (Call × Bool)} (h : a.Word calls)
    (ha : a.isStarted = true) :
    Served calls := by
  cases h with
  | untouched => simp [isStarted] at ha
  | unwound => simp [isStarted] at ha
  | started => exact .started
  | unsettled dir => exact .unsettled dir
  | serving dir h => exact .serving dir h
  | stopped => simp [isStarted] at ha

theorem Word.next {a b : Progress} {calls : List (Call × Bool)} {call : Call} {completed : Bool}
    (h : a.Word calls) (hnext : a.Next call completed b) :
    b.Word (calls ++ [(call, completed)]) := by
  cases hnext with
  | startUp => cases h; exact .started
  | startUpUnwinds => cases h; exact .unwound
  | setAssets => cases h; exact .serving _ (by simp)
  | setAssetsUnwinds => cases h; exact .unsettled _
  | service hservice =>
    cases h with
    | serving dir hs =>
      refine .serving dir fun c hc => ?_
      rcases List.mem_append.1 hc with hc | hc
      · exact hs c hc
      · obtain rfl := List.mem_singleton.1 hc
        exact hservice
  | shutDown ha => exact .stopped (h.served ha) completed

end Progress

/-! ## Tenancy -/

/-- What the events `during` since the primary library opened say of it. -/
structure Tenancy (t : Tenure) (during : List Event) : Prop where
  /-- The symbols found in it are those whose lookup says so. -/
  found (symbol : String) : symbol ∈ t.found ↔ .lookedUp t.serial t.path symbol true ∈ during
  /-- All calls go to functions of it. -/
  own {call : Call} {record : CallRecord} : .called call record ∈ during → record.serial = t.serial
  /-- The calls are those that lead to the progress. -/
  word : t.progress.Word (during.filterMap Event.call?)
  /-- It is shut down only if it can be. -/
  stoppable : t.progress = .stopped → Plugin.shutDownSymbol ∈ t.found

namespace Tenancy

variable {n : Nat} {ms : List (Nat × String)} {t : Tenure} {during : List Event}

theorem start (serial : Nat) (path : String) : Tenancy { serial, path } [] where
  found := by simp
  own := by simp
  word := .untouched
  stoppable := by simp

theorem lookedUp (h : Tenancy t during) (symbol : String) (present : Bool) :
    Tenancy { t with found := t.found ++ if present then [symbol] else [] }
      (during ++ [.lookedUp t.serial t.path symbol present]) where
  found other := by
    cases present <;> simp [h.found other]
  own hcall := h.own (by simpa using hcall)
  word := by simpa [List.filterMap_cons] using h.word
  stoppable hstopped := List.mem_append_left _ (h.stoppable hstopped)

theorem called (h : Tenancy t during) {call : Call} {completed : Bool} {progress : Progress}
    (hfound : call.symbol ∈ t.found) (hnext : t.progress.Next call completed progress) :
    Tenancy { t with progress } (during ++ [.called call ⟨t.serial, completed⟩]) where
  found other := by simp [h.found other]
  own {_ record} hcall := by
    rcases List.mem_append.1 hcall with hcall | hcall
    · exact h.own hcall
    · obtain ⟨-, rfl⟩ := Event.called.inj (List.mem_singleton.1 hcall)
      rfl
  word := by simpa using h.word.next hnext
  stoppable hstopped := by
    obtain rfl : progress = .stopped := hstopped
    obtain rfl := hnext.eq_shutDown
    exact hfound

/-- When the library may be closed, the calls into it are a whole word. -/
theorem callWord (h : Tenancy t during) (hclosable : t.Closable) :
    CallWord (.lookedUp t.serial t.path Plugin.shutDownSymbol true ∈ during)
      (during.filterMap Event.call?) := by
  have hword := h.word
  rw [← h.found]
  by_cases hstarted : t.progress.isStarted = true
  · exact .unstoppable (hclosable hstarted) (hword.served hstarted)
  · generalize during.filterMap Event.call? = calls at hword ⊢
    generalize hp : t.progress = progress at hword hstarted
    cases hword with
    | untouched => exact .uncalled
    | unwound => exact .unwound
    | stopped hs completed => exact .stopped (h.stoppable hp) hs completed
    | _ => exact absurd rfl hstarted

end Tenancy

/-- An event that leaves the primary library open opened it, or found it open. -/
theorem Step.to_holding {st : Standing} {e : Event} {n : Nat} {ms : List (Nat × String)}
    {t : Tenure} (h : Step st e ⟨n, .holding ms t⟩) :
    (e = .opened t.serial t.path .isolated ∧ t = { serial := t.serial, path := t.path }) ∨
      ∃ m t', st = ⟨m, .holding ms t'⟩ ∧ t'.serial = t.serial ∧ t'.path = t.path ∧
        e.closed? = none := by
  generalize hstop : (⟨n, .holding ms t⟩ : Standing) = stop at h
  cases h with
  | refused => cases hstop
  | @opened n ms path sharing =>
    cases sharing with
    | isolated =>
      cases hstop
      exact .inl ⟨rfl, rfl⟩
    | global => cases hstop
  | lookedUp =>
    cases hstop
    exact .inr ⟨_, _, rfl, rfl, rfl, rfl⟩
  | called =>
    cases hstop
    exact .inr ⟨_, _, rfl, rfl, rfl, rfl⟩
  | _ =>
    simp only [Posture.left, Standing.mk.injEq] at hstop
    split at hstop <;> simp [Posture.idle] at hstop

namespace Conduct

variable {n : Nat} {ms : List (Nat × String)} {t : Tenure} {es : List Event} {st : Standing}

/-- A primary library that is open was opened, and not closed since. -/
theorem opened_of_holding (h : Conduct .start es ⟨n, .holding ms t⟩) :
    ∃ m earlier during, es = earlier ++ .opened t.serial t.path .isolated :: during ∧
      .closed t.serial t.path ∉ during ∧
      Conduct ⟨m, .holding ms { serial := t.serial, path := t.path }⟩ during
        ⟨n, .holding ms t⟩ := by
  induction es using List.reverseRecOn generalizing n t with
  | nil => nomatch h
  | append_singleton es e ih =>
    obtain ⟨mid, hes, he⟩ := concat_iff.1 h
    rcases he.to_holding with ⟨rfl, ht⟩ | ⟨m, t', rfl, hserial, hpath, hclosed⟩
    · exact ⟨n, es, [], rfl, by simp, ht ▸ .nil _⟩
    · obtain ⟨k, earlier, during, rfl, hopen, hduring⟩ := ih hes
      rw [hserial, hpath] at hopen hduring ⊢
      refine ⟨k, earlier, during ++ [e], by simp, ?_, concat_iff.2 ⟨_, hduring, he⟩⟩
      intro hmem
      rcases List.mem_append.1 hmem with hmem | hmem
      · exact hopen hmem
      · rw [← List.mem_singleton.1 hmem] at hclosed
        simp at hclosed

/-- What the journal says of a primary library since it opened, as long as it is not closed. -/
theorem tenancy {serial : Nat} {path : String} (h : Conduct ⟨n, .holding ms { serial, path }⟩ es st)
    (hopen : .closed serial path ∉ es) :
    ∃ t, st.posture = .holding ms t ∧ t.serial = serial ∧ t.path = path ∧ Tenancy t es := by
  induction es using List.reverseRecOn generalizing st with
  | nil =>
    cases h
    exact ⟨_, rfl, rfl, rfl, .start serial path⟩
  | append_singleton es e ih =>
    obtain ⟨⟨m, posture⟩, hes, he⟩ := concat_iff.1 h
    obtain ⟨t, rfl, rfl, rfl, ht⟩ := ih hes fun hmem => hopen (List.mem_append_left _ hmem)
    cases he with
    | lookedUp => exact ⟨_, rfl, rfl, rfl, ht.lookedUp _ _⟩
    | called hfound hnext => exact ⟨_, rfl, rfl, rfl, ht.called hfound hnext⟩
    | closedPrimary => exact absurd (List.mem_append_right _ (List.mem_singleton.2 rfl)) hopen

end Conduct

/-! ## Whole lives -/

/-- The calls of a whole life keep to the libraries they go to. -/
structure CallDiscipline (events : List Event) : Prop where
  /-- Each call goes to a function that was found in the primary library since that opened, and the
      library is still open. -/
  while_open (before : List Event) (call : Call) (record : CallRecord) (after : List Event) :
    events = before ++ .called call record :: after →
      ∃ path earlier during, before = earlier ++ .opened record.serial path .isolated :: during ∧
        .lookedUp record.serial path call.symbol true ∈ during ∧
        (record.serial, path) ∈ Event.openAfter before
  /-- A primary library that opens is closed later. -/
  closed_later (before : List Event) (serial : Nat) (path : String) (after : List Event) :
    events = before ++ .opened serial path .isolated :: after → .closed serial path ∈ after
  /-- The calls between the two go to that library. -/
  own (before : List Event) (serial : Nat) (path : String) (during after : List Event) :
    events = before ++ .opened serial path .isolated :: (during ++ .closed serial path :: after) →
      ∀ call record, .called call record ∈ during → record.serial = serial
  /-- The calls between the two are a word; the library can be shut down if the function for it was
      found. -/
  word (before : List Event) (serial : Nat) (path : String) (during after : List Event) :
    events = before ++ .opened serial path .isolated :: (during ++ .closed serial path :: after) →
      CallWord (.lookedUp serial path Plugin.shutDownSymbol true ∈ during)
        (during.filterMap Event.call?)
  /-- However shutting down ends, everything that is open is closed right after it, newest first. -/
  closed_after_shutDown (before : List Event) (record : CallRecord) (after : List Event) :
    events = before ++ .called .shutDown record :: after →
      ∃ rest, after = (Event.openAfter before).reverse.map (fun m => .closed m.1 m.2) ++ rest

namespace Conduct

variable {before during after : List Event} {stop : Standing} {serial : Nat} {path : String}

theorem while_open {call : Call} {record : CallRecord}
    (h : Conduct .start (before ++ .called call record :: after) stop) :
    ∃ path earlier during, before = earlier ++ .opened record.serial path .isolated :: during ∧
      .lookedUp record.serial path call.symbol true ∈ during ∧
      (record.serial, path) ∈ Event.openAfter before := by
  obtain ⟨mid, hbefore, hrest⟩ := append_iff.1 h
  obtain ⟨_, hstep, -⟩ := cons_iff.1 hrest
  cases hstep with
  | @called n ms t _ completed progress hfound hnext =>
    obtain ⟨m, earlier, during, rfl, hopen, hduring⟩ := hbefore.opened_of_holding
    obtain ⟨t', hposture, -, -, htenancy⟩ := hduring.tenancy hopen
    cases hposture
    refine ⟨t.path, earlier, during, rfl, (htenancy.found _).1 hfound, ?_⟩
    rw [hbefore.openAfter_eq]
    simp [Tenure.slot]

/-- The part of a journal between the opening and the closing of a primary library. -/
theorem tenancy_between
    (h : Conduct .start
      (before ++ .opened serial path .isolated :: (during ++ .closed serial path :: after)) stop) :
    ∃ t : Tenure, t.serial = serial ∧ t.path = path ∧ t.Closable ∧ Tenancy t during := by
  have hopen : .closed serial path ∉ during := by
    intro hmem
    have hclosed : (serial, path) ∈ during.filterMap Event.closed? :=
      List.mem_filterMap.2 ⟨_, hmem, rfl⟩
    have honce := (List.nodup_append.1 h.nodup_closed_append).1
    simp only [List.filterMap_append, List.filterMap_cons, Event.closed?] at honce
    have hlast := (List.nodup_append.1 honce).2.1
    exact (List.nodup_append.1 hlast).2.2 _ hclosed _ List.mem_cons_self rfl
  obtain ⟨_, -, hrest⟩ := append_iff.1 h
  obtain ⟨_, hstep, hrest⟩ := cons_iff.1 hrest
  obtain ⟨⟨n, posture⟩, hduring, hrest⟩ := append_iff.1 hrest
  obtain ⟨_, hclose, -⟩ := cons_iff.1 hrest
  cases hstep
  obtain ⟨t, rfl, rfl, rfl, htenancy⟩ := hduring.tenancy hopen
  cases hclose with
  | closedPrimary hclosable => exact ⟨t, rfl, rfl, hclosable, htenancy⟩

theorem closed_later (h : Conduct .start (before ++ .opened serial path .isolated :: after) stop)
    (hidle : stop.posture = .idle) : .closed serial path ∈ after := by
  obtain ⟨_, -, hrest⟩ := append_iff.1 h
  obtain ⟨_, hstep, hafter⟩ := cons_iff.1 hrest
  by_contra hopen
  cases hstep
  obtain ⟨t, hposture, -⟩ := hafter.tenancy hopen
  rw [hidle] at hposture
  cases hposture

theorem closed_after_shutDown {record : CallRecord}
    (h : Conduct .start (before ++ .called .shutDown record :: after) stop)
    (hidle : stop.posture = .idle) :
    ∃ rest, after = (Event.openAfter before).reverse.map (fun m => .closed m.1 m.2) ++ rest := by
  obtain ⟨mid, hbefore, hrest⟩ := append_iff.1 h
  obtain ⟨_, hstep, hafter⟩ := cons_iff.1 hrest
  rw [hbefore.openAfter_eq]
  cases hstep with
  | called hfound hnext => exact hafter.releases_of_stopped hnext.eq_stopped hidle

theorem callDiscipline {es : List Event} (h : Conduct .start es stop)
    (hidle : stop.posture = .idle) :
    CallDiscipline es where
  while_open _ _ _ _ hes := (hes ▸ h).while_open
  closed_later _ _ _ _ hes := (hes ▸ h).closed_later hidle
  own _ _ _ _ _ hes call record hcall := by
    obtain ⟨t, rfl, rfl, -, htenancy⟩ := (hes ▸ h).tenancy_between
    exact htenancy.own hcall
  word _ _ _ _ _ hes := by
    obtain ⟨t, rfl, rfl, hclosable, htenancy⟩ := (hes ▸ h).tenancy_between
    exact htenancy.callWord hclosable
  closed_after_shutDown _ _ _ hes := (hes ▸ h).closed_after_shutDown hidle

end Conduct

end PluginChain
