import Mathlib.Data.Finset.Card
import Mathlib.Data.List.Sort
import PluginChain.Library.Opening
import PluginChain.Text.Utf8

/-!
# The last write counts

A table of redirections is built by additions, of one entry or of several at once, and acts as the
map of all that was written: the last write for a name is the one that counts, names are told apart
byte for byte, and a target is taken as it is, also where it is a name with an entry of its own.

Main statements:
* `Redirects.eq_of_target?`: a table of redirections is what it says of each name.
* `Redirects.target?_build`: the last write for a name counts, and what was not written stays.
* `Redirects.size_build`: there is one entry for each name that was ever written.
* `Redirects.build_lastWriteWins`: what a table does, however it was built.
-/

namespace PluginChain

/-- Redirecting a name yields what the table sends it to, and gives notice of its entry if it has
    one. -/
theorem OpenLibrary.run_redirect {p : Platform} (r : Redirects) (name : String) (h : Host p) :
    (redirect r name).run h =
      (r.resolve name,
        { h with notices := h.notices ++ (r.target? name).toList.map (.redirecting name) }) := by
  unfold redirect Redirects.resolve
  cases r.target? name with
  | none => simp
  | some target => simp

namespace Redirects

variable {r q : Redirects} {es fs : List (String × String)} {name target : String}

/-! ## A table is what it says of each name -/

/-- A table has one entry for each name that it redirects. -/
theorem mem_entries_iff : (name, target) ∈ r.entries ↔ r.target? name = some target := by
  rw [target?, List.lookup_eq_some_iff]
  constructor
  · intro hmem
    obtain ⟨smaller, greater, hsplit⟩ := List.append_of_mem hmem
    refine ⟨smaller, greater, hsplit, fun e he => bne_iff_ne.2 fun hname => ?_⟩
    have hlt :=
      (List.pairwise_append.1 (hsplit ▸ r.ascending)).2.2 e he (name, target) List.mem_cons_self
    exact String.lt_irrefl name (hname ▸ hlt)
  · rintro ⟨smaller, greater, hsplit, -⟩
    rw [hsplit]
    exact List.mem_append_right _ List.mem_cons_self

/-- The names of the entries differ from each other. -/
theorem nodup_names (r : Redirects) : (r.entries.map Prod.fst).Nodup := by
  refine List.pairwise_map.2 (r.ascending.imp fun {a b} hlt hsame => ?_)
  exact String.lt_irrefl b.1 (hsame ▸ hlt)

theorem nodup_entries (r : Redirects) : r.entries.Nodup :=
  r.nodup_names.of_map

/-- A table of redirections is what it says of each name. -/
theorem eq_of_target? (h : ∀ name, r.target? name = q.target? name) : r = q := by
  have hperm : r.entries.Perm q.entries := by
    refine (List.perm_ext_iff_of_nodup r.nodup_entries q.nodup_entries).2 fun e => ?_
    rw [mem_entries_iff, mem_entries_iff, h]
  refine eq_of_entries_eq (hperm.eq_of_pairwise (fun a b _ _ hab hba => ?_) r.ascending q.ascending)
  exact absurd (String.lt_trans hab hba) (String.lt_irrefl _)

/-! ## Writes -/

/-- The names are the same, byte for byte. -/
def SameBytes (a b : String) : Prop := Text.Utf8.encode a = Text.Utf8.encode b

theorem sameBytes_iff {a b : String} : SameBytes a b ↔ a = b := by
  constructor
  · intro h
    refine Option.some.inj ?_
    calc some a = Text.Utf8.decode? (Text.Utf8.encode a) := (Text.Utf8.decode?_encode a).symm
      _ = Text.Utf8.decode? (Text.Utf8.encode b) := congrArg Text.Utf8.decode? h
      _ = some b := Text.Utf8.decode?_encode b
  · rintro rfl
    rfl

/-- Nothing was written for the name. -/
def Unwritten (es : List (String × String)) (name : String) : Prop :=
  ∀ e ∈ es, ¬ SameBytes e.1 name

/-- The last write for the name sends it to the target. -/
def LastWrite (es : List (String × String)) (name target : String) : Prop :=
  ∃ before key after, es = before ++ (key, target) :: after ∧ SameBytes key name ∧
    Unwritten after name

theorem unwritten_iff_lookup : Unwritten es name ↔ es.lookup name = none := by
  simp only [Unwritten, sameBytes_iff, List.lookup_eq_none_iff, bne_iff_ne, ne_eq]
  exact forall₂_congr fun _ _ => not_congr eq_comm

theorem unwritten_reverse : Unwritten es.reverse name ↔ Unwritten es name := by
  simp only [Unwritten, List.mem_reverse]

theorem lastWrite_iff_lookup : LastWrite es name target ↔ es.reverse.lookup name = some target := by
  -- A look-up stops at the first entry for the name, and that is the last one before the list is
  -- reversed.
  rw [List.lookup_eq_some_iff]
  simp only [LastWrite, Unwritten, sameBytes_iff, bne_iff_ne, ne_eq]
  constructor
  · rintro ⟨before, key, after, rfl, rfl, hafter⟩
    exact ⟨after.reverse, before.reverse, by simp, fun e he =>
      Ne.symm (hafter e (List.mem_reverse.1 he))⟩
  · rintro ⟨after, before, hes, hafter⟩
    refine ⟨before.reverse, name, after.reverse, ?_, rfl, fun e he =>
      Ne.symm (hafter e (List.mem_reverse.1 he))⟩
    rw [← List.reverse_reverse es, hes]
    simp

/-- The entries that an addition writes. -/
def Addition.writes : Addition → List (String × String)
  | entry name target => [(name, target)]
  | entries list => list

/-- All that is written by additions, in order. -/
def writes (additions : List Addition) : List (String × String) :=
  additions.flatMap Addition.writes

/-! ## Building -/

theorem insertList_append : r.insertList (es ++ fs) = (r.insertList es).insertList fs :=
  List.foldl_append

/-- How the entries are grouped does not count. -/
theorem build_eq_insertList (r : Redirects) (additions : List Addition) :
    r.build additions = r.insertList (writes additions) := by
  induction additions generalizing r with
  | nil => rfl
  | cons a additions ih =>
    have hadd : r.add a = r.insertList a.writes := by cases a <;> rfl
    rw [build, List.foldl_cons, ← build, ih, hadd, ← insertList_append]
    rfl

/-- The last write for a name counts, and what was not written stays. -/
theorem target?_build (r : Redirects) (additions : List Addition) (name : String) :
    (r.build additions).target? name =
      ((writes additions).reverse.lookup name).or (r.target? name) := by
  rw [build_eq_insertList, target?_insertList]

/-- The names with an entry are those that ever were written. -/
theorem mem_names_build (r : Redirects) (additions : List Addition) (name : String) :
    name ∈ (r.build additions).entries.map Prod.fst ↔
      name ∈ (r.entries ++ writes additions).map Prod.fst := by
  have hnames (q : Redirects) : name ∈ q.entries.map Prod.fst ↔ (q.target? name).isSome := by
    simp [Option.isSome_iff_exists, ← mem_entries_iff]
  have hwrites : name ∈ (writes additions).map Prod.fst ↔
      ((writes additions).reverse.lookup name).isSome := by
    rw [Option.isSome_iff_ne_none, ne_eq, ← unwritten_iff_lookup, unwritten_reverse]
    simp [Unwritten, sameBytes_iff]
  -- A write can only give a name an entry, never take one away.
  rw [List.map_append, List.mem_append, hnames, hnames, hwrites, target?_build,
    Option.isSome_or, Bool.or_eq_true]
  exact or_comm

/-- There is one entry for each name that was ever written. -/
theorem size_build (r : Redirects) (additions : List Addition) :
    (r.build additions).size = ((r.entries ++ writes additions).map Prod.fst).toFinset.card := by
  rw [size, ← List.length_map Prod.fst, ← List.toFinset_card_of_nodup (nodup_names _)]
  congr 1
  ext name
  rw [List.mem_toFinset, List.mem_toFinset, mem_names_build]

/-- What a name is sent to where the entries of `start` were there first and those of `es` were
    written after them. -/
inductive Sends (start es : List (String × String)) (name : String) : String → Prop
  /-- The last write for the name counts. -/
  | written {target : String} (h : LastWrite es name target) : Sends start es name target
  /-- What was not written is sent where it was sent before. -/
  | kept {target : String} (h : Unwritten es name) (hstart : (name, target) ∈ start) :
    Sends start es name target
  /-- Any other name is sent to itself. -/
  | other (h : Unwritten es name) (hstart : Unwritten start name) : Sends start es name name

theorem resolve_build_iff {start : Redirects} {additions : List Addition} :
    (start.build additions).resolve name = target ↔
      Sends start.entries (writes additions) name target := by
  rw [resolve, target?_build]
  constructor
  · rintro rfl
    cases hwrite : (writes additions).reverse.lookup name with
    | some target => exact .written (lastWrite_iff_lookup.2 hwrite)
    | none =>
      have hunwritten := unwritten_reverse.1 (unwritten_iff_lookup.2 hwrite)
      cases hstart : start.target? name with
      | some target => exact .kept hunwritten (mem_entries_iff.2 hstart)
      | none => exact .other hunwritten (unwritten_iff_lookup.2 hstart)
  · rintro (hwrite | ⟨hunwritten, hstart⟩ | ⟨hunwritten, hstart⟩)
    · rw [lastWrite_iff_lookup.1 hwrite, Option.some_or, Option.getD_some]
    · rw [unwritten_iff_lookup.1 (unwritten_reverse.2 hunwritten), Option.none_or,
        mem_entries_iff.1 hstart, Option.getD_some]
    · rw [unwritten_iff_lookup.1 (unwritten_reverse.2 hunwritten), Option.none_or, target?,
        unwritten_iff_lookup.1 hstart, Option.getD_none]

/-! ## However it was built -/

/-- What the table does that was made of `start` by additions. -/
structure LastWriteWins (start : Redirects) (additions : List Addition) : Prop where
  /-- The last write for a name is the one that counts. -/
  resolve : ∀ name target, (start.build additions).resolve name = target ↔
    Sends start.entries (writes additions) name target
  /-- A target is not redirected again, be it a name with an entry of its own or not. -/
  once : ∀ name target next, Sends start.entries (writes additions) name target →
    Sends start.entries (writes additions) target next →
      (start.build additions).resolve name = target
  /-- Redirecting a name yields just that, and gives notice of one redirection at most. -/
  run : ∀ (p : Platform) (name : String) (h : Host p),
    (OpenLibrary.redirect (start.build additions) name).run h =
      ((start.build additions).resolve name,
        { h with notices :=
          h.notices ++ ((start.build additions).target? name).toList.map (.redirecting name) })
  /-- There is one entry for each name that was ever written. -/
  size :
    (start.build additions).size = ((start.entries ++ writes additions).map Prod.fst).toFinset.card
  isEmpty : (start.build additions).isEmpty = true ↔ (start.build additions).size = 0
  /-- Additions with the same last writes come to the same table. -/
  same : ∀ others,
    (∀ name target,
      LastWrite (writes others) name target ↔ LastWrite (writes additions) name target) →
    start.build others = start.build additions

/-- A table acts as the map of all that was written, whatever it was made of and by which
    additions. -/
theorem build_lastWriteWins (start : Redirects) (additions : List Addition) :
    LastWriteWins start additions := by
  constructor
  case resolve => exact fun name target => resolve_build_iff
  case once => exact fun name target next hsends _ => resolve_build_iff.2 hsends
  case run => exact fun p name h => OpenLibrary.run_redirect (start.build additions) name h
  case size => exact size_build start additions
  case isEmpty => rw [Redirects.isEmpty, Redirects.size, List.isEmpty_iff, List.length_eq_zero_iff]
  case same =>
    intro others hsame
    refine eq_of_target? fun name => ?_
    have hlookup : (writes others).reverse.lookup name = (writes additions).reverse.lookup name :=
      Option.ext fun target => by rw [← lastWrite_iff_lookup, ← lastWrite_iff_lookup, hsame]
    rw [target?_build, target?_build, hlookup]

/-- The built-in entry is overridden, three entries make a chain, and one of them sends its name to
    itself. -/
example :
    let r := builtin.build [.entry "liba.so" "libb.so",
      .entries [("libiGraphicsCore.huawei.so", "liba.so"), ("libb.so", "libc.so")],
      .entry "libb.so" "libb.so"]
    r.resolve "libiGraphicsCore.huawei.so" = "liba.so" ∧ r.resolve "liba.so" = "libb.so" ∧
      r.resolve "libb.so" = "libb.so" ∧ r.resolve "libc.so" = "libc.so" ∧ r.size = 3 := by
  decide

end Redirects

end PluginChain
