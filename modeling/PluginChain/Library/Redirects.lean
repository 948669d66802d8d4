/-!
# Redirections of library names

A redirection table sends a requested library name to the name that is opened instead. The table is
a finite map, kept as the list of its entries in ascending order of the requested name, so that two
tables with the same entries are equal. A name is looked up byte for byte and at most once: the
target of a redirection is not redirected again. Tables are built by additions, of one entry or of
several at once.

In `osrkit` a table is a `NameRedirector`: `insert` is its `with_entry`, `insertAll` its
`with_entries`, `resolve` its `redirect`, and `builtin` holds the `BUILTIN_REDIRECTS`.

* `target?_insert`, `target?_insertList`: the last entry written for a name is the one that counts.
* `insertList_entries`: a table is made again by writing its entries.
-/

namespace PluginChain

/-- A finite map from requested library names to the names opened instead, in ascending order of the
    former. -/
structure Redirects where
  /-- The requested names and their targets. -/
  entries : List (String × String)
  ascending : entries.Pairwise (fun a b => a.1 < b.1)
deriving DecidableEq

namespace Redirects

/-! ## Writing an entry into an ascending list -/

/-- Puts the entry for `name` in its place and drops the one that was there. -/
def write (name target : String) : List (String × String) → List (String × String)
  | [] => [(name, target)]
  | e :: es =>
    if name < e.1 then (name, target) :: e :: es
    else if e.1 < name then e :: write name target es
    else (name, target) :: es

theorem eq_or_mem_of_mem_write {name target : String} {es : List (String × String)}
    {x : String × String} (h : x ∈ write name target es) : x = (name, target) ∨ x ∈ es := by
  induction es with
  | nil => simpa [write] using h
  | cons e es ih =>
    simp only [write] at h
    split at h
    · simpa using h
    · split at h
      · rcases List.mem_cons.1 h with h | h
        · exact .inr (by simp [h])
        · exact (ih h).imp_right (List.mem_cons_of_mem _)
      · rcases List.mem_cons.1 h with h | h
        · exact .inl h
        · exact .inr (List.mem_cons_of_mem _ h)

theorem pairwise_write {name target : String} {es : List (String × String)}
    (h : es.Pairwise (fun a b => a.1 < b.1)) :
    (write name target es).Pairwise (fun a b => a.1 < b.1) := by
  induction es with
  | nil => simp [write]
  | cons e es ih =>
    have he := List.pairwise_cons.1 h
    simp only [write]
    split
    · rename_i hlt
      refine List.pairwise_cons.2 ⟨fun x hx => ?_, h⟩
      rcases List.mem_cons.1 hx with rfl | hx
      · exact hlt
      · exact String.lt_trans hlt (he.1 x hx)
    · rename_i hge
      split
      · rename_i hgt
        refine List.pairwise_cons.2 ⟨fun x hx => ?_, ih he.2⟩
        rcases eq_or_mem_of_mem_write hx with rfl | hx
        · exact hgt
        · exact he.1 x hx
      · rename_i hle
        have heq : e.1 = name := String.le_antisymm (String.not_lt.1 hge) (String.not_lt.1 hle)
        exact List.pairwise_cons.2 ⟨fun x hx => heq ▸ he.1 x hx, he.2⟩

theorem lookup_write (name target n : String) (es : List (String × String)) :
    (write name target es).lookup n = if n = name then some target else es.lookup n := by
  induction es with
  | nil => simp [write, List.lookup_singleton]
  | cons e es ih =>
    obtain ⟨k, v⟩ := e
    simp only [write]
    by_cases h : n = name
    · subst h
      split
      · simp
      · split
        · rename_i hgt
          have hne : (n == k) = false := by
            simp only [beq_eq_false_iff_ne, ne_eq]
            rintro rfl
            exact String.lt_irrefl _ hgt
          simpa [List.lookup_cons, hne] using ih
        · simp
    · have hn : (n == name) = false := by simpa using h
      split
      · simp [List.lookup_cons, hn]
      · split
        · simp only [List.lookup_cons, ih, h, if_false]
        · rename_i hge hle
          have heq : k = name := String.le_antisymm (String.not_lt.1 hge) (String.not_lt.1 hle)
          subst heq
          simp [List.lookup_cons, hn]

/-- A name greater than all others goes to the end. -/
theorem write_eq_append {name target : String} {es : List (String × String)}
    (h : ∀ e ∈ es, e.1 < name) :
    write name target es = es ++ [(name, target)] := by
  induction es with
  | nil => rfl
  | cons e es ih =>
    have he : e.1 < name := h e (by simp)
    have hge : ¬ name < e.1 := fun hlt => String.lt_irrefl _ (String.lt_trans he hlt)
    rw [write, if_neg hge, if_pos he, ih fun x hx => h x (by simp [hx]), List.cons_append]

/-! ## The table -/

/-- The table without entries. -/
def empty : Redirects := ⟨[], .nil⟩

/-- Adds an entry, in place of the one with the same name. -/
def insert (r : Redirects) (name target : String) : Redirects :=
  ⟨write name target r.entries, pairwise_write r.ascending⟩

/-- Adds every entry of a list, the first one first. -/
def insertList (r : Redirects) (entries : List (String × String)) : Redirects :=
  entries.foldl (fun r e => r.insert e.1 e.2) r

/-- Adds every entry of another table. -/
def insertAll (r extra : Redirects) : Redirects :=
  r.insertList extra.entries

/-- One addition to a table. -/
inductive Addition where
  /-- Of one entry. -/
  | entry (name target : String)
  /-- Of every entry of a list, the first one first. -/
  | entries (list : List (String × String))
deriving DecidableEq, Repr

/-- The table after one addition. -/
def add (r : Redirects) : Addition → Redirects
  | .entry name target => r.insert name target
  | .entries list => r.insertList list

/-- The table after several additions, the first one first. -/
def build (r : Redirects) (additions : List Addition) : Redirects :=
  additions.foldl add r

/-- The entry every table starts from: a plugin may ask for the graphics core that is not public,
    and the public client library exports the same functions. -/
def builtinEntries : List (String × String) :=
  [("libiGraphicsCore.huawei.so", "libigs_client.so")]

/-- The table that holds `builtinEntries` alone. -/
def builtin : Redirects := empty.insertList builtinEntries

/-- The target of the entry for `name`, if there is one. -/
def target? (r : Redirects) (name : String) : Option String :=
  r.entries.lookup name

/-- The name to open for `name`: the target of its entry, or `name` itself. -/
def resolve (r : Redirects) (name : String) : String :=
  (r.target? name).getD name

/-- The number of entries. -/
def size (r : Redirects) : Nat := r.entries.length

/-- Whether there is no entry. -/
def isEmpty (r : Redirects) : Bool := r.entries.isEmpty

/-- The last entry written for a name is the one that counts. -/
theorem target?_insert (r : Redirects) (name target n : String) :
    (r.insert name target).target? n = if n = name then some target else r.target? n :=
  lookup_write name target n r.entries

theorem target?_insertList (r : Redirects) (es : List (String × String)) (n : String) :
    (r.insertList es).target? n = (es.reverse.lookup n).or (r.target? n) := by
  induction es generalizing r with
  | nil => rfl
  | cons e es ih =>
    rw [insertList, List.foldl_cons, ← insertList, ih, target?_insert, List.reverse_cons,
      List.lookup_append, Option.or_assoc, List.lookup_singleton]
    by_cases h : n = e.1 <;> simp [h]

theorem eq_of_entries_eq {r q : Redirects} (h : r.entries = q.entries) : r = q := by
  cases r
  cases q
  cases h
  rfl

theorem entries_insertList {r : Redirects} {es : List (String × String)}
    (h : (r.entries ++ es).Pairwise (fun a b => a.1 < b.1)) :
    (r.insertList es).entries = r.entries ++ es := by
  induction es generalizing r with
  | nil => simp [insertList]
  | cons e es ih =>
    have hlast : (r.insert e.1 e.2).entries = r.entries ++ [e] :=
      write_eq_append fun x hx => (List.pairwise_append.1 h).2.2 x hx e (by simp)
    have hnext := ih (r := r.insert e.1 e.2) (by rwa [hlast, ← List.append_cons])
    rw [hlast, ← List.append_cons] at hnext
    exact hnext

/-- A table is made again by writing its entries. -/
theorem insertList_entries (r : Redirects) : empty.insertList r.entries = r :=
  eq_of_entries_eq (entries_insertList r.ascending)

@[simp] theorem target?_empty (n : String) : empty.target? n = none := rfl

theorem resolve_of_target? {r : Redirects} {name target : String}
    (h : r.target? name = some target) :
    r.resolve name = target := by simp [resolve, h]

theorem resolve_of_target?_none {r : Redirects} {name : String} (h : r.target? name = none) :
    r.resolve name = name := by simp [resolve, h]

end Redirects

end PluginChain
