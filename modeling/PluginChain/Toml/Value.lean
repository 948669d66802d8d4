/-!
# Values of TOML

A document is a table: a list of entries with distinct keys, in the order in which they were
written. A table remembers how it came about, because that decides what may still be added to it.
-/

namespace PluginChain.Toml

/-- How a table came about. -/
inductive Origin where
  /-- Written in braces; it is complete. -/
  | inline
  /-- Opened by a header of its own. -/
  | header
  /-- Implied by the header of a table inside it. -/
  | implied
  /-- Made by dots in a key. -/
  | dotted
deriving DecidableEq, Repr

/-- A value. -/
inductive Value where
  | text (s : String)
  | integer (n : Int)
  | fraction (written : String)
  | boolean (b : Bool)
  | moment (written : String)
  | array (items : List Value)
  | table (origin : Origin) (entries : List (String × Value))
  /-- Tables under one header in double brackets, the oldest first. -/
  | tables (elements : List (List (String × Value)))

/-- The entries of a table. -/
abbrev Entries := List (String × Value)

/-- A dotted key: the tables it leads through, and the name of the entry in the last of them. -/
structure Key where
  parents : List String
  name : String
deriving DecidableEq, Repr

namespace Entries

/-- The entries with the value under `key` replaced. -/
def replace (entries : Entries) (key : String) (value : Value) : Entries :=
  entries.map fun e => if e.1 = key then (key, value) else e

/-- Applies `f` to the table that `path` leads to. On the way, a key without an entry gets a new
    table that came about in the way `origin` says, and tables under one header are entered through
    the last of them. The way is barred by any other value, by a table in braces, and for dotted
    keys by a table with a header of its own. -/
def within (origin : Origin) (f : Origin → Entries → Option Entries) :
    (path : List String) → Origin → Entries → Option Entries
  | [], own, entries => f own entries
  | key :: path, _, entries =>
    match entries.lookup key with
    | none =>
      (within origin f path origin []).map fun new => entries ++ [(key, .table origin new)]
    | some (.table own inner) =>
      if own = .inline || (origin = .dotted && own = .header) then none
      else (within origin f path own inner).map fun new => entries.replace key (.table own new)
    | some (.tables elements) =>
      match elements.getLast? with
      | none => none
      | some last =>
        (within origin f path .header last).map fun new =>
          entries.replace key (.tables (elements.dropLast ++ [new]))
    | some _ => none

/-- Adds an entry to a table that came about in the way `own` says. The key must be new. A table
    made by dots takes entries from dotted keys only, and a dotted key ends in such a table only. -/
def assign (own : Origin) (entries : Entries) (key : Key) (value : Value) : Option Entries :=
  within .dotted (fun own entries =>
    if (own = .dotted) = key.parents.isEmpty then none
    else if (entries.lookup key.name).isSome then none
    else some (entries ++ [(key.name, value)])) key.parents own entries

/-- Opens the table of a header. It must be new, or implied and not opened yet. -/
def openTable (entries : Entries) (key : Key) : Option Entries :=
  within .implied (fun _ entries =>
    match entries.lookup key.name with
    | none => some (entries ++ [(key.name, .table .header [])])
    | some (.table .implied inner) => some (entries.replace key.name (.table .header inner))
    | some _ => none) key.parents .header entries

/-- Opens one more table under a header in double brackets. -/
def openElement (entries : Entries) (key : Key) : Option Entries :=
  within .implied (fun _ entries =>
    match entries.lookup key.name with
    | none => some (entries ++ [(key.name, .tables [[]])])
    | some (.tables elements) => some (entries.replace key.name (.tables (elements ++ [[]])))
    | some _ => none) key.parents .header entries

end Entries

end PluginChain.Toml
