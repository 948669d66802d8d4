import PluginChain.Plugin.Symbols

/-!
# Load reports

A report says what the last load acquired and why it ended, if it failed.

In `osrkit` this is `LoadReport`.
-/

namespace PluginChain

/-- What the last load acquired. -/
structure LoadReport where
  /-- The version of the list of symbols that the load went by; zero before any load. -/
  symbolSetVersion : Nat := 0
  /-- The auxiliary libraries that opened, in the order of opening. -/
  primed : List Identity := []
  /-- The auxiliary libraries that did not open. -/
  misses : List String := []
  /-- The primary library, if it opened. -/
  primary : Option Identity := none
  /-- The symbols, if all required ones were found. -/
  symbols : List SymbolStatus := []
  /-- The wording of the error that ended the load. -/
  error : Option String := none
deriving DecidableEq, Repr

/-- The status of a symbol as records show it. -/
def SymbolStatus.inspect (s : SymbolStatus) : String :=
  Text.record "SymbolStatus"
    [("name", Text.quote s.name), ("required", Text.flag s.required),
      ("present", Text.flag s.present)]

/-- A report as records show it. -/
def LoadReport.inspect (r : LoadReport) : String :=
  Text.record "LoadReport"
    [("symbol_set_version", toString r.symbolSetVersion),
      ("primed", Text.listing (r.primed.map Identity.inspect)),
      ("primed_misses", Text.listing (r.misses.map Text.quote)),
      ("primary", Text.optional (r.primary.map Identity.inspect)),
      ("symbols", Text.listing (r.symbols.map SymbolStatus.inspect)),
      ("error", Text.optional (r.error.map Text.quote))]

end PluginChain
