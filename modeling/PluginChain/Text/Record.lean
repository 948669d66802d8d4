import PluginChain.Text.Quoted

/-!
# Records as text

The one-line form in which a value shows its parts: a record as its name and its fields in braces, a
list in square brackets, an optional value as `None` or `Some(…)`. A record that keeps fields to
itself ends in two dots.
-/

namespace PluginChain.Text

/-- The fields of a record, each as its name, a colon and its value. -/
def fieldList (fields : List (String × String)) : String :=
  ", ".intercalate (fields.map fun f => f.1 ++ ": " ++ f.2)

/-- A record that shows all its fields. -/
def record (name : String) (fields : List (String × String)) : String :=
  name ++ " \x7b " ++ fieldList fields ++ " \x7d"

/-- A record that shows the given fields and has others. -/
def partialRecord (name : String) (fields : List (String × String)) : String :=
  name ++ " \x7b " ++ fieldList fields ++ ", .. \x7d"

/-- A list of values. -/
def listing (items : List String) : String :=
  "[" ++ ", ".intercalate items ++ "]"

/-- A value that may be missing. -/
def optional : Option String → String
  | none => "None"
  | some s => "Some(" ++ s ++ ")"

/-- A truth value. -/
def flag (b : Bool) : String :=
  if b then "true" else "false"

end PluginChain.Text
