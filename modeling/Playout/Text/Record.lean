/-!
# Values written out field by field

Descriptions of structured values, for a reader who wants to see every field:
`Name { field: value, field: value }`, an optional value as `Some(value)` or `None`, and a quoted
piece of text.
-/

namespace Playout.Text

/-- A value of a named kind with its fields. -/
def record (name : String) (fields : List (String × String)) : String :=
  let entries := fields.map fun (field, value) => field ++ ": " ++ value
  name ++ " \x7b " ++ String.intercalate ", " entries ++ " \x7d"

/-- An optional value. -/
def optional : Option String → String
  | some value => "Some(" ++ value ++ ")"
  | none => "None"

/-- A truth value. -/
def truth (b : Bool) : String := if b then "true" else "false"

/-- A text in quotes; for texts without quotes, backslashes and control characters. -/
def quoted (s : String) : String := "\"" ++ s ++ "\""

end Playout.Text
