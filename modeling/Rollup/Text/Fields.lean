/-
Records in words: a name, then the fields between braces.

`fields "Point" [("x", "1"), ("y", "2")]` is the name, a blank, and the two fields
with their values, separated by a comma and a blank.
-/

set_option autoImplicit false

namespace Rollup.Text

/-- A record with a name and with fields, whose values are in words already. -/
def fields (name : String) (values : List (String × String)) : String :=
  name ++ " \x7b " ++ ", ".intercalate (values.map fun v => v.1 ++ ": " ++ v.2) ++ " \x7d"

/-- A record of which only some fields are shown. -/
def someFields (name : String) (values : List (String × String)) : String :=
  name ++ " \x7b " ++ String.join (values.map fun v => v.1 ++ ": " ++ v.2 ++ ", ") ++ ".. \x7d"

/-- A value that may be missing. -/
def optionText (value : Option String) : String :=
  match value with
  | some text => "Some(" ++ text ++ ")"
  | none => "None"

/-- A truth value. -/
def boolText (b : Bool) : String := if b then "true" else "false"

end Rollup.Text
