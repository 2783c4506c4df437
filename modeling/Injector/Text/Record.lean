/-!
# The diagnostic form of structured values

A record shows its name and its fields, a list its items between brackets.
-/

set_option autoImplicit false

namespace Injector.Text

def record (name : String) (fields : List (String × String)) : String :=
  name ++ " \x7b " ++ ", ".intercalate (fields.map fun f => s!"{f.1}: {f.2}") ++ " \x7d"

def listed (items : List String) : String := "[" ++ ", ".intercalate items ++ "]"

def truth (b : Bool) : String := if b then "true" else "false"

def optional (item : Option String) : String :=
  match item with
  | none => "None"
  | some text => s!"Some({text})"

end Injector.Text
