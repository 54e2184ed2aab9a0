namespace LedBench.Text

/-- A structure with its name and fields on one line, for a person who debugs it. -/
def listing (name : String) (fields : List (String × String)) : String :=
  name ++ " \x7b " ++ ", ".intercalate (fields.map fun (f, v) => f ++ ": " ++ v) ++ " \x7d"

def listed (items : List String) : String := "[" ++ ", ".intercalate items ++ "]"

def optionText : Option String → String
  | none => "None"
  | some s => "Some(" ++ s ++ ")"

def boolText (b : Bool) : String := if b then "true" else "false"

end LedBench.Text
