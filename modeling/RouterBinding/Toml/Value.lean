/-!
# TOML values

A value of a TOML document. Numbers with a fraction and moments in time are kept as they are
written, since the library gives them no meaning.
-/

namespace RouterBinding.Toml

inductive Value where
  | string (text : String)
  | integer (n : Int)
  | float (text : String)
  | boolean (value : Bool)
  | moment (text : String)
  | array (items : List Value)
  | table (members : List (String × Value))

namespace Value

def text? : Value → Option String
  | .string s => some s
  | _ => none

def int? : Value → Option Int
  | .integer n => some n
  | _ => none

/-- The value of a member. -/
def member? (members : List (String × Value)) (name : String) : Option Value :=
  (members.find? (·.1 = name)).map Prod.snd

end Value

end RouterBinding.Toml
