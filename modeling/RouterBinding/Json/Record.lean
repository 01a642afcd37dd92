import RouterBinding.Json.Tree

/-!
# Records in JSON

A record type declares the names of its members in order. `Tree.record?` finds the members in an
object, where further members are passed over and a declared one may not come twice, or in an
array that lists them in declared order, where only the members marked as omissible may be left
off the end. `Record.required?`, `Record.optional?` and `Record.default?` then decode one member.
-/

namespace RouterBinding.Json

/-- A declared member: its name and whether an array may end before it. -/
structure Member where
  name : String
  omissible : Bool := false

/-- The declared members that a text gives, with their trees. -/
structure Record where
  found : List (String × Tree)

namespace Record

/-- The names of the members of an object, if each of them is a text. -/
def named? : List (Option String × Tree) → Option (List (String × Tree))
  | [] => some []
  | (name, tree) :: members => do
    some ((← name, tree) :: (← named? members))

/-- The declared members of an object, if none of them comes twice. -/
def ofMembers? (declared : List Member) (members : List (Option String × Tree)) :
    Option Record := do
  let members ← named? members
  let found := members.filter fun member => declared.any (·.name = member.1)
  guard (declared.all fun member => (found.filter (·.1 = member.name)).length ≤ 1)
  some ⟨found⟩

/-- The declared members of an array, if it is not too long and what it leaves off is omissible. -/
def ofItems? (declared : List Member) (items : List Tree) : Option Record := do
  guard (items.length ≤ declared.length)
  guard ((declared.drop items.length).all (·.omissible))
  some ⟨(declared.map (·.name)).zip items⟩

def get? (r : Record) (name : String) : Option Tree :=
  (r.found.find? (·.1 = name)).map Prod.snd

variable {α : Type}

/-- A member that must be there. -/
def required? (r : Record) (name : String) (decode : Tree → Option α) : Option α := do
  decode (← r.get? name)

/-- A member that is none if it is missing or null. -/
def optional? (r : Record) (name : String) (decode : Tree → Option α) : Option (Option α) :=
  match r.get? name with
  | none => some none
  | some .null => some none
  | some tree => (decode tree).map some

/-- A member that has a value of its own if it is missing. -/
def default? (r : Record) (name : String) (fallback : α) (decode : Tree → Option α) : Option α :=
  match r.get? name with
  | none => some fallback
  | some tree => decode tree

end Record

namespace Tree

/-- The members of a record type in an object or an array. -/
def record? (declared : List Member) : Tree → Option Record
  | .object members => Record.ofMembers? declared members
  | .array items => Record.ofItems? declared items
  | _ => none

def text? : Tree → Option String
  | .string s => s
  | _ => none

def bool? : Tree → Option Bool
  | .bool b => some b
  | _ => none

/-- The items of an array, each decoded. -/
def list? {α : Type} (decode : Tree → Option α) : Tree → Option (List α)
  | .array items => items.mapM decode
  | _ => none

end Tree

end RouterBinding.Json
