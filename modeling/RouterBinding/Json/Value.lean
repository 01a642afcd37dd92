import RouterBinding.Json.Number
import RouterBinding.Ordered.Table

/-!
# Free-form JSON values

A `Value` is what a member without a fixed type may hold. The members of its objects are sorted by
name, and of two members with one name the later one stays. `Value.ofTree?` takes a value from a
tree that nests no deeper than it is allowed to, and `Value.toTree` writes it back.
-/

namespace RouterBinding.Json

/-- A value whose objects list their members by increasing name. -/
inductive Value where
  | null
  | bool (value : Bool)
  | number (number : Number)
  | string (text : String)
  | array (items : List Value)
  | object (members : List (String × Value))

namespace Value

def text? : Value → Option String
  | .string s => some s
  | _ => none

def bool? : Value → Option Bool
  | .bool b => some b
  | _ => none

mutual

/-- The value of a tree whose arrays and objects nest at most `room` deep. -/
def ofTree? (room : Nat) : Tree → Option Value
  | .null => some .null
  | .bool b => some (.bool b)
  | .number n => (Number.ofNumeral? n).map .number
  | .string s => s.map .string
  | .array items => do
    guard (0 < room)
    some (.array (← itemsOfTrees? (room - 1) items))
  | .object members => do
    guard (0 < room)
    some (.object (Table.ofRows (← membersOfTrees? (room - 1) members)).rows)

def itemsOfTrees? (room : Nat) : List Tree → Option (List Value)
  | [] => some []
  | item :: items => do
    let value ← ofTree? room item
    some (value :: (← itemsOfTrees? room items))

def membersOfTrees? (room : Nat) : List (Option String × Tree) → Option (List (String × Value))
  | [] => some []
  | (name, tree) :: members => do
    let value ← ofTree? room tree
    some ((← name, value) :: (← membersOfTrees? room members))

end

/-- The table of the members of an object that nests at most `room` deep. -/
def tableOfTree? (room : Nat) : Tree → Option (Table String Value)
  | .object members => do
    guard (0 < room)
    some (Table.ofRows (← membersOfTrees? (room - 1) members))
  | _ => none

mutual

/-- The tree of a value. -/
def toTree : Value → Tree
  | .null => .null
  | .bool b => .bool b
  | .number n => .number n.toNumeral
  | .string s => .text s
  | .array items => .array (itemTrees items)
  | .object members => .object (memberTrees members)

def itemTrees : List Value → List Tree
  | [] => []
  | item :: items => item.toTree :: itemTrees items

def memberTrees : List (String × Value) → List (Option String × Tree)
  | [] => []
  | (name, value) :: members => (some name, value.toTree) :: memberTrees members

end

/-- The tree of a table of values. -/
def tableTree (t : Table String Value) : Tree := .object (memberTrees t.rows)

end Value

end RouterBinding.Json
