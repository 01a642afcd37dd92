import RouterBinding.Toml.Value

/-!
# Sections of a TOML document

A section is a table in the making. It remembers whether a header or only a longer header or a
dotted key named it, because a table that was named once may not be named again, and a table made
by dotted keys may be extended by dotted keys alone.
-/

namespace RouterBinding.Toml

mutual

/-- A table in the making: `implied` if only a longer path named it, `dotted` if that path was a
dotted key. -/
inductive Section where
  | mk (implied dotted : Bool) (entries : List (String × Entry))

/-- What a name stands for: a finished value, a section, or a list of sections. -/
inductive Entry where
  | value (v : Value)
  | single (s : Section)
  | list (ss : List Section)

end

namespace Section

def empty : Section := .mk false false []

def implied : Section → Bool
  | mk implied _ _ => implied

def dotted : Section → Bool
  | mk _ dotted _ => dotted

def entries : Section → List (String × Entry)
  | mk _ _ entries => entries

def get? (s : Section) (name : String) : Option Entry :=
  (s.entries.find? (·.1 = name)).map Prod.snd

/-- Puts an entry under a name, in the place of an earlier one. -/
def put (s : Section) (name : String) (e : Entry) : Section :=
  .mk s.implied s.dotted (s.entries.filter (·.1 ≠ name) ++ [(name, e)])

def drop (s : Section) (name : String) : Section :=
  .mk s.implied s.dotted (s.entries.filter (·.1 ≠ name))

/-- The same section named by a header of its own. -/
def named (s : Section) : Section := .mk false false s.entries

/-- Changes the section at the end of a path, making those that are not there. A value is no
section, of a list the last section is meant, and a dotted key may not pass through a section that
a header named. -/
def edit (byKey : Bool) (f : Section → Option Section) : List String → Section → Option Section
  | [], s => f s
  | name :: path, s =>
    match s.get? name with
    | none => (edit byKey f path (.mk true byKey [])).map fun t => s.put name (.single t)
    | some (.value _) => none
    | some (.single t) =>
      if byKey && !t.implied then none
      else (edit byKey f path t).map fun t => s.put name (.single t)
    | some (.list ts) =>
      match ts.getLast? with
      | none => none
      | some t => (edit byKey f path t).map fun t => s.put name (.list (ts.dropLast ++ [t]))

/-- Adds a value under a new name; dotted keys extend exactly the sections that dotted keys
made. -/
def add (throughKey : Bool) (name : String) (v : Value) (s : Section) : Option Section :=
  if s.dotted = throughKey then
    match s.get? name with
    | none => some (s.put name (.value v))
    | some _ => none
  else none

/-- Adds a value under a dotted key. -/
def addAt (path : List String) (name : String) (v : Value) (s : Section) : Option Section :=
  s.edit true (add (!path.isEmpty) name v) path

mutual

/-- The members of a finished section. -/
def members : Section → List (String × Value)
  | mk _ _ entries => entryMembers entries

def entryMembers : List (String × Entry) → List (String × Value)
  | [] => []
  | (name, e) :: rest => (name, entryValue e) :: entryMembers rest

def entryValue : Entry → Value
  | .value v => v
  | .single s => .table s.members
  | .list ss => .array (sectionValues ss)

def sectionValues : List Section → List Value
  | [] => []
  | s :: rest => .table s.members :: sectionValues rest

end

end Section

end RouterBinding.Toml
