/-!
# Patterns

A `Pattern` says which texts a value may be: letters, sets of characters, boundaries, repetitions,
groups and branches. Switches change how the parts after them are meant, up to the end of their
group. `Pattern.height` counts how deep the parts of a pattern are nested.
-/

namespace RouterBinding

/-- What a pattern can turn on and off. -/
inductive Switch where
  | ignoreCase
  | manyLines
  | dotAll
  | reluctant
  | unicode
  | anyLineEnd
  | spaced
  deriving DecidableEq

/-- The switch that a letter stands for. -/
def Switch.ofLetter? (c : Char) : Option Switch :=
  if c = 'i' then some .ignoreCase
  else if c = 'm' then some .manyLines
  else if c = 's' then some .dotAll
  else if c = 'U' then some .reluctant
  else if c = 'u' then some .unicode
  else if c = 'R' then some .anyLineEnd
  else if c = 'x' then some .spaced
  else none

/-- Some switches, each with whether it is turned on. -/
abbrev Switching := List (Switch × Bool)

/-- The state of a switch after a change, if it was `before`. -/
def Switching.state (changes : Switching) (switch : Switch) (before : Bool) : Bool :=
  (changes.lookup switch).getD before

/-- A character of a pattern, and whether it is written as the code of a byte. -/
structure Letter where
  char : Char
  asByte : Bool
  deriving DecidableEq

inductive Boundary where
  | lineStart
  | lineEnd
  | textStart
  | textEnd
  | word
  | insideWord
  | wordStart
  | wordEnd
  deriving DecidableEq

/-- Whether a boundary depends on which characters are part of a word. -/
def Boundary.isOfWords : Boundary → Bool
  | .lineStart | .lineEnd | .textStart | .textEnd => false
  | .word | .insideWord | .wordStart | .wordEnd => true

/-- The sets of characters that have an escape. -/
inductive Shorthand where
  | digit
  | space
  | word
  deriving DecidableEq

/-- How two sets of characters are combined. -/
inductive SetOperator where
  | intersection
  | difference
  | symmetricDifference
  deriving DecidableEq

/-- A set of characters. -/
inductive CharSet where
  | empty
  | letter (l : Letter)
  | range (first last : Letter)
  | shorthand (kind : Shorthand) (negated : Bool)
  | named (name : String) (negated : Bool)
  | bracketed (negated : Bool) (inner : CharSet)
  /-- At least two sets side by side. -/
  | union (sets : List CharSet)
  | combined (operator : SetOperator) (left right : CharSet)

namespace CharSet

/-- The union of some sets. -/
def ofList : List CharSet → CharSet
  | [] => empty
  | [s] => s
  | sets => union sets

mutual

/-- How deep a set is nested: brackets, unions and combinations count. -/
def height : CharSet → Nat
  | bracketed _ inner => inner.height + 1
  | union sets => heightOfList sets + 1
  | combined _ left right => max left.height right.height + 1
  | _ => 0

def heightOfList : List CharSet → Nat
  | [] => 0
  | s :: sets => max s.height (heightOfList sets)

end

end CharSet

/-- The smallest part of a pattern. -/
inductive Atom where
  | letter (l : Letter)
  | any
  | boundary (b : Boundary)
  | shorthand (kind : Shorthand) (negated : Bool)
  deriving DecidableEq

/-- How often a part may stand. -/
inductive Repetition where
  | optional
  | zeroOrMore
  | oneOrMore
  deriving DecidableEq

inductive Pattern where
  | empty
  | switches (changes : Switching)
  | atom (a : Atom)
  | set (s : CharSet)
  /-- A reluctant repetition stops as early as it can. -/
  | repeated (count : Repetition) (reluctant : Bool) (p : Pattern)
  /-- A group that begins with some switches. -/
  | group (changes : Switching) (p : Pattern)
  /-- At least two parts, one after the other. -/
  | sequence (parts : List Pattern)
  /-- At least two patterns, any of which may match. -/
  | branches (options : List Pattern)

namespace Pattern

/-- Some parts, one after the other. -/
def ofParts : List Pattern → Pattern
  | [] => empty
  | [p] => p
  | parts => sequence parts

/-- Some branches. -/
def ofBranches : List Pattern → Pattern
  | [] => empty
  | [p] => p
  | options => branches options

mutual

/-- How deep a pattern is nested. -/
def height : Pattern → Nat
  | set s => s.height
  | repeated _ _ p => p.height + 1
  | group _ p => p.height + 1
  | sequence parts => heightOfList parts + 1
  | branches options => heightOfList options + 1
  | _ => 0

def heightOfList : List Pattern → Nat
  | [] => 0
  | p :: ps => max p.height (heightOfList ps)

end

end Pattern

end RouterBinding
