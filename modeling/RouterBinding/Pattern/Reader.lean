import RouterBinding.Pattern.Basic
import RouterBinding.Text.Hexadecimal
import RouterBinding.Text.Numeric

/-!
# Reading patterns

`Pattern.read?` reads a pattern. Where the switch for it is on, blanks and remarks between the
parts are passed over. There are no counted repetitions and no codes between braces, so an open
brace that is not a member of a set has to be escaped. The functions take the characters still to
be read and return what is left of them.
-/

namespace RouterBinding

namespace Pattern

/-! ## Blanks and remarks -/

/-- Passes over blanks and remarks; a remark reaches from a number sign to the end of its line. -/
def skipRemarks (inRemark : Bool) : List Char → List Char
  | [] => []
  | c :: rest =>
    if inRemark then skipRemarks (c ≠ '\n') rest
    else if Text.isBlank c then skipRemarks false rest
    else if c = '#' then skipRemarks true rest
    else c :: rest

/-- Passes over what does not count. -/
def skip (spaced : Bool) (cs : List Char) : List Char :=
  if spaced then skipRemarks false cs else cs

/-- The next character that is no blank. A number sign before it is passed over, but not what
follows it as a remark; if there is none, it is the next character of all. -/
def peek? (spaced : Bool) (cs : List Char) : Option Char :=
  if spaced then
    let rest := match cs.dropWhile Text.isBlank with
      | '#' :: rest => rest.dropWhile Text.isBlank
      | rest => rest
    match rest with
    | c :: _ => some c
    | [] => cs.head?
  else cs.head?

/-! ## Escapes -/

/-- The digits of a code. -/
def hexDigits? (spaced : Bool) : (count : Nat) → List Char → Option (List Char × List Char)
  | 0, cs => some ([], cs)
  | count + 1, cs =>
    match skip spaced cs with
    | [] => none
    | c :: rest => do
      guard (hexValue? c).isSome
      let (digits, rest) ← hexDigits? spaced count rest
      some (c :: digits, rest)

/-- A letter by its code, which has so many digits; one of two digits is a byte. -/
def codedLetter? (spaced : Bool) (count : Nat) (cs : List Char) :
    Option (Atom × List Char) := do
  let (digits, rest) ← hexDigits? spaced count cs
  let c ← charOfCode? (← hexNumber? digits)
  some (.letter ⟨c, count = 2⟩, rest)

/-- The escapes that are one character after the backslash. -/
def namedAtoms : List (Char × Atom) :=
  [('d', .shorthand .digit false), ('D', .shorthand .digit true),
    ('s', .shorthand .space false), ('S', .shorthand .space true),
    ('w', .shorthand .word false), ('W', .shorthand .word true),
    ('A', .boundary .textStart), ('z', .boundary .textEnd),
    ('b', .boundary .word), ('B', .boundary .insideWord),
    ('<', .boundary .wordStart), ('>', .boundary .wordEnd),
    ('a', .letter ⟨'\x07', false⟩), ('f', .letter ⟨'\x0c', false⟩),
    ('t', .letter ⟨'\t', false⟩), ('n', .letter ⟨'\n', false⟩),
    ('r', .letter ⟨'\r', false⟩), ('v', .letter ⟨'\x0b', false⟩)]

/-- What a character after a backslash stands for: other characters of ASCII than letters and
digits stand for themselves. -/
def escaped? (c : Char) : Option Atom :=
  match namedAtoms.lookup c with
  | some a => some a
  | none => if c.toNat < 0x80 && !c.isAlphanum then some (.letter ⟨c, false⟩) else none

/-- An escape after its backslash. -/
def escape? (spaced : Bool) : List Char → Option (Atom × List Char)
  | [] => none
  | 'x' :: rest => codedLetter? spaced 2 rest
  | 'u' :: rest => codedLetter? spaced 4 rest
  | 'U' :: rest => codedLetter? spaced 8 rest
  | c :: rest => do some (← escaped? c, rest)

/-! ## Sets of characters -/

/-- A character or an escape inside of brackets. -/
def setAtom? (spaced : Bool) : List Char → Option (Atom × List Char)
  | [] => none
  | '\\' :: rest => escape? spaced rest
  | c :: rest => some (.letter ⟨c, false⟩, rest)

/-- The letter that an atom is. -/
def letterOf? : Atom → Option Letter
  | .letter l => some l
  | _ => none

/-- The set that an atom is. -/
def setOf? : Atom → Option CharSet
  | .letter l => some (.letter l)
  | .shorthand kind negated => some (.shorthand kind negated)
  | _ => none

/-- A member of a set or a range of them. A dash before a bracket or another dash makes no
range. -/
def setItem? (spaced : Bool) (cs : List Char) : Option (CharSet × List Char) := do
  let (first, rest) ← setAtom? spaced cs
  match skip spaced rest with
  | '-' :: more =>
    if peek? spaced more = some ']' ∨ peek? spaced more = some '-' then
      some (← setOf? first, '-' :: more)
    else
      let (last, rest) ← setAtom? spaced (skip spaced more)
      let first ← letterOf? first
      let last ← letterOf? last
      if first.char ≤ last.char then some (.range first last, rest) else none
  | rest => some (← setOf? first, rest)

/-- The sets that have a name. -/
def setNames : List String :=
  ["alnum", "alpha", "ascii", "blank", "cntrl", "digit", "graph", "lower", "print", "punct",
    "space", "upper", "word", "xdigit"]

/-- A named set after its opening bracket. -/
def namedSet? : List Char → Option (CharSet × List Char)
  | ':' :: rest =>
    let (negated, rest) := match rest with
      | '^' :: rest => (true, rest)
      | _ => (false, rest)
    let name := String.ofList (rest.takeWhile (· ≠ ':'))
    match rest.dropWhile (· ≠ ':') with
    | ':' :: ']' :: rest => if name ∈ setNames then some (.named name negated, rest) else none
    | _ => none
  | _ => none

/-- The operator in front, if there is one. -/
def setOperator? : List Char → Option (SetOperator × List Char)
  | '&' :: '&' :: rest => some (.intersection, rest)
  | '-' :: '-' :: rest => some (.difference, rest)
  | '~' :: '~' :: rest => some (.symmetricDifference, rest)
  | _ => none

/-- The sets read so far: what stands on the left of an operator, and the items after it with the
last one first. -/
structure OpenSet where
  left : Option (SetOperator × CharSet)
  items : List CharSet

namespace OpenSet

def close (s : OpenSet) : CharSet :=
  let right := CharSet.ofList s.items.reverse
  match s.left with
  | some (operator, left) => .combined operator left right
  | none => right

def push (s : OpenSet) (item : CharSet) : OpenSet := { s with items := item :: s.items }

/-- Goes on behind an operator. -/
def operate (s : OpenSet) (operator : SetOperator) : OpenSet := ⟨some (operator, s.close), []⟩

end OpenSet

/-- The mark of a negation after an opening bracket. -/
def negation (spaced : Bool) (cs : List Char) : Bool × List Char :=
  match skip spaced cs with
  | '^' :: rest => (true, rest)
  | rest => (false, rest)

/-- A set up to its closing bracket. Dashes at its very beginning are members, and a closing bracket
there is one too; `fuel` bounds the calls. -/
def openSet? : (fuel : Nat) → (spaced atStart : Bool) → OpenSet → List Char →
    Option (CharSet × List Char)
  | 0, _, _, _, _ => none
  | fuel + 1, spaced, atStart, s, cs =>
    let cs := skip spaced cs
    match cs, atStart, setOperator? cs with
    | [], _, _ => none
    | '-' :: rest, true, _ => openSet? fuel spaced true (s.push (.letter ⟨'-', false⟩)) rest
    | ']' :: rest, _, _ =>
      if atStart ∧ s.items.isEmpty then
        openSet? fuel spaced false (s.push (.letter ⟨']', false⟩)) rest
      else some (s.close, rest)
    | '[' :: rest, _, _ =>
      match namedSet? rest with
      | some (named, rest) => openSet? fuel spaced false (s.push named) rest
      | none => do
        let (negated, rest) := negation spaced rest
        let (inner, rest) ← openSet? fuel spaced true ⟨none, []⟩ rest
        openSet? fuel spaced false (s.push (.bracketed negated inner)) rest
    | _, _, some (operator, rest) => openSet? fuel spaced false (s.operate operator) rest
    | _, _, none => do
      let (item, rest) ← setItem? spaced cs
      openSet? fuel spaced false (s.push item) rest

/-! ## Groups -/

/-- Whether some characters can be the name of a group. -/
def isGroupName : List Char → Bool
  | [] => false
  | c :: rest =>
    (c = '_' || Text.isAlphabetic c) &&
      rest.all fun c => c ∈ ['_', '.', '[', ']'] || Text.isAlphanumeric c

/-- Switches up to a colon or a closing parenthesis, which is left. Each of them stands once, and
those behind a minus sign are turned off. -/
def switches? (seen : Switching) (afterMinus minusLast : Bool) :
    List Char → Option (Switching × List Char)
  | [] => none
  | c :: rest =>
    if c = ':' ∨ c = ')' then if minusLast then none else some (seen.reverse, c :: rest)
    else if c = '-' then if afterMinus then none else switches? seen true true rest
    else do
      let switch ← Switch.ofLetter? c
      if (seen.lookup switch).isSome then none
      else switches? ((switch, !afterMinus) :: seen) afterMinus false rest

/-- What is left to be read, and the names of the groups before it. -/
structure Source where
  rest : List Char
  names : List (List Char)

/-- How a parenthesis goes on. -/
inductive Opening where
  | switches (changes : Switching)
  | group (changes : Switching)

/-- A group's name after its opening angle bracket. -/
def groupName? (s : Source) : Option Source :=
  let name := s.rest.takeWhile (· ≠ '>')
  match s.rest.dropWhile (· ≠ '>') with
  | '>' :: rest =>
    if isGroupName name && !s.names.contains name then some ⟨rest, name :: s.names⟩ else none
  | _ => none

/-- What follows an opening parenthesis up to the parts of the group. -/
def opening? (spaced : Bool) (s : Source) : Option (Opening × Source) :=
  match skip spaced s.rest with
  | '?' :: 'P' :: '<' :: rest => do some (.group [], ← groupName? { s with rest })
  | '?' :: '<' :: rest => do some (.group [], ← groupName? { s with rest })
  | '?' :: rest => do
    match ← switches? [] false false rest with
    | (changes, ':' :: rest) => some (.group changes, { s with rest })
    | (changes, _ :: rest) =>
      if changes.isEmpty then none else some (.switches changes, { s with rest })
    | _ => none
  | rest => some (.group [], { s with rest })

/-! ## Parts -/

/-- The mark of a repetition in front. -/
def repetition? : List Char → Option (Repetition × List Char)
  | '?' :: rest => some (.optional, rest)
  | '*' :: rest => some (.zeroOrMore, rest)
  | '+' :: rest => some (.oneOrMore, rest)
  | _ => none

/-- The mark of a reluctant repetition behind the one for its count. -/
def reluctance : List Char → Bool × List Char
  | '?' :: rest => (true, rest)
  | cs => (false, cs)

/-- The parts with the last one first, after a repetition of that one. There has to be one, and
switches cannot be repeated. -/
def repeatLast? (count : Repetition) (reluctant : Bool) : List Pattern → Option (List Pattern)
  | [] => none
  | .switches _ :: _ => none
  | p :: parts => some (.repeated count reluctant p :: parts)

def atom? (spaced : Bool) : List Char → Option (Atom × List Char)
  | [] => none
  | '\\' :: rest => escape? spaced rest
  | '.' :: rest => some (.any, rest)
  | '^' :: rest => some (.boundary .lineStart, rest)
  | '$' :: rest => some (.boundary .lineEnd, rest)
  | '\x7b' :: _ => none
  | c :: rest => some (.letter ⟨c, false⟩, rest)

/-- The branches of a group read so far and the parts of the last one, both with the last one
first. -/
structure OpenGroup where
  branches : List Pattern
  parts : List Pattern

namespace OpenGroup

def empty : OpenGroup := ⟨[], []⟩

def push (g : OpenGroup) (p : Pattern) : OpenGroup := { g with parts := p :: g.parts }

/-- Begins another branch. -/
def branch (g : OpenGroup) : OpenGroup := ⟨ofParts g.parts.reverse :: g.branches, []⟩

def close (g : OpenGroup) : Pattern := ofBranches g.branch.branches.reverse

end OpenGroup

/-- A group up to the parenthesis that closes it, which is left, or to the end of the text; `fuel`
bounds the calls. -/
def openGroup? : (fuel : Nat) → (spaced : Bool) → OpenGroup → Source → Option (Pattern × Source)
  | 0, _, _, _ => none
  | fuel + 1, spaced, g, s =>
    match skip spaced s.rest with
    | [] => some (g.close, { s with rest := [] })
    | ')' :: rest => some (g.close, { s with rest := ')' :: rest })
    | '|' :: rest => openGroup? fuel spaced g.branch { s with rest }
    | '(' :: rest => do
      match ← opening? spaced { s with rest } with
      | (.switches changes, s) =>
        openGroup? fuel (changes.state .spaced spaced) (g.push (.switches changes)) s
      | (.group changes, s) =>
        let (p, s) ← openGroup? fuel (changes.state .spaced spaced) .empty s
        match s.rest with
        | ')' :: rest => openGroup? fuel spaced (g.push (.group changes p)) { s with rest }
        | _ => none
    | '[' :: rest => do
      let (negated, rest) := negation spaced rest
      let (inner, rest) ← openSet? fuel spaced true ⟨none, []⟩ rest
      openGroup? fuel spaced (g.push (.set (.bracketed negated inner))) { s with rest }
    | cs =>
      match repetition? cs with
      | some (count, rest) => do
        let (reluctant, rest) := reluctance rest
        let parts ← repeatLast? count reluctant g.parts
        openGroup? fuel spaced { g with parts } { s with rest }
      | none => do
        let (a, rest) ← atom? spaced cs
        openGroup? fuel spaced (g.push (.atom a)) { s with rest }

/-- Reads a pattern. -/
def read? (cs : List Char) : Option Pattern :=
  match openGroup? (cs.length + 1) false .empty ⟨cs, []⟩ with
  | some (p, s) => if s.rest = [] then some p else none
  | none => none

end Pattern

end RouterBinding
