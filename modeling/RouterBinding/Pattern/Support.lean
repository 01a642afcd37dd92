import RouterBinding.Pattern.Basic

/-!
# Which patterns are supported

Patterns are matched on the bytes of a text, and without tables of letters and words. So a part is
refused where such a table is needed: to ignore case, and for words, digits and spaces in Unicode
mode. Outside of Unicode mode a part is refused if it may match a piece of a character.
-/

namespace RouterBinding

/-- The switches on which support depends. -/
structure PatternMode where
  ignoreCase : Bool := false
  unicode : Bool := true
  deriving DecidableEq

def PatternMode.apply (m : PatternMode) (changes : Switching) : PatternMode :=
  ⟨changes.state .ignoreCase m.ignoreCase, changes.state .unicode m.unicode⟩

namespace Letter

def isAscii (l : Letter) : Bool := l.char.toNat < 0x80

/-- Outside of Unicode mode a byte beyond ASCII is no character of its own. -/
def isSupported (m : PatternMode) (l : Letter) : Bool :=
  if m.unicode then !m.ignoreCase else !l.asByte || l.isAscii

end Letter

namespace CharSet

mutual

/-- Whether a set can be matched: one that ignores case in Unicode mode may have no members, and
one outside of Unicode mode only those of ASCII. -/
def isSupported (m : PatternMode) : CharSet → Bool
  | empty => true
  | letter l => if m.unicode then !m.ignoreCase else l.isAscii
  | range first last => if m.unicode then !m.ignoreCase else first.isAscii && last.isAscii
  | shorthand _ negated => !m.unicode && !negated
  | named _ negated => if m.unicode then !m.ignoreCase else !negated
  | bracketed negated inner => (m.unicode || !negated) && inner.isSupported m
  | union sets => areSupported m sets
  | combined _ left right => left.isSupported m && right.isSupported m

def areSupported (m : PatternMode) : List CharSet → Bool
  | [] => true
  | s :: sets => s.isSupported m && areSupported m sets

end

end CharSet

def Atom.isSupported (m : PatternMode) : Atom → Bool
  | letter l => l.isSupported m
  | any => m.unicode
  | boundary b => !m.unicode || !b.isOfWords
  | shorthand _ negated => !m.unicode && !negated

namespace Pattern

mutual

/-- The mode after a pattern, if all of its parts are supported. -/
def modeAfter? (m : PatternMode) : Pattern → Option PatternMode
  | empty => some m
  | switches changes => some (m.apply changes)
  | atom a => if a.isSupported m then some m else none
  | set s => if s.isSupported m then some m else none
  | repeated _ _ p => p.modeAfter? m
  | group changes p => (p.modeAfter? (m.apply changes)).map fun _ => m
  | sequence parts => modeAfterList? m parts
  | branches options => modeAfterList? m options

def modeAfterList? (m : PatternMode) : List Pattern → Option PatternMode
  | [] => some m
  | p :: ps => (p.modeAfter? m).bind fun m => modeAfterList? m ps

end

/-- How deep a supported pattern may be nested. -/
def maxHeight : Nat := 250

def isSupported (p : Pattern) : Bool := p.height ≤ maxHeight && (p.modeAfter? {}).isSome

end Pattern

end RouterBinding
