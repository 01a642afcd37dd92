/-!
# Classes of characters

A class of characters is a list of ranges of codes, both ends included. `isBlank` is the smallest
of the classes that take in every script.
-/

namespace RouterBinding.Text

/-- Ranges of codes, each with its first and its last one. -/
abbrev CharClass := List (Nat × Nat)

namespace CharClass

def contains (k : CharClass) (c : Char) : Bool :=
  k.any fun range => range.1 ≤ c.toNat && c.toNat ≤ range.2

theorem contains_iff {k : CharClass} {c : Char} :
    k.contains c = true ↔ ∃ range ∈ k, range.1 ≤ c.toNat ∧ c.toNat ≤ range.2 := by
  simp [contains]

theorem contains_of_mem {k : CharClass} {c : Char} {first last : Nat} (h : (first, last) ∈ k)
    (hfirst : first ≤ c.toNat) (hlast : c.toNat ≤ last) : k.contains c = true :=
  contains_iff.2 ⟨(first, last), h, hfirst, hlast⟩

end CharClass

/-- The characters of the property White_Space. -/
def blanks : CharClass :=
  [(0x9, 0xd), (0x20, 0x20), (0x85, 0x85), (0xa0, 0xa0), (0x1680, 0x1680), (0x2000, 0x200a),
    (0x2028, 0x2029), (0x202f, 0x202f), (0x205f, 0x205f), (0x3000, 0x3000)]

/-- A blank of any script. -/
def isBlank (c : Char) : Bool := blanks.contains c

/-- The characters without blanks around them. -/
def trimmed (cs : List Char) : List Char :=
  ((cs.dropWhile isBlank).reverse.dropWhile isBlank).reverse

end RouterBinding.Text
