import RouterBinding.Placement.ChaCha

/-!
# A uniform choice

A word of 32 bits chooses one of `n` things by the upper half of its product with `n`; the word is
rejected if the lower half lies beyond a zone that is a multiple of `n`, so that every index has
the same number of accepted words. `Draws.choose` draws words until one is accepted.
-/

namespace RouterBinding

namespace Choice

/-- The largest lower half that is accepted. -/
def zone (n : Nat) : Nat := n <<< (31 - n.log2) - 1

/-- Whether a word is accepted in a choice from `n` things. -/
def accepts (n : Nat) (word : UInt32) : Bool := word.toNat * n % UInt32.size ≤ zone n

/-- The index that a word stands for. -/
def index (n : Nat) (word : UInt32) : Nat := word.toNat * n / UInt32.size

/-- The index stays below the number of things. -/
theorem index_lt {n : Nat} (word : UInt32) (h : 0 < n) : index n word < n := by
  have hword := word.toNat_lt
  have : word.toNat * n < UInt32.size * n := Nat.mul_lt_mul_of_pos_right hword h
  exact Nat.div_lt_of_lt_mul this

end Choice

/-- A sequence of random words, of which some have been drawn. -/
structure Draws where
  key : ChaCha.Words
  drawn : Nat
  deriving DecidableEq

namespace Draws

def ofSeed (seed : UInt64) : Draws := ⟨ChaCha.keyOfSeed seed, 0⟩

def word (d : Draws) : UInt32 := ChaCha.word d.key d.drawn

def next (d : Draws) : Draws := { d with drawn := d.drawn + 1 }

/-- How many words in a row may be rejected: all that the keystream has before it repeats. A choice
that accepted none of them would never end. -/
def patience : Nat := ChaCha.period

/-- The index of the first accepted word, and the words after it. Out of patience, the word at
hand is taken as it is. -/
def index (n : Nat) : (patience : Nat) → Draws → Nat × Draws
  | 0, d => (Choice.index n d.word, d.next)
  | patience + 1, d =>
    if Choice.accepts n d.word then (Choice.index n d.word, d.next) else index n patience d.next

/-- One of the items; nothing is drawn if there are none. -/
def choose {α : Type} (d : Draws) (items : List α) : Option α × Draws :=
  if items.isEmpty then (none, d)
  else
    let (i, d) := index items.length patience d
    (items[i]?, d)

/-- Whatever the words are, an index lies below the number of items. -/
theorem index_lt {n : Nat} (h : 0 < n) (patience : Nat) (d : Draws) :
    (index n patience d).1 < n := by
  induction patience generalizing d with
  | zero => exact Choice.index_lt d.word h
  | succ patience ih =>
    unfold index
    split
    · exact Choice.index_lt d.word h
    · exact ih d.next

/-- A choice from at least one item finds an item. -/
theorem choose_mem {α : Type} {items : List α} (h : items ≠ []) (d : Draws) :
    ∃ a ∈ items, (d.choose items).1 = some a := by
  have hpos : 0 < items.length := List.length_pos_iff.2 h
  have hlt := index_lt hpos patience d
  refine ⟨items[(index items.length patience d).1], List.getElem_mem hlt, ?_⟩
  have : items.isEmpty = false := by simpa using h
  simp [choose, this]

end Draws

end RouterBinding
