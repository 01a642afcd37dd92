/-!
# Words of the ChaCha cipher

`ChaCha.word key i` is word `i` of the keystream with 12 rounds, a block counter of 64 bits that
begins at zero, and a nonce of zero. `ChaCha.keyOfSeed` stretches a seed of 64 bits to a key: each
key word is an output of a congruential generator of 64 bits, its high bits folded and rotated.
-/

namespace RouterBinding.ChaCha

/-- The words of a block, or of a key. -/
abbrev Words := Array UInt32

def rotateLeft (x : UInt32) (n : UInt32) : UInt32 := (x <<< n) ||| (x >>> (32 - n))

/-- One quarter round on the words at four places. -/
def quarterRound (s : Words) (a b c d : Nat) : Words :=
  let s := s.setIfInBounds a (s.getD a 0 + s.getD b 0)
  let s := s.setIfInBounds d (rotateLeft (s.getD d 0 ^^^ s.getD a 0) 16)
  let s := s.setIfInBounds c (s.getD c 0 + s.getD d 0)
  let s := s.setIfInBounds b (rotateLeft (s.getD b 0 ^^^ s.getD c 0) 12)
  let s := s.setIfInBounds a (s.getD a 0 + s.getD b 0)
  let s := s.setIfInBounds d (rotateLeft (s.getD d 0 ^^^ s.getD a 0) 8)
  let s := s.setIfInBounds c (s.getD c 0 + s.getD d 0)
  s.setIfInBounds b (rotateLeft (s.getD b 0 ^^^ s.getD c 0) 7)

/-- A round on the columns and a round on the diagonals. -/
def doubleRound (s : Words) : Words :=
  let s := quarterRound s 0 4 8 12
  let s := quarterRound s 1 5 9 13
  let s := quarterRound s 2 6 10 14
  let s := quarterRound s 3 7 11 15
  let s := quarterRound s 0 5 10 15
  let s := quarterRound s 1 6 11 12
  let s := quarterRound s 2 7 8 13
  quarterRound s 3 4 9 14

/-- The text `expand 32-byte k` as words. -/
def constants : Words := #[0x61707865, 0x3320646e, 0x79622d32, 0x6b206574]

/-- The state from which a block is made. -/
def initial (key : Words) (counter : UInt64) : Words :=
  constants ++ key ++ #[counter.toUInt32, (counter >>> 32).toUInt32, 0, 0]

/-- The number of double rounds. -/
def doubleRounds : Nat := 6

def block (key : Words) (counter : UInt64) : Words :=
  let start := initial key counter
  let mixed := (List.range doubleRounds).foldl (fun s _ => doubleRound s) start
  Array.zipWith (· + ·) mixed start

/-- Word `i` of the keystream; a block has 16 words. -/
def word (key : Words) (i : Nat) : UInt32 := (block key (i / 16).toUInt64).getD (i % 16) 0

/-- The number of words after which the keystream repeats: the block counter has 64 bits. -/
def period : Nat := UInt64.size * 16

/-- One step of the congruential generator. -/
def congruent (state : UInt64) : UInt64 := state * 6364136223846793005 + 11634580027462260723

/-- The output of the generator in a state. -/
def folded (state : UInt64) : UInt32 :=
  let x := (((state >>> 18) ^^^ state) >>> 27).toUInt32
  let n := (state >>> 59).toUInt32
  if n = 0 then x else (x >>> n) ||| (x <<< (32 - n))

/-- The next `n` words of a key. -/
def keyWords : (n : Nat) → UInt64 → List UInt32
  | 0, _ => []
  | n + 1, state => folded (congruent state) :: keyWords n (congruent state)

/-- The key of a seed. -/
def keyOfSeed (seed : UInt64) : Words := (keyWords 8 seed).toArray

end RouterBinding.ChaCha
