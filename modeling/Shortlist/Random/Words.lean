/-!
# The word stream of a seed

A 64-bit seed is spread over a key of eight words by a permuted congruential generator, and the
key's ChaCha keystream of twelve rounds is read as 32-bit words, sixteen a block, with a 64-bit
block counter from zero and stream zero.
-/

namespace Shortlist.Random

/-- `x` rotated left by `n` places. -/
def rotateLeft (x n : UInt32) : UInt32 := (x <<< n) ||| (x >>> (32 - n))

/-- `x` rotated right by `n` places. -/
def rotateRight (x n : UInt32) : UInt32 := (x >>> n) ||| (x <<< (32 - n))

/-! ## From the seed to the key -/

/-- One step of the generator that spreads the seed. -/
def advance (state : UInt64) : UInt64 :=
  state * 6364136223846793005 + 11634580027462260723

/-- The word that a state of the generator gives. -/
def permuted (state : UInt64) : UInt32 :=
  rotateRight (((state >>> 18) ^^^ state) >>> 27).toUInt32 (state >>> 59).toUInt32

/-- The first `n` words after a state. -/
def spread : (n : Nat) → UInt64 → List UInt32
  | 0, _ => []
  | n + 1, state =>
    let next := advance state
    permuted next :: spread n next

/-- The key of a seed. -/
def keyOf (seed : UInt64) : List UInt32 := spread 8 seed

/-! ## From the key to the words -/

/-- The sixteen words that the rounds work on. -/
abbrev Block := Vector UInt32 16

/-- The quarter round on four places of the block. -/
def quarterRound (s : Block) (a b c d : Fin 16) : Block :=
  let s := s.set a (s[a] + s[b])
  let s := s.set d (rotateLeft (s[d] ^^^ s[a]) 16)
  let s := s.set c (s[c] + s[d])
  let s := s.set b (rotateLeft (s[b] ^^^ s[c]) 12)
  let s := s.set a (s[a] + s[b])
  let s := s.set d (rotateLeft (s[d] ^^^ s[a]) 8)
  let s := s.set c (s[c] + s[d])
  s.set b (rotateLeft (s[b] ^^^ s[c]) 7)

/-- A round over the columns followed by one over the diagonals. -/
def doubleRound (s : Block) : Block :=
  let s := quarterRound s 0 4 8 12
  let s := quarterRound s 1 5 9 13
  let s := quarterRound s 2 6 10 14
  let s := quarterRound s 3 7 11 15
  let s := quarterRound s 0 5 10 15
  let s := quarterRound s 1 6 11 12
  let s := quarterRound s 2 7 8 13
  quarterRound s 3 4 9 14

/-- The block before the rounds: the constants, the key, the counter and the stream. -/
def initialBlock (key : List UInt32) (counter : UInt64) : Block :=
  let words : List UInt32 :=
    0x61707865 :: 0x3320646E :: 0x79622D32 :: 0x6B206574 ::
      (key ++ [counter.toUInt32, (counter >>> 32).toUInt32, 0, 0])
  Vector.ofFn fun i => words[i.val]?.getD 0

/-- The block of keystream words at a counter: twelve rounds, then the initial block added. -/
def keystream (key : List UInt32) (counter : UInt64) : Block :=
  let start := initialBlock key counter
  let mixed := Nat.repeat doubleRound 6 start
  Vector.ofFn fun i => mixed[i] + start[i]

/-- The number of values that a word can have. -/
def wordValues : Nat := 0x100000000

/-- A position in the words of a key: the words left of the current block, and the number of the
block after it. -/
structure WordStream where
  key : List UInt32
  counter : UInt64
  pending : List UInt32

namespace WordStream

/-- The stream of a seed, at its first word. -/
def ofSeed (seed : UInt64) : WordStream := ⟨keyOf seed, 0, []⟩

/-- The next word. -/
def next (s : WordStream) : UInt32 × WordStream :=
  match s.pending with
  | w :: rest => (w, { s with pending := rest })
  | [] =>
    let block := keystream s.key s.counter
    (block[0], { s with counter := s.counter + 1, pending := block.toList.tail })

/-- The next two words as a number below `2^64`, the lower half first. -/
def nextPair (s : WordStream) : Nat × WordStream :=
  let (low, s) := s.next
  let (high, s) := s.next
  (high.toNat * wordValues + low.toNat, s)

end WordStream

end Shortlist.Random
