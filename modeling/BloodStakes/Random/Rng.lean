import BloodStakes.Random.ChaCha

/-! The source of chance: a stream of 64-bit words from a seed, fractions of one, and
unbiased choices among `n`. -/
namespace BloodStakes

/-- A position in the stream of a key: the words left of the current block, and the number
of the next block. -/
structure Rng where
  key : ChaCha.Key
  nextBlock : UInt64 := 0
  pending : List UInt64 := []

namespace Rng

/-- One step of the generator that spreads a seed: the new state and a word. -/
def spreadSeed (state : UInt64) : UInt64 × UInt32 :=
  let state := state * 6364136223846793005 + 11634580027462260723
  let folded := (((state >>> 18) ^^^ state) >>> 27).toUInt32
  let turn := (state >>> 59).toUInt32
  (state, (folded >>> turn) ||| (folded <<< ((32 - turn) % 32)))

def ofSeed (seed : UInt64) : Rng :=
  let step := fun (words : List UInt32 × UInt64) (_ : Nat) =>
    let (state, word) := spreadSeed words.2
    (words.1 ++ [word], state)
  let words := ((List.range 8).foldl step ([], seed)).1
  { key := Vector.ofFn fun i => words.getD i.val 0 }

def next (rng : Rng) : UInt64 × Rng :=
  match rng.pending with
  | word :: rest => (word, { rng with pending := rest })
  | [] =>
    let words := ChaCha.block rng.key rng.nextBlock
    (words.headD 0, { rng with nextBlock := rng.nextBlock + 1, pending := words.tail })

/-- A fraction in `[0, 1)`, from the 53 high bits of a word. -/
def fraction (rng : Rng) : Float × Rng :=
  let (word, rng) := rng.next
  ((word >>> 11).toFloat * Float.ofBits 0x3ca0000000000000, rng)

/-- The high half of a word times `n`. -/
def share (word : UInt64) (n : Nat) : Nat :=
  word.toNat * n / UInt64.size

theorem share_lt (word : UInt64) {n : Nat} (h : 0 < n) : share word n < n := by
  unfold share
  have hw : word.toNat < UInt64.size := word.toNat_lt_size
  rw [Nat.div_lt_iff_lt_mul (by decide), Nat.mul_comm n]
  exact Nat.mul_lt_mul_of_pos_right hw h

/-- Whether a word gives an unbiased share: the low half of the product must lie below the
largest shift of `n` that fits 64 bits. -/
def isUnbiased (word : UInt64) (n : Nat) : Bool :=
  word.toNat * n % UInt64.size < n <<< (63 - n.log2)

/-- The first unbiased share among the next words. More than half of all words are unbiased;
should `fuel` of them fail, the next word is taken as it comes. -/
def below (rng : Rng) (n : Nat) (h : 0 < n) : (fuel : Nat) → Fin n × Rng
  | 0 =>
    let (word, rng) := rng.next
    (⟨share word n, share_lt word h⟩, rng)
  | fuel + 1 =>
    let (word, rng) := rng.next
    if isUnbiased word n then (⟨share word n, share_lt word h⟩, rng)
    else rng.below n h fuel

/-- An even choice of an index below `n`. -/
def choose (rng : Rng) (n : Nat) (h : 0 < n) : Fin n × Rng :=
  rng.below n h 1024

/-- An even choice of an index below `n`; nothing is drawn if there is no such index. -/
def pick (rng : Rng) (n : Nat) : Option (Fin n) × Rng :=
  if h : 0 < n then
    let (i, rng) := rng.choose n h
    (some i, rng)
  else (none, rng)

end Rng

end BloodStakes
