/-!
The ChaCha block function with twelve rounds, as a source of 64-bit words: one block of a
key and a block number gives eight of them.
-/
namespace BloodStakes.ChaCha

abbrev Key := Vector UInt32 8

/-- The sixteen words the rounds work on. -/
abbrev State := Vector UInt32 16

def rotateLeft (x : UInt32) (n : UInt32) : UInt32 :=
  (x <<< n) ||| (x >>> (32 - n))

/-- Mixes the words at four places. -/
def quarterRound (s : State) (a b c d : Fin 16) : State :=
  let s := s.set a (s[a] + s[b])
  let s := s.set d (rotateLeft (s[d] ^^^ s[a]) 16)
  let s := s.set c (s[c] + s[d])
  let s := s.set b (rotateLeft (s[b] ^^^ s[c]) 12)
  let s := s.set a (s[a] + s[b])
  let s := s.set d (rotateLeft (s[d] ^^^ s[a]) 8)
  let s := s.set c (s[c] + s[d])
  s.set b (rotateLeft (s[b] ^^^ s[c]) 7)

/-- One round on the columns and one on the diagonals. -/
def doubleRound (s : State) : State :=
  let s := quarterRound s 0 4 8 12
  let s := quarterRound s 1 5 9 13
  let s := quarterRound s 2 6 10 14
  let s := quarterRound s 3 7 11 15
  let s := quarterRound s 0 5 10 15
  let s := quarterRound s 1 6 11 12
  let s := quarterRound s 2 7 8 13
  quarterRound s 3 4 9 14

/-- The words "expand 32-byte k", the key, the block number and an empty stream number. -/
def initial (key : Key) (block : UInt64) : State :=
  #v[0x61707865, 0x3320646e, 0x79622d32, 0x6b206574,
    key[0], key[1], key[2], key[3], key[4], key[5], key[6], key[7],
    block.toUInt32, (block >>> 32).toUInt32, 0, 0]

/-- Two words in one, the first of them low. -/
def joinWords (low high : UInt32) : UInt64 :=
  low.toUInt64 ||| (high.toUInt64 <<< 32)

def block (key : Key) (number : UInt64) : List UInt64 :=
  let start := initial key number
  let mixed := (List.range 6).foldl (fun s _ => doubleRound s) start
  let out := Vector.zipWith (· + ·) mixed start
  [joinWords out[0] out[1], joinWords out[2] out[3], joinWords out[4] out[5],
    joinWords out[6] out[7], joinWords out[8] out[9], joinWords out[10] out[11],
    joinWords out[12] out[13], joinWords out[14] out[15]]

end BloodStakes.ChaCha
