/-!
The ChaCha stream generator with twelve rounds.

A generator holds a 256-bit key and reads the ChaCha keystream of that key, nonce zero, block
after block from counter zero: sixteen 32-bit words per block. A 64-bit draw takes two words,
the first as the low half. A 64-bit seed becomes a key through the PCG32 generator: eight of its
outputs, in order, are the key's words.
-/

namespace Gaze.Random

/-- The 32-bit word rotated left by `n` places. -/
def rotl (x : UInt32) (n : UInt32) : UInt32 := (x <<< n) ||| (x >>> (32 - n))

/-- The 32-bit word rotated right by `n` places. -/
def rotr (x : UInt32) (n : UInt32) : UInt32 := (x >>> n) ||| (x <<< (32 - n))

/-- The ChaCha quarter round on four words of the state. -/
def quarterRound (s : Vector UInt32 16) (a b c d : Fin 16) : Vector UInt32 16 :=
  let s := s.set a (s[a] + s[b])
  let s := s.set d (rotl (s[d] ^^^ s[a]) 16)
  let s := s.set c (s[c] + s[d])
  let s := s.set b (rotl (s[b] ^^^ s[c]) 12)
  let s := s.set a (s[a] + s[b])
  let s := s.set d (rotl (s[d] ^^^ s[a]) 8)
  let s := s.set c (s[c] + s[d])
  s.set b (rotl (s[b] ^^^ s[c]) 7)

/-- A column round followed by a diagonal round. -/
def doubleRound (s : Vector UInt32 16) : Vector UInt32 16 :=
  let s := quarterRound s 0 4 8 12
  let s := quarterRound s 1 5 9 13
  let s := quarterRound s 2 6 10 14
  let s := quarterRound s 3 7 11 15
  let s := quarterRound s 0 5 10 15
  let s := quarterRound s 1 6 11 12
  let s := quarterRound s 2 7 8 13
  quarterRound s 3 4 9 14

/-- The block input: the constant words, the key, the 64-bit counter and a zero nonce. -/
def blockInput (key : Vector UInt32 8) (counter : UInt64) : Vector UInt32 16 :=
  #v[0x61707865, 0x3320646e, 0x79622d32, 0x6b206574,
    key[0], key[1], key[2], key[3], key[4], key[5], key[6], key[7],
    counter.toUInt32, (counter >>> 32).toUInt32, 0, 0]

/-- The keystream block at a counter: six double rounds, then the input added word by word. -/
def block (key : Vector UInt32 8) (counter : UInt64) : Vector UInt32 16 :=
  let input := blockInput key counter
  let mixed := (List.range 6).foldl (fun s _ => doubleRound s) input
  Vector.zipWith (· + ·) mixed input

/-- A keystream reader: the key, the counter of the next block, and the words of the current
block not yet read. -/
structure Generator where
  /-- The key. -/
  key : Vector UInt32 8
  /-- The counter of the next block. -/
  counter : UInt64
  /-- Unread words of the current block. -/
  pending : List UInt32

namespace Generator

/-- One PCG32 step: the advanced state and its output. -/
def pcg32 (state : UInt64) : UInt64 × UInt32 :=
  let state := state * 6364136223846793005 + 11634580027462260723
  let xorshifted := (((state >>> 18) ^^^ state) >>> 27).toUInt32
  (state, rotr xorshifted (state >>> 59).toUInt32)

/-- The key made from a 64-bit seed: eight PCG32 outputs. -/
def keyOfSeed (seed : UInt64) : Vector UInt32 8 :=
  let (s, w0) := pcg32 seed
  let (s, w1) := pcg32 s
  let (s, w2) := pcg32 s
  let (s, w3) := pcg32 s
  let (s, w4) := pcg32 s
  let (s, w5) := pcg32 s
  let (s, w6) := pcg32 s
  let (_, w7) := pcg32 s
  #v[w0, w1, w2, w3, w4, w5, w6, w7]

/-- The generator of a seed, before any draw. -/
def ofSeed (seed : UInt64) : Generator := ⟨keyOfSeed seed, 0, []⟩

/-- The next block's words. -/
def refill (g : Generator) : Generator :=
  { g with counter := g.counter + 1, pending := (block g.key g.counter).toList }

/-- The next 32-bit word. -/
def nextWord (g : Generator) : UInt32 × Generator :=
  match g.pending with
  | w :: rest => (w, { g with pending := rest })
  | [] =>
    let g := g.refill
    match g.pending with
    | w :: rest => (w, { g with pending := rest })
    | [] => (0, g)

/-- The next 64-bit draw: two words, the first as the low half. -/
def nextUInt64 (g : Generator) : UInt64 × Generator :=
  let (lo, g) := g.nextWord
  let (hi, g) := g.nextWord
  ((hi.toUInt64 <<< 32) ||| lo.toUInt64, g)

end Generator

end Gaze.Random
