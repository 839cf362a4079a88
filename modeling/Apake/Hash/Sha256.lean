import Apake.Bytes

/-!
# SHA-256

The message is padded to whole 64-byte blocks, each block is spread over sixty-four words, and one
round per word mixes it into eight chaining words.  The main statement says that every digest has
32 bytes.
-/

namespace Apake.Sha256

/-- The chaining value: eight 32-bit words. -/
structure Chain where
  a : UInt32
  b : UInt32
  c : UInt32
  d : UInt32
  e : UInt32
  f : UInt32
  g : UInt32
  h : UInt32

/-- The chaining value before the first block. -/
def Chain.start : Chain :=
  ⟨0x6a09e667, 0xbb67ae85, 0x3c6ef372, 0xa54ff53a, 0x510e527f, 0x9b05688c, 0x1f83d9ab, 0x5be0cd19⟩

/-- One constant for each round. -/
def roundConstants : List UInt32 := [
  0x428a2f98, 0x71374491, 0xb5c0fbcf, 0xe9b5dba5, 0x3956c25b, 0x59f111f1, 0x923f82a4, 0xab1c5ed5,
  0xd807aa98, 0x12835b01, 0x243185be, 0x550c7dc3, 0x72be5d74, 0x80deb1fe, 0x9bdc06a7, 0xc19bf174,
  0xe49b69c1, 0xefbe4786, 0x0fc19dc6, 0x240ca1cc, 0x2de92c6f, 0x4a7484aa, 0x5cb0a9dc, 0x76f988da,
  0x983e5152, 0xa831c66d, 0xb00327c8, 0xbf597fc7, 0xc6e00bf3, 0xd5a79147, 0x06ca6351, 0x14292967,
  0x27b70a85, 0x2e1b2138, 0x4d2c6dfc, 0x53380d13, 0x650a7354, 0x766a0abb, 0x81c2c92e, 0x92722c85,
  0xa2bfe8a1, 0xa81a664b, 0xc24b8b70, 0xc76c51a3, 0xd192e819, 0xd6990624, 0xf40e3585, 0x106aa070,
  0x19a4c116, 0x1e376c08, 0x2748774c, 0x34b0bcb5, 0x391c0cb3, 0x4ed8aa4a, 0x5b9cca4f, 0x682e6ff3,
  0x748f82ee, 0x78a5636f, 0x84c87814, 0x8cc70208, 0x90befffa, 0xa4506ceb, 0xbef9a3f7, 0xc67178f2]

/-- Rotation to the right, for `0 < n < 32`. -/
@[inline] def rotate (x : UInt32) (n : UInt32) : UInt32 := (x >>> n) ||| (x <<< (32 - n))

/-- The schedule word that follows the given ones, newest first. -/
def nextWord (ws : List UInt32) : UInt32 :=
  let x := ws.getD 14 0
  let y := ws.getD 1 0
  ws.getD 15 0 + (rotate x 7 ^^^ rotate x 18 ^^^ (x >>> 3)) + ws.getD 6 0 +
    (rotate y 17 ^^^ rotate y 19 ^^^ (y >>> 10))

/-- Adds `n` schedule words to the given ones, newest first. -/
def extend : (n : Nat) → List UInt32 → List UInt32
  | 0, ws => ws
  | n + 1, ws => extend n (nextWord ws :: ws)

/-- The big-endian 32-bit words of a byte string; fewer than four last bytes are dropped. -/
def words : Bytes → List UInt32
  | a :: b :: c :: d :: rest =>
    (a.toUInt32 <<< 24 ||| b.toUInt32 <<< 16 ||| c.toUInt32 <<< 8 ||| d.toUInt32) :: words rest
  | _ => []

/-- One round: a schedule word and its constant are mixed into the chaining value. -/
def Chain.round (s : Chain) (kw : UInt32 × UInt32) : Chain :=
  let t := s.h + (rotate s.e 6 ^^^ rotate s.e 11 ^^^ rotate s.e 25) +
    ((s.e &&& s.f) ^^^ (~~~s.e &&& s.g)) + kw.1 + kw.2
  let u := (rotate s.a 2 ^^^ rotate s.a 13 ^^^ rotate s.a 22) +
    ((s.a &&& s.b) ^^^ (s.a &&& s.c) ^^^ (s.b &&& s.c))
  ⟨t + u, s.a, s.b, s.c, s.d + t, s.e, s.f, s.g⟩

/-- Word-wise sum of two chaining values. -/
def Chain.add (s t : Chain) : Chain :=
  ⟨s.a + t.a, s.b + t.b, s.c + t.c, s.d + t.d, s.e + t.e, s.f + t.f, s.g + t.g, s.h + t.h⟩

/-- Sixty-four rounds over one 64-byte block, and the sum with the value before it. -/
def Chain.absorb (s : Chain) (block : Bytes) : Chain :=
  let schedule := (extend 48 (words block).reverse).reverse
  s.add ((roundConstants.zip schedule).foldl Chain.round s)

/-- Absorbs the first `n` blocks of a byte string in turn. -/
def Chain.absorbBlocks : (n : Nat) → Chain → Bytes → Chain
  | 0, s, _ => s
  | n + 1, s, bs => absorbBlocks n (s.absorb (bs.take 64)) (bs.drop 64)

/-- The four bytes of a word, most significant first. -/
def wordBytes (w : UInt32) : Bytes :=
  [(w >>> 24).toUInt8, (w >>> 16).toUInt8, (w >>> 8).toUInt8, w.toUInt8]

/-- The words of a chaining value in order. -/
def Chain.toBytes (s : Chain) : Bytes :=
  wordBytes s.a ++ wordBytes s.b ++ wordBytes s.c ++ wordBytes s.d ++
    wordBytes s.e ++ wordBytes s.f ++ wordBytes s.g ++ wordBytes s.h

/-- A one bit, the fewest zeros that fill the last block, and the bit count in eight bytes. -/
def pad (message : Bytes) : Bytes :=
  message ++ 0x80 :: Bytes.zeros ((119 - message.length % 64) % 64) ++
    Bytes.ofNat 8 (8 * message.length)

/-- The SHA-256 digest of a message. -/
def digest (message : Bytes) : Bytes :=
  let padded := pad message
  (Chain.start.absorbBlocks (padded.length / 64) padded).toBytes

theorem length_digest (message : Bytes) : (digest message).length = 32 := rfl

theorem length_pad_mod (message : Bytes) : (pad message).length % 64 = 0 := by
  simp only [pad, List.length_append, List.length_cons, Bytes.length_zeros, Bytes.length_ofNat]
  omega

end Apake.Sha256
