import Apake.Bytes

/-!
# SHA-512

The message is padded to whole 128-byte blocks, each block is spread over eighty words, and one
round per word mixes it into eight chaining words.  The main statement says that every digest has
64 bytes.
-/

namespace Apake.Sha512

/-- The chaining value: eight 64-bit words. -/
structure Chain where
  a : UInt64
  b : UInt64
  c : UInt64
  d : UInt64
  e : UInt64
  f : UInt64
  g : UInt64
  h : UInt64

/-- The chaining value before the first block. -/
def Chain.start : Chain :=
  ⟨0x6a09e667f3bcc908, 0xbb67ae8584caa73b, 0x3c6ef372fe94f82b, 0xa54ff53a5f1d36f1,
    0x510e527fade682d1, 0x9b05688c2b3e6c1f, 0x1f83d9abfb41bd6b, 0x5be0cd19137e2179⟩

/-- One constant for each round. -/
def roundConstants : List UInt64 := [
  0x428a2f98d728ae22, 0x7137449123ef65cd, 0xb5c0fbcfec4d3b2f, 0xe9b5dba58189dbbc,
  0x3956c25bf348b538, 0x59f111f1b605d019, 0x923f82a4af194f9b, 0xab1c5ed5da6d8118,
  0xd807aa98a3030242, 0x12835b0145706fbe, 0x243185be4ee4b28c, 0x550c7dc3d5ffb4e2,
  0x72be5d74f27b896f, 0x80deb1fe3b1696b1, 0x9bdc06a725c71235, 0xc19bf174cf692694,
  0xe49b69c19ef14ad2, 0xefbe4786384f25e3, 0x0fc19dc68b8cd5b5, 0x240ca1cc77ac9c65,
  0x2de92c6f592b0275, 0x4a7484aa6ea6e483, 0x5cb0a9dcbd41fbd4, 0x76f988da831153b5,
  0x983e5152ee66dfab, 0xa831c66d2db43210, 0xb00327c898fb213f, 0xbf597fc7beef0ee4,
  0xc6e00bf33da88fc2, 0xd5a79147930aa725, 0x06ca6351e003826f, 0x142929670a0e6e70,
  0x27b70a8546d22ffc, 0x2e1b21385c26c926, 0x4d2c6dfc5ac42aed, 0x53380d139d95b3df,
  0x650a73548baf63de, 0x766a0abb3c77b2a8, 0x81c2c92e47edaee6, 0x92722c851482353b,
  0xa2bfe8a14cf10364, 0xa81a664bbc423001, 0xc24b8b70d0f89791, 0xc76c51a30654be30,
  0xd192e819d6ef5218, 0xd69906245565a910, 0xf40e35855771202a, 0x106aa07032bbd1b8,
  0x19a4c116b8d2d0c8, 0x1e376c085141ab53, 0x2748774cdf8eeb99, 0x34b0bcb5e19b48a8,
  0x391c0cb3c5c95a63, 0x4ed8aa4ae3418acb, 0x5b9cca4f7763e373, 0x682e6ff3d6b2b8a3,
  0x748f82ee5defb2fc, 0x78a5636f43172f60, 0x84c87814a1f0ab72, 0x8cc702081a6439ec,
  0x90befffa23631e28, 0xa4506cebde82bde9, 0xbef9a3f7b2c67915, 0xc67178f2e372532b,
  0xca273eceea26619c, 0xd186b8c721c0c207, 0xeada7dd6cde0eb1e, 0xf57d4f7fee6ed178,
  0x06f067aa72176fba, 0x0a637dc5a2c898a6, 0x113f9804bef90dae, 0x1b710b35131c471b,
  0x28db77f523047d84, 0x32caab7b40c72493, 0x3c9ebe0a15c9bebc, 0x431d67c49c100d4c,
  0x4cc5d4becb3e42b6, 0x597f299cfc657e2a, 0x5fcb6fab3ad6faec, 0x6c44198c4a475817]

/-- Rotation to the right, for `0 < n < 64`. -/
@[inline] def rotate (x : UInt64) (n : UInt64) : UInt64 := (x >>> n) ||| (x <<< (64 - n))

/-- The schedule word that follows the given ones, newest first. -/
def nextWord (ws : List UInt64) : UInt64 :=
  let x := ws.getD 14 0
  let y := ws.getD 1 0
  ws.getD 15 0 + (rotate x 1 ^^^ rotate x 8 ^^^ (x >>> 7)) + ws.getD 6 0 +
    (rotate y 19 ^^^ rotate y 61 ^^^ (y >>> 6))

/-- Adds `n` schedule words to the given ones, newest first. -/
def extend : (n : Nat) → List UInt64 → List UInt64
  | 0, ws => ws
  | n + 1, ws => extend n (nextWord ws :: ws)

/-- The big-endian 64-bit words of a byte string; fewer than eight last bytes are dropped. -/
def words : Bytes → List UInt64
  | a :: b :: c :: d :: e :: f :: g :: h :: rest =>
    (a.toUInt64 <<< 56 ||| b.toUInt64 <<< 48 ||| c.toUInt64 <<< 40 ||| d.toUInt64 <<< 32 |||
      e.toUInt64 <<< 24 ||| f.toUInt64 <<< 16 ||| g.toUInt64 <<< 8 ||| h.toUInt64) :: words rest
  | _ => []

/-- One round: a schedule word and its constant are mixed into the chaining value. -/
def Chain.round (s : Chain) (kw : UInt64 × UInt64) : Chain :=
  let t := s.h + (rotate s.e 14 ^^^ rotate s.e 18 ^^^ rotate s.e 41) +
    ((s.e &&& s.f) ^^^ (~~~s.e &&& s.g)) + kw.1 + kw.2
  let u := (rotate s.a 28 ^^^ rotate s.a 34 ^^^ rotate s.a 39) +
    ((s.a &&& s.b) ^^^ (s.a &&& s.c) ^^^ (s.b &&& s.c))
  ⟨t + u, s.a, s.b, s.c, s.d + t, s.e, s.f, s.g⟩

/-- Word-wise sum of two chaining values. -/
def Chain.add (s t : Chain) : Chain :=
  ⟨s.a + t.a, s.b + t.b, s.c + t.c, s.d + t.d, s.e + t.e, s.f + t.f, s.g + t.g, s.h + t.h⟩

/-- Eighty rounds over one 128-byte block, and the sum with the value before it. -/
def Chain.absorb (s : Chain) (block : Bytes) : Chain :=
  let schedule := (extend 64 (words block).reverse).reverse
  s.add ((roundConstants.zip schedule).foldl Chain.round s)

/-- Absorbs the first `n` blocks of a byte string in turn. -/
def Chain.absorbBlocks : (n : Nat) → Chain → Bytes → Chain
  | 0, s, _ => s
  | n + 1, s, bs => absorbBlocks n (s.absorb (bs.take 128)) (bs.drop 128)

/-- The eight bytes of a word, most significant first. -/
def wordBytes (w : UInt64) : Bytes :=
  [(w >>> 56).toUInt8, (w >>> 48).toUInt8, (w >>> 40).toUInt8, (w >>> 32).toUInt8,
    (w >>> 24).toUInt8, (w >>> 16).toUInt8, (w >>> 8).toUInt8, w.toUInt8]

/-- The words of a chaining value in order. -/
def Chain.toBytes (s : Chain) : Bytes :=
  wordBytes s.a ++ wordBytes s.b ++ wordBytes s.c ++ wordBytes s.d ++
    wordBytes s.e ++ wordBytes s.f ++ wordBytes s.g ++ wordBytes s.h

/-- A one bit, the fewest zeros that fill the last block, and the bit count in sixteen bytes. -/
def pad (message : Bytes) : Bytes :=
  message ++ 0x80 :: Bytes.zeros ((239 - message.length % 128) % 128) ++
    Bytes.ofNat 16 (8 * message.length)

/-- The SHA-512 digest of a message. -/
def digest (message : Bytes) : Bytes :=
  let padded := pad message
  (Chain.start.absorbBlocks (padded.length / 128) padded).toBytes

theorem length_digest (message : Bytes) : (digest message).length = 64 := rfl

theorem length_pad_mod (message : Bytes) : (pad message).length % 128 = 0 := by
  simp only [pad, List.length_append, List.length_cons, Bytes.length_zeros, Bytes.length_ofNat]
  omega

end Apake.Sha512
