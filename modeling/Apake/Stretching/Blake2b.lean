import Apake.Bytes

/-!
# BLAKE2b

An unkeyed hash with digests of up to 64 bytes.  Each 128-byte block is mixed into sixteen words by
twelve rounds of four columns and four diagonals.
-/

namespace Apake.Blake2b

/-- Sixteen 64-bit words. -/
structure Words where
  a0 : UInt64
  a1 : UInt64
  a2 : UInt64
  a3 : UInt64
  a4 : UInt64
  a5 : UInt64
  a6 : UInt64
  a7 : UInt64
  a8 : UInt64
  a9 : UInt64
  a10 : UInt64
  a11 : UInt64
  a12 : UInt64
  a13 : UInt64
  a14 : UInt64
  a15 : UInt64
  deriving Inhabited

/-- Word-wise exclusive or. -/
def Words.xor (s t : Words) : Words :=
  ⟨s.a0 ^^^ t.a0, s.a1 ^^^ t.a1, s.a2 ^^^ t.a2, s.a3 ^^^ t.a3,
    s.a4 ^^^ t.a4, s.a5 ^^^ t.a5, s.a6 ^^^ t.a6, s.a7 ^^^ t.a7,
    s.a8 ^^^ t.a8, s.a9 ^^^ t.a9, s.a10 ^^^ t.a10, s.a11 ^^^ t.a11,
    s.a12 ^^^ t.a12, s.a13 ^^^ t.a13, s.a14 ^^^ t.a14, s.a15 ^^^ t.a15⟩

/-- The words in order. -/
def Words.toList (s : Words) : List UInt64 :=
  [s.a0, s.a1, s.a2, s.a3, s.a4, s.a5, s.a6, s.a7, s.a8, s.a9, s.a10, s.a11, s.a12, s.a13, s.a14,
    s.a15]

/-- Rotation to the right, for `0 < n < 64`. -/
@[inline] def rotate (x n : UInt64) : UInt64 := (x >>> n) ||| (x <<< (64 - n))

/-- Four words. -/
structure Quad where
  a : UInt64
  b : UInt64
  c : UInt64
  d : UInt64

/-- The mixing of four words: `sum` combines two of them, and two more words come in. -/
@[inline] def mix (sum : UInt64 → UInt64 → UInt64) (a b c d x y : UInt64) : Quad :=
  let a := sum a b + x
  let d := rotate (d ^^^ a) 32
  let c := sum c d
  let b := rotate (b ^^^ c) 24
  let a := sum a b + y
  let d := rotate (d ^^^ a) 16
  let c := sum c d
  let b := rotate (b ^^^ c) 63
  ⟨a, b, c, d⟩

/-- One round: the four columns and then the four diagonals, with sixteen words coming in. -/
@[inline] def Words.round (sum : UInt64 → UInt64 → UInt64) (v m : Words) : Words :=
  let p := mix sum v.a0 v.a4 v.a8 v.a12 m.a0 m.a1
  let q := mix sum v.a1 v.a5 v.a9 v.a13 m.a2 m.a3
  let r := mix sum v.a2 v.a6 v.a10 v.a14 m.a4 m.a5
  let s := mix sum v.a3 v.a7 v.a11 v.a15 m.a6 m.a7
  let t := mix sum p.a q.b r.c s.d m.a8 m.a9
  let u := mix sum q.a r.b s.c p.d m.a10 m.a11
  let w := mix sum r.a s.b p.c q.d m.a12 m.a13
  let z := mix sum s.a p.b q.c r.d m.a14 m.a15
  ⟨t.a, u.a, w.a, z.a, z.b, t.b, u.b, w.b, w.c, z.c, t.c, u.c, u.d, w.d, z.d, t.d⟩

/-- The order in which each round takes the words of a block. -/
def orders : List (List Nat) := [
  [0, 1, 2, 3, 4, 5, 6, 7, 8, 9, 10, 11, 12, 13, 14, 15],
  [14, 10, 4, 8, 9, 15, 13, 6, 1, 12, 0, 2, 11, 7, 5, 3],
  [11, 8, 12, 0, 5, 2, 15, 13, 10, 14, 3, 6, 7, 1, 9, 4],
  [7, 9, 3, 1, 13, 12, 11, 14, 2, 6, 5, 10, 4, 0, 15, 8],
  [9, 0, 5, 7, 2, 4, 10, 15, 14, 1, 11, 12, 6, 8, 3, 13],
  [2, 12, 6, 10, 0, 11, 8, 3, 4, 13, 7, 5, 15, 14, 1, 9],
  [12, 5, 1, 15, 14, 13, 4, 10, 0, 7, 6, 3, 9, 2, 8, 11],
  [13, 11, 7, 14, 12, 1, 3, 9, 5, 0, 15, 4, 8, 6, 2, 10],
  [6, 15, 14, 9, 11, 3, 0, 8, 12, 2, 13, 7, 1, 4, 10, 5],
  [10, 2, 8, 4, 7, 6, 1, 5, 15, 11, 9, 14, 3, 12, 13, 0],
  [0, 1, 2, 3, 4, 5, 6, 7, 8, 9, 10, 11, 12, 13, 14, 15],
  [14, 10, 4, 8, 9, 15, 13, 6, 1, 12, 0, 2, 11, 7, 5, 3]]

/-- Sixteen words from a list, with zeros for missing ones. -/
def Words.ofList (l : List UInt64) : Words :=
  let word (i : Nat) := l.getD i 0
  ⟨word 0, word 1, word 2, word 3, word 4, word 5, word 6, word 7, word 8, word 9, word 10, word 11,
    word 12, word 13, word 14, word 15⟩

/-- The little-endian 64-bit words of a byte string; fewer than eight last bytes are dropped. -/
def words : Bytes → List UInt64
  | a :: b :: c :: d :: e :: f :: g :: h :: rest =>
    (a.toUInt64 ||| b.toUInt64 <<< 8 ||| c.toUInt64 <<< 16 ||| d.toUInt64 <<< 24 |||
      e.toUInt64 <<< 32 ||| f.toUInt64 <<< 40 ||| g.toUInt64 <<< 48 ||| h.toUInt64 <<< 56) ::
      words rest
  | _ => []

/-- The eight bytes of a word, least significant first. -/
def wordBytes (w : UInt64) : Bytes :=
  [w.toUInt8, (w >>> 8).toUInt8, (w >>> 16).toUInt8, (w >>> 24).toUInt8,
    (w >>> 32).toUInt8, (w >>> 40).toUInt8, (w >>> 48).toUInt8, (w >>> 56).toUInt8]

/-- The initial words; the chaining value starts from them too. -/
def initial : List UInt64 := [
  0x6a09e667f3bcc908, 0xbb67ae8584caa73b, 0x3c6ef372fe94f82b, 0xa54ff53a5f1d36f1,
  0x510e527fade682d1, 0x9b05688c2b3e6c1f, 0x1f83d9abfb41bd6b, 0x5be0cd19137e2179]

/-- Mixes a block into the eight chaining words; `count` is the number of message bytes so far. -/
def absorb (chain : List UInt64) (block : Bytes) (count : Nat) (last : Bool) : List UInt64 :=
  let m := words block
  let v := Words.ofList (chain ++ initial)
  let v := { v with
    a12 := v.a12 ^^^ UInt64.ofNat count
    a13 := v.a13 ^^^ UInt64.ofNat (count >>> 64)
    a14 := if last then ~~~v.a14 else v.a14 }
  let step (v : Words) (order : List Nat) : Words :=
    v.round (· + ·) (Words.ofList (order.map fun i ↦ m.getD i 0))
  let v := (orders.foldl step v).toList
  chain.zipWith (· ^^^ ·) ((v.take 8).zipWith (· ^^^ ·) (v.drop 8))

/-- Absorbs `n` full blocks and then the rest, filled up with zeros, as the last one. -/
def absorbAll : (n count : Nat) → List UInt64 → Bytes → List UInt64
  | 0, count, chain, bs => absorb chain (bs.take 128 ++ Bytes.zeros (128 - bs.length))
      (count + bs.length) true
  | n + 1, count, chain, bs =>
    absorbAll n (count + 128) (absorb chain (bs.take 128) (count + 128) false) (bs.drop 128)

/-- The digest of `size` bytes, for `1 ≤ size ≤ 64`. -/
def digest (size : Nat) (message : Bytes) : Bytes :=
  let chain := (initial.headD 0 ^^^ 0x01010000 ^^^ UInt64.ofNat size) :: initial.drop 1
  ((absorbAll ((message.length - 1) / 128) 0 chain message).flatMap wordBytes).take size

end Apake.Blake2b
