import Apake.Hash.Algorithm
import Apake.Stretching.Setting

/-!
# scrypt

A password is expanded to `p` strings of `128 r` bytes, each string is mixed through a table of `n`
strings, and the results are the salt for the expansion to the output.
-/

namespace Apake.Scrypt

open Stretching (Setting memoryLimit)

/-- The parameters of scrypt: the cost is a power of two above one, the block size and the number of
rows are whatever was given. -/
structure Parameters where
  n : Nat := 32768
  r : Setting := .integer 8
  p : Setting := .integer 1
  cost : 2 ≤ n ∧ n &&& (n - 1) = 0 := by decide
  deriving DecidableEq

/-- Parameters with a cost that is checked. -/
def Parameters.make (n r p : Setting) : Except Error Parameters := do
  if ← Json.less n (.integer 2) then throw .scryptCost
  match n with
  | .integer value =>
    if h : 2 ≤ value.toNat ∧ value.toNat &&& (value.toNat - 1) = 0 then
      return ⟨value.toNat, r, p, h⟩
    else throw .scryptCost
  | n =>
    throw (.wrongKind
      s!"unsupported operand type(s) for &: '{n.kindName}' and '{n.kindName}'")

/-- Sixteen 32-bit words. -/
structure Chunk where
  a0 : UInt32
  a1 : UInt32
  a2 : UInt32
  a3 : UInt32
  a4 : UInt32
  a5 : UInt32
  a6 : UInt32
  a7 : UInt32
  a8 : UInt32
  a9 : UInt32
  a10 : UInt32
  a11 : UInt32
  a12 : UInt32
  a13 : UInt32
  a14 : UInt32
  a15 : UInt32
  deriving Inhabited

/-- Word-wise exclusive or. -/
def Chunk.xor (s t : Chunk) : Chunk :=
  ⟨s.a0 ^^^ t.a0, s.a1 ^^^ t.a1, s.a2 ^^^ t.a2, s.a3 ^^^ t.a3,
    s.a4 ^^^ t.a4, s.a5 ^^^ t.a5, s.a6 ^^^ t.a6, s.a7 ^^^ t.a7,
    s.a8 ^^^ t.a8, s.a9 ^^^ t.a9, s.a10 ^^^ t.a10, s.a11 ^^^ t.a11,
    s.a12 ^^^ t.a12, s.a13 ^^^ t.a13, s.a14 ^^^ t.a14, s.a15 ^^^ t.a15⟩

/-- Word-wise sum. -/
def Chunk.add (s t : Chunk) : Chunk :=
  ⟨s.a0 + t.a0, s.a1 + t.a1, s.a2 + t.a2, s.a3 + t.a3,
    s.a4 + t.a4, s.a5 + t.a5, s.a6 + t.a6, s.a7 + t.a7,
    s.a8 + t.a8, s.a9 + t.a9, s.a10 + t.a10, s.a11 + t.a11,
    s.a12 + t.a12, s.a13 + t.a13, s.a14 + t.a14, s.a15 + t.a15⟩

/-- The sum of two words rotated to the left by `n`, combined with a third. -/
@[inline] def turn (x y z n : UInt32) : UInt32 :=
  let s := y + z
  x ^^^ ((s <<< n) ||| (s >>> (32 - n)))

/-- Four quarter rounds down the columns of the four-by-four square. -/
def Chunk.columns (c : Chunk) : Chunk :=
  let a4 := turn c.a4 c.a0 c.a12 7
  let a8 := turn c.a8 a4 c.a0 9
  let a12 := turn c.a12 a8 a4 13
  let a0 := turn c.a0 a12 a8 18
  let a9 := turn c.a9 c.a5 c.a1 7
  let a13 := turn c.a13 a9 c.a5 9
  let a1 := turn c.a1 a13 a9 13
  let a5 := turn c.a5 a1 a13 18
  let a14 := turn c.a14 c.a10 c.a6 7
  let a2 := turn c.a2 a14 c.a10 9
  let a6 := turn c.a6 a2 a14 13
  let a10 := turn c.a10 a6 a2 18
  let a3 := turn c.a3 c.a15 c.a11 7
  let a7 := turn c.a7 a3 c.a15 9
  let a11 := turn c.a11 a7 a3 13
  let a15 := turn c.a15 a11 a7 18
  ⟨a0, a1, a2, a3, a4, a5, a6, a7, a8, a9, a10, a11, a12, a13, a14, a15⟩

/-- The square with its rows and columns swapped. -/
def Chunk.transpose (c : Chunk) : Chunk :=
  ⟨c.a0, c.a4, c.a8, c.a12, c.a1, c.a5, c.a9, c.a13,
    c.a2, c.a6, c.a10, c.a14, c.a3, c.a7, c.a11, c.a15⟩

/-- A column round and a row round. -/
def Chunk.doubleRound (c : Chunk) : Chunk := c.columns.transpose.columns.transpose

/-- The Salsa20/8 core. -/
def Chunk.core (c : Chunk) : Chunk :=
  c.doubleRound.doubleRound.doubleRound.doubleRound.add c

/-- A string of `128 r` bytes as `2 r` chunks. -/
abbrev Row := Array Chunk

/-- Chunk-wise exclusive or. -/
def Row.xor (s t : Row) : Row := s.zipWith Chunk.xor t

/-- Each chunk is combined with the one before and mixed; the even ones then come first. -/
def Row.mix (row : Row) : Row :=
  let (_, _, even, odd) := row.foldl
    (fun (last, isOdd, even, odd) chunk ↦
      let next := (last.xor chunk).core
      if isOdd then (next, false, even, odd.push next) else (next, true, even.push next, odd))
    (row.back?.getD default, false, (#[] : Row), (#[] : Row))
  even ++ odd

/-- The first two words of the last chunk as a number. -/
def Row.index (row : Row) : Nat :=
  let last := row.back?.getD default
  last.a0.toNat + last.a1.toNat <<< 32

/-- Lists the row and its first mixes, and what comes after `count` of them. -/
def fill : (count : Nat) → Row → (table : Array Row) → Row × Array Row
  | 0, row, table => (row, table)
  | count + 1, row, table => fill count row.mix (table.push row)

/-- Mixes the row `count` times with the table row that its index selects. -/
def walk (table : Array Row) : (count : Nat) → Row → Row
  | 0, row => row
  | count + 1, row => walk table count (row.xor (table.getD (row.index % table.size) #[])).mix

/-- The table-driven mixing of one row. -/
def mixRow (n : Nat) (row : Row) : Row :=
  let (row, table) := fill n row (Array.emptyWithCapacity n)
  walk table n row

/-- The little-endian 32-bit words of a byte string. -/
def words : Bytes → List UInt32
  | a :: b :: c :: d :: rest =>
    (a.toUInt32 ||| b.toUInt32 <<< 8 ||| c.toUInt32 <<< 16 ||| d.toUInt32 <<< 24) :: words rest
  | _ => []

/-- The chunks of a list of words; fewer than sixteen last words are dropped. -/
def chunks : List UInt32 → List Chunk
  | a0 :: a1 :: a2 :: a3 :: a4 :: a5 :: a6 :: a7 :: a8 :: a9 :: a10 :: a11 :: a12 :: a13 :: a14 ::
      a15 :: rest =>
    ⟨a0, a1, a2, a3, a4, a5, a6, a7, a8, a9, a10, a11, a12, a13, a14, a15⟩ :: chunks rest
  | _ => []

/-- The four bytes of a word, least significant first. -/
def wordBytes (w : UInt32) : Bytes :=
  [w.toUInt8, (w >>> 8).toUInt8, (w >>> 16).toUInt8, (w >>> 24).toUInt8]

/-- The bytes of a chunk. -/
def Chunk.toBytes (c : Chunk) : Bytes :=
  [c.a0, c.a1, c.a2, c.a3, c.a4, c.a5, c.a6, c.a7, c.a8, c.a9, c.a10, c.a11, c.a12, c.a13, c.a14,
    c.a15].flatMap wordBytes

/-- The mixed strings, taken `2 r` chunks at a time. -/
def mixAll (n r : Nat) : (count : Nat) → List Chunk → List Chunk
  | 0, _ => []
  | count + 1, cs =>
    (mixRow n (cs.take (2 * r)).toArray).toList ++ mixAll n r count (cs.drop (2 * r))

/-- The next `count` blocks of a single-iteration password expansion. -/
def expandBlocks (password salt : Bytes) : (count index : Nat) → Bytes
  | 0, _ => []
  | count + 1, index =>
    HashAlgorithm.sha256.mac password (salt ++ Bytes.ofNat 4 index) ++
      expandBlocks password salt count (index + 1)

/-- A password and a salt expanded to `length` bytes. -/
def expand (password salt : Bytes) (length : Nat) : Bytes :=
  (expandBlocks password salt ((length + 31) / 32) 1).take length

/-- The output of scrypt for parameters in range. -/
def derive (n r p : Nat) (password salt : Bytes) (length : Nat) : Bytes :=
  let cs := mixAll n r p (chunks (words (expand password salt (p * 128 * r))))
  expand password (cs.flatMap Chunk.toBytes) length

/-- Whether parameters are beyond what can be derived: the product of block size and number of rows
and the cost have limits, and so has the memory. -/
def isTooLarge (n r p : Nat) : Bool :=
  1073741823 / r < p || (16 * r ≤ 63 && 16 * r ≤ n.log2) || 2147483647 < 128 * r * p ||
    memoryLimit < 128 * r * (n + p)

/-- As many bytes as are given, stretched under an all-zero salt.  The block size and the number of
rows must be positive numbers. -/
def stretch (q : Parameters) (data : Bytes) : Except Error Bytes := do
  let n ← Setting.count 64 (.integer q.n)
  let r ← Setting.count 64 q.r
  let p ← Setting.count 64 q.p
  let failed (reason : String) : Except Error Bytes := .error (.stretchingFailed "scrypt" reason)
  if r = 0 then failed "r must be greater than or equal to 1."
  else if p = 0 then failed "p must be greater than or equal to 1."
  else if isTooLarge n r p then
    failed
      (s!"Not enough memory to derive key. These parameters require {128 * n * r / 1048576}MB " ++
        "of memory.")
  else return derive n r p data (Bytes.zeros 16) data.length

end Apake.Scrypt
