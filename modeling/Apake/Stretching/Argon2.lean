import Apake.Stretching.Blake2b
import Apake.Stretching.Setting

/-!
# Argon2id

A password fills a matrix of 1024-byte blocks, one row for each lane.  Each new block is made of the
one before it and one that is chosen, in the first half of the first pass by counters alone and
afterwards by the content; the last column gives the output.
-/

namespace Apake.Argon2

open Blake2b (Words)
open Stretching (Setting memoryLimit)

/-- Refuses parameters out of range; the memory is looked at first. -/
def check (memory passes lanes : Setting) : Except Error Unit := do
  if ← Json.less memory (← Json.times 8 lanes) then throw .argonMemory
  if ← Json.less passes (.integer 1) then throw .argonCounts
  if ← Json.less lanes (.integer 1) then throw .argonCounts

/-- The parameters of Argon2id: memory in KiB, passes over it, and lanes. -/
structure Parameters where
  memory : Setting := .integer 65536
  passes : Setting := .integer 3
  lanes : Setting := .integer 4
  checked : check memory passes lanes = .ok () := by rfl
  deriving DecidableEq

/-- Parameters that are checked. -/
def Parameters.make (memory passes lanes : Setting) : Except Error Parameters :=
  match h : check memory passes lanes with
  | .ok () => .ok ⟨memory, passes, lanes, h⟩
  | .error e => .error e

/-- A block of 1024 bytes as eight rows of sixteen words. -/
structure Block where
  r0 : Words
  r1 : Words
  r2 : Words
  r3 : Words
  r4 : Words
  r5 : Words
  r6 : Words
  r7 : Words
  deriving Inhabited

namespace Block

/-- Applies a function to each row. -/
@[inline] def map (f : Words → Words) (b : Block) : Block :=
  ⟨f b.r0, f b.r1, f b.r2, f b.r3, f b.r4, f b.r5, f b.r6, f b.r7⟩

/-- Word-wise exclusive or. -/
def xor (s t : Block) : Block :=
  ⟨s.r0.xor t.r0, s.r1.xor t.r1, s.r2.xor t.r2, s.r3.xor t.r3,
    s.r4.xor t.r4, s.r5.xor t.r5, s.r6.xor t.r6, s.r7.xor t.r7⟩

/-- Pairs of words swapped across the diagonal of the eight-by-eight square. -/
def transpose (b : Block) : Block where
  r0 := ⟨b.r0.a0, b.r0.a1, b.r1.a0, b.r1.a1, b.r2.a0, b.r2.a1, b.r3.a0, b.r3.a1,
    b.r4.a0, b.r4.a1, b.r5.a0, b.r5.a1, b.r6.a0, b.r6.a1, b.r7.a0, b.r7.a1⟩
  r1 := ⟨b.r0.a2, b.r0.a3, b.r1.a2, b.r1.a3, b.r2.a2, b.r2.a3, b.r3.a2, b.r3.a3,
    b.r4.a2, b.r4.a3, b.r5.a2, b.r5.a3, b.r6.a2, b.r6.a3, b.r7.a2, b.r7.a3⟩
  r2 := ⟨b.r0.a4, b.r0.a5, b.r1.a4, b.r1.a5, b.r2.a4, b.r2.a5, b.r3.a4, b.r3.a5,
    b.r4.a4, b.r4.a5, b.r5.a4, b.r5.a5, b.r6.a4, b.r6.a5, b.r7.a4, b.r7.a5⟩
  r3 := ⟨b.r0.a6, b.r0.a7, b.r1.a6, b.r1.a7, b.r2.a6, b.r2.a7, b.r3.a6, b.r3.a7,
    b.r4.a6, b.r4.a7, b.r5.a6, b.r5.a7, b.r6.a6, b.r6.a7, b.r7.a6, b.r7.a7⟩
  r4 := ⟨b.r0.a8, b.r0.a9, b.r1.a8, b.r1.a9, b.r2.a8, b.r2.a9, b.r3.a8, b.r3.a9,
    b.r4.a8, b.r4.a9, b.r5.a8, b.r5.a9, b.r6.a8, b.r6.a9, b.r7.a8, b.r7.a9⟩
  r5 := ⟨b.r0.a10, b.r0.a11, b.r1.a10, b.r1.a11, b.r2.a10, b.r2.a11, b.r3.a10, b.r3.a11,
    b.r4.a10, b.r4.a11, b.r5.a10, b.r5.a11, b.r6.a10, b.r6.a11, b.r7.a10, b.r7.a11⟩
  r6 := ⟨b.r0.a12, b.r0.a13, b.r1.a12, b.r1.a13, b.r2.a12, b.r2.a13, b.r3.a12, b.r3.a13,
    b.r4.a12, b.r4.a13, b.r5.a12, b.r5.a13, b.r6.a12, b.r6.a13, b.r7.a12, b.r7.a13⟩
  r7 := ⟨b.r0.a14, b.r0.a15, b.r1.a14, b.r1.a15, b.r2.a14, b.r2.a15, b.r3.a14, b.r3.a15,
    b.r4.a14, b.r4.a15, b.r5.a14, b.r5.a15, b.r6.a14, b.r6.a15, b.r7.a14, b.r7.a15⟩

/-- A sum that also takes in twice the product of the lower halves. -/
@[inline] def sum (x y : UInt64) : UInt64 :=
  x + y + 2 * ((x &&& 0xffffffff) * (y &&& 0xffffffff))

/-- One round over sixteen words with nothing coming in. -/
def permute (w : Words) : Words := w.round sum default

/-- The compression of two blocks: rounds over the rows and then over the columns. -/
def compress (s t : Block) : Block :=
  let x := s.xor t
  (((x.map permute).transpose.map permute).transpose).xor x

/-- The bytes of a block. -/
def toBytes (b : Block) : Bytes :=
  [b.r0, b.r1, b.r2, b.r3, b.r4, b.r5, b.r6, b.r7].flatMap fun w ↦
    w.toList.flatMap Blake2b.wordBytes

/-- The block that 1024 bytes stand for. -/
def ofBytes (bs : Bytes) : Block :=
  let ws := Blake2b.words bs
  let row (i : Nat) := Words.ofList ((ws.drop (16 * i)).take 16)
  ⟨row 0, row 1, row 2, row 3, row 4, row 5, row 6, row 7⟩

/-- The word at a place from 0 to 127. -/
def word (b : Block) (i : Nat) : UInt64 :=
  (([b.r0, b.r1, b.r2, b.r3, b.r4, b.r5, b.r6, b.r7].getD (i / 16) default).toList).getD (i % 16) 0

end Block

/-- A number as four little-endian bytes. -/
def le32 (n : Nat) : Bytes := Bytes.ofNatLE 4 n

/-- The first halves of a chain of `count` digests, and the last digest whole, of `size` bytes. -/
def hashChain (size : Nat) : (count : Nat) → (previous : Bytes) → Bytes
  | 0, previous => Blake2b.digest size previous
  | count + 1, previous =>
    let next := Blake2b.digest 64 previous
    next.take 32 ++ hashChain size count next

/-- A digest of any positive length. -/
def longHash (message : Bytes) (length : Nat) : Bytes :=
  if length ≤ 64 then Blake2b.digest length (le32 length ++ message)
  else
    let count := (length + 31) / 32 - 2
    hashChain (length - 32 * count) count (le32 length ++ message)

/-- The sizes of a matrix: lanes, blocks in a quarter of a lane, and passes. -/
structure Shape where
  lanes : Nat
  quarter : Nat
  passes : Nat

/-- The number of blocks in a lane. -/
def Shape.lane (s : Shape) : Nat := 4 * s.quarter

/-- Where a block is made: pass, quarter, lane and the place within the quarter. -/
structure Position where
  pass : Nat
  quarter : Nat
  lane : Nat
  place : Nat

/-- Whether the choice of blocks depends on counters alone. -/
def Position.byCounter (p : Position) : Bool := p.pass = 0 && p.quarter < 2

/-- The block of 128 choices that a counter gives for one quarter of a lane. -/
def counterBlock (s : Shape) (p : Position) (counter : Nat) : Block :=
  let input : Words := Words.ofList ([p.pass, p.lane, p.quarter, s.lanes * s.lane, s.passes, 2,
    counter].map UInt64.ofNat)
  let once := Block.compress default { (default : Block) with r0 := input }
  Block.compress default once

/-- The matrix index of the block that a 64-bit choice selects. -/
def reference (s : Shape) (p : Position) (choice : UInt64) : Nat :=
  let low := (choice &&& 0xffffffff).toNat
  let high := (choice >>> 32).toNat
  let lane := if p.pass = 0 && p.quarter = 0 then p.lane else high % s.lanes
  let finished := if p.pass = 0 then p.quarter * s.quarter else s.lane - s.quarter
  let area :=
    if lane = p.lane then finished + p.place - 1
    else if p.place = 0 then finished - 1 else finished
  let offset := area - 1 - (area * ((low * low) >>> 32)) >>> 32
  let start := if p.pass = 0 then 0 else (p.quarter + 1) * s.quarter % s.lane
  lane * s.lane + (start + offset) % s.lane

/-- The matrix, lane after lane. -/
abbrev Matrix := Array Block

/-- Makes the next `count` blocks of a quarter. -/
def fillPlaces (s : Shape) : (count : Nat) → Position → (choices : Block) → Matrix → Matrix
  | 0, _, _, m => m
  | count + 1, p, choices, m =>
    let column := p.quarter * s.quarter + p.place
    let previous := m.getD (p.lane * s.lane + (column + s.lane - 1) % s.lane) default
    let choices :=
      if p.byCounter && p.place % 128 = 0 then counterBlock s p (p.place / 128 + 1) else choices
    let choice := if p.byCounter then choices.word (p.place % 128) else previous.r0.a0
    let here := p.lane * s.lane + column
    let made := previous.compress (m.getD (reference s p choice) default)
    let made := if p.pass = 0 then made else made.xor (m.getD here default)
    fillPlaces s count { p with place := p.place + 1 } choices (m.setIfInBounds here made)

/-- Makes one quarter of one lane; the first two blocks of a lane are there from the start. -/
def fillQuarter (s : Shape) (m : Matrix) (p : Position) : Matrix :=
  if p.pass = 0 && p.quarter = 0 then
    fillPlaces s (s.quarter - 2) { p with place := 2 } (counterBlock s p 1) m
  else fillPlaces s s.quarter p default m

/-- Makes all blocks: pass by pass, quarter by quarter, lane by lane. -/
def fill (s : Shape) (m : Matrix) : Matrix :=
  (List.range s.passes).foldl (fun m pass ↦
    (List.range 4).foldl (fun m quarter ↦
      (List.range s.lanes).foldl (fun m lane ↦ fillQuarter s m ⟨pass, quarter, lane, 0⟩) m) m) m

/-- The output of Argon2id for parameters in range, without a key and associated data. -/
def derive (memory passes lanes : Nat) (password salt : Bytes) (length : Nat) : Bytes :=
  let s : Shape := ⟨lanes, memory / (4 * lanes), passes⟩
  let seed := Blake2b.digest 64 (le32 lanes ++ le32 length ++ le32 memory ++ le32 passes ++
    le32 0x13 ++ le32 2 ++ le32 password.length ++ password ++ le32 salt.length ++ salt ++
    le32 0 ++ le32 0)
  let first (lane column : Nat) : Block :=
    Block.ofBytes (longHash (seed ++ le32 column ++ le32 lane) 1024)
  let start : Matrix := (List.range lanes).foldl
    (fun m lane ↦ (m.setIfInBounds (lane * s.lane) (first lane 0)).setIfInBounds
      (lane * s.lane + 1) (first lane 1))
    (Array.replicate (lanes * s.lane) default)
  let m := fill s start
  let last : Block := (List.range lanes).foldl
    (fun b lane ↦ Block.xor b (m.getD (lane * s.lane + s.lane - 1) default)) default
  longHash last.toBytes length

/-- As many bytes as are given, at least four, stretched under an all-zero salt.  The parameters must
be whole numbers of 32 bits. -/
def stretch (q : Parameters) (data : Bytes) : Except Error Bytes := do
  let passes ← Setting.count 32 q.passes
  let lanes ← Setting.count 32 q.lanes
  let memory ← Setting.count 32 q.memory
  if data.length < 4 then
    throw (.stretchingFailed "argon2id" "length must be greater than or equal to 4.")
  else if memoryLimit < 1024 * memory then throw .refused
  else return derive memory passes lanes data (Bytes.zeros 16) data.length

end Apake.Argon2
