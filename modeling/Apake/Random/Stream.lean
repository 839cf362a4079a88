import Apake.Hash.Sha256
import Apake.Random

/-!
# A stream of random bytes

A random source that expands a seed: the hashes of the seed with a running number.  Every request
takes whole blocks, so the answer to a request depends on the sizes of the earlier ones alone.
-/

namespace Apake.Source

attribute [local instance (2000)] Zero.ofOfNat0

/-- The number of blocks that a request for `n` bytes takes. -/
def blocks (n : Nat) : Nat := (n + 31) / 32

/-- The block of a given number. -/
def block (seed : Bytes) (number : Nat) : Bytes := Sha256.digest (seed ++ Bytes.ofNat 8 number)

/-- The source that expands a seed. -/
def stream (seed : Bytes) : Source := fun earlier n ↦
  let used := (earlier.map blocks).sum
  .bytes (((List.range (blocks n)).flatMap fun i ↦ block seed (used + i)).take n)

end Apake.Source
