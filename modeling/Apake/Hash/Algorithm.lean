import Apake.Error
import Apake.Hash.Sha256
import Apake.Hash.Sha512

/-!
# Hash functions, message authentication and key expansion

The two hash functions of the suites, the keyed hash over each of them, and the two-step key
derivation that extracts a key and expands it to any length.  The main statements give the length
of every output.
-/

namespace Apake

/-- A hash function. -/
inductive HashAlgorithm
  | sha256
  | sha512
  deriving DecidableEq

namespace HashAlgorithm

/-- The name under which suites list the function. -/
def name : HashAlgorithm → String
  | sha256 => "sha256"
  | sha512 => "sha512"

/-- The function of a given name. -/
def ofName (name : String) : Except Error HashAlgorithm :=
  if name = "sha256" then .ok sha256
  else if name = "sha512" then .ok sha512
  else .error (.unsupportedHash name)

/-- The size of a digest in bytes. -/
def size : HashAlgorithm → Nat
  | sha256 => 32
  | sha512 => 64

/-- The size of an input block in bytes. -/
def blockSize : HashAlgorithm → Nat
  | sha256 => 64
  | sha512 => 128

/-- The digest of a message. -/
def digest : HashAlgorithm → Bytes → Bytes
  | sha256 => Sha256.digest
  | sha512 => Sha512.digest

/-- A key of exactly one block: a longer key is hashed, then zeros fill it up. -/
def blockKey (h : HashAlgorithm) (key : Bytes) : Bytes :=
  Bytes.fit h.blockSize (if h.blockSize < key.length then h.digest key else key)

/-- The keyed hash (HMAC) of a message. -/
def mac (h : HashAlgorithm) (key message : Bytes) : Bytes :=
  let block := h.blockKey key
  h.digest (block.map (· ^^^ 0x5c) ++ h.digest (block.map (· ^^^ 0x36) ++ message))

/-- Concentrates keying material into one key; an empty salt stands for a digest of zeros. -/
def extract (h : HashAlgorithm) (salt material : Bytes) : Bytes :=
  h.mac (if salt.isEmpty then Bytes.zeros h.size else salt) material

/-- The next `count` blocks of an expansion, where each block is keyed with the one before it, the
information and a one-byte counter. -/
def expandBlocks (h : HashAlgorithm) (key info : Bytes) :
    (count counter : Nat) → (previous : Bytes) → Bytes
  | 0, _, _ => []
  | count + 1, counter, previous =>
    let block := h.mac key (previous ++ info ++ [UInt8.ofNat counter])
    block ++ expandBlocks h key info count (counter + 1) block

/-- Expands a key to `length` bytes that depend on the information. -/
def expand (h : HashAlgorithm) (key info : Bytes) (length : Nat) : Bytes :=
  (h.expandBlocks key info ((length + h.size - 1) / h.size) 1 []).take length

/-- Expands a key to a requested length, which must be a machine word and at most 255 digests. -/
def expandChecked (h : HashAlgorithm) (key info : Bytes) (length : Int) : Except Error Bytes :=
  if length < 0 ∨ 18446744073709551616 ≤ length then .error .overflow
  else if 255 * h.size < length then .error .expansionTooLong
  else .ok (h.expand key info length.toNat)

theorem length_digest (h : HashAlgorithm) (message : Bytes) :
    (h.digest message).length = h.size := by
  cases h
  · exact Sha256.length_digest message
  · exact Sha512.length_digest message

theorem length_mac (h : HashAlgorithm) (key message : Bytes) :
    (h.mac key message).length = h.size := h.length_digest _

theorem length_extract (h : HashAlgorithm) (salt material : Bytes) :
    (h.extract salt material).length = h.size := h.length_mac _ _

theorem size_pos (h : HashAlgorithm) : 0 < h.size := by cases h <;> decide

theorem length_expandBlocks (h : HashAlgorithm) (key info : Bytes) (count counter : Nat)
    (previous : Bytes) :
    (h.expandBlocks key info count counter previous).length = count * h.size := by
  induction count generalizing counter previous with
  | zero => simp [expandBlocks]
  | succ count ih =>
    rw [expandBlocks, List.length_append, length_mac, ih, Nat.succ_mul, Nat.add_comm]

theorem length_expand (h : HashAlgorithm) (key info : Bytes) (length : Nat) :
    (h.expand key info length).length = length := by
  rw [expand, List.length_take, length_expandBlocks]
  have hpos := h.size_pos
  have hmod := Nat.div_add_mod (length + h.size - 1) h.size
  have hlt := Nat.mod_lt (length + h.size - 1) hpos
  have hcomm := Nat.mul_comm h.size ((length + h.size - 1) / h.size)
  omega

end HashAlgorithm

end Apake
