import Apake.Group.Exchange
import Apake.Hash.Algorithm
import Apake.Stretching.Function
import Apake.Text.Quoted

/-!
# Suites

A suite fixes the group for password blinding, the key exchange, the hash function and the
stretching function; all sizes on the wire follow from it.  Suites are told apart by the values of
these, so a setting that is `true` makes the same suite as one that is `1`.
-/

namespace Apake

/-- The registered selections of groups and hash function. -/
inductive SuiteName
  | ed25519X25519Sha256
  | ed25519Sha512
  | i2048Sha256
  deriving DecidableEq

/-- A registered selection and a stretching function. -/
structure Suite where
  selection : SuiteName
  stretching : Stretching := .identity
  deriving DecidableEq

namespace SuiteName

/-- The name of a selection. -/
def name : SuiteName → String
  | ed25519X25519Sha256 => "ed25519-x25519-sha256"
  | ed25519Sha512 => "ed25519-sha512"
  | i2048Sha256 => "i2048-sha256"

/-- All selections in the order of their names. -/
def all : List SuiteName := [ed25519Sha512, ed25519X25519Sha256, i2048Sha256]

/-- The selection of a given name. -/
def ofName? (name : String) : Option SuiteName := all.find? (·.name = name)

end SuiteName

namespace Suite

/-- Whether two suites make the same selection and stretch by functions of equal value. -/
def same (s t : Suite) : Bool := s.selection = t.selection && s.stretching.same t.stretching

@[simp] theorem same_self (s : Suite) : s.same s = true := by simp [same]

-- Unlike the equality of structures: `true` counts as one, but no NaN as another.
example : Suite.same ⟨.i2048Sha256, .scrypt { p := .bool true }⟩
    ⟨.i2048Sha256, .scrypt { p := .integer 1 }⟩ = true := by decide

example : Suite.same ⟨.i2048Sha256, .scrypt { p := .decimal (.nan 0) }⟩
    ⟨.i2048Sha256, .scrypt { p := .decimal (.nan 1) }⟩ = false := by decide

theorem same_of_eq {s t : Suite} (h : s = t) : s.same t = true := by rw [h, same_self]

/-- Suites of equal value differ in the settings of their stretching function at most. -/
theorem exists_of_same {s t : Suite} (h : s.same t = true) : ∃ f, s = { t with stretching := f } := by
  obtain ⟨selection, f⟩ := s
  have hselection : selection = t.selection := of_decide_eq_true (Bool.and_eq_true_iff.mp h).1
  exact ⟨f, by rw [hselection]⟩

/-- The suite in use where none is chosen. -/
def default : Suite := ⟨.ed25519X25519Sha256, .identity⟩

/-- The suite of a given name with a given stretching function. -/
def ofName (name : Units) (stretching : Stretching := .identity) : Except Error Suite :=
  match SuiteName.ofName? name.toText with
  | some selection => .ok ⟨selection, stretching⟩
  | none => .error (.missingKey (Quoted.ofUnits name))

/-- The name of the suite. -/
def name (s : Suite) : String := s.selection.name

/-- The bytes that tie derived values to the suite. -/
def identifier (s : Suite) : Bytes := Bytes.ofString s.name

/-- The group for password blinding. -/
def blinding (s : Suite) : PrimeGroupName :=
  match s.selection with
  | .ed25519X25519Sha256 | .ed25519Sha512 => .ed25519
  | .i2048Sha256 => .i2048

/-- The key exchange. -/
def exchange (s : Suite) : ExchangeName :=
  match s.selection with
  | .ed25519X25519Sha256 => .x25519
  | .ed25519Sha512 => .prime .ed25519
  | .i2048Sha256 => .prime .i2048

/-- The hash function. -/
def hash (s : Suite) : HashAlgorithm :=
  match s.selection with
  | .ed25519X25519Sha256 | .i2048Sha256 => .sha256
  | .ed25519Sha512 => .sha512

/-- The size of a nonce. -/
def nonceLength (_ : Suite) : Nat := 32

/-- The size of a seed for a key pair. -/
def seedLength (_ : Suite) : Nat := 32

/-- The size of a digest, an authentication tag and a derived key. -/
def hashLength (s : Suite) : Nat := s.hash.size

variable [Groups]

/-- The group operations for password blinding. -/
abbrev group (s : Suite) : PrimeGroup := Groups.prime s.blinding

/-- The size of an encoded element. -/
def elementLength (s : Suite) : Nat := s.group.elementLength

/-- The size of an encoded scalar. -/
def scalarLength (s : Suite) : Nat := s.group.scalarLength

/-- The size of a public key. -/
def publicLength (s : Suite) : Nat := s.exchange.publicLength

/-- The size of a private key. -/
def privateLength (s : Suite) : Nat := s.exchange.privateLength

/-- The size of an envelope: nonce, encrypted private key and tag. -/
def envelopeLength (s : Suite) : Nat := s.nonceLength + s.privateLength + s.hashLength

/-- The size of a masked server key with its envelope. -/
def maskedLength (s : Suite) : Nat := s.publicLength + s.envelopeLength

end Suite

end Apake
