import Apake.Bytes
import Apake.Error

/-!
# Secrets that can be wiped

A secret is a buffer that can be read until it is wiped; wiping overwrites it with zeros, keeps its
size and cannot be undone.
-/

namespace Apake

/-- A buffer and whether it has been wiped. -/
structure Secret where
  memory : Bytes
  wiped : Bool := false
  deriving DecidableEq

namespace Secret

/-- A live secret that holds the given bytes. -/
def ofBytes (bs : Bytes) : Secret := ⟨bs, false⟩

/-- The bytes of a live secret. -/
def read (s : Secret) : Except Error Bytes := if s.wiped then .error .secretWiped else .ok s.memory

/-- The number that a live secret spells, most significant byte first. -/
def readNat (s : Secret) : Except Error Nat := s.read.map Bytes.toNat

/-- Overwrites the buffer with zeros, which leaves its size and its standing. -/
def overwrite (s : Secret) : Secret := { s with memory := Bytes.zeros s.memory.length }

/-- Overwrites the buffer and closes the secret for good. -/
def wipe (s : Secret) : Secret := if s.wiped then s else { s.overwrite with wiped := true }

/-- A short form that never shows the content. -/
def describe (s : Secret) : String :=
  if s.wiped then "SecretBytes(<wiped>)" else s!"SecretBytes(<{s.memory.length} bytes>)"

theorem wiped_wipe (s : Secret) : s.wipe.wiped = true := by
  rw [wipe]
  split
  next h => exact h
  next => rfl

theorem read_wipe (s : Secret) : s.wipe.read = .error .secretWiped := by
  rw [read, wiped_wipe, if_pos rfl]

theorem wipe_wipe (s : Secret) : s.wipe.wipe = s.wipe := by
  rw [wipe, if_pos s.wiped_wipe]

end Secret

end Apake
