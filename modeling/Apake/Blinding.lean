import Apake.Random
import Apake.Suite

/-!
# Blinded password evaluation

The client hides its password behind a random scalar, the server multiplies what it gets by a key of
the account, and the client takes the scalar away again and hashes the result.  The server learns
nothing about the password and the client nothing about the key.
-/

namespace Apake.Blinding

/-- The tag that sets the hashing of passwords into the group apart for each suite. -/
def tag (s : Suite) : Bytes := Bytes.ofString "OPAQUE-HashToGroup-" ++ s.identifier

/-- The use for which account keys are derived. -/
def keyInfo : Bytes := Bytes.ofString "OPAQUE-DeriveKeyPair"

/-- The end of the hash input. -/
def finalLabel : Bytes := Bytes.ofString "Finalize"

/-- The end of the information under which the seed of an account key is expanded. -/
def accountLabel : Bytes := Bytes.ofString "OprfKey"

variable [Groups]

/-- A fresh scalar as bytes, and the password's element multiplied by it. -/
def blind (s : Suite) (password : Bytes) : Draw (Bytes × s.group.Element) := do
  let point ← s.group.hash password (tag s)
  let r ← s.group.randomScalar
  return (Bytes.ofNat s.scalarLength r, s.group.multiply r point)

/-- The server's part: the multiple by the account's key. -/
def evaluate (s : Suite) (blinded : s.group.Element) (key : Int) : s.group.Element :=
  s.group.multiply key blinded

/-- The hash input: the password and the unblinded element, each behind its length. -/
def hashInput (password unblinded : Bytes) : Except Error Bytes := do
  return (← Framing.vector password) ++ (← Framing.vector unblinded) ++ finalLabel

/-- The client's last part: the blinding is taken away and the result hashed with the password. -/
def finalize (s : Suite) (password : Bytes) (blinding : Nat) (evaluated : s.group.Element) :
    Except Error Bytes := do
  let inverse ← s.group.invert blinding
  let unblinded := s.group.encode (s.group.multiply inverse evaluated)
  return s.hash.digest (← hashInput password unblinded)

/-- Refuses an evaluation that is the blinded element itself. -/
def checkNotReflected (blinded evaluated : Bytes) : Except Error Unit :=
  if blinded = evaluated then .error .reflected else .ok ()

/-- The key of an account, derived from the server's seed and the account's identifier. -/
def accountKey (s : Suite) (seed identifier : Bytes) : Except Error Nat :=
  s.group.deriveScalar s.hash (s.hash.expand seed (identifier ++ accountLabel) s.scalarLength)
    keyInfo

/-- The randomized password: the output of the evaluation, with its stretched form, extracted. -/
def randomize (s : Suite) (output : Bytes) : Except Error Bytes := do
  return s.hash.extract [] (output ++ (← s.stretching.stretch output))

end Apake.Blinding
