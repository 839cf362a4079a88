import Apake.Proofs.Handshake.Derivation

/-!
# Equal confirmations have equal origins

The confirmation of a client depends on the shared values, the transcript and the server's
confirmation through a chain of hashes.  If two such chains end in one value, they have started from
the same transcript and the same key, or two different inputs to one function have one output.
-/

namespace Apake

/-- A use of the hash function, of the keyed hash or of the expansion, with all its inputs. -/
inductive HashCall
  | digest (message : Bytes)
  | mac (key message : Bytes)
  | expand (key info : Bytes) (length : Nat)
  deriving DecidableEq

namespace HashCall

/-- The output of a call. -/
def output (h : HashAlgorithm) : HashCall → Bytes
  | digest message => h.digest message
  | mac key message => h.mac key message
  | expand key info length => h.expand key info length

/-- Whether two calls are calls of one function. -/
def SameFunction : HashCall → HashCall → Prop
  | digest _, digest _ | mac .., mac .. | expand .., expand .. => True
  | _, _ => False

/-- Two different inputs to one function with one output among some calls. -/
def Collision (h : HashAlgorithm) (calls : List HashCall) : Prop :=
  ∃ a ∈ calls, ∃ b ∈ calls, a.SameFunction b ∧ a ≠ b ∧ a.output h = b.output h

/-- Where no calls collide, calls of one function with one output are one call. -/
theorem eq_of_not_collision {h : HashAlgorithm} {calls : List HashCall}
    (hsafe : ¬ Collision h calls) {a b : HashCall} (ha : a ∈ calls) (hb : b ∈ calls)
    (hfunction : a.SameFunction b) (houtput : a.output h = b.output h) : a = b := by
  by_cases hne : a = b
  · exact hne
  · exact absurd ⟨a, ha, b, hb, hfunction, hne, houtput⟩ hsafe

end HashCall

namespace SessionKeys

/-- The calls by which one side gets from its shared values, its transcript and the server's
confirmation to its keys and to both confirmations. -/
def calls (s : Suite) (shared transcript confirmation : Bytes) : List HashCall :=
  let digest := s.hash.digest transcript
  let keys := keysOf s shared transcript
  [.digest transcript, .digest (transcript ++ confirmation),
    .expand (sharedKey s shared) (keyInfo s "HandshakeSecret" digest) s.hashLength,
    .expand (sharedKey s shared) (keyInfo s "SessionKey" digest) s.hashLength,
    .expand (handshakeSecret s shared transcript) (keyInfo s "ServerMAC" []) s.hashLength,
    .expand (handshakeSecret s shared transcript) (keyInfo s "ClientMAC" []) s.hashLength,
    .mac keys.serverMac digest, .mac keys.clientMac (s.hash.digest (transcript ++ confirmation))]

variable {s : Suite} {shared shared' transcript transcript' confirmation confirmation' : Bytes}

/-- Sides with one confirmation of the client have hashed the same bytes and concentrated their
shared values into one key, or their calls collide. -/
theorem eq_or_collision_of_confirmClient
    (h : (keysOf s shared transcript).confirmClient s transcript confirmation =
      (keysOf s shared' transcript').confirmClient s transcript' confirmation') :
    transcript ++ confirmation = transcript' ++ confirmation' ∧
        sharedKey s shared = sharedKey s shared' ∨
      HashCall.Collision s.hash
        (calls s shared transcript confirmation ++ calls s shared' transcript' confirmation') := by
  by_cases hcollision : HashCall.Collision s.hash
      (calls s shared transcript confirmation ++ calls s shared' transcript' confirmation')
  · exact .inr hcollision
  -- From the confirmation back: the keyed hash, what it was given, and the two expansions.
  · have hmac := HashCall.eq_of_not_collision hcollision
      (a := .mac (keysOf s shared transcript).clientMac
        (s.hash.digest (transcript ++ confirmation)))
      (b := .mac (keysOf s shared' transcript').clientMac
        (s.hash.digest (transcript' ++ confirmation')))
      (by simp [calls]) (by simp [calls]) trivial h
    obtain ⟨hkey, hdigest⟩ := HashCall.mac.inj hmac
    have hbytes := HashCall.eq_of_not_collision hcollision
      (a := .digest (transcript ++ confirmation)) (b := .digest (transcript' ++ confirmation'))
      (by simp [calls]) (by simp [calls]) trivial hdigest
    have hsecret := HashCall.eq_of_not_collision hcollision
      (a := .expand (handshakeSecret s shared transcript) (keyInfo s "ClientMAC" []) s.hashLength)
      (b := .expand (handshakeSecret s shared' transcript') (keyInfo s "ClientMAC" []) s.hashLength)
      (by simp [calls]) (by simp [calls]) trivial hkey
    have hshared := HashCall.eq_of_not_collision hcollision
      (a := .expand (sharedKey s shared)
        (keyInfo s "HandshakeSecret" (s.hash.digest transcript)) s.hashLength)
      (b := .expand (sharedKey s shared')
        (keyInfo s "HandshakeSecret" (s.hash.digest transcript')) s.hashLength)
      (by simp [calls]) (by simp [calls]) trivial (HashCall.expand.inj hsecret).1
    exact .inl ⟨HashCall.digest.inj hbytes, (HashCall.expand.inj hshared).1⟩

/-- With one key and one transcript both sides have one session key. -/
theorem session_eq (hshared : sharedKey s shared = sharedKey s shared') :
    (keysOf s shared transcript).session = (keysOf s shared' transcript).session := by
  unfold keysOf
  rw [hshared]

end SessionKeys

end Apake
