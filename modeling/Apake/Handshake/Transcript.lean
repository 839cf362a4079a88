import Apake.Framing

/-!
# The transcript of a login

Everything that both sides saw, in one unambiguous string: the variable-length parts stand behind
their lengths, the others have the sizes that the suite fixes.
-/

namespace Apake

/-- The parts of a transcript. -/
structure Transcript where
  context : Bytes
  clientIdentity : Bytes
  request : Bytes
  serverIdentity : Bytes
  credentialPart : Bytes
  serverNonce : Bytes
  serverKeyshare : Bytes
  deriving DecidableEq

namespace Transcript

/-- The protocol's name and version. -/
def version : Bytes := Bytes.ofString "OPAQUEv1-"

/-- The transcript as one string. -/
def toBytes (t : Transcript) : Except Error Bytes := do
  return version ++ (← Framing.vector t.context) ++ (← Framing.vector t.clientIdentity) ++
    t.request ++ (← Framing.vector t.serverIdentity) ++ t.credentialPart ++ t.serverNonce ++
    t.serverKeyshare

end Transcript

end Apake
