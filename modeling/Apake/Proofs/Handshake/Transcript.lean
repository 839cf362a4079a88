import Apake.Handshake.Transcript
import Apake.Proofs.Framing

/-!
# Transcripts are parsed in one way only

A transcript is written unless a part behind a length is too long for it.  Two transcripts whose
parts without a length have the same sizes are told apart by their bytes, also in front of a
confirmation.
-/

namespace Apake.Transcript

attribute [local instance (2000)] instPowNat

/-- A transcript whose parts behind a length are short enough for it. -/
structure Fits (t : Transcript) : Prop where
  context : t.context.length < 256 ^ (2 : Nat)
  clientIdentity : t.clientIdentity.length < 256 ^ (2 : Nat)
  serverIdentity : t.serverIdentity.length < 256 ^ (2 : Nat)

/-- Whether the parts without a length have the same sizes; the last one needs none. -/
structure Alike (t t' : Transcript) : Prop where
  request : t.request.length = t'.request.length
  credentialPart : t.credentialPart.length = t'.credentialPart.length
  serverNonce : t.serverNonce.length = t'.serverNonce.length

/-- The parts of a transcript in front of the last one. -/
def parts (t : Transcript) : List Framing.Part :=
  [.bare version, .framed 2 t.context, .framed 2 t.clientIdentity, .bare t.request,
    .framed 2 t.serverIdentity, .bare t.credentialPart, .bare t.serverNonce]

variable {t t' : Transcript} {bs bs' : Bytes}

theorem toBytes_eq_write (t : Transcript) :
    t.toBytes = (· ++ t.serverKeyshare) <$> Framing.write t.parts := by
  simp [toBytes, parts, Framing.write, Framing.Part.toBytes]

theorem fits_iff (t : Transcript) : t.Fits ↔ ∀ p ∈ t.parts, p.Fits := by
  constructor
  · rintro ⟨hcontext, hclient, hserver⟩
    simp [parts, Framing.Part.Fits, hcontext, hclient, hserver]
  · intro h
    exact ⟨h (.framed 2 t.context) (by simp [parts]),
      h (.framed 2 t.clientIdentity) (by simp [parts]),
      h (.framed 2 t.serverIdentity) (by simp [parts])⟩

theorem Alike.slots_eq (alike : t.Alike t') :
    t.parts.map Framing.Part.slot = t'.parts.map Framing.Part.slot := by
  obtain ⟨hrequest, hcredential, hnonce⟩ := alike
  simp [parts, Framing.Part.slot, hrequest, hcredential, hnonce]

theorem eq_of_parts (hparts : t.parts = t'.parts) (hlast : t.serverKeyshare = t'.serverKeyshare) :
    t = t' := by
  cases t
  cases t'
  simp only [parts, List.cons.injEq, Framing.Part.framed.injEq, Framing.Part.bare.injEq, true_and,
    and_true] at hparts
  simp only at hlast
  simp only [mk.injEq]
  obtain ⟨hcontext, hclient, hrequest, hserver, hcredential, hnonce⟩ := hparts
  exact ⟨hcontext, hclient, hrequest, hserver, hcredential, hnonce, hlast⟩

/-- Transcripts are written exactly if they fit, and those with parts of the same sizes are told
apart by their bytes. -/
theorem toBytes_unambiguous : Framing.Unambiguous toBytes Fits Alike := by
  apply Framing.Unambiguous.of_write parts serverKeyshare
  · exact toBytes_eq_write
  · exact fits_iff
  · intro t t' alike
    exact alike.slots_eq
  · intro t t' hparts hlast
    exact eq_of_parts hparts hlast

/-- A transcript whose parts fit is written. -/
theorem Fits.exists_toBytes (h : t.Fits) : ∃ bs, t.toBytes = .ok bs :=
  toBytes_unambiguous.exists_of_fits h

/-- A transcript with a part that does not fit is refused for its length. -/
theorem toBytes_of_not_fits (h : ¬ t.Fits) : t.toBytes = .error .overflow :=
  toBytes_unambiguous.of_not_fits h

/-- Transcripts with parts of the same sizes are told apart by their bytes, whatever of one length
follows them. -/
theorem toBytes_append_inj {m m' : Bytes} (h : t.toBytes = .ok bs) (h' : t'.toBytes = .ok bs')
    (hrequest : t.request.length = t'.request.length)
    (hcredential : t.credentialPart.length = t'.credentialPart.length)
    (hnonce : t.serverNonce.length = t'.serverNonce.length) (hlength : m.length = m'.length)
    (heq : bs ++ m = bs' ++ m') : t = t' ∧ m = m' := by
  obtain ⟨hbytes, rfl⟩ := List.append_inj' heq hlength
  subst hbytes
  exact ⟨toBytes_unambiguous.inj ⟨hrequest, hcredential, hnonce⟩ h h', rfl⟩

end Apake.Transcript
