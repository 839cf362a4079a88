import Apake.Group.Montgomery
import Apake.Proofs.Credential.Recovery
import Apake.Proofs.Handshake.Collision

/-!
# An envelope opens as it was sealed

What the tag covers is put together from parts of known sizes and two strings behind their lengths,
so no byte can move from one part to another.  An envelope therefore opens with the server key and
the identities under which it was sealed; a changed tag is refused, and anything else that passes
under the old tag gives two inputs of the keyed hash with one output.
-/

namespace Apake

attribute [local instance (2000)] instPowNat

namespace Identifiers

/-- Identities that fit behind their lengths. -/
structure Fits (ids : Identifiers) : Prop where
  client : (ids.client.getD []).length ≤ 65535
  server : (ids.server.getD []).length ≤ 65535

/-- The same identities, where an absent one counts as empty. -/
structure Same (ids ids' : Identifiers) : Prop where
  client : ids.client.getD [] = ids'.client.getD []
  server : ids.server.getD [] = ids'.server.getD []

end Identifiers

namespace Envelope

variable {serverKey serverKey' clear clear' : Bytes} {ids ids' : Identifiers}

/-- Identities that fit can be covered by a tag. -/
theorem exists_cleartext (hids : ids.Fits) (serverKey : Bytes) :
    ∃ clear, cleartext serverKey ids = .ok clear :=
  exists_cleartext_iff.mpr ⟨Nat.lt_succ_of_le hids.server, Nat.lt_succ_of_le hids.client⟩

/-- An absent identity is covered as an empty one. -/
theorem cleartext_of_same (h : ids.Same ids') (serverKey : Bytes) :
    cleartext serverKey ids = cleartext serverKey ids' := by
  unfold cleartext
  rw [h.client, h.server]

/-- What a tag covers tells server keys of one size apart, and the identities. -/
theorem cleartext_inj (h : cleartext serverKey ids = .ok clear)
    (h' : cleartext serverKey' ids' = .ok clear) (hlength : serverKey.length = serverKey'.length) :
    serverKey = serverKey' ∧ ids.Same ids' := by
  obtain ⟨server, hserver, h⟩ := Except.bind_eq_ok_iff.mp h
  obtain ⟨client, hclient, h⟩ := Except.bind_eq_ok_iff.mp h
  obtain ⟨server', hserver', h'⟩ := Except.bind_eq_ok_iff.mp h'
  obtain ⟨client', hclient', h'⟩ := Except.bind_eq_ok_iff.mp h'
  have heq : serverKey ++ (server ++ client) = serverKey' ++ (server' ++ client') := by
    rw [← List.append_assoc, ← List.append_assoc]
    exact Except.ok.inj (h.trans h'.symm)
  obtain ⟨hkey, heq⟩ := List.append_inj heq hlength
  obtain ⟨hserverId, heq⟩ := Framing.vector_append_inj hserver hserver' heq
  have hrest : client ++ [] = client' ++ [] := by simpa only [List.append_nil] using heq
  exact ⟨hkey, (Framing.vector_append_inj hclient hclient' hrest).1, hserverId⟩

section Tagged

variable [Groups] {s : Suite} {randomized : Bytes} {e e' : Envelope}

/-- The calls by which the tag over an envelope and a cleartext is made, and the pad over its
private key. -/
def calls (s : Suite) (randomized : Bytes) (e : Envelope) (clear : Bytes) : List HashCall :=
  [.expand randomized (e.nonce ++ authLabel) s.hashLength,
    .expand randomized (e.nonce ++ padLabel) s.privateLength,
    .mac (authKey s randomized e.nonce) (e.nonce ++ e.encryptedKey ++ clear)]

/-- An envelope opens exactly if its tag matches. -/
theorem recover_eq_ok_iff {key : Bytes} :
    recover s randomized e serverKey ids = .ok key ↔
      ∃ clear, cleartext serverKey ids = .ok clear ∧
        makeTag s randomized e.nonce e.encryptedKey clear = e.tag ∧
        Framing.mask e.encryptedKey (pad s randomized e.nonce) = .ok key := by
  unfold recover
  simp only [Except.bind_eq_ok_iff, Except.refuseIf_eq_ok_iff, ne_eq, Decidable.not_not]

/-- An envelope whose tag does not match is refused for that. -/
theorem recover_of_tag_ne (hclear : cleartext serverKey ids = .ok clear)
    (htag : makeTag s randomized e.nonce e.encryptedKey clear ≠ e.tag) :
    recover s randomized e serverKey ids = .error .envelopeRejected := by
  unfold recover
  refine Except.bind_of_ok hclear ?_
  rw [if_pos htag]
  rfl

/-- A private key of its size is sealed with identities that fit. -/
theorem exists_enclose {privateKey nonce : Bytes} (hkey : privateKey.length = s.privateLength)
    (hnonce : nonce.length = s.nonceLength) (hids : ids.Fits) (randomized serverKey : Bytes) :
    ∃ e, enclose s randomized privateKey serverKey nonce ids = .ok e := by
  obtain ⟨clear, hclear⟩ := exists_cleartext hids serverKey
  have hpad : (pad s randomized nonce).length = s.privateLength := s.hash.length_expand _ _ _
  have hmask := Framing.mask_eq_ok_iff.mpr ⟨hkey.trans hpad.symm, rfl⟩
  exact ⟨_, enclose_eq_ok_iff.mpr ⟨hnonce, _, clear, hmask, hclear, rfl⟩⟩

/-- A sealed envelope carries the tag over its own fields. -/
theorem tag_of_enclose {privateKey nonce : Bytes}
    (h : enclose s randomized privateKey serverKey nonce ids = .ok e) :
    ∃ clear, cleartext serverKey ids = .ok clear ∧
      makeTag s randomized e.nonce e.encryptedKey clear = e.tag := by
  obtain ⟨-, encryptedKey, clear, -, hclear, rfl⟩ := enclose_eq_ok_iff.mp h
  exact ⟨clear, hclear, rfl⟩

/-- One tag over two envelopes of the right sizes is made from one input, or two inputs of the keyed
hash have one output. -/
theorem eq_or_collision_of_tag (fits : e.Fits s) (fits' : e'.Fits s)
    (h : makeTag s randomized e.nonce e.encryptedKey clear =
      makeTag s randomized e'.nonce e'.encryptedKey clear') :
    (e.nonce = e'.nonce ∧ e.encryptedKey = e'.encryptedKey ∧ clear = clear') ∨
      HashCall.Collision s.hash (calls s randomized e clear ++ calls s randomized e' clear') := by
  by_cases hcollision : HashCall.Collision s.hash
      (calls s randomized e clear ++ calls s randomized e' clear')
  · exact .inr hcollision
  · have hmac := HashCall.eq_of_not_collision hcollision
      (a := .mac (authKey s randomized e.nonce) (e.nonce ++ e.encryptedKey ++ clear))
      (b := .mac (authKey s randomized e'.nonce) (e'.nonce ++ e'.encryptedKey ++ clear'))
      (by simp [calls]) (by simp [calls]) trivial h
    obtain ⟨-, hmessage⟩ := HashCall.mac.inj hmac
    rw [List.append_assoc, List.append_assoc] at hmessage
    obtain ⟨hnonce, hmessage⟩ := List.append_inj hmessage (fits.nonce.trans fits'.nonce.symm)
    exact .inl ⟨hnonce,
      List.append_inj hmessage (fits.encryptedKey.trans fits'.encryptedKey.symm)⟩

/-- Sealing a private key of its size gives an envelope that opens, with the same server key and
identities, to that key.  With another tag it is refused.  If an envelope with its tag opens
although something else of it, the server key or an identity is different, then two different
inputs of one function have one output among the calls of sealing and opening. -/
theorem recover_sealed {privateKey nonce : Bytes} (hkey : privateKey.length = s.privateLength)
    (hserver : serverKey.length = s.publicLength) (hnonce : nonce.length = s.nonceLength)
    (hids : ids.Fits) :
    ∃ e, enclose s randomized privateKey serverKey nonce ids = .ok e ∧ e.Fits s ∧
      ∀ e' : Envelope, e'.Fits s → ∀ serverKey' : Bytes, serverKey'.length = s.publicLength →
        ∀ ids' : Identifiers, ids'.Fits →
          (e' = e → serverKey' = serverKey → ids'.Same ids →
            recover s randomized e' serverKey' ids' = .ok privateKey) ∧
          (e'.nonce = e.nonce → e'.encryptedKey = e.encryptedKey → e'.tag ≠ e.tag →
            serverKey' = serverKey → ids'.Same ids →
            recover s randomized e' serverKey' ids' = .error .envelopeRejected) ∧
          (e'.tag = e.tag → ¬ (e' = e ∧ serverKey' = serverKey ∧ ids'.Same ids) →
            ∀ key, recover s randomized e' serverKey' ids' = .ok key →
              ∃ clear clear', cleartext serverKey ids = .ok clear ∧
                cleartext serverKey' ids' = .ok clear' ∧
                HashCall.Collision s.hash
                  (calls s randomized e clear ++ calls s randomized e' clear')) := by
  obtain ⟨e, hsealed⟩ := exists_enclose hkey hnonce hids randomized serverKey
  obtain ⟨-, fits, hrecover⟩ := recover_of_enclose hsealed
  obtain ⟨clear, hclear, htag⟩ := tag_of_enclose hsealed
  refine ⟨e, hsealed, fits, fun e' fits' serverKey' hserver' ids' hids' ↦ ⟨?_, ?_, ?_⟩⟩
  · rintro rfl rfl hsame
    unfold recover at hrecover ⊢
    rwa [cleartext_of_same hsame]
  · rintro hnonce' hencrypted hne rfl hsame
    rw [← cleartext_of_same hsame] at hclear
    refine recover_of_tag_ne hclear ?_
    rw [hnonce', hencrypted, htag]
    exact hne.symm
  · intro htag' hdiffers key hopens
    obtain ⟨clear', hclear', hmatches, -⟩ := recover_eq_ok_iff.mp hopens
    refine ⟨clear, clear', hclear, hclear', ?_⟩
    have heq := htag.trans (htag'.symm.trans hmatches.symm)
    rcases eq_or_collision_of_tag fits fits' heq with ⟨hnonce', hencrypted, rfl⟩ | hcollision
    · obtain ⟨rfl, hsame⟩ := cleartext_inj hclear' hclear (hserver'.trans hserver.symm)
      refine absurd ⟨?_, rfl, hsame⟩ hdiffers
      cases e
      cases e'
      simp only [Envelope.mk.injEq]
      exact ⟨hnonce'.symm, hencrypted.symm, htag'⟩
    · exact hcollision

end Tagged

attribute [local instance] Groups.standard in
/-- A private key of zeros is sealed in the default suite; it comes out under empty identities as
under absent ones, not with another tag, and under another server key only with a collision. -/
theorem recover_sealed_default :
    let s := Suite.default
    let zero := Bytes.zeros 32
    let one := Bytes.ofNat 32 1
    ∃ e, enclose s [] zero zero zero {} = .ok e ∧
      recover s [] e zero { client := some [] } = .ok zero ∧
      (zero ≠ e.tag → recover s [] { e with tag := zero } zero {} = .error .envelopeRejected) ∧
      ∀ key, recover s [] e one {} = .ok key → ∃ clear clear', cleartext zero {} = .ok clear ∧
        cleartext one {} = .ok clear' ∧
        HashCall.Collision s.hash (calls s [] e clear ++ calls s [] e clear') := by
  intro s zero one
  have hzero : zero.length = s.privateLength := Bytes.length_zeros 32
  have hone : one.length = 32 := Bytes.length_ofNat 32 1
  have hids : Identifiers.Fits {} := ⟨by decide, by decide⟩
  obtain ⟨e, (hsealed : enclose s [] zero zero zero {} = .ok e), fits, hopens⟩ :=
    recover_sealed hzero hzero hzero hids
  have fits' : Fits s { e with tag := zero } := ⟨fits.nonce, fits.encryptedKey, hzero⟩
  have hempty : Identifiers.Fits { client := some [] } := ⟨by decide, by decide⟩
  have hdiffers : one ≠ zero := by decide
  exact ⟨e, hsealed, (hopens e fits zero hzero _ hempty).1 rfl rfl ⟨rfl, rfl⟩,
    fun hne ↦ (hopens _ fits' zero hzero _ hids).2.1 rfl rfl hne rfl ⟨rfl, rfl⟩,
    (hopens e fits one hone _ hids).2.2 rfl fun h ↦ hdiffers h.2.1⟩

end Envelope

end Apake
