import Apake.Proofs.Wire.Format

/-!
# What writing keeps

Writing refuses a message for the size of a field only.  It keeps every field as it is, except that
the fields of an envelope are cut or filled up to their sizes; messages that are written alike are
therefore equal up to that.
-/

namespace Apake

/-- The envelope whose fields are cut or filled up to their sizes. -/
def Envelope.fitted [Groups] (s : Suite) (e : Envelope) : Envelope where
  nonce := e.nonce.fit s.nonceLength
  encryptedKey := e.encryptedKey.fit s.privateLength
  tag := e.tag.fit s.hashLength

namespace Message

/-- Fields are refused only for their sizes. -/
theorem family_of_checkSizes {kind : String} {names : List String} {sizes : List Nat}
    {parts : List Bytes} {e : Error} (h : checkSizes kind names sizes parts = .error e) :
    e.family = .length := by
  induction names generalizing sizes parts with
  | nil => simp [checkSizes] at h
  | cons name names ih =>
    cases sizes with
    | nil => simp [checkSizes] at h
    | cons size sizes =>
      cases parts with
      | nil => simp [checkSizes] at h
      | cons part parts =>
        rw [checkSizes] at h
        split at h
        · cases h
          rfl
        · exact ih h

variable [Groups]

/-- The message with the fields of its envelope cut or filled up to their sizes. -/
def fitted : Message → Message
  | registrationUpload m =>
    registrationUpload { m with envelope := m.envelope.fitted m.suite }
  | m => m

end Message

namespace Envelope

variable [Groups] {s : Suite} {e : Envelope}

/-- Exactly the envelopes of the right sizes stay as they are. -/
theorem fitted_eq_iff : e.fitted s = e ↔ e.Fits s := by
  obtain ⟨nonce, encryptedKey, tag⟩ := e
  constructor
  · intro h
    rw [fitted, Envelope.mk.injEq] at h
    obtain ⟨hnonce, hkey, htag⟩ := h
    constructor
    · exact hnonce ▸ Bytes.length_fit ..
    · exact hkey ▸ Bytes.length_fit ..
    · exact htag ▸ Bytes.length_fit ..
  · rintro ⟨hnonce, hkey, htag⟩
    dsimp only at hnonce hkey htag
    rw [fitted, Bytes.fit_of_length hnonce, Bytes.fit_of_length hkey, Bytes.fit_of_length htag]

/-- An envelope with its fields cut or filled up has the right sizes. -/
theorem fits_fitted : (e.fitted s).Fits s where
  nonce := Bytes.length_fit ..
  encryptedKey := Bytes.length_fit ..
  tag := Bytes.length_fit ..

end Envelope

namespace Message

variable [Groups] {m m' : Message} {bs : Bytes}

/-- Exactly the messages whose envelope has the right sizes stay as they are. -/
theorem fitted_eq_iff : m.fitted = m ↔ m.CarriesFitting := by
  cases m with
  | registrationUpload m =>
    obtain ⟨s, key, masking, e⟩ := m
    rw [fitted, registrationUpload.injEq, RegistrationUpload.mk.injEq]
    simp only [true_and]
    exact Envelope.fitted_eq_iff
  | _ => exact iff_of_true rfl trivial

omit [Groups] in
/-- Messages of one class and suite with the same byte strings are equal. -/
theorem eq_of_leaves (hkind : m'.kind = m.kind) (hsuite : m'.suite = m.suite)
    (h : m'.leaves = m.leaves) : m' = m := by
  rcases m with ⟨s, a⟩ | ⟨s, a, b⟩ | ⟨s, a, b, ⟨n, k, t⟩⟩ | ⟨s, a, b, c⟩ | ⟨s, a, b, c, d, e, f⟩ |
      ⟨s, a⟩ <;>
    rcases m' with ⟨s', a'⟩ | ⟨s', a', b'⟩ | ⟨s', a', b', ⟨n', k', t'⟩⟩ | ⟨s', a', b', c'⟩ |
      ⟨s', a', b', c', d', e', f'⟩ | ⟨s', a'⟩ <;>
    cases hkind <;> cases hsuite <;> cases h <;> rfl

/-- The pieces of a written message are its byte strings, those of its envelope fitted. -/
theorem cut_of_toBytes (h : m.toBytes = .ok bs) :
    cut (m.kind.leafSizes m.suite) bs = m.fitted.leaves := by
  obtain ⟨hsizes, rfl⟩ := toBytes_eq_ok_iff.mp h
  have hleaves : m.fitted.leaves.map List.length = m.kind.leafSizes m.suite ∧
      m.fitted.leaves.flatten = m.parts.flatten := by
    cases m with
    | registrationUpload m =>
      -- The sizes of its fields were checked, but the envelope was fitted before they were.
      simp only [parts, fields, List.map_cons, List.map_nil, kind, suite, MessageKind.sizes,
        List.cons.injEq, Field.toBytes] at hsizes
      obtain ⟨hkey, hmasking, -⟩ := hsizes
      constructor
      · show [m.clientPublicKey.length, m.maskingKey.length, _, _, _] = [_, _, _, _, _]
        rw [hkey, hmasking, Envelope.fits_fitted.nonce, Envelope.fits_fitted.encryptedKey,
          Envelope.fits_fitted.tag]
        rfl
      · show [_, _, _, _, _].flatten = m.clientPublicKey ++ (m.maskingKey ++ (_ ++ _ ++ _ ++ []))
        simp only [List.flatten_cons, List.flatten_nil, List.append_nil, List.append_assoc]
        rfl
    | _ => exact ⟨hsizes, rfl⟩
  rw [← hleaves.1, ← hleaves.2, cut_flatten]

/-- Messages of one class and suite that are written alike are equal up to the sizes in their
envelopes. -/
theorem fitted_eq_of_toBytes (hkind : m'.kind = m.kind) (hsuite : m'.suite = m.suite)
    (h : m.toBytes = .ok bs) (h' : m'.toBytes = .ok bs) : m'.fitted = m.fitted := by
  have hstays (m : Message) : m.fitted.kind = m.kind ∧ m.fitted.suite = m.suite := by
    cases m <;> exact ⟨rfl, rfl⟩
  apply eq_of_leaves
  · rw [(hstays m').1, (hstays m).1, hkind]
  · rw [(hstays m').2, (hstays m).2, hsuite]
  · rw [← cut_of_toBytes h, ← cut_of_toBytes h', hkind, hsuite]

/-- The envelope of a message that was read has the right sizes. -/
theorem carriesFitting_of_ofBytes {k : MessageKind} {s : Suite} (h : ofBytes k s bs = .ok m) :
    m.CarriesFitting := by
  obtain ⟨rfl, rfl, hbytes⟩ := toBytes_of_ofBytes h
  have hleaves : m.fitted.leaves = m.leaves :=
    (cut_of_toBytes hbytes).symm.trans (leaves_of_ofBytes h).symm
  refine fitted_eq_iff.mp (eq_of_leaves ?_ ?_ hleaves) <;> cases m <;> rfl

/-- A message is refused for the size of a field or written as its fields, those of its envelope cut
or filled up; the pieces of the bytes are the fields themselves exactly if the envelope has the
right sizes, and such messages are told apart by their bytes. -/
theorem toBytes_keeps (m : Message) :
    (∀ e, m.toBytes = .error e → e.family = .length) ∧
      (∀ bs, m.toBytes = .ok bs → cut (m.kind.leafSizes m.suite) bs = m.fitted.leaves ∧
        (cut (m.kind.leafSizes m.suite) bs = m.leaves ↔ m.CarriesFitting)) ∧
      ∀ m' bs, m'.kind = m.kind → m'.suite = m.suite → m.toBytes = .ok bs → m'.toBytes = .ok bs →
        m'.fitted = m.fitted ∧ (m.CarriesFitting → m'.CarriesFitting → m' = m) := by
  refine ⟨fun e h ↦ ?_, fun bs h ↦ ?_, fun m' bs hkind hsuite h h' ↦ ?_⟩
  · unfold toBytes at h
    cases hcheck : checkSizes m.kind.name m.kind.fieldNames (m.kind.sizes m.suite) m.parts with
    | error err =>
      rw [Except.bind_of_error hcheck] at h
      cases h
      exact family_of_checkSizes hcheck
    | ok _ =>
      rw [Except.bind_of_ok hcheck rfl] at h
      cases h
  · have hcut := cut_of_toBytes h
    refine ⟨hcut, ?_⟩
    rw [hcut, ← fitted_eq_iff]
    refine ⟨fun hleaves ↦ eq_of_leaves ?_ ?_ hleaves, fun hfitted ↦ by rw [hfitted]⟩ <;>
      cases m <;> rfl
  · have hfitted := fitted_eq_of_toBytes hkind hsuite h h'
    refine ⟨hfitted, fun hm hm' ↦ ?_⟩
    rw [← fitted_eq_iff.mpr hm, ← hfitted, fitted_eq_iff.mpr hm']

omit [Groups] in
/-- An upload whose envelope has a nonce of two bytes is written with thirty zeros more, as is the
upload that has them in its envelope. -/
theorem toBytes_of_short_nonce :
    letI := Groups.standard
    let key := Bytes.zeros 32
    let m := registrationUpload ⟨.default, key, key, ⟨[1, 2], key, key⟩⟩
    let m' := registrationUpload ⟨.default, key, key, ⟨[1, 2] ++ Bytes.zeros 30, key, key⟩⟩
    ∃ bs, m.toBytes = .ok bs ∧ cut (m.kind.leafSizes m.suite) bs ≠ m.leaves ∧
      m'.kind = m.kind ∧ m'.suite = m.suite ∧ m' ≠ m ∧ m'.toBytes = .ok bs :=
  ⟨_, rfl, by decide, rfl, rfl, by decide, rfl⟩

end Message

end Apake
