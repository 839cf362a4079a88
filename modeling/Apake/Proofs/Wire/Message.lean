import Apake.Wire.Message
import Apake.Proofs.Credential.Recovery

/-!
# Messages on the wire

A message is written exactly if every field has its size, and then as its fields one after the
other.  Bytes that are read as a message are the bytes that the message is written as, and a written
message whose elements and keys are valid is read back.
-/

namespace Apake.Message

attribute [local instance (2000)] Zero.ofOfNat0

/-- Cutting at given sizes gives pieces of these sizes that make up the whole. -/
theorem cut_of_sum {sizes : List Nat} {bs : Bytes} (h : bs.length = sizes.sum) :
    (cut sizes bs).map List.length = sizes ∧ (cut sizes bs).flatten = bs := by
  induction sizes generalizing bs with
  | nil =>
    rw [List.sum_nil] at h
    exact ⟨rfl, (List.eq_nil_of_length_eq_zero h).symm⟩
  | cons size sizes ih =>
    rw [List.sum_cons] at h
    have hrest : (bs.drop size).length = sizes.sum := by
      rw [List.length_drop]
      omega
    obtain ⟨hsizes, hflatten⟩ := ih hrest
    constructor
    · simp only [cut, List.map_cons, List.length_take, hsizes]
      rw [Nat.min_eq_left (by omega)]
    · simp only [cut, List.flatten_cons, hflatten, List.take_append_drop]

/-- Pieces come back when their whole is cut at their sizes. -/
theorem cut_flatten (parts : List Bytes) : cut (parts.map List.length) parts.flatten = parts := by
  induction parts with
  | nil => rfl
  | cons part parts ih =>
    simp only [List.map_cons, List.flatten_cons, cut, List.take_left, List.drop_left, ih]

/-- No field is refused exactly if all have their sizes. -/
theorem checkSizes_eq_ok_iff {kind : String} {names : List String} {sizes : List Nat}
    {parts : List Bytes} (hsizes : names.length = sizes.length)
    (hparts : names.length = parts.length) :
    checkSizes kind names sizes parts = .ok () ↔ parts.map List.length = sizes := by
  induction names generalizing sizes parts with
  | nil =>
    have hs : sizes = [] := List.eq_nil_of_length_eq_zero hsizes.symm
    have hp : parts = [] := List.eq_nil_of_length_eq_zero hparts.symm
    subst hs hp
    simp [checkSizes]
  | cons name names ih =>
    cases sizes with
    | nil => cases hsizes
    | cons size sizes =>
      cases parts with
      | nil => cases hparts
      | cons part parts =>
        have ih := ih (Nat.succ.inj hsizes) (Nat.succ.inj hparts)
        rw [checkSizes]
        split
        · next hne => simp [hne]
        · next heq =>
          rw [ih, List.map_cons, List.cons.injEq]
          exact ⟨fun h ↦ ⟨Decidable.not_not.mp heq, h⟩, fun h ↦ h.2⟩

variable [Groups] {k : MessageKind} {s : Suite} {m : Message} {bs : Bytes}

/-- A message is written exactly if its fields have the sizes of its class. -/
theorem toBytes_eq_ok_iff :
    m.toBytes = .ok bs ↔ m.parts.map List.length = m.kind.sizes m.suite ∧ bs = m.parts.flatten := by
  have hsizes : m.kind.fieldNames.length = (m.kind.sizes m.suite).length := by cases m <;> rfl
  have hparts : m.kind.fieldNames.length = m.parts.length := by cases m <;> rfl
  unfold toBytes
  rw [Except.bind_eq_ok_iff]
  simp only [checkSizes_eq_ok_iff hsizes hparts, pure, Except.pure, Except.ok.injEq,
    exists_and_left, exists_const, eq_comm (a := bs)]

/-- Every message of a class has the length of the class. -/
theorem length_of_toBytes (h : m.toBytes = .ok bs) : bs.length = m.kind.length m.suite := by
  obtain ⟨hsizes, rfl⟩ := toBytes_eq_ok_iff.mp h
  rw [List.length_flatten, hsizes]
  rfl

private theorem parts_split (h : bs.length = k.length s) :
    (split k s bs).kind = k ∧ (split k s bs).suite = s ∧
      (split k s bs).parts = cut (k.sizes s) bs := by
  cases k with
  | registrationUpload =>
    refine ⟨rfl, rfl, ?_⟩
    have hlast : ((bs.drop s.publicLength).drop s.hashLength).length = s.envelopeLength := by
      simp only [MessageKind.length, MessageKind.sizes, List.sum_cons, List.sum_nil] at h
      simp only [List.length_drop]
      omega
    have hfield : Field.toBytes s (.envelope (Envelope.split s
        (((bs.drop s.publicLength).drop s.hashLength).take s.envelopeLength))) =
        ((bs.drop s.publicLength).drop s.hashLength).take s.envelopeLength := by
      refine (Envelope.toBytes_split ?_).2
      rw [List.length_take, hlast, Nat.min_self]
    unfold parts
    simp only [split, fields, cut, MessageKind.sizes, List.map_cons, List.map_nil,
      List.getD_cons_zero, List.getD_cons_succ, suite, hfield]
    rfl
  | _ => exact ⟨rfl, rfl, rfl⟩

/-- Bytes that are read as a message are what the message is written as. -/
theorem toBytes_of_ofBytes (h : ofBytes k s bs = .ok m) :
    m.kind = k ∧ m.suite = s ∧ m.toBytes = .ok bs := by
  unfold ofBytes at h
  obtain ⟨hlength, h⟩ := Except.refuseIf_eq_ok_iff.mp h
  obtain ⟨-, -, h⟩ := Except.bind_eq_ok_iff.mp h
  cases h
  have hlength : bs.length = k.length s := Decidable.not_not.mp hlength
  obtain ⟨hkind, hsuite, hparts⟩ := parts_split hlength
  obtain ⟨hsizes, hflatten⟩ := cut_of_sum hlength
  refine ⟨hkind, hsuite, toBytes_eq_ok_iff.mpr ?_⟩
  rw [hkind, hsuite, hparts]
  exact ⟨hsizes, hflatten.symm⟩

/-- The elements and keys of a message that was read are valid. -/
theorem validate_of_ofBytes (h : ofBytes k s bs = .ok m) : m.validate = .ok () := by
  unfold ofBytes at h
  obtain ⟨-, h⟩ := Except.refuseIf_eq_ok_iff.mp h
  obtain ⟨_, hvalid, h⟩ := Except.bind_eq_ok_iff.mp h
  cases h
  exact hvalid

/-- Whether the envelope that a message may carry has the sizes of the suite. -/
def CarriesFitting : Message → Prop
  | registrationUpload m => m.envelope.Fits m.suite
  | _ => True

private theorem split_of_toBytes (hfits : m.CarriesFitting) (h : m.toBytes = .ok bs) :
    split m.kind m.suite bs = m := by
  obtain ⟨hsizes, rfl⟩ := toBytes_eq_ok_iff.mp h
  have hcut : cut (m.kind.sizes m.suite) m.parts.flatten = m.parts := by
    rw [← hsizes, cut_flatten]
  unfold split
  rw [hcut]
  cases m with
  | registrationUpload m =>
    have henvelope : Envelope.split m.suite (m.envelope.toBytes m.suite) = m.envelope := by
      have hread := Envelope.ofBytes_toBytes hfits
      unfold Envelope.ofBytes at hread
      rw [if_neg (by simp [Envelope.length_toBytes])] at hread
      exact Except.ok.inj hread
    exact congrArg (fun e ↦ registrationUpload ⟨m.suite, m.clientPublicKey, m.maskingKey, e⟩)
      henvelope
  | _ => rfl

/-- A written message whose elements and keys are valid is read back. -/
theorem ofBytes_of_toBytes (hfits : m.CarriesFitting) (hvalid : m.validate = .ok ())
    (h : m.toBytes = .ok bs) : ofBytes m.kind m.suite bs = .ok m := by
  unfold ofBytes
  refine Except.refuseIf_eq_ok_iff.mpr ⟨by simp [length_of_toBytes h], ?_⟩
  rw [split_of_toBytes hfits h]
  exact Except.bind_of_ok hvalid rfl

end Apake.Message
