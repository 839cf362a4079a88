import Apake.Blinding
import Apake.Proofs.Group.KeyPair

/-!
# What remains of a password when the blinding is taken away

The evaluation of a blinded element, once unblinded, is the evaluation of the password's own
element: it depends on the account's key but not on the scalar that hid the password.  Whether the
server seems to send the blinded element back does not depend on that scalar either.
-/

namespace Apake.Blinding

variable [Groups] {s : Suite}

/-- A blinding and a blinded element that hide an element. -/
def Hides (s : Suite) (point : s.group.Element) (blinding : Bytes) (blinded : s.group.Element) :
    Prop :=
  ∃ r : Nat, s.group.IsScalar r ∧ blinding = Bytes.ofNat s.scalarLength r ∧
    blinded = s.group.multiply r point

/-- What an account's key makes of a password: the hash of the password with the multiple of its
element. -/
def outputOf (s : Suite) (password : Bytes) (key : Nat) (point : s.group.Element) :
    Except Error Bytes :=
  (hashInput password (s.group.encode (s.group.multiply key point))).map s.hash.digest

/-- The output without any blinding: the hash of the password and the multiple of its element, each
behind two bytes of length, with a label at the end. -/
def directOutput (s : Suite) (password : Bytes) (key : Nat) (point : s.group.Element) : Bytes :=
  let unblinded := s.group.encode (s.group.multiply key point)
  s.hash.digest (Bytes.ofNat 2 password.length ++ password ++
    (Bytes.ofNat 2 unblinded.length ++ unblinded) ++ Bytes.ofString "Finalize")

/-- Where scalars are served, so are blindings of a password that has an element. -/
theorem blind_serves {t : Trust} (sound : t.Sound s) {password : Bytes} {point : s.group.Element}
    (hpoint : s.group.hash password (tag s) = .ok point) :
    (blind s password).Serves t fun x ↦ Hides s point x.1 x.2 := by
  refine .lift_bind hpoint (sound.scalar.bind fun r hr ↦ ?_)
  exact .pure ⟨r, hr, rfl, rfl⟩

/-- A blinding that was made hides the element that its password has. -/
theorem hides_of_blind (lawful : s.group.Lawful) {password : Bytes}
    {x : Bytes × s.group.Element} {e e' : Entropy} (h : (blind s password).runOn e = (.ok x, e')) :
    ∃ point, s.group.hash password (tag s) = .ok point ∧ Hides s point x.1 x.2 := by
  obtain ⟨Member, laws⟩ := lawful
  obtain ⟨point, hpoint, h⟩ := Draw.runOn_lift_bind_eq_ok_iff.mp h
  obtain ⟨r, e₁, hr, h⟩ := Draw.runOn_bind_eq_ok_iff.mp h
  have hscalar := (PrimeGroup.randomScalar_serves laws.order_pos id).of_runOn trivial hr
  cases h
  exact ⟨point, hpoint, r, hscalar, rfl, rfl⟩

/-- The keys of accounts are scalars. -/
theorem isScalar_of_accountKey (lawful : s.group.Lawful) {seed identifier : Bytes} {key : Nat}
    (h : accountKey s seed identifier = .ok key) : s.group.IsScalar key := by
  obtain ⟨Member, laws⟩ := lawful
  exact PrimeGroup.isScalar_of_deriveScalar laws.order_pos h

omit [Groups] in
/-- An evaluation is refused as reflected exactly if it is the blinded element on the wire. -/
theorem checkNotReflected_eq_ok_iff {blinded evaluated : Bytes} :
    checkNotReflected blinded evaluated = .ok () ↔ blinded ≠ evaluated := by
  unfold checkNotReflected
  split
  · next h => simp [h]
  · next h => simp [h]

section Cancellation

variable {Member : s.group.Element → Prop} {point blinded : s.group.Element} {blinding : Bytes}
  {key : Nat}

/-- Both the blinded element and its evaluation are read back from the wire. -/
theorem decodeElement_of_hides (laws : s.group.Laws Member) (hpoint : Member point)
    (hne : point ≠ s.group.identity) (h : Hides s point blinding blinded)
    (hkey : s.group.IsScalar key) (name : String) :
    s.group.decodeElement (s.group.encode blinded) name = .ok blinded ∧
      s.group.decodeElement (s.group.encode (evaluate s blinded key)) name =
        .ok (evaluate s blinded key) := by
  obtain ⟨r, hr, -, rfl⟩ := h
  have hmem := laws.multiply_mem r hpoint
  have hblinded := laws.multiply_ne_identity (PrimeGroup.Laws.emod_ne_zero hr) hpoint hne
  have hevaluated := laws.multiply_ne_identity (PrimeGroup.Laws.emod_ne_zero hkey) hmem hblinded
  exact ⟨laws.decodeElement_encode hmem hblinded name,
    laws.decodeElement_encode (laws.multiply_mem key hmem) hevaluated name⟩

/-- The client's result is the same for every blinding. -/
theorem finalize_of_hides (laws : s.group.Laws Member) (hpoint : Member point)
    (h : Hides s point blinding blinded) (password : Bytes) :
    finalize s password (Bytes.toNat blinding) (evaluate s blinded key) =
      outputOf s password key point := by
  obtain ⟨r, hr, rfl, rfl⟩ := h
  obtain ⟨inverse, hinverse, hback⟩ := laws.invert_multiply (PrimeGroup.Laws.emod_ne_zero hr)
  have hread : Bytes.toNat (Bytes.ofNat s.scalarLength r) = r := Bytes.toNat_ofNat hr.lt_pow
  have hcancel : s.group.multiply inverse (evaluate s (s.group.multiply r point) key) =
      s.group.multiply key point := by
    unfold evaluate
    rw [laws.multiply_comm key r hpoint, hback _ (laws.multiply_mem key hpoint)]
  unfold finalize outputOf
  rw [hread, hinverse]
  change (hashInput password (s.group.encode (s.group.multiply inverse
    (evaluate s (s.group.multiply r point) key)))).bind _ = _
  rw [hcancel]
  cases hashInput password (s.group.encode (s.group.multiply key point)) <;> rfl

/-- The element of a password that fits behind its length comes to the direct output. -/
theorem outputOf_eq (laws : s.group.Laws Member) (hpoint : Member point) {password : Bytes}
    (hpassword : password.length < 256 ^ 2) :
    outputOf s password key point = .ok (directOutput s password key point) := by
  have hlength : (s.group.encode (s.group.multiply key point)).length < 256 ^ 2 := by
    rw [laws.length_encode (laws.multiply_mem key hpoint)]
    exact laws.elementLength_lt
  have hfirst := Framing.vector_eq_ok_iff.mpr ⟨hpassword, rfl⟩
  have hsecond := Framing.vector_eq_ok_iff.mpr ⟨hlength, rfl⟩
  have hinput : hashInput password (s.group.encode (s.group.multiply key point)) = .ok _ :=
    Except.bind_of_ok hfirst <| Except.bind_of_ok hsecond rfl
  unfold outputOf
  rw [hinput]
  rfl

/-- Whether an evaluation is refused as reflected depends on the account's key alone. -/
theorem checkNotReflected_of_hides (laws : s.group.Laws Member) (hpoint : Member point)
    (h : Hides s point blinding blinded) :
    checkNotReflected (s.group.encode blinded) (s.group.encode (evaluate s blinded key)) = .ok () ↔
      s.group.multiply key point ≠ point := by
  obtain ⟨r, hr, -, rfl⟩ := h
  have hmem := laws.multiply_mem r hpoint
  rw [checkNotReflected_eq_ok_iff]
  unfold evaluate
  constructor
  · intro hdiffers hfixed
    apply hdiffers
    rw [laws.multiply_comm key r hpoint, hfixed]
  · intro hmoved hsame
    apply hmoved
    have hr0 := PrimeGroup.Laws.emod_ne_zero hr
    apply laws.multiply_inj hr0 (laws.multiply_mem key hpoint) hpoint
    rw [laws.multiply_comm r key hpoint]
    exact laws.encode_inj (laws.multiply_mem key hmem) hmem hsame.symm

end Cancellation

end Apake.Blinding
