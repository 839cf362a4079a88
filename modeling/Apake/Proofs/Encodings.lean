import Apake.Blinding
import Apake.Handshake.Keys
import Apake.Proofs.Group.Residue
import Apake.Proofs.Handshake.Transcript

/-!
# What is hashed and expanded is encoded unambiguously

Besides the transcript, three things are put together of parts: what is hashed for the output of an
evaluation, the information for a labelled expansion, and the seed for one attempt to hash into a
group.  The bytes of each tell its parts, of whatever lengths, and it is refused for a length
exactly if a part does not fit its field.
-/

namespace Apake

attribute [local instance (2000)] instPowNat

/-- What the output of an evaluation is the hash of. -/
structure Blinding.OutputParts where
  password : Bytes
  unblinded : Bytes

namespace Blinding.OutputParts

/-- The hash input. -/
def toBytes (p : OutputParts) : Except Error Bytes := hashInput p.password p.unblinded

/-- Whether both strings are short enough for two bytes of length. -/
structure Fits (p : OutputParts) : Prop where
  password : p.password.length < 65536
  unblinded : p.unblinded.length < 65536

/-- The parts in front of the final label. -/
def parts (p : OutputParts) : List Framing.Part := [.framed 2 p.password, .framed 2 p.unblinded]

theorem fits_iff (p : OutputParts) : p.Fits ↔ ∀ q ∈ p.parts, q.Fits := by
  unfold parts
  rw [List.forall_mem_cons, List.forall_mem_singleton]
  constructor
  · intro h
    exact ⟨h.password, h.unblinded⟩
  · intro h
    exact ⟨h.1, h.2⟩

/-- The hash input tells the password and the unblinded element. -/
theorem toBytes_unambiguous : Framing.Unambiguous toBytes Fits fun _ _ ↦ True := by
  apply Framing.Unambiguous.of_write parts fun _ ↦ finalLabel
  · intro p
    simp [toBytes, hashInput, parts, Framing.write, Framing.Part.toBytes]
  · exact fits_iff
  · intro p q _
    rfl
  · rintro ⟨password, unblinded⟩ ⟨password', unblinded'⟩ h -
    simpa [parts] using h

end Blinding.OutputParts

/-- What a labelled expansion is told. -/
structure LabelParts where
  label : Bytes
  context : Bytes
  length : Int

namespace LabelParts

/-- The information for the expansion. -/
def toBytes (p : LabelParts) : Except Error Bytes := labelInfo p.label p.context p.length

/-- Whether the length fits two bytes, and the lengths of label and context one each. -/
structure Fits (p : LabelParts) : Prop where
  length_nonneg : 0 ≤ p.length
  length_lt : p.length < 65536
  label : (labelStart ++ p.label).length < 256
  context : p.context.length < 256

/-- The parts of the information. -/
def parts (p : LabelParts) : List Framing.Part :=
  [.number p.length, .framed 1 (labelStart ++ p.label), .framed 1 p.context]

theorem fits_iff (p : LabelParts) : p.Fits ↔ ∀ q ∈ p.parts, q.Fits := by
  unfold parts
  rw [List.forall_mem_cons, List.forall_mem_cons, List.forall_mem_singleton]
  constructor
  · intro h
    exact ⟨⟨h.length_nonneg, h.length_lt⟩, h.label, h.context⟩
  · rintro ⟨⟨hnonneg, hlt⟩, hlabel, hcontext⟩
    exact ⟨hnonneg, hlt, hlabel, hcontext⟩

/-- The information tells length, label and context. -/
theorem toBytes_unambiguous : Framing.Unambiguous toBytes Fits fun _ _ ↦ True := by
  apply Framing.Unambiguous.of_write parts fun _ ↦ []
  · intro p
    simp [toBytes, labelInfo, parts, Framing.write, Framing.Part.toBytes]
  · exact fits_iff
  · intro p q _
    rfl
  · rintro ⟨label, context, length⟩ ⟨label', context', length'⟩ h -
    simp only [parts, List.cons.injEq, Framing.Part.number.injEq, Framing.Part.framed.injEq,
      List.append_cancel_left_eq, true_and, and_true] at h
    obtain ⟨rfl, rfl, rfl⟩ := h
    rfl

/-- A labelled expansion that returns is the expansion under its information. -/
theorem exists_info_of_expandLabel {h : HashAlgorithm} {secret out : Bytes} {p : LabelParts}
    (hout : expandLabel h secret p.label p.context p.length = .ok out) :
    ∃ info, p.toBytes = .ok info ∧ out = h.expand secret info p.length.toNat := by
  obtain ⟨info, hinfo, hout⟩ := Except.bind_eq_ok_iff.mp hout
  refine ⟨info, hinfo, ?_⟩
  unfold HashAlgorithm.expandChecked at hout
  split at hout
  · cases hout
  · split at hout
    · cases hout
    · exact (Except.ok.inj hout).symm

/-- A labelled expansion overflows exactly if its information does. -/
theorem expandLabel_eq_overflow_iff (h : HashAlgorithm) (secret : Bytes) (p : LabelParts) :
    expandLabel h secret p.label p.context p.length = .error .overflow ↔ ¬ p.Fits := by
  by_cases hfits : p.Fits
  · obtain ⟨info, hinfo⟩ := toBytes_unambiguous.exists_of_fits hfits
    have hexpand : expandLabel h secret p.label p.context p.length =
        h.expandChecked secret info p.length := Except.bind_of_ok hinfo rfl
    have hnonneg := hfits.length_nonneg
    have hlt := hfits.length_lt
    rw [hexpand]
    unfold HashAlgorithm.expandChecked
    rw [if_neg (by omega)]
    split <;> simp [hfits]
  · have hexpand : expandLabel h secret p.label p.context p.length = .error .overflow :=
      Except.bind_of_error (toBytes_unambiguous.of_not_fits hfits)
    simp [hexpand, hfits]

end LabelParts

/-- What one attempt to hash into a group is made of. -/
structure PrimeGroup.SeedParts where
  tag : Bytes
  counter : Fin 256
  data : Bytes

namespace PrimeGroup.SeedParts

/-- The seed for the attempt. -/
def toBytes (p : SeedParts) : Except Error Bytes := hashSeed p.data p.tag p.counter

/-- Whether the tag is short enough for two bytes of length. -/
def Fits (p : SeedParts) : Prop := p.tag.length < 65536

/-- The parts in front of the data. -/
def parts (p : SeedParts) : List Framing.Part :=
  [.framed 2 p.tag, .bare (Bytes.ofNat 1 p.counter)]

/-- The seed tells tag, counter and data. -/
theorem toBytes_unambiguous : Framing.Unambiguous toBytes Fits fun _ _ ↦ True := by
  apply Framing.Unambiguous.of_write parts data
  · intro p
    simp [toBytes, hashSeed, parts, Framing.write, Framing.Part.toBytes]
  · intro p
    unfold parts
    rw [List.forall_mem_cons, List.forall_mem_singleton]
    constructor
    · intro h
      exact ⟨h, trivial⟩
    · intro h
      exact h.1
  · intro p q _
    rfl
  · rintro ⟨tag, counter, data⟩ ⟨tag', counter', data'⟩ hparts hdata
    simp only [parts, List.cons.injEq, Framing.Part.framed.injEq, Framing.Part.bare.injEq, true_and,
      and_true] at hparts
    obtain ⟨rfl, hcounter⟩ := hparts
    obtain rfl : data = data' := hdata
    have hnat : Bytes.toNat (Bytes.ofNat 1 counter) = Bytes.toNat (Bytes.ofNat 1 counter') :=
      congrArg Bytes.toNat hcounter
    rw [Bytes.toNat_ofNat counter.isLt, Bytes.toNat_ofNat counter'.isLt] at hnat
    rw [Fin.ext hnat]

end PrimeGroup.SeedParts

namespace PrimeGroup

variable {g : PrimeGroup} {data tag : Bytes}

/-- What data are hashed to is made of the seed of one attempt. -/
theorem exists_parts_of_hash {e : g.Element} (h : g.hash data tag = .ok e) :
    ∃ (counter : Fin 256) (seed : Bytes),
      SeedParts.toBytes ⟨tag, counter, data⟩ = .ok seed ∧ e = g.ofSeed seed := by
  -- No counter gets past its one byte, since counter and remaining attempts add up to 256.
  have hfrom (attempts counter : Nat) (hcounter : attempts + counter = 256)
      (h : g.hashFrom data tag attempts counter = .ok e) :
      ∃ (i : Fin 256) (seed : Bytes),
        SeedParts.toBytes ⟨tag, i, data⟩ = .ok seed ∧ e = g.ofSeed seed := by
    induction attempts generalizing counter with
    | zero => cases h
    | succ attempts ih =>
      rw [hashFrom] at h
      obtain ⟨seed, hseed, h⟩ := Except.bind_eq_ok_iff.mp h
      dsimp only at h
      split at h
      · exact ih (counter + 1) (by omega) h
      · cases h
        exact ⟨⟨counter, by omega⟩, seed, hseed, rfl⟩
  exact hfrom 256 0 rfl h

/-- Hashing into a group overflows exactly if the tag does not fit behind its length. -/
theorem hash_eq_overflow_iff (g : PrimeGroup) (data tag : Bytes) :
    g.hash data tag = .error .overflow ↔ ¬ tag.length < 65536 := by
  by_cases htag : tag.length < 65536
  · have hfrom (attempts counter : Nat) :
        g.hashFrom data tag attempts counter ≠ .error .overflow := by
      induction attempts generalizing counter with
      | zero => exact nofun
      | succ attempts ih =>
        obtain ⟨seed, hseed⟩ : ∃ seed, hashSeed data tag counter = .ok seed :=
          ⟨_, Except.bind_of_ok (Framing.vector_eq_ok_iff.mpr ⟨htag, rfl⟩) rfl⟩
        have hstep : g.hashFrom data tag (attempts + 1) counter =
            if g.isIdentity (g.ofSeed seed) then g.hashFrom data tag attempts (counter + 1)
            else .ok (g.ofSeed seed) := Except.bind_of_ok hseed rfl
        rw [hstep]
        split
        · exact ih (counter + 1)
        · exact nofun
    simp only [htag, not_true_eq_false, iff_false]
    exact hfrom 256 0
  · have hseed : hashSeed data tag 0 = .error .overflow :=
      Except.bind_of_error (Framing.vector_eq_error_iff.mpr ⟨Nat.not_lt.mp htag, rfl⟩)
    have hhash : g.hashFrom data tag (255 + 1) 0 = .error .overflow := Except.bind_of_error hseed
    simp only [htag, not_false_eq_true, iff_true]
    exact hhash

end PrimeGroup

namespace Suite

variable [Groups]

/-- The encoding of an element always fits behind its length. -/
theorem fits_output {s : Suite} {Member : s.group.Element → Prop} (laws : s.group.Laws Member)
    {password : Bytes} (hpassword : password.length < 65536) {e : s.group.Element}
    (he : Member e) : Blinding.OutputParts.Fits ⟨password, s.group.encode e⟩ := by
  constructor
  · exact hpassword
  · rw [laws.length_encode he]
    exact laws.elementLength_lt

/-- The transcript of a login, the hash input of an evaluation, the information for a labelled
expansion and the seeds for hashing into a group tell what they are made of, and overflow exactly if
a part or the length does not fit its field.  And these are what the operations hash and expand. -/
theorem encodings_unambiguous (s : Suite) :
    Framing.Unambiguous Transcript.toBytes Transcript.Fits Transcript.Alike ∧
    Framing.Unambiguous Blinding.OutputParts.toBytes Blinding.OutputParts.Fits (fun _ _ ↦ True) ∧
    Framing.Unambiguous LabelParts.toBytes LabelParts.Fits (fun _ _ ↦ True) ∧
    Framing.Unambiguous PrimeGroup.SeedParts.toBytes PrimeGroup.SeedParts.Fits (fun _ _ ↦ True) ∧
    (∀ password (blinding : Nat) evaluated inverse, s.group.invert blinding = .ok inverse →
      Blinding.finalize s password blinding evaluated = s.hash.digest <$>
        Blinding.OutputParts.toBytes
          ⟨password, s.group.encode (s.group.multiply inverse evaluated)⟩) ∧
    (∀ Member, s.group.Laws Member → ∀ password password' a b bs, Member a → Member b →
      Blinding.OutputParts.toBytes ⟨password, s.group.encode a⟩ = .ok bs →
      Blinding.OutputParts.toBytes ⟨password', s.group.encode b⟩ = .ok bs →
        password = password' ∧ a = b) ∧
    (∀ secret p, (expandLabel s.hash secret p.label p.context p.length = .error .overflow ↔
        ¬ LabelParts.Fits p) ∧
      ∀ out, expandLabel s.hash secret p.label p.context p.length = .ok out →
        ∃ info, p.toBytes = .ok info ∧ out = s.hash.expand secret info p.length.toNat) ∧
    ∀ data tag, (s.group.hash data tag = .error .overflow ↔ ¬ tag.length < 65536) ∧
      ∀ e, s.group.hash data tag = .ok e → ∃ (counter : Fin 256) (seed : Bytes),
        PrimeGroup.SeedParts.toBytes ⟨tag, counter, data⟩ = .ok seed ∧
          e = s.group.ofSeed seed := by
  refine ⟨Transcript.toBytes_unambiguous, Blinding.OutputParts.toBytes_unambiguous,
    LabelParts.toBytes_unambiguous, PrimeGroup.SeedParts.toBytes_unambiguous, ?_, ?_, ?_, ?_⟩
  · intro password blinding evaluated inverse hinverse
    exact Except.bind_of_ok hinverse (map_eq_pure_bind _ _).symm
  · intro Member laws password password' a b bs ha hb h h'
    have heq := Blinding.OutputParts.toBytes_unambiguous.inj trivial h h'
    obtain ⟨hpassword, hencode⟩ := Blinding.OutputParts.mk.inj heq
    exact ⟨hpassword, laws.encode_inj ha hb hencode⟩
  · intro secret p
    exact ⟨p.expandLabel_eq_overflow_iff s.hash secret,
      fun out hout ↦ LabelParts.exists_info_of_expandLabel hout⟩
  · intro data tag
    exact ⟨s.group.hash_eq_overflow_iff data tag,
      fun e he ↦ PrimeGroup.exists_parts_of_hash he⟩

end Suite

attribute [local instance] Groups.closed in
/-- Over residues: a byte moved from the password to what follows it, or another element, is another
hash input, and a negative length or a long tag overflows. -/
theorem Suite.encodings_unambiguous_residue :
    let s : Suite := ⟨.i2048Sha256, .identity⟩
    (∃ bs bs', Blinding.OutputParts.toBytes ⟨[1, 2], [3]⟩ = .ok bs ∧
      Blinding.OutputParts.toBytes ⟨[1], [2, 3]⟩ = .ok bs' ∧ bs ≠ bs') ∧
    (∃ bs bs', Blinding.OutputParts.toBytes ⟨[1], s.group.encode s.group.base⟩ = .ok bs ∧
      Blinding.OutputParts.toBytes ⟨[1], s.group.encode s.group.identity⟩ = .ok bs' ∧ bs ≠ bs') ∧
    expandLabel s.hash [] [] [] (-1) = .error .overflow ∧
    s.group.hash [] (Bytes.zeros 65536) = .error .overflow := by
  intro s
  have laws : s.group.Laws Residue.IsMember := Residue.closedGroup_laws
  have hpassword : List.length ([1] : Bytes) < 65536 := by decide
  obtain ⟨-, houtput, -, -, -, helements, hlabel, hhash⟩ := encodings_unambiguous s
  refine ⟨?_, ?_, ?_, ?_⟩
  · obtain ⟨bs, hbs⟩ := houtput.exists_of_fits (a := ⟨[1, 2], [3]⟩) ⟨by decide, by decide⟩
    obtain ⟨bs', hbs'⟩ := houtput.exists_of_fits (a := ⟨[1], [2, 3]⟩) ⟨by decide, by decide⟩
    refine ⟨bs, bs', hbs, hbs', ?_⟩
    rintro rfl
    cases houtput.inj trivial hbs hbs'
  · obtain ⟨bs, hbs⟩ := houtput.exists_of_fits (fits_output laws hpassword laws.base_mem)
    obtain ⟨bs', hbs'⟩ := houtput.exists_of_fits (fits_output laws hpassword laws.identity_mem)
    refine ⟨bs, bs', hbs, hbs', ?_⟩
    intro heq
    rw [← heq] at hbs'
    have hsame := helements Residue.IsMember laws [1] [1] s.group.base s.group.identity bs
      laws.base_mem laws.identity_mem hbs hbs'
    exact laws.base_ne hsame.2
  · have hnegative : ¬ LabelParts.Fits ⟨[], [], -1⟩ := fun h ↦ absurd h.length_nonneg (by decide)
    exact (hlabel [] ⟨[], [], -1⟩).1.mpr hnegative
  · refine (hhash [] (Bytes.zeros 65536)).1.mpr ?_
    rw [Bytes.length_zeros]
    omega

end Apake
