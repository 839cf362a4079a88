import Apake.Framing
import Apake.Proofs.Random.Supply

/-!
# Encodings that are put together of parts

What is hashed or expanded is a row of parts: a number in two bytes, a string behind its length, or
a string as it is.  A row is written exactly if each part fits its slot, and refused for its length
otherwise.  Rows with the same slots are told apart by their bytes, whatever follows them.
-/

namespace Apake.Framing

attribute [local instance (2000)] instPowNat

/-- A part of an encoding. -/
inductive Part
  /-- A number in two bytes. -/
  | number (value : Int)
  /-- A string behind its length, which takes `width` bytes. -/
  | framed (width : Nat) (data : Bytes)
  /-- A string as it is. -/
  | bare (data : Bytes)

/-- What is known of a part before it is read. -/
inductive Slot
  | number
  | framed (width : Nat)
  | bare (length : Nat)

namespace Part

/-- The slot that a part is written to. -/
def slot : Part → Slot
  | number _ => .number
  | framed width _ => .framed width
  | bare data => .bare data.length

/-- Whether a part fits its slot. -/
def Fits : Part → Prop
  | number value => 0 ≤ value ∧ value < 65536
  | framed width data => data.length < 256 ^ width
  | bare _ => True

/-- The bytes of a part. -/
def toBytes : Part → Except Error Bytes
  | number value => Framing.number value 2
  | framed width data => vector data width
  | bare data => pure data

variable {p q : Part} {x y r s : Bytes}

private theorem toBytes_natCast (n : Nat) : (number n).toBytes =
    if 256 ^ (2 : Nat) ≤ n then .error .overflow else .ok (Bytes.ofNat 2 n) :=
  number_ofNat (by decide)

private theorem toBytes_number_append_inj {a b : Int} (hfits : (number a).Fits)
    (hfits' : (number b).Fits) (hx : (number a).toBytes = .ok x) (hy : (number b).toBytes = .ok y)
    (h : x ++ r = y ++ s) : a = b ∧ r = s := by
  obtain ⟨ha, hasmall⟩ := hfits
  obtain ⟨hb, hbsmall⟩ := hfits'
  obtain ⟨m, rfl⟩ := Int.eq_ofNat_of_zero_le ha
  obtain ⟨n, rfl⟩ := Int.eq_ofNat_of_zero_le hb
  have hm : m < 256 ^ 2 := by omega
  have hn : n < 256 ^ 2 := by omega
  rw [toBytes_natCast, if_neg (Nat.not_le.mpr hm)] at hx
  rw [toBytes_natCast, if_neg (Nat.not_le.mpr hn)] at hy
  cases hx
  cases hy
  obtain ⟨hbytes, hrest⟩ := List.append_inj h (by simp only [Bytes.length_ofNat])
  refine ⟨?_, hrest⟩
  rw [← Bytes.toNat_ofNat hm, hbytes, Bytes.toNat_ofNat hn]

/-- A part that fits is written. -/
theorem exists_toBytes (h : p.Fits) : ∃ bs, p.toBytes = .ok bs := by
  cases p with
  | number value =>
    obtain ⟨hnonneg, hlt⟩ := h
    obtain ⟨n, rfl⟩ := Int.eq_ofNat_of_zero_le hnonneg
    have hsmall : ¬ 256 ^ 2 ≤ n := by omega
    rw [toBytes_natCast, if_neg hsmall]
    exact ⟨_, rfl⟩
  | framed width data => exact ⟨_, vector_eq_ok_iff.mpr ⟨h, rfl⟩⟩
  | bare data => exact ⟨data, rfl⟩

/-- A part that does not fit is refused for its length. -/
theorem toBytes_of_not_fits (h : ¬ p.Fits) : p.toBytes = .error .overflow := by
  cases p with
  | number value =>
    by_cases hnegative : value < 0
    · unfold toBytes Framing.number widthLimit
      simp [hnegative]
    · obtain ⟨n, rfl⟩ := Int.eq_ofNat_of_zero_le (Int.not_lt.mp hnegative)
      have hlarge : 256 ^ 2 ≤ n := Nat.not_lt.mp fun hsmall ↦ h ⟨by omega, by omega⟩
      rw [toBytes_natCast, if_pos hlarge]
  | framed width data => exact vector_eq_error_iff.mpr ⟨Nat.not_lt.mp h, rfl⟩
  | bare data => exact absurd trivial h

/-- A part that is written fits. -/
theorem fits_of_toBytes (h : p.toBytes = .ok x) : p.Fits := by
  by_cases hfits : p.Fits
  · exact hfits
  · rw [toBytes_of_not_fits hfits] at h
    cases h

/-- Whatever follows them, two parts for one slot are told apart by their bytes. -/
theorem toBytes_append_inj (hslot : p.slot = q.slot) (hp : p.toBytes = .ok x)
    (hq : q.toBytes = .ok y) (h : x ++ r = y ++ s) : p = q ∧ r = s := by
  cases p with
  | number a =>
    cases q with
    | number b =>
      obtain ⟨rfl, hrest⟩ :=
        toBytes_number_append_inj (fits_of_toBytes hp) (fits_of_toBytes hq) hp hq h
      exact ⟨rfl, hrest⟩
    | framed _ _ => cases hslot
    | bare _ => cases hslot
  | framed width a =>
    cases q with
    | framed width' b =>
      cases hslot
      obtain ⟨rfl, hrest⟩ := vector_append_inj hp hq h
      exact ⟨rfl, hrest⟩
    | number _ => cases hslot
    | bare _ => cases hslot
  | bare a =>
    cases q with
    | bare b =>
      cases hp
      cases hq
      obtain ⟨rfl, hrest⟩ := List.append_inj h (Slot.bare.inj hslot)
      exact ⟨rfl, hrest⟩
    | number _ => cases hslot
    | framed _ _ => cases hslot

end Part

/-- The bytes of a row of parts. -/
def write : List Part → Except Error Bytes
  | [] => pure []
  | p :: ps => do return (← p.toBytes) ++ (← write ps)

variable {ps qs : List Part} {x y r s : Bytes}

/-- A row of parts that all fit is written. -/
theorem exists_write (h : ∀ p ∈ ps, p.Fits) : ∃ bs, write ps = .ok bs := by
  induction ps with
  | nil => exact ⟨[], rfl⟩
  | cons p ps ih =>
    obtain ⟨hp, hps⟩ := List.forall_mem_cons.mp h
    obtain ⟨x, hx⟩ := Part.exists_toBytes hp
    obtain ⟨y, hy⟩ := ih hps
    exact ⟨x ++ y, Except.bind_of_ok hx <| Except.bind_of_ok hy rfl⟩

/-- A row with a part that does not fit is refused for its length. -/
theorem write_of_not_fits (h : ¬ ∀ p ∈ ps, p.Fits) : write ps = .error .overflow := by
  induction ps with
  | nil => exact absurd (List.forall_mem_nil _) h
  | cons p ps ih =>
    by_cases hp : p.Fits
    · have hps : ¬ ∀ q ∈ ps, q.Fits := fun hps ↦ h (List.forall_mem_cons.mpr ⟨hp, hps⟩)
      obtain ⟨x, hx⟩ := Part.exists_toBytes hp
      exact Except.bind_of_ok hx <| Except.bind_of_error (ih hps)
    · exact Except.bind_of_error (Part.toBytes_of_not_fits hp)

/-- Whatever follows them, two rows with the same slots are told apart by their bytes. -/
theorem write_append_inj (hslots : ps.map Part.slot = qs.map Part.slot) (hp : write ps = .ok x)
    (hq : write qs = .ok y) (h : x ++ r = y ++ s) : ps = qs ∧ r = s := by
  -- What follows the first part is the rest of the row together with what follows the row.
  induction ps generalizing qs x y with
  | nil =>
    obtain rfl : qs = [] := List.map_eq_nil_iff.mp hslots.symm
    cases hp
    cases hq
    exact ⟨rfl, h⟩
  | cons p ps ih =>
    cases qs with
    | nil => cases hslots
    | cons q qs =>
      obtain ⟨hslot, htail⟩ := List.cons.inj hslots
      obtain ⟨a, ha, hp⟩ := Except.bind_eq_ok_iff.mp hp
      obtain ⟨b, hb, hp⟩ := Except.bind_eq_ok_iff.mp hp
      obtain ⟨c, hc, hq⟩ := Except.bind_eq_ok_iff.mp hq
      obtain ⟨d, hd, hq⟩ := Except.bind_eq_ok_iff.mp hq
      cases hp
      cases hq
      rw [List.append_assoc, List.append_assoc] at h
      obtain ⟨rfl, hrest⟩ := Part.toBytes_append_inj hslot ha hc h
      obtain ⟨rfl, hrest⟩ := ih htail hb hd hrest
      exact ⟨rfl, hrest⟩

/-- An encoding that writes exactly what fits, refuses everything else for its length, and tells
apart by their bytes any two values that are alike in what the bytes do not say. -/
structure Unambiguous {α : Type} (encode : α → Except Error Bytes) (Fits : α → Prop)
    (Alike : α → α → Prop) : Prop where
  exists_of_fits {a : α} : Fits a → ∃ bs, encode a = .ok bs
  of_not_fits {a : α} : ¬ Fits a → encode a = .error .overflow
  inj {a b : α} {bs : Bytes} : Alike a b → encode a = .ok bs → encode b = .ok bs → a = b

namespace Unambiguous

variable {α : Type} {encode : α → Except Error Bytes} {Fits : α → Prop} {Alike : α → α → Prop}

/-- An encoding is unambiguous if it is a row of parts with a last string of any length behind it,
where the parts and that string determine the value. -/
theorem of_write (parts : α → List Part) (last : α → Bytes)
    (hencode : ∀ a, encode a = (· ++ last a) <$> write (parts a))
    (hfits : ∀ a, Fits a ↔ ∀ p ∈ parts a, p.Fits)
    (hslots : ∀ a b, Alike a b → (parts a).map Part.slot = (parts b).map Part.slot)
    (hinj : ∀ a b, parts a = parts b → last a = last b → a = b) :
    Unambiguous encode Fits Alike := by
  constructor
  · intro a ha
    obtain ⟨x, hx⟩ := exists_write ((hfits a).mp ha)
    rw [hencode, hx]
    exact ⟨x ++ last a, rfl⟩
  · intro a ha
    have hnot : ¬ ∀ p ∈ parts a, p.Fits := fun h ↦ ha ((hfits a).mpr h)
    rw [hencode, write_of_not_fits hnot]
    rfl
  · intro a b bs alike ha hb
    rw [hencode] at ha hb
    cases hx : write (parts a) with
    | error e =>
      rw [hx] at ha
      cases ha
    | ok x =>
      cases hy : write (parts b) with
      | error e =>
        rw [hy] at hb
        cases hb
      | ok y =>
        rw [hx] at ha
        rw [hy] at hb
        have hbytes : x ++ last a = y ++ last b :=
          (Except.ok.inj ha).trans (Except.ok.inj hb).symm
        obtain ⟨hparts, hlast⟩ := write_append_inj (hslots a b alike) hx hy hbytes
        exact hinj a b hparts hlast

end Unambiguous

end Apake.Framing
