import Apake.Proofs.Group.Cyclic
import Apake.Proofs.Protocol.Exchange
import Apake.Proofs.Protocol.Steady
import Apake.Proofs.Random.Lockstep

/-!
# What blinding changes and what it does not

The evaluation of a blinded password comes to the same output as an evaluation without blinding, so
that the scalar does not show in the result.  In the other direction the password does not show in a
request: every other password would have given the same request with exactly one other scalar.
-/

namespace Apake.Blinding

/-! ### The scalar does not show in the output -/

section Output

variable [Groups] {s : Suite} {password : Bytes}

/-- The blinded element is evaluated and the client finishes with the blinding that it kept. -/
def unblind (s : Suite) (password : Bytes) (blinding : Secret) (blinded : s.group.Element)
    (key : Nat) : Except Error Bytes := do
  finalize s password (← blinding.readNat) (evaluate s blinded key)

/-- The same with the blinded element and its evaluation sent as bytes. -/
def unblindSent (s : Suite) (password : Bytes) (blinding : Secret) (blinded : s.group.Element)
    (key : Nat) : Except Error Bytes := do
  let received ← s.group.decodeElement (s.group.encode blinded) "blinded message"
  let answer := s.group.encode (evaluate s received key)
  let evaluated ← s.group.decodeElement answer "evaluated message"
  finalize s password (← blinding.readNat) evaluated

/-- Whatever scalar was drawn, a blinded password that is evaluated and unblinded comes to the
direct output, and so it does with both elements sent as bytes. -/
theorem unblind_of_blind (lawful : s.group.Lawful) (hpassword : password.length ≤ 65535) {key : Nat}
    (hkey : s.group.IsScalar key) {blinding : Bytes} {blinded : s.group.Element} {e e' : Entropy}
    (h : (blind s password).runOn e = (.ok (blinding, blinded), e')) :
    ∃ point, s.group.hash password (tag s) = .ok point ∧
      unblind s password (.ofBytes blinding) blinded key =
        .ok (directOutput s password key point) ∧
      unblindSent s password (.ofBytes blinding) blinded key =
        .ok (directOutput s password key point) := by
  obtain ⟨point, hpoint, hides⟩ := hides_of_blind lawful h
  obtain ⟨Member, laws⟩ := lawful
  obtain ⟨hmem, hne⟩ := laws.mem_of_hash hpoint
  have hfits : password.length < 256 ^ 2 := Nat.lt_of_le_of_lt hpassword (by decide)
  have houtput : finalize s password (Bytes.toNat blinding) (evaluate s blinded key) =
      .ok (directOutput s password key point) := by
    rw [finalize_of_hides laws hmem hides, outputOf_eq laws hmem hfits]
  obtain ⟨hreceived, -⟩ := decodeElement_of_hides laws hmem hne hides hkey "blinded message"
  obtain ⟨-, hevaluated⟩ := decodeElement_of_hides laws hmem hne hides hkey "evaluated message"
  refine ⟨point, hpoint, Except.bind_of_ok rfl houtput, ?_⟩
  exact Except.bind_of_ok hreceived <| Except.bind_of_ok hevaluated <|
    Except.bind_of_ok rfl houtput

end Output

attribute [local instance] Groups.closed in
/-- A password that was blinded on the steady source comes to the direct output of a key of two. -/
theorem unblind_of_blind_residue :
    (Bytes.ofString "secret").length ≤ 65535 ∧ Residue.plainSuite.group.IsScalar 2 ∧
      ∃ blinding blinded e' point,
        (blind Residue.plainSuite (Bytes.ofString "secret")).runOn ⟨.steady, []⟩ =
          (.ok (blinding, blinded), e') ∧
        unblind Residue.plainSuite (Bytes.ofString "secret") (.ofBytes blinding) blinded 2 =
          .ok (directOutput Residue.plainSuite (Bytes.ofString "secret") 2 point) ∧
        unblindSent Residue.plainSuite (Bytes.ofString "secret") (.ofBytes blinding) blinded 2 =
          .ok (directOutput Residue.plainSuite (Bytes.ofString "secret") 2 point) := by
  have hlength : (Bytes.ofString "secret").length ≤ 65535 := by decide
  have hkey : Residue.closedGroup.IsScalar 2 :=
    Residue.isScalar_of_lt Nat.two_pos Residue.two_lt_order
  have htag : (tag Residue.plainSuite).length < 256 ^ 2 := by decide
  obtain ⟨point, hpoint⟩ : ∃ e, Residue.plainSuite.group.hash (Bytes.ofString "secret")
      (tag Residue.plainSuite) = .ok e := Residue.exists_closedGroup_hash _ htag
  obtain ⟨⟨blinding, blinded⟩, e', hblind, -⟩ :=
    (blind_serves Residue.steady_sound hpoint).exists_steady
  obtain ⟨point', -, hdirect, hsent⟩ := unblind_of_blind Residue.plainSuite_lawful.group hlength
    hkey hblind
  exact ⟨hlength, hkey, blinding, blinded, e', point', hblind, hdirect, hsent⟩

/-! ### The password does not show in the request -/

section Request

variable [Groups] {s : Suite} {password : Bytes}

/-- A drawn scalar and the element of the password make the blinded element. -/
theorem runOn_blind {point : s.group.Element} (hpoint : s.group.hash password (tag s) = .ok point)
    {r : Nat} {e e' : Entropy} (hr : s.group.randomScalar.runOn e = (.ok r, e')) :
    (blind s password).runOn e =
      (.ok (Bytes.ofNat s.scalarLength r, s.group.multiply r point), e') := by
  unfold blind
  rw [Draw.runOn_bind, Draw.runOn_lift, hpoint]
  dsimp only
  rw [Draw.runOn_bind, hr]
  rfl

variable {password' : Bytes} {point point' : s.group.Element} {r r' : Nat} {e e₁ e' e₁' : Entropy}

/-- Two registrations whose blinded elements agree begin with one request. -/
theorem registration_start_of_multiply_eq
    (hpoint : s.group.hash password (tag s) = .ok point)
    (hpoint' : s.group.hash password' (tag s) = .ok point')
    (hsame : s.group.multiply r' point' = s.group.multiply r point)
    (hr : s.group.randomScalar.runOn e = (.ok r, e₁))
    (hr' : s.group.randomScalar.runOn e' = (.ok r', e₁')) :
    ∃ request state state', (Registration.start s password).runOn e = (.ok (request, state), e₁) ∧
      (Registration.start s password').runOn e' = (.ok (request, state'), e₁') := by
  have hstart := runOn_blind hpoint hr
  have hstart' := runOn_blind hpoint' hr'
  rw [hsame] at hstart'
  exact ⟨_, _, _, Draw.runOn_bind_eq_ok_iff.mpr ⟨_, _, hstart, rfl⟩,
    Draw.runOn_bind_eq_ok_iff.mpr ⟨_, _, hstart', rfl⟩⟩

/-- Two logins whose blinded elements agree begin with one request, or fail alike, on sources that
answer alike once the scalars are drawn. -/
theorem login_start_of_multiply_eq
    (hpoint : s.group.hash password (tag s) = .ok point)
    (hpoint' : s.group.hash password' (tag s) = .ok point')
    (hsame : s.group.multiply r' point' = s.group.multiply r point)
    (hr : s.group.randomScalar.runOn e = (.ok r, e₁))
    (hr' : s.group.randomScalar.runOn e' = (.ok r', e₁')) (hagrees : e₁.Agrees e₁') :
    Related (fun x x' ↦ x.1 = x'.1) ((Login.start s password).runOn e).1
      ((Login.start s password').runOn e').1 := by
  unfold Login.start
  rw [Draw.runOn_bind, runOn_blind hpoint hr, Draw.runOn_bind, runOn_blind hpoint' hr', hsame]
  -- What follows differs only in what the client keeps.
  refine (Draw.Lockstep.bind_self (.bytes _) fun nonce ↦ ?_ : Draw.Lockstep _ _ _) _ _ hagrees |>.2
  refine (Draw.Lockstep.randomPrivateKey _).bind_self fun ephemeralKey ↦ ?_
  refine .lift_bind_self fun keyshare ↦ .lift_bind_self fun wire ↦ ?_
  exact .pure rfl

/-- A request hides the password: whatever scalar hides one password, exactly one scalar makes the
same of another, and with these two scalars drawn both passwords are registered and log in with one
request, on sources that answer alike from then on. -/
theorem hides_password (cyclic : s.group.Cyclic)
    (hpoint : s.group.hash password (tag s) = .ok point)
    (hpoint' : s.group.hash password' (tag s) = .ok point') (hscalar : s.group.IsScalar r) :
    (∃! r' : Nat, s.group.IsScalar r' ∧
        s.group.multiply r' point' = s.group.multiply r point) ∧
      ∀ r' : Nat, s.group.multiply r' point' = s.group.multiply r point →
        ∀ e e₁ e' e₁', s.group.randomScalar.runOn e = (.ok r, e₁) →
          s.group.randomScalar.runOn e' = (.ok r', e₁') → e₁.Agrees e₁' →
          Related (fun x x' ↦ x.1 = x'.1) ((Login.start s password).runOn e).1
              ((Login.start s password').runOn e').1 ∧
            ∃ request state state',
              (Registration.start s password).runOn e = (.ok (request, state), e₁) ∧
                (Registration.start s password').runOn e' = (.ok (request, state'), e₁') := by
  refine ⟨cyclic.existsUnique_multiply hpoint hpoint' hscalar, ?_⟩
  intro r' hsame e e₁ e' e₁' hr hr' hagrees
  exact ⟨login_start_of_multiply_eq hpoint hpoint' hsame hr hr' hagrees,
    registration_start_of_multiply_eq hpoint hpoint' hsame hr hr'⟩

end Request

/-- For the scalar that hides "secret" on the steady source, there is one that makes the same of
another password, and drawn first it makes both requests the same. -/
theorem hides_password_residue :
    let := Groups.seeded Residue.cyclicOfSeed
    ∃ r' request state state' sent kept kept',
      Residue.plainSuite.group.IsScalar r' ∧
        ((Login.start Residue.plainSuite (Bytes.ofString "secret")).runOn ⟨.steady, []⟩).1 =
          .ok (request, state) ∧
        ((Login.start Residue.plainSuite (Bytes.ofString "other")).runOn ⟨.first r', []⟩).1 =
          .ok (request, state') ∧
        ((Registration.start Residue.plainSuite (Bytes.ofString "secret")).runOn
          ⟨.steady, []⟩).1 = .ok (sent, kept) ∧
        ((Registration.start Residue.plainSuite (Bytes.ofString "other")).runOn
          ⟨.first r', []⟩).1 = .ok (sent, kept') := by
  let := Groups.seeded Residue.cyclicOfSeed
  have hseeds := Residue.isMember_cyclicOfSeed
  have lawful : Residue.plainSuite.Lawful :=
    Suite.lawful_seeded (fun seed ↦ (hseeds seed).1) .identity
  have sound : Trust.steady.Sound Residue.plainSuite :=
    Residue.steady_sound_seeded Residue.cyclicOfSeed
  have cyclic : Residue.plainSuite.group.Cyclic := Residue.cyclic_seededGroup
  have htag : (tag Residue.plainSuite).length < 256 ^ 2 := by decide
  obtain ⟨point, hpoint⟩ := Residue.exists_seededGroup_hash hseeds (Bytes.ofString "secret") htag
  obtain ⟨point', hpoint'⟩ := Residue.exists_seededGroup_hash hseeds (Bytes.ofString "other") htag
  have hscalar : (Residue.seededGroup Residue.cyclicOfSeed).IsScalar 1 :=
    Residue.isScalar_of_lt Nat.one_pos Residue.prime_order.one_lt
  obtain ⟨⟨r', ⟨hr', hsame⟩, -⟩, halike⟩ := hides_password cyclic hpoint hpoint' hscalar
  have hsampling : Residue.plainSuite.group.sampling = .reject 28 := rfl
  have hfirst := PrimeGroup.runOn_randomScalar_reject (e := ⟨.steady, []⟩) hsampling hscalar
    (by decide) rfl
  have hsecond := PrimeGroup.runOn_randomScalar_reject (e := ⟨.first r', []⟩) hsampling hr'
    (Residue.scalarLength_seededGroup ▸ hr'.lt_pow) rfl
  have hagrees : Entropy.Agrees ⟨.steady, [28]⟩ ⟨.first r', [28]⟩ := by
    intro later n
    have hlater : later ++ [28] ≠ [] := by simp
    simp only [Source.steady, Source.first, if_neg hlater]
  obtain ⟨hlogin, sent, kept, kept', hsent, hsent'⟩ :=
    halike r' hsame _ _ _ _ hfirst hsecond hagrees
  obtain ⟨⟨request, state⟩, e', hstart, -⟩ :=
    (Login.start_serves lawful sound hpoint).exists_steady
  obtain ⟨err, herr, -⟩ | ⟨x, x', hx, hx', hrequest⟩ := hlogin.cases
  · rw [hstart] at herr
    cases herr
  · rw [hstart] at hx
    obtain rfl : (request, state) = x := Except.ok.inj hx
    refine ⟨r', request, state, x'.2, sent, kept, kept', hr', by rw [hstart], ?_, by rw [hsent],
      by rw [hsent']⟩
    rw [hx', show request = x'.1 from hrequest]

end Apake.Blinding
