import Apake.Proofs.Protocol.Delivery
import Apake.Proofs.Protocol.PartFailure
import Apake.Proofs.Protocol.SingleUse
import Apake.Proofs.Protocol.Steady

/-!
# How the steps of the protocol fail

On any arguments and any source, and with a state that a first step made, each of the eight steps
returns or fails in one of the protocol's own ways.  The exceptions are strings that are too long to
stand behind their length, which only the steps that hash them find out, and the stretching
function of a state whose settings it cannot run with.  Where scalars are searched for, a source can
also keep a step from ever coming to its end.
-/

namespace Apake

section Steps

variable [Groups] {others : Error → Prop}

/-! ### Arguments -/

omit [Groups] in
/-- A state is accepted if it is unused. -/
theorem SingleUse.consume_served {σ : Type} [Holding σ] (s : SingleUse σ) (suite : Option Suite) :
    Served (.protocol others) (fun s' ↦ s.consumed = false ∧ s' = { s with consumed := true })
      (s.consume suite) := by
  unfold consume
  by_cases hused : s.consumed = true
  · rw [if_pos hused]
    exact .inl rfl
  · rw [if_neg hused]
    have hfresh : s.consumed = false := by simpa using hused
    cases suite with
    | none => exact ⟨hfresh, rfl⟩
    | some other =>
      dsimp only
      split
      · exact ⟨hfresh, rfl⟩
      · exact .inl rfl

namespace State

/-- What an unused state of a client holds: a scalar of the group of its suite. -/
def HoldsScalar : State → Prop
  | registration s => s.consumed = false →
      ∃ r : Nat, s.suite.group.IsScalar r ∧ s.content.blinding.readNat = .ok r
  | login s => s.consumed = false →
      ∃ r : Nat, s.suite.group.IsScalar r ∧ s.content.blinding.readNat = .ok r
  | pending _ | other _ => True

/-- A state that a first step made, or what is left of it when it is given up. -/
def Kept (state : State) : Prop := ∃ made : State, made.Made ∧ (state = made ∨ state = made.zeroize)

/-- The encoding of a scalar is read as the scalar. -/
private theorem readNat_ofBytes {s : Suite} {r : Nat} (hr : s.group.IsScalar r) :
    (Secret.ofBytes (Bytes.ofNat s.scalarLength r)).readNat = .ok r :=
  congrArg Except.ok (Bytes.toNat_ofNat hr.lt_pow)

/-- The client's first steps put a scalar into their states. -/
theorem Made.holdsScalar (sized : Groups.Sized) {state : State} (h : state.Made) :
    state.HoldsScalar := by
  cases h with
  | registration h =>
    obtain ⟨⟨blinding, blinded⟩, e₁, hblind, h⟩ :=
      Draw.runOn_bind_eq_ok_iff.mp (Draw.runOn_of_fst h)
    obtain ⟨r, hr, rfl⟩ := Blinding.exists_scalar_of_blind sized hblind
    cases h
    exact fun _ ↦ ⟨r, hr, readNat_ofBytes hr⟩
  | login h =>
    obtain ⟨⟨blinding, blinded⟩, e₁, hblind, h⟩ :=
      Draw.runOn_bind_eq_ok_iff.mp (Draw.runOn_of_fst h)
    obtain ⟨r, hr, rfl⟩ := Blinding.exists_scalar_of_blind sized hblind
    obtain ⟨nonce, e₂, -, h⟩ := Draw.runOn_bind_eq_ok_iff.mp h
    obtain ⟨ephemeralKey, e₃, -, h⟩ := Draw.runOn_bind_eq_ok_iff.mp h
    obtain ⟨keyshare, -, h⟩ := Draw.runOn_lift_bind_eq_ok_iff.mp h
    obtain ⟨wire, -, h⟩ := Draw.runOn_lift_bind_eq_ok_iff.mp h
    cases h
    exact fun _ ↦ ⟨r, hr, readNat_ofBytes hr⟩
  | pending h => exact trivial
  | other kind => exact trivial

/-- So an unused state holds a scalar. -/
theorem Kept.holdsScalar (sized : Groups.Sized) {state : State} (h : state.Kept) :
    state.HoldsScalar := by
  obtain ⟨made, hmade, rfl | rfl⟩ := h
  · exact hmade.holdsScalar sized
  · cases made with
    | registration s => exact nofun
    | login s => exact nofun
    | pending s => exact trivial
    | other kind => exact trivial

omit [Groups] in
theorem asRegistration_served (state : State) :
    Served (.protocol others) (fun s ↦ state = .registration s) state.asRegistration := by
  cases state with
  | registration s => exact rfl
  | _ => exact .inl rfl

omit [Groups] in
theorem asLogin_served (state : State) :
    Served (.protocol others) (fun s ↦ state = .login s) state.asLogin := by
  cases state with
  | login s => exact rfl
  | _ => exact .inl rfl

omit [Groups] in
theorem asPending_served (state : State) :
    Served (.protocol others) (fun s ↦ state = .pending s) state.asPending := by
  cases state with
  | pending s => exact rfl
  | _ => exact .inl rfl

end State

/-! ### Registration -/

namespace Registration

omit [Groups] in
theorem asRequest_served (item : Item) :
    Served (.protocol others) (fun _ ↦ True) (asRequest item) := by
  unfold asRequest
  split
  · exact trivial
  · exact .inl rfl

omit [Groups] in
theorem asResponse_served (item : Item) :
    Served (.protocol others) (fun _ ↦ True) (asResponse item) := by
  unfold asResponse
  split
  · exact trivial
  · exact .inl rfl

omit [Groups] in
theorem store_served (item : Item) : Served (.protocol others) (fun _ ↦ True) (store item) := by
  unfold store
  split
  · exact trivial
  · exact .inl rfl

omit [Groups] in
theorem accept_served (state : State) (item : Item) :
    Served (.protocol others) (fun x ↦ ∃ s, state = .registration s ∧ s.consumed = false ∧
      x.1 = { s with consumed := true }) (accept state item) :=
  (State.asRegistration_served state).bind fun s hs ↦ (asResponse_served item).bind fun r _ ↦
    (s.consume_served (some r.suite)).bind fun _ h ↦ ⟨s, hs, h⟩

theorem start_serves_protocol (sized : Groups.Sized) (s : Suite) (password : Bytes)
    (hendless : s.group.Searches → others .endless) :
    (start s password).Serves (.protocol others) fun _ ↦ True :=
  (Blinding.blind_serves_protocol sized s password hendless).bind fun _ _ ↦ .pure trivial

theorem answer_served (request : Item) (identifier : Bytes) (setup : ServerSetup) :
    Served (.protocol others) (fun _ ↦ True) (answer request identifier setup) := by
  unfold answer
  refine (asRequest_served request).bind fun r _ ↦ .refuseIf ?_ fun _ ↦ ?_
  · exact .inl rfl
  · exact (PrimeGroup.decodeElement_served _ _).bind fun _ _ ↦
      (setup.accountKey_served identifier).bind fun _ _ ↦ trivial

section Finish

variable {ids : Identifiers} {password : Bytes}
  (hlong : ∀ bs ∈ [password, ids.client.getD [], ids.server.getD []],
    65535 < bs.length → others .overflow)

include hlong

theorem complete_serves_protocol (sized : Groups.Sized) {s : Suite}
    {secrets : RegistrationSecrets} {r : Nat} (hr : s.group.IsScalar r)
    (hread : secrets.blinding.readNat = .ok r) (excused : s.stretching.Excused others)
    (hendless : s.exchange.Searches → others .endless) (response : RegistrationResponse) :
    (complete s secrets password response ids).Serves (.protocol others) fun _ ↦ True := by
  unfold complete
  refine .lift_served_bind (Blinding.checkNotReflected_served _ _) fun _ _ ↦ ?_
  refine .lift_served_bind (PrimeGroup.decodeElement_served _ _) fun evaluated _ ↦ ?_
  refine .lift_served_bind (ExchangeName.validatePublicKey_served _ _) fun _ _ ↦ ?_
  refine .lift_bind hread ?_
  refine .lift_served_bind (Blinding.finalize_served sized hr evaluated (hlong _ (by simp)))
    fun output _ ↦ ?_
  refine .lift_served_bind (Blinding.randomize_served excused output) fun randomized _ ↦ ?_
  refine ((sized.randomPrivateKey_serves _ id).protocol hendless).bind fun privateKey hprivate ↦ ?_
  obtain ⟨publicKey, hpublic⟩ := hprivate
  have hkey := ExchangeName.length_privateKey_of_publicKey hpublic
  refine ((Draw.Serves.bytes _).protocol hendless).bind fun nonce _ ↦ ?_
  refine .lift_served_bind (Envelope.enclose_served hkey (hlong _ (by simp)) (hlong _ (by simp)))
    fun envelope _ ↦ ?_
  exact .lift_bind hpublic <| .pure trivial

theorem finish_served (sized : Groups.Sized) {state : State} (holds : state.HoldsScalar)
    (excused : ∀ s, state = .registration s → s.suite.stretching.Excused others)
    (hendless : ∀ s, state = .registration s → s.suite.exchange.Searches → others .endless)
    (item : Item) (e : Entropy) :
    Served (.protocol others) (fun _ ↦ True) (finish state password item ids e).1 := by
  have haccept : Served (.protocol others) _ (accept state item) := accept_served state item
  unfold finish
  revert haccept
  cases accept state item with
  | error err => exact id
  | ok x =>
    obtain ⟨s', response⟩ := x
    rintro ⟨s, rfl, hfresh, rfl⟩
    obtain ⟨r, hr, hread⟩ := holds hfresh
    exact (complete_serves_protocol hlong sized hr hread (excused s rfl) (hendless s rfl)
      response).served trivial

end Finish

/-- Where a last step returns, it would have failed for the length with a long password, and with
long identities. -/
theorem finish_of_long {state : State} {password : Bytes} {item : Item} {ids : Identifiers}
    {e : Entropy} {result : RegistrationResult}
    (h : (finish state password item ids e).1 = .ok result) :
    (∀ password', 65535 < password'.length →
        (finish state password' item ids e).1 = .error .overflow) ∧
      ∀ ids' : Identifiers, 65535 < (ids'.server.getD []).length ∨
          65535 < (ids'.client.getD []).length →
        (finish state password item ids' e).1 = .error .overflow := by
  unfold finish at h ⊢
  revert h
  cases accept state item with
  | error err => exact nofun
  | ok x =>
    obtain ⟨s, response⟩ := x
    intro h
    have h := Draw.runOn_of_fst h
    unfold complete at h
    obtain ⟨_, hdiffers, h⟩ := Draw.runOn_lift_bind_eq_ok_iff.mp h
    obtain ⟨evaluated, hevaluated, h⟩ := Draw.runOn_lift_bind_eq_ok_iff.mp h
    obtain ⟨_, hvalid, h⟩ := Draw.runOn_lift_bind_eq_ok_iff.mp h
    obtain ⟨blinding, hread, h⟩ := Draw.runOn_lift_bind_eq_ok_iff.mp h
    obtain ⟨output, houtput, h⟩ := Draw.runOn_lift_bind_eq_ok_iff.mp h
    obtain ⟨randomized, hrandomized, h⟩ := Draw.runOn_lift_bind_eq_ok_iff.mp h
    obtain ⟨privateKey, e₁, hprivate, h⟩ := Draw.runOn_bind_eq_ok_iff.mp h
    obtain ⟨nonce, e₂, hnonce, h⟩ := Draw.runOn_bind_eq_ok_iff.mp h
    obtain ⟨envelope, henvelope, -⟩ := Draw.runOn_lift_bind_eq_ok_iff.mp h
    constructor
    · intro password' hlong
      have hrun : (complete s.suite s.content password' response ids).runOn e =
          (.error .overflow, e) :=
        Draw.runOn_lift_bind_of_ok hdiffers <| Draw.runOn_lift_bind_of_ok hevaluated <|
          Draw.runOn_lift_bind_of_ok hvalid <| Draw.runOn_lift_bind_of_ok hread <|
          Draw.runOn_lift_bind_of_error (Blinding.finalize_of_long houtput hlong)
      exact congrArg Prod.fst hrun
    · intro ids' hlong
      have hrun : (complete s.suite s.content password response ids').runOn e =
          (.error .overflow, e₂) :=
        Draw.runOn_lift_bind_of_ok hdiffers <| Draw.runOn_lift_bind_of_ok hevaluated <|
          Draw.runOn_lift_bind_of_ok hvalid <| Draw.runOn_lift_bind_of_ok hread <|
          Draw.runOn_lift_bind_of_ok houtput <| Draw.runOn_lift_bind_of_ok hrandomized <|
          Draw.runOn_bind_of_ok hprivate <| Draw.runOn_bind_of_ok hnonce <|
          Draw.runOn_lift_bind_of_error (Envelope.enclose_of_long henvelope hlong)
      exact congrArg Prod.fst hrun

/-- The last step of a registration that returned was taken with a state that the first one made. -/
theorem made_of_run {setup : ServerSetup} {identifier password again : Phrase} {ids : Identifiers}
    {starting finishing : Entropy} {result : Record × Bytes}
    (h : run setup identifier password again ids starting finishing = .ok result) :
    ∃ state secret item result, (State.registration state).Made ∧ state.suite = setup.suite ∧
      again.toBytes = .ok secret ∧
      (finish (.registration state) secret item ids finishing).1 = .ok result := by
  unfold run at h
  obtain ⟨_, -, h⟩ := Except.bind_eq_ok_iff.mp h
  obtain ⟨⟨_, state⟩, hstart, h⟩ := Except.bind_eq_ok_iff.mp h
  obtain ⟨_, -, h⟩ := Except.bind_eq_ok_iff.mp h
  obtain ⟨response, -, h⟩ := Except.bind_eq_ok_iff.mp h
  obtain ⟨secret, hsecret, h⟩ := Except.bind_eq_ok_iff.mp h
  obtain ⟨result, hfinish, -⟩ := Except.bind_eq_ok_iff.mp h
  obtain ⟨-, hsuite, -⟩ := suite_of_start hstart
  exact ⟨state, secret, _, result, .registration hstart, hsuite, hsecret, hfinish⟩

end Registration

/-! ### Login -/

/-- The keys of a setup that was made have their size. -/
theorem ServerSetup.Reached.length_keys (sized : Groups.Sized) {setup : ServerSetup}
    (reached : setup.Reached) :
    setup.publicKey.length = setup.suite.publicLength ∧
      setup.standInKey.length = setup.suite.publicLength := by
  induction reached with
  | made hmake =>
    obtain ⟨-, holds⟩ := holds_of_make hmake
    obtain ⟨sk, hstandIn⟩ := holds.standInKey
    exact ⟨sized.length_publicKey holds.publicKey, sized.length_publicKey hstandIn⟩
  | wiped _ ih => exact ih

namespace Login

omit [Groups] in
theorem asRequest_served (item : Item) :
    Served (.protocol others) (fun _ ↦ True) (asRequest item) := by
  unfold asRequest
  split
  · exact trivial
  · exact .inl rfl

omit [Groups] in
theorem asResponse_served (item : Item) :
    Served (.protocol others) (fun _ ↦ True) (asResponse item) := by
  unfold asResponse
  split
  · exact trivial
  · exact .inl rfl

omit [Groups] in
theorem asFinalization_served (item : Item) :
    Served (.protocol others) (fun _ ↦ True) (asFinalization item) := by
  unfold asFinalization
  split
  · exact trivial
  · exact .inl rfl

omit [Groups] in
theorem asRecord_served (item : Item) :
    Served (.protocol others) (fun r ↦ item = .record r) (asRecord item) := by
  unfold asRecord
  split
  · exact rfl
  · exact .inl rfl

omit [Groups] in
theorem accept_served (state : State) (item : Item) :
    Served (.protocol others) (fun x ↦ ∃ s, state = .login s ∧ s.consumed = false ∧
      x.1 = { s with consumed := true }) (accept state item) :=
  (State.asLogin_served state).bind fun s hs ↦ (asResponse_served item).bind fun r _ ↦
    (s.consume_served (some r.suite)).bind fun _ h ↦ ⟨s, hs, h⟩

omit [Groups] in
theorem confirm_served (state : State) (item : Item) :
    Served (.protocol others) (fun _ ↦ True) (confirm state item).1 := by
  have haccept : Served (.protocol others) (fun _ ↦ True) (acceptFinalization state item) :=
    (State.asPending_served state).bind fun s _ ↦ (asFinalization_served item).bind fun f _ ↦
      (s.consume_served (some f.suite)).bind fun _ _ ↦ trivial
  unfold confirm
  revert haccept
  cases acceptFinalization state item with
  | error err => exact id
  | ok x =>
    intro _
    refine (Secret.read_served _).bind fun expected _ ↦ .bind (P := fun _ ↦ True) ?_ fun _ _ ↦
      (Secret.read_served _).mono fun _ _ ↦ trivial
    unfold SessionKeys.checkClient
    split
    · exact trivial
    · exact .inl rfl

theorem start_serves_protocol (sized : Groups.Sized) (s : Suite) (password : Bytes)
    (hendless : s.Searches → others .endless) :
    (start s password).Serves (.protocol others) fun _ ↦ True := by
  have hgroup : s.group.Searches → others .endless := fun h ↦ hendless (.inl h)
  have hexchange : s.exchange.Searches → others .endless := fun h ↦ hendless (.inr h)
  refine (Blinding.blind_serves_protocol sized s password hgroup).bind fun _ _ ↦ ?_
  refine ((Draw.Serves.bytes _).protocol hendless).bind fun nonce _ ↦ ?_
  refine ((sized.randomPrivateKey_serves _ id).protocol hexchange).bind
    fun ephemeralKey hprivate ↦ ?_
  obtain ⟨keyshare, hkeyshare⟩ := hprivate
  exact .lift_bind hkeyshare <| .lift_served_bind (Message.toBytes_served _) fun _ _ ↦ .pure trivial

omit [Groups] in
/-- An identity is too long only if the explicit one or the public key is. -/
theorem others_of_long_identity {explicit : Option Bytes} {key : Bytes}
    (hexplicit : 65535 < (explicit.getD []).length → others .overflow)
    (hkey : 65535 < key.length → others .overflow)
    (h : 65535 < (identity explicit key).length) : others .overflow := by
  by_cases hlong : 65535 < key.length
  · exact hkey hlong
  · by_cases hlong' : 65535 < (explicit.getD []).length
    · exact hexplicit hlong'
    · have hfits : (identity explicit key).length < 65536 :=
        length_identity_lt (by omega) (by omega)
      omega

/-- The server has an upload for every record and for none; only that of a record may have a client
key that is too long. -/
theorem uploadOf_served (sized : Groups.Sized) {setup : ServerSetup} (reached : setup.Reached)
    (record : Option Item) (identifier : Bytes)
    (hkey : ∀ r, record = some (.record r) → 65535 < r.upload.clientPublicKey.length →
      others .overflow) :
    Served (.protocol others)
      (fun upload ↦ 65535 < upload.clientPublicKey.length → others .overflow)
      (uploadOf record identifier setup) := by
  cases record with
  | none =>
    refine (setup.seed.read_served).bind fun _ _ hlong ↦ absurd hlong ?_
    have hlength := (reached.length_keys sized).2
    have hwidth : setup.suite.publicLength < 65536 := sized.publicLength_lt _
    show ¬ 65535 < setup.standInKey.length
    omega
  | some item =>
    refine (asRecord_served item).bind fun r hr ↦ .refuseIf ?_ fun _ ↦ ?_
    · exact .inl rfl
    · exact hkey r (congrArg some hr)

section Lengths

variable {params : LoginParameters}
  (hlong : ∀ bs ∈ [params.context, params.identifiers.client.getD [],
    params.identifiers.server.getD []], 65535 < bs.length → others .overflow)

include hlong

theorem respond_serves_protocol (sized : Groups.Sized) {setup : ServerSetup}
    (reached : setup.Reached) {upload : RegistrationUpload}
    (hendless : setup.suite.exchange.Searches → others .endless)
    (hkey : 65535 < upload.clientPublicKey.length → others .overflow)
    (request : CredentialRequest) (identifier : Bytes) :
    (respond setup upload request identifier params).Serves (.protocol others) fun _ ↦ True := by
  have hpublic := (reached.length_keys sized).1
  have hwidth : setup.suite.publicLength < 65536 := sized.publicLength_lt _
  unfold respond
  refine .lift_served_bind (PrimeGroup.decodeElement_served _ _) fun blinded _ ↦ ?_
  refine .lift_served_bind (ExchangeName.validatePublicKey_served _ _) fun _ _ ↦ ?_
  refine .lift_served_bind (setup.accountKey_served identifier) fun key _ ↦ ?_
  refine ((Draw.Serves.bytes _).protocol hendless).bind fun maskingNonce _ ↦ ?_
  obtain ⟨masked, hmasked, -⟩ := Masking.exists_mask hpublic upload.maskingKey maskingNonce
    upload.envelope
  refine .lift_bind hmasked <| ((Draw.Serves.bytes _).protocol hendless).bind fun serverNonce _ ↦ ?_
  refine ((sized.randomPrivateKey_serves _ id).protocol hendless).bind
    fun ephemeralKey hprivate ↦ ?_
  obtain ⟨keyshare, hkeyshare⟩ := hprivate
  refine .lift_bind hkeyshare ?_
  refine .lift_served_bind (Message.toBytes_served _) fun wire _ ↦ ?_
  refine .lift_served_bind (Transcript.toBytes_served (hlong _ (by simp))
    (others_of_long_identity (hlong _ (by simp)) hkey)
    (others_of_long_identity (hlong _ (by simp)) fun h ↦ ?_)) fun transcript _ ↦ ?_
  · omega
  refine .lift_served_bind (Secret.read_served _) fun privateKey _ ↦ ?_
  refine .lift_served_bind (SessionKeys.serverShared_served _ _ _ _) fun shared _ ↦ ?_
  exact .lift_bind (SessionKeys.derive_eq _ _) <| .pure trivial

theorem answer_served (sized : Groups.Sized) {setup : ServerSetup} (reached : setup.Reached)
    (hendless : setup.suite.exchange.Searches → others .endless) (request : Item)
    (record : Option Item) (identifier : Bytes)
    (hkey : ∀ r, record = some (.record r) → 65535 < r.upload.clientPublicKey.length →
      others .overflow) (e : Entropy) :
    Served (.protocol others) (fun _ ↦ True)
      ((answer request record identifier setup params).runOn e).1 := by
  have hserves : (answer request record identifier setup params).Serves (.protocol others)
      fun _ ↦ True := by
    unfold answer
    refine .lift_served_bind (asRequest_served request) fun r _ ↦ .refuseIf ?_ fun _ ↦ ?_
    · exact .inl rfl
    · refine .lift_served_bind (uploadOf_served sized reached record identifier hkey)
        fun upload hupload ↦ ?_
      exact respond_serves_protocol hlong sized reached hendless hupload r identifier
  exact hserves.served trivial

theorem complete_served (sized : Groups.Sized) {s : Suite} {secrets : LoginSecrets} {r : Nat}
    (hr : s.group.IsScalar r) (hread : secrets.blinding.readNat = .ok r)
    (hpassword : 65535 < secrets.password.memory.length → others .overflow)
    (excused : s.stretching.Excused others) (response : CredentialResponse) :
    Served (.protocol others) (fun _ ↦ True) (complete s secrets response params) := by
  have hwidth : s.publicLength < 65536 := sized.publicLength_lt _
  unfold complete
  refine (Blinding.checkNotReflected_served _ _).bind fun _ _ ↦ ?_
  refine (PrimeGroup.decodeElement_served _ _).bind fun evaluated _ ↦ .ok_bind hread ?_
  refine secrets.password.read_served.bind fun password hmemory ↦ ?_
  rw [← hmemory] at hpassword
  refine (Blinding.finalize_served sized hr evaluated hpassword).bind fun output _ ↦ ?_
  refine (Blinding.randomize_served excused output).bind fun randomized _ ↦ ?_
  refine (Masking.unmask_served _ _ _).bind fun ⟨serverKey, envelope⟩ ⟨hserver, hfits⟩ ↦ ?_
  refine (Envelope.recover_served hfits randomized (hlong _ (by simp)) (hlong _ (by simp))).bind
    fun privateKey _ ↦ ?_
  refine (ExchangeName.publicKey_served privateKey).bind fun publicKey hpublic ↦ ?_
  refine (ExchangeName.validatePublicKey_served _ _).bind fun _ _ ↦ ?_
  refine (Secret.read_served _).bind fun ephemeralKey _ ↦ ?_
  refine (SessionKeys.clientShared_served _ _ _ _).bind fun shared _ ↦ ?_
  have hkey := sized.length_publicKey hpublic
  refine (Transcript.toBytes_served (hlong _ (by simp))
    (others_of_long_identity (hlong _ (by simp)) fun h ↦ ?_)
    (others_of_long_identity (hlong _ (by simp)) fun h ↦ ?_)).bind fun transcript _ ↦ ?_
  · have hkey : publicKey.length = s.publicLength := hkey
    omega
  · have hserver : serverKey.length = s.publicLength := hserver
    omega
  refine .ok_bind (SessionKeys.derive_eq _ _) <| .bind (P := fun _ ↦ True) ?_ fun _ _ ↦ trivial
  unfold SessionKeys.checkServer
  split
  · exact trivial
  · exact .inl rfl

theorem finish_served (sized : Groups.Sized) {state : State} (holds : state.HoldsScalar)
    (hpassword : ∀ s, state = .login s → 65535 < s.content.password.memory.length →
      others .overflow)
    (excused : ∀ s, state = .login s → s.suite.stretching.Excused others) (item : Item) :
    Served (.protocol others) (fun _ ↦ True) (finish state item params).1 := by
  have haccept : Served (.protocol others) _ (accept state item) := accept_served state item
  unfold finish
  revert haccept
  cases accept state item with
  | error err => exact id
  | ok x =>
    obtain ⟨s', response⟩ := x
    rintro ⟨s, rfl, hfresh, rfl⟩
    obtain ⟨r, hr, hread⟩ := holds hfresh
    exact complete_served hlong sized hr hread (hpassword s rfl) (excused s rfl) response

end Lengths

end Login

/-! ### The eight steps -/

/-- A step of the protocol with all that it is given. -/
inductive Step
  | registrationStart (s : Suite) (password : Bytes) (entropy : Entropy)
  | registrationAnswer (request : Item) (identifier : Bytes) (setup : ServerSetup)
  | registrationFinish (state : State) (password : Bytes) (response : Item) (ids : Identifiers)
    (entropy : Entropy)
  | registrationStore (upload : Item)
  | loginStart (s : Suite) (password : Bytes) (entropy : Entropy)
  | loginAnswer (request : Item) (record : Option Item) (identifier : Bytes) (setup : ServerSetup)
    (params : LoginParameters) (entropy : Entropy)
  | loginFinish (state : State) (response : Item) (params : LoginParameters)
  | loginConfirm (state : State) (finalization : Item)

namespace Step

/-- Whether a step returns, or how it fails. -/
def outcome : Step → Except Error Unit
  | registrationStart s password entropy =>
    ((Registration.start s password).runOn entropy).1.map fun _ ↦ ()
  | registrationAnswer request identifier setup =>
    (Registration.answer request identifier setup).map fun _ ↦ ()
  | registrationFinish state password response ids entropy =>
    (Registration.finish state password response ids entropy).1.map fun _ ↦ ()
  | registrationStore upload => (Registration.store upload).map fun _ ↦ ()
  | loginStart s password entropy =>
    ((Login.start s password).runOn entropy).1.map fun _ ↦ ()
  | loginAnswer request record identifier setup params entropy =>
    ((Login.answer request record identifier setup params).runOn entropy).1.map fun _ ↦ ()
  | loginFinish state response params => (Login.finish state response params).1.map fun _ ↦ ()
  | loginConfirm state finalization => (Login.confirm state finalization).1.map fun _ ↦ ()

/-- Whether the setup of a step was made, and its state by a first step; both may be wiped since. -/
def Made : Step → Prop
  | registrationAnswer _ _ setup | loginAnswer _ _ _ setup _ _ => setup.Reached
  | registrationFinish state .. | loginFinish state .. | loginConfirm state _ => state.Kept
  | _ => True

omit [Groups] in
/-- The strings of any length that a step writes behind their length. -/
def prefixed : Step → List Bytes
  | registrationFinish _ password _ ids _ => [password, ids.client.getD [], ids.server.getD []]
  | loginAnswer _ record _ _ params _ =>
    let clientKey := match record with
      | some (.record r) => [r.upload.clientPublicKey]
      | _ => []
    clientKey ++
      [params.context, params.identifiers.client.getD [], params.identifiers.server.getD []]
  | loginFinish state _ params =>
    let password := match state with
      | .login s => [s.content.password.memory]
      | _ => []
    password ++
      [params.context, params.identifiers.client.getD [], params.identifiers.server.getD []]
  | _ => []

omit [Groups] in
/-- The stretching function that a step applies, which is that of its state. -/
def stretching? : Step → Option Stretching
  | registrationFinish (.registration s) .. => some s.suite.stretching
  | loginFinish (.login s) .. => some s.suite.stretching
  | _ => none

omit [Groups] in
/-- The suite in which a step draws, if it does. -/
def drawing? : Step → Option Suite
  | registrationStart s .. | loginStart s .. => some s
  | registrationFinish (.registration s) .. => some s.suite
  | loginAnswer _ _ _ setup .. => some setup.suite
  | _ => none

/-- With a setup and a state that were made, a step fails in one of the protocol's own ways, or for
a string that is too long for its length, or as its stretching function does, which then has
settings that it cannot run with.  Or it searches for ever among the numbers that it draws, which is
no failure. -/
theorem cases_of_error (sized : Groups.Sized) {step : Step} (made : step.Made) {err : Error}
    (h : step.outcome = .error err) :
    err.isProtocol = true ∨
      (err = .overflow ∧ ∃ bs ∈ step.prefixed, 65535 < bs.length) ∨
      (∃ f ∈ step.stretching?, ¬ f.Runs ∧ ∃ data, f.stretch data = .error err) ∨
      (err = .endless ∧ ∃ s ∈ step.drawing?, s.Searches) := by
  let others (err : Error) : Prop := (err = .overflow ∧ ∃ bs ∈ step.prefixed, 65535 < bs.length) ∨
    (∃ f ∈ step.stretching?, ¬ f.Runs ∧ ∃ data, f.stretch data = .error err) ∨
    (err = .endless ∧ ∃ s ∈ step.drawing?, s.Searches)
  have hlong (bs : Bytes) (hbs : bs ∈ step.prefixed) (h : 65535 < bs.length) : others .overflow :=
    .inl ⟨rfl, bs, hbs, h⟩
  have hstretch (f : Stretching) (hf : f ∈ step.stretching?) : f.Excused others :=
    fun data _ h runs ↦ .inr (.inl ⟨f, hf, runs, data, h⟩)
  have hendless (s : Suite) (hs : s ∈ step.drawing?) (h : s.Searches) : others .endless :=
    .inr (.inr ⟨rfl, s, hs, h⟩)
  have hserved {α : Type} {x : Except Error α} (hx : Served (.protocol others) (fun _ ↦ True) x)
      (h : (x.map fun _ ↦ ()) = .error err) : err.isProtocol = true ∨ others err := by
    cases x with
    | error err' =>
      cases h
      exact hx
    | ok a => cases h
  cases step with
  | registrationStart s password entropy =>
    exact hserved ((Registration.start_serves_protocol sized s password
      fun h ↦ hendless s rfl (.inl h)).served trivial) h
  | registrationAnswer request identifier setup =>
    exact hserved (Registration.answer_served request identifier setup) h
  | registrationFinish state password response ids entropy =>
    have excused : ∀ s, state = .registration s → s.suite.stretching.Excused others := by
      rintro s rfl
      exact hstretch s.suite.stretching rfl
    have hends : ∀ s, state = .registration s → s.suite.exchange.Searches → others .endless := by
      rintro s rfl h
      exact hendless s.suite rfl (.inr h)
    exact hserved (Registration.finish_served hlong sized (made.holdsScalar sized) excused hends
      response entropy) h
  | registrationStore upload => exact hserved (Registration.store_served upload) h
  | loginStart s password entropy =>
    exact hserved ((Login.start_serves_protocol sized s password (hendless s rfl)).served
      trivial) h
  | loginAnswer request record identifier setup params entropy =>
    have hkey : ∀ r, record = some (.record r) → 65535 < r.upload.clientPublicKey.length →
        others .overflow := by
      rintro r rfl
      exact hlong _ (List.mem_cons_self ..)
    exact hserved (Login.answer_served (fun bs hbs ↦ hlong bs (List.mem_append_right _ hbs)) sized
      made (fun h ↦ hendless setup.suite rfl (.inr h)) request record identifier hkey entropy) h
  | loginFinish state response params =>
    have excused : ∀ s, state = .login s → s.suite.stretching.Excused others := by
      rintro s rfl
      exact hstretch s.suite.stretching rfl
    have hpassword : ∀ s, state = .login s → 65535 < s.content.password.memory.length →
        others .overflow := by
      rintro s rfl
      exact hlong _ (List.mem_cons_self ..)
    exact hserved (Login.finish_served (fun bs hbs ↦ hlong bs (List.mem_append_right _ hbs)) sized
      (made.holdsScalar sized) hpassword excused response) h
  | loginConfirm state finalization => exact hserved (Login.confirm_served state finalization) h

end Step

end Steps

namespace Step

attribute [local instance] Groups.closed

/-- Over residues the last step of a registration with a long identity fails for its length. -/
theorem cases_of_error_residue : ∃ state item,
    let step := registrationFinish state (Bytes.ofString "secret") item
      { client := some (Bytes.zeros 65536) } ⟨.steady, []⟩
    step.Made ∧ step.outcome = .error .overflow ∧ ∃ bs ∈ step.prefixed, 65535 < bs.length := by
  obtain ⟨setup, record, exportKey, hmake, hregistered⟩ := Residue.exists_registered
  obtain ⟨state, secret, item, result, hmade, hsuite, hsecret, hfinish⟩ :=
    Registration.made_of_run hregistered
  cases Residue.toBytes_secret.symm.trans hsecret
  have hclient : 65535 < (Bytes.zeros 65536).length := by
    rw [Bytes.length_zeros]
    omega
  have hoverflow := (Registration.finish_of_long hfinish).2 { client := some (Bytes.zeros 65536) }
    (.inr hclient)
  let step := registrationFinish (.registration state) (Bytes.ofString "secret") item
    { client := some (Bytes.zeros 65536) } ⟨.steady, []⟩
  have kept : step.Made := ⟨_, hmade, .inl rfl⟩
  have houtcome : step.outcome = .error .overflow :=
    congrArg (Except.map fun _ ↦ ()) hoverflow
  refine ⟨.registration state, item, kept, houtcome, ?_⟩
  obtain hprotocol | ⟨-, hlong⟩ | ⟨f, hf, hruns, -⟩ | ⟨hendless, -⟩ :=
    cases_of_error (Groups.sized_seeded Residue.closedOfSeed) kept houtcome
  · cases hprotocol
  · exact hlong
  · obtain rfl : state.suite.stretching = f := Option.some.inj hf
    rw [hsuite, (ServerSetup.holds_of_make hmake).1] at hruns
    exact absurd trivial hruns
  · cases hendless

/-- A password that is too long for its length makes the last step of a registration fail in a way
that is not the protocol's own, although its state was made and its other arguments are in order. -/
theorem outcome_of_long_password : ∃ state item,
    let step := registrationFinish state (Bytes.zeros 65536) item {} ⟨.steady, []⟩
    step.Made ∧ step.outcome = .error .overflow ∧ Error.overflow.isProtocol = false := by
  obtain ⟨setup, record, exportKey, -, hregistered⟩ := Residue.exists_registered
  obtain ⟨state, secret, item, result, hmade, -, -, hfinish⟩ :=
    Registration.made_of_run hregistered
  have hpassword : 65535 < (Bytes.zeros 65536).length := by
    rw [Bytes.length_zeros]
    omega
  have hoverflow := (Registration.finish_of_long hfinish).1 (Bytes.zeros 65536) hpassword
  have houtcome : (registrationFinish (.registration state) (Bytes.zeros 65536) item {}
      ⟨.steady, []⟩).outcome = .error .overflow :=
    congrArg (Except.map fun _ ↦ ()) hoverflow
  exact ⟨.registration state, item, ⟨_, hmade, .inl rfl⟩, houtcome, rfl⟩

end Step

end Apake
