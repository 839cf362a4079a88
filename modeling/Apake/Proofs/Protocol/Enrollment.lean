import Apake.Protocol.Registration
import Apake.Store.Accounts
import Apake.Proofs.Credential.Recovery
import Apake.Proofs.Server.Setup

/-!
# What a registration leaves behind

A registration that returns has evaluated the password under the account's key, stretched the result
and sealed a private key under it.  The record is determined by these values, not by the scalar that
hid the password on its way, and that is all that a later login needs to know.
-/

namespace Apake

/-- A password or an identifier as it is handed over: a text, or bytes. -/
inductive Phrase
  | text (us : Units)
  | bytes (bs : Bytes)

/-- The bytes of a phrase; a text with an unpaired surrogate has none. -/
def Phrase.toBytes : Phrase → Except Error Bytes
  | text us => RecordStore.identifier us
  | bytes bs => .ok bs

variable [Groups]

/-- What the key of an account makes of a password.  The key moves the password's element, for
otherwise the client would take every answer for its own message sent back. -/
structure Evaluation (setup : ServerSetup) (identifier password : Bytes) (key : Nat)
    (point : setup.suite.group.Element) (randomized : Bytes) : Prop where
  hash : setup.suite.group.hash password (Blinding.tag setup.suite) = .ok point
  accountKey : setup.accountKey identifier = .ok key
  moved : setup.suite.group.multiply key point ≠ point
  stretched : ∃ output, Blinding.outputOf setup.suite password key point = .ok output ∧
    Blinding.randomize setup.suite output = .ok randomized

/-- An upload and an export key that were made from a randomized password. -/
structure Enrolled (s : Suite) (serverKey : Bytes) (ids : Identifiers) (randomized : Bytes)
    (result : RegistrationResult) : Prop where
  suite : result.upload.suite = s
  maskingKey : result.upload.maskingKey = Envelope.maskingKey s randomized
  exportKey : result.exportKey = Envelope.exportKey s randomized result.upload.envelope.nonce
  sealed : ∃ privateKey nonce, s.exchange.publicKey privateKey = .ok result.upload.clientPublicKey ∧
    Envelope.enclose s randomized privateKey serverKey nonce ids = .ok result.upload.envelope

section Unblinding

variable {setup : ServerSetup} {seed privateKey identifier password randomized blinding : Bytes}
  {key : Nat} {point blinded : setup.suite.group.Element}

/-- Under whatever blinding a password was evaluated, the client finds no fault with the answer and
arrives at the same randomized password. -/
theorem Evaluation.unblind (lawful : setup.suite.group.Lawful) (holds : setup.Holds seed privateKey)
    (evaluation : Evaluation setup identifier password key point randomized)
    (hides : Blinding.Hides setup.suite point blinding blinded) (name : String) :
    let evaluated := Blinding.evaluate setup.suite blinded key
    Blinding.checkNotReflected (setup.suite.group.encode blinded)
        (setup.suite.group.encode evaluated) = .ok () ∧
      setup.suite.group.decodeElement (setup.suite.group.encode blinded) "blinded message" =
        .ok blinded ∧
      setup.suite.group.decodeElement (setup.suite.group.encode evaluated) name = .ok evaluated ∧
      ∃ output,
        Blinding.finalize setup.suite password (Bytes.toNat blinding) evaluated = .ok output ∧
        Blinding.randomize setup.suite output = .ok randomized := by
  have hkey := holds.isScalar_of_accountKey lawful evaluation.accountKey
  obtain ⟨Member, laws⟩ := lawful
  obtain ⟨hmem, hne⟩ := laws.mem_of_hash evaluation.hash
  obtain ⟨output, houtput, hrandomized⟩ := evaluation.stretched
  refine ⟨(Blinding.checkNotReflected_of_hides laws hmem hides).mpr evaluation.moved,
    (Blinding.decodeElement_of_hides laws hmem hne hides hkey _).1,
    (Blinding.decodeElement_of_hides laws hmem hne hides hkey _).2, output, ?_, hrandomized⟩
  rw [Blinding.finalize_of_hides laws hmem hides, houtput]

end Unblinding

namespace Registration

variable {s : Suite} {secrets : RegistrationSecrets} {response : RegistrationResponse}
  {ids : Identifiers} {password : Bytes}

/-- What a last step that returned has done. -/
theorem enrolled_of_complete {result : RegistrationResult} {e e' : Entropy}
    (h : (complete s secrets password response ids).runOn e = (.ok result, e')) :
    Blinding.checkNotReflected secrets.blindedMessage response.evaluatedMessage = .ok () ∧
      ∃ evaluated blinding output randomized,
        s.group.decodeElement response.evaluatedMessage "evaluated message" = .ok evaluated ∧
        secrets.blinding.readNat = .ok blinding ∧
        Blinding.finalize s password blinding evaluated = .ok output ∧
        Blinding.randomize s output = .ok randomized ∧
        Enrolled s response.serverPublicKey ids randomized result := by
  unfold complete at h
  obtain ⟨_, hdiffers, h⟩ := Draw.runOn_lift_bind_eq_ok_iff.mp h
  obtain ⟨evaluated, hevaluated, h⟩ := Draw.runOn_lift_bind_eq_ok_iff.mp h
  obtain ⟨-, -, h⟩ := Draw.runOn_lift_bind_eq_ok_iff.mp h
  obtain ⟨blinding, hblinding, h⟩ := Draw.runOn_lift_bind_eq_ok_iff.mp h
  obtain ⟨output, houtput, h⟩ := Draw.runOn_lift_bind_eq_ok_iff.mp h
  obtain ⟨randomized, hrandomized, h⟩ := Draw.runOn_lift_bind_eq_ok_iff.mp h
  obtain ⟨privateKey, e₁, -, h⟩ := Draw.runOn_bind_eq_ok_iff.mp h
  obtain ⟨nonce, e₂, -, h⟩ := Draw.runOn_bind_eq_ok_iff.mp h
  obtain ⟨envelope, henvelope, h⟩ := Draw.runOn_lift_bind_eq_ok_iff.mp h
  obtain ⟨publicKey, hpublic, h⟩ := Draw.runOn_lift_bind_eq_ok_iff.mp h
  obtain ⟨hnonce, -, -⟩ := Envelope.recover_of_enclose henvelope
  cases h
  refine ⟨hdiffers, evaluated, blinding, output, randomized, hevaluated, hblinding, houtput,
    hrandomized, rfl, rfl, ?_, privateKey, nonce, hpublic, henvelope⟩
  rw [hnonce]

/-- A last step returns on the answer to its own request, unless the source fails. -/
theorem complete_serves {t : Trust} {setup : ServerSetup} {seed privateKey identifier randomized
    blinding clear : Bytes} {key : Nat} {point blinded : setup.suite.group.Element}
    (lawful : setup.suite.Lawful) (sound : t.Sound setup.suite)
    (holds : setup.Holds seed privateKey)
    (evaluation : Evaluation setup identifier password key point randomized)
    (hides : Blinding.Hides setup.suite point blinding blinded)
    (hclear : Envelope.cleartext setup.publicKey ids = .ok clear) :
    (complete setup.suite ⟨.ofBytes blinding, setup.suite.group.encode blinded⟩ password
      ⟨setup.suite, setup.suite.group.encode (Blinding.evaluate setup.suite blinded key),
        setup.publicKey⟩ ids).Serves t fun _ ↦ True := by
  obtain ⟨hdiffers, -, hevaluated, output, houtput, hrandomized⟩ :=
    evaluation.unblind lawful.group holds hides "evaluated message"
  have hserver := ExchangeName.validatePublicKey_of_publicKey lawful.exchange holds.publicKey
    "server public key"
  have hread : (Secret.ofBytes blinding).readNat = .ok (Bytes.toNat blinding) := rfl
  unfold complete
  refine .lift_bind hdiffers <| .lift_bind hevaluated <| .lift_bind hserver <|
    .lift_bind hread <| .lift_bind houtput <| .lift_bind hrandomized ?_
  refine sound.privateKey.bind fun sk hsk ↦ (sound.bytes _).bind fun nonce hnonce ↦ ?_
  obtain ⟨pk, hpk⟩ := hsk
  have hmask : Framing.mask sk (Envelope.pad setup.suite randomized nonce) =
      .ok (sk.xor (Envelope.pad setup.suite randomized nonce)) := by
    refine Framing.mask_eq_ok_iff.mpr ⟨?_, rfl⟩
    rw [ExchangeName.length_privateKey_of_publicKey hpk]
    exact (setup.suite.hash.length_expand _ _ _).symm
  have henvelope := Envelope.enclose_eq_ok_iff.mpr ⟨hnonce, _, clear, hmask, hclear, rfl⟩
  exact .lift_bind henvelope <| .lift_bind hpk <| .pure trivial

/-- A whole registration, which hands the password over twice and draws from one supply for each
step of the client: the record that the server keeps, and the client's export key. -/
def run (setup : ServerSetup) (identifier password again : Phrase) (ids : Identifiers)
    (starting finishing : Entropy) : Except Error (Record × Bytes) := do
  let bytes ← password.toBytes
  let (request, state) ← ((start setup.suite bytes).runOn starting).1
  let bytes ← identifier.toBytes
  let response ← answer (.message (.registrationRequest request)) bytes setup
  let bytes ← again.toBytes
  let result ← (finish (.registration state) bytes (.message (.registrationResponse response)) ids
    finishing).1
  let record ← store (.message (.registrationUpload result.upload))
  return (record, result.exportKey)

/-- The last step of a fresh state on a response of its suite is its main part. -/
theorem finish_of_fresh {state : ClientRegistrationState} {entropy : Entropy}
    (hfresh : state.consumed = false) (hsuite : response.suite.same state.suite = true) :
    (finish (.registration state) password (.message (.registrationResponse response)) ids
        entropy).1 =
      ((complete state.suite state.content password response ids).runOn entropy).1 := by
  have haccept : accept (.registration state) (.message (.registrationResponse response)) =
      .ok ({ state with consumed := true }, response) := by
    simp [accept, State.asRegistration, asResponse, SingleUse.consume, hfresh, hsuite, bind,
      Except.bind, pure, Except.pure]
  unfold finish
  rw [haccept]

/-- The client key of an upload belongs to a private key, whatever the last step was given. -/
theorem exists_privateKey_of_finish {state : State} {item : Item} {entropy : Entropy}
    {result : RegistrationResult} (h : (finish state password item ids entropy).1 = .ok result) :
    ∃ sk, result.upload.suite.exchange.publicKey sk = .ok result.upload.clientPublicKey := by
  unfold finish at h
  split at h
  · cases h
  · next s r _ =>
    have hcomplete : ((complete s.suite s.content password r ids).runOn entropy).1 = .ok result := h
    obtain ⟨-, _, _, _, _, -, -, -, -, enrolled⟩ :=
      enrolled_of_complete (Draw.runOn_of_fst hcomplete)
    obtain ⟨sk, -, hsk, -⟩ := enrolled.sealed
    exact ⟨sk, enrolled.suite ▸ hsk⟩

/-- A first step that returned has hidden the element of its password. -/
theorem started_of_start (lawful : s.group.Lawful) {request : RegistrationRequest}
    {state : ClientRegistrationState} {e : Entropy}
    (h : ((start s password).runOn e).1 = .ok (request, state)) :
    ∃ point blinding blinded, s.group.hash password (Blinding.tag s) = .ok point ∧
      Blinding.Hides s point blinding blinded ∧ request = ⟨s, s.group.encode blinded⟩ ∧
      state =
        { suite := s, content := ⟨.ofBytes blinding, s.group.encode blinded⟩ } := by
  obtain ⟨⟨blinding, blinded⟩, e₁, hblind, h⟩ :=
    Draw.runOn_bind_eq_ok_iff.mp (Draw.runOn_of_fst h)
  obtain ⟨point, hpoint, hides⟩ := Blinding.hides_of_blind lawful hblind
  cases h
  exact ⟨point, blinding, blinded, hpoint, hides, rfl, rfl⟩

/-- An answer is the evaluation of the element in the request, with the server's public key. -/
theorem answer_eq_ok {setup : ServerSetup} {request : RegistrationRequest} {identifier : Bytes}
    (h : answer (.message (.registrationRequest request)) identifier setup = .ok response) :
    ∃ blinded key,
      setup.suite.group.decodeElement request.blindedMessage "blinded message" = .ok blinded ∧
      setup.accountKey identifier = .ok key ∧
      response = ⟨setup.suite,
        setup.suite.group.encode (Blinding.evaluate setup.suite blinded key), setup.publicKey⟩ := by
  unfold answer at h
  obtain ⟨r, hr, h⟩ := Except.bind_eq_ok_iff.mp h
  cases hr
  obtain ⟨-, h⟩ := Except.refuseIf_eq_ok_iff.mp h
  obtain ⟨blinded, hblinded, h⟩ := Except.bind_eq_ok_iff.mp h
  obtain ⟨key, hkey, h⟩ := Except.bind_eq_ok_iff.mp h
  cases h
  exact ⟨blinded, key, hblinded, hkey, rfl⟩

section Run

variable {setup : ServerSetup} {seed privateKey : Bytes} {identifier password again : Phrase}
  {starting finishing : Entropy}

/-- A registration that returns has evaluated its password and leaves a record of it. -/
theorem enrolled_of_run (lawful : setup.suite.Lawful) (holds : setup.Holds seed privateKey)
    (hagain : again.toBytes = password.toBytes) {record : Record} {exportKey : Bytes}
    (h : run setup identifier password again ids starting finishing = .ok (record, exportKey)) :
    ∃ account secret key point randomized, identifier.toBytes = .ok account ∧
      password.toBytes = .ok secret ∧ Evaluation setup account secret key point randomized ∧
      Enrolled setup.suite setup.publicKey ids randomized ⟨record.upload, exportKey⟩ := by
  unfold run at h
  rw [hagain] at h
  obtain ⟨secret, hsecret, h⟩ := Except.bind_eq_ok_iff.mp h
  obtain ⟨⟨request, state⟩, hstart, h⟩ := Except.bind_eq_ok_iff.mp h
  obtain ⟨account, haccount, h⟩ := Except.bind_eq_ok_iff.mp h
  obtain ⟨response, hanswer, h⟩ := Except.bind_eq_ok_iff.mp h
  obtain ⟨secret', hsecret', h⟩ := Except.bind_eq_ok_iff.mp h
  cases hsecret.symm.trans hsecret'
  obtain ⟨result, hfinish, h⟩ := Except.bind_eq_ok_iff.mp h
  cases h
  obtain ⟨point, blinding, blinded, hpoint, hides, rfl, rfl⟩ := started_of_start lawful.group hstart
  obtain ⟨blinded', key, hblinded, hkey, rfl⟩ := answer_eq_ok hanswer
  rw [finish_of_fresh rfl (Suite.same_self _)] at hfinish
  dsimp only at hfinish
  obtain ⟨hdiffers, evaluated, r, output, randomized, hevaluated, hr, houtput, hrandomized,
    enrolled⟩ := enrolled_of_complete (Draw.runOn_of_fst hfinish)
  have hscalar := holds.isScalar_of_accountKey lawful.group hkey
  obtain ⟨Member, laws⟩ := lawful.group
  obtain ⟨hmem, hne⟩ := laws.mem_of_hash hpoint
  have hdecode := Blinding.decodeElement_of_hides laws hmem hne hides hscalar
  cases (hdecode "blinded message").1.symm.trans hblinded
  cases (hdecode "evaluated message").2.symm.trans hevaluated
  obtain rfl : Bytes.toNat blinding = r := Except.ok.inj hr
  rw [Blinding.finalize_of_hides laws hmem hides] at houtput
  have hmoved := (Blinding.checkNotReflected_of_hides laws hmem hides).mp hdiffers
  exact ⟨account, secret, key, point, randomized, haccount, hsecret,
    ⟨hpoint, hkey, hmoved, output, houtput, hrandomized⟩, enrolled⟩

/-- The last steps of a registration that returned. -/
theorem finish_of_run {record : Record} {exportKey : Bytes}
    (h : run setup identifier password again ids starting finishing = .ok (record, exportKey)) :
    ∃ state secret item result, again.toBytes = .ok secret ∧
      (finish state secret item ids finishing).1 = .ok result ∧
      store (.message (.registrationUpload result.upload)) = .ok record := by
  unfold run at h
  obtain ⟨_, -, h⟩ := Except.bind_eq_ok_iff.mp h
  obtain ⟨⟨_, state⟩, -, h⟩ := Except.bind_eq_ok_iff.mp h
  obtain ⟨_, -, h⟩ := Except.bind_eq_ok_iff.mp h
  obtain ⟨response, -, h⟩ := Except.bind_eq_ok_iff.mp h
  obtain ⟨secret, hsecret, h⟩ := Except.bind_eq_ok_iff.mp h
  obtain ⟨result, hfinish, h⟩ := Except.bind_eq_ok_iff.mp h
  obtain ⟨_, hstore, h⟩ := Except.bind_eq_ok_iff.mp h
  cases h
  exact ⟨_, secret, _, result, hsecret, hfinish, hstore⟩

/-- A registration comes to its end, unless a source fails. -/
theorem run_served {t : Trust} (lawful : setup.suite.Lawful) (sound : t.Sound setup.suite)
    (holds : setup.Holds seed privateKey) (hagain : again.toBytes = password.toBytes)
    {account secret randomized clear : Bytes} {key : Nat} {point : setup.suite.group.Element}
    (haccount : identifier.toBytes = .ok account) (hsecret : password.toBytes = .ok secret)
    (evaluation : Evaluation setup account secret key point randomized)
    (hclear : Envelope.cleartext setup.publicKey ids = .ok clear)
    (hstarting : t.admits starting.source) (hfinishing : t.admits finishing.source) :
    Served t (fun _ ↦ True) (run setup identifier password again ids starting finishing) := by
  have hstart : (start setup.suite secret).Serves t fun x ↦
      ∃ blinding blinded, Blinding.Hides setup.suite point blinding blinded ∧
        x = (⟨setup.suite, setup.suite.group.encode blinded⟩,
          { suite := setup.suite
            content := ⟨.ofBytes blinding, setup.suite.group.encode blinded⟩ }) :=
    (Blinding.blind_serves sound evaluation.hash).bind fun x hides ↦ .pure ⟨_, _, hides, rfl⟩
  unfold run
  apply Served.ok_bind hsecret
  apply (hstart.served hstarting).bind
  rintro _ ⟨blinding, blinded, hides, rfl⟩
  obtain ⟨-, hblinded, -⟩ := evaluation.unblind lawful.group holds hides ""
  have hanswer : answer (.message (.registrationRequest
      ⟨setup.suite, setup.suite.group.encode blinded⟩)) account setup =
      .ok ⟨setup.suite, setup.suite.group.encode (Blinding.evaluate setup.suite blinded key),
        setup.publicKey⟩ := by
    unfold answer
    apply Except.bind_of_ok rfl
    refine Except.refuseIf_eq_ok_iff.mpr ⟨by simp, ?_⟩
    exact Except.bind_of_ok hblinded <| Except.bind_of_ok evaluation.accountKey rfl
  apply Served.ok_bind haccount
  apply Served.ok_bind hanswer
  apply Served.ok_bind (hagain.trans hsecret)
  rw [finish_of_fresh rfl (Suite.same_self _)]
  apply (complete_serves lawful sound holds evaluation hides hclear |>.served hfinishing).bind
  intro result _
  exact .ok_bind rfl trivial

end Run

end Registration

end Apake
