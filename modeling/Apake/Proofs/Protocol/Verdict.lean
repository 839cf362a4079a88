import Apake.Proofs.Credential.Opening
import Apake.Proofs.Protocol.Completeness
import Apake.Proofs.Protocol.PartFailure

/-!
# The verdict of a client on a response

What a client works out from a response is a plain function of its secrets, the response and the
parameters, once a step that may fail counts as empty where it does.  On these values the last step
makes ten checks.  It returns exactly if all of them pass, and fails as the first one that does not.
-/

namespace Apake

attribute [local instance (2000)] instPowNat

/-! ### Checks in a row -/

namespace Except

variable {ε α β : Type}

/-- A step whose result does not matter further on is a check. -/
theorem bind_eq_check {x : Except ε α} {f : α → Except ε β} {y : Except ε β}
    (h : ∀ a, x = .ok a → f a = y) : (x >>= f) = ((x.map fun _ ↦ ()) >>= fun _ ↦ y) := by
  cases x with
  | error e => rfl
  | ok a => exact h a rfl

/-- Checks in a row pass exactly if each of them does. -/
theorem forM_eq_ok_iff {check : α → Except ε Unit} {cs : List α} :
    forM cs check = .ok () ↔ ∀ c ∈ cs, check c = .ok () := by
  induction cs with
  | nil => exact iff_of_true rfl (List.forall_mem_nil _)
  | cons c cs ih =>
    rw [List.forM_cons, bind_eq_ok_iff, List.forall_mem_cons, ih]
    constructor
    · rintro ⟨_, hpasses⟩
      exact hpasses
    · intro hpasses
      exact ⟨(), hpasses⟩

/-- Checks in a row fail exactly as the first one that does not pass. -/
theorem forM_eq_error_iff {check : α → Except ε Unit} {cs : List α} {err : ε} :
    forM cs check = .error err ↔ ∃ before c after, cs = before ++ c :: after ∧
      (∀ c' ∈ before, check c' = .ok ()) ∧ check c = .error err := by
  induction cs with
  | nil =>
    constructor
    · intro h
      cases h
    · rintro ⟨before, c, after, h, -⟩
      simp at h
  | cons c cs ih =>
    rw [List.forM_cons]
    constructor
    · intro h
      cases hc : check c with
      | error err' =>
        rw [hc] at h
        cases h
        exact ⟨[], c, cs, rfl, List.forall_mem_nil _, hc⟩
      | ok _ =>
        rw [hc] at h
        obtain ⟨before, c', after, rfl, hbefore, hfails⟩ := ih.mp h
        exact ⟨c :: before, c', after, rfl, List.forall_mem_cons.mpr ⟨hc, hbefore⟩, hfails⟩
    · rintro ⟨before, c', after, heq, hbefore, hfails⟩
      cases before with
      | nil =>
        obtain ⟨rfl, rfl⟩ := List.cons.inj heq
        exact bind_of_error hfails
      | cons b before =>
        obtain ⟨rfl, rfl⟩ := List.cons.inj heq
        obtain ⟨hfirst, hbefore⟩ := List.forall_mem_cons.mp hbefore
        exact bind_of_ok hfirst (ih.mpr ⟨before, c', after, rfl, hbefore, hfails⟩)

end Except

/-- The bytes that a step comes to, and none where it fails. -/
def Bytes.ofExcept (x : Except Error Bytes) : Bytes := x.toOption.getD []

/-- A string behind its length, which takes two bytes. -/
def Framing.framed (data : Bytes) : Bytes := Bytes.ofNat 2 data.length ++ data

/-- A string that is short enough is written behind its length. -/
theorem Framing.vector_of_short {data : Bytes} (h : data.length ≤ 65535) :
    vector data = .ok (framed data) :=
  vector_eq_ok_iff.mpr ⟨Nat.lt_succ_of_le h, rfl⟩

namespace Login

/-- All that a client's last step is given. -/
structure Attempt where
  suite : Suite
  secrets : LoginSecrets
  response : CredentialResponse
  params : LoginParameters

/-- What a client checks of a response. -/
inductive Check
  | reflection
  | element
  | stretching
  | envelope
  | clientKey
  | serverKey
  | freshFresh
  | freshStatic
  | staticFresh
  | confirmation
  deriving DecidableEq

namespace Check

/-- The checks up to the opening of the envelope, in their order. -/
def upToEnvelope : List Check := [reflection, element, stretching, envelope]

/-- All checks in their order. -/
def all : List Check :=
  upToEnvelope ++
    [clientKey, serverKey, freshFresh, freshStatic, staticFresh, confirmation]

theorem mem_all (c : Check) : c ∈ all := by
  cases c <;> decide

end Check

namespace Attempt

variable [Groups] (a : Attempt)

/-! ### What a client works out -/

/-- The scalar that hid the password. -/
def blinding : Nat := Bytes.toNat a.secrets.blinding.memory

/-- The element that the response carries. -/
def evaluation : Except Error a.suite.group.Element :=
  a.suite.group.decodeElement a.response.evaluatedMessage "evaluated message"

/-- The output of the evaluation: the hash of the password with the unblinded element. -/
def output : Bytes :=
  let inverse := (a.suite.group.invert a.blinding).toOption.getD 0
  .ofExcept (a.evaluation.map fun e ↦
    Blinding.directOutput a.suite a.secrets.password.memory inverse e)

/-- The stretched form of the output. -/
def stretched : Except Error Bytes := a.suite.stretching.stretch a.output

/-- The randomized password. -/
def randomized : Bytes := a.suite.hash.extract [] (a.output ++ .ofExcept a.stretched)

/-- What is under the mask. -/
def plain : Bytes :=
  a.response.maskedResponse.xor
    (Masking.pad a.suite (Envelope.maskingKey a.suite a.randomized) a.response.maskingNonce)

/-- The server's public key under the mask. -/
def serverKey : Bytes := a.plain.take a.suite.publicLength

/-- The envelope under the mask. -/
def envelope : Envelope := .split a.suite (a.plain.drop a.suite.publicLength)

/-- The tag that the envelope should have. -/
def expectedTag : Bytes :=
  Envelope.makeTag a.suite a.randomized a.envelope.nonce a.envelope.encryptedKey
    (a.serverKey ++ Framing.framed (a.params.identifiers.server.getD []) ++
      Framing.framed (a.params.identifiers.client.getD []))

/-- The private key in the envelope. -/
def privateKey : Bytes :=
  a.envelope.encryptedKey.xor (Envelope.pad a.suite a.randomized a.envelope.nonce)

/-- The client's public key. -/
def clientKey : Except Error Bytes := a.suite.exchange.publicKey a.privateKey

/-- The value that both fresh keys share. -/
def freshFresh : Except Error Bytes :=
  a.suite.exchange.diffieHellman a.secrets.ephemeralKey.memory a.response.serverKeyshare

/-- The value that the fresh key shares with the server's public key. -/
def freshStatic : Except Error Bytes :=
  a.suite.exchange.diffieHellman a.secrets.ephemeralKey.memory a.serverKey

/-- The value that the key in the envelope shares with the server's fresh key. -/
def staticFresh : Except Error Bytes :=
  a.suite.exchange.diffieHellman a.privateKey a.response.serverKeyshare

/-- The transcript. -/
def transcript : Bytes :=
  Transcript.version ++ Framing.framed a.params.context ++
    Framing.framed (identity a.params.identifiers.client (.ofExcept a.clientKey)) ++
    a.secrets.request ++ Framing.framed (identity a.params.identifiers.server a.serverKey) ++
    a.response.credentialPart ++ a.response.serverNonce ++ a.response.serverKeyshare

/-- The keys of the login. -/
def keys : SessionKeys :=
  .keysOf a.suite (.ofExcept a.freshFresh ++ .ofExcept a.freshStatic ++ .ofExcept a.staticFresh)
    a.transcript

/-- What the client has if it finds no fault. -/
def result : LoginResult where
  message := ⟨a.suite, a.keys.confirmClient a.suite a.transcript a.response.serverMac⟩
  sessionKey := a.keys.session
  exportKey := Envelope.exportKey a.suite a.randomized a.envelope.nonce
  serverPublicKey := a.serverKey

/-- How a check comes out. -/
def check : Check → Except Error Unit
  | .reflection =>
    if a.secrets.blindedMessage = a.response.evaluatedMessage then .error .reflected else .ok ()
  | .element => a.evaluation.map fun _ ↦ ()
  | .stretching => a.stretched.map fun _ ↦ ()
  | .envelope => if a.expectedTag = a.envelope.tag then .ok () else .error .envelopeRejected
  | .clientKey => a.clientKey.map fun _ ↦ ()
  | .serverKey => a.suite.exchange.validatePublicKey a.serverKey "server public key"
  | .freshFresh => a.freshFresh.map fun _ ↦ ()
  | .freshStatic => a.freshStatic.map fun _ ↦ ()
  | .staticFresh => a.staticFresh.map fun _ ↦ ()
  | .confirmation =>
    if a.suite.hash.mac a.keys.serverMac (a.suite.hash.digest a.transcript) = a.response.serverMac
    then .ok () else .error .serverRejected

/-- A check is the first that does not pass. -/
def FailsAt (c : Check) (err : Error) : Prop :=
  ∃ before after, Check.all = before ++ c :: after ∧ (∀ c' ∈ before, a.check c' = .ok ()) ∧
    a.check c = .error err

/-! ### The last step makes these checks -/

/-- Live secrets of a first step, and strings that are not too long. -/
structure Ready : Prop where
  scalar : a.suite.group.IsScalar a.blinding
  blinding : a.secrets.blinding.readNat = .ok a.blinding
  password : a.secrets.password.read = .ok a.secrets.password.memory
  ephemeralKey : a.secrets.ephemeralKey.read = .ok a.secrets.ephemeralKey.memory
  length_password : a.secrets.password.memory.length ≤ 65535
  length_masked : a.response.maskedResponse.length = a.suite.maskedLength
  length_context : a.params.context.length ≤ 65535
  identifiers : a.params.identifiers.Fits

variable {a}

/-- The output of an element that was read. -/
theorem finalize_eq (sized : Groups.Sized) (ready : a.Ready) {e : a.suite.group.Element}
    (he : a.evaluation = .ok e) :
    Blinding.finalize a.suite a.secrets.password.memory a.blinding e = .ok a.output := by
  obtain ⟨inverse, hinverse⟩ := PrimeGroup.exists_invert ready.scalar
  have hlength : (a.suite.group.encode (a.suite.group.multiply inverse e)).length ≤ 65535 := by
    rw [(sized.prime _).length_encode]
    exact Nat.le_of_lt_succ (sized.prime _).elementLength_lt
  have hinput : Blinding.hashInput a.secrets.password.memory
      (a.suite.group.encode (a.suite.group.multiply inverse e)) = .ok _ :=
    Except.bind_of_ok (Framing.vector_of_short ready.length_password) <|
      Except.bind_of_ok (Framing.vector_of_short hlength) rfl
  have houtput : a.output = Blinding.directOutput a.suite a.secrets.password.memory inverse e := by
    unfold output
    rw [he, hinverse]
    rfl
  rw [houtput]
  exact Except.bind_of_ok hinverse <| Except.bind_of_ok hinput rfl

/-- The output is randomized with its stretched form. -/
theorem randomize_eq :
    Blinding.randomize a.suite a.output = (a.check .stretching >>= fun _ ↦ .ok a.randomized) :=
  Except.bind_eq_check fun x hx ↦ by
    unfold randomized
    rw [show a.stretched = .ok x from hx]
    rfl

/-- What is under a mask of the right size has the sizes of the suite. -/
theorem length_plain (ready : a.Ready) : a.plain.length = a.suite.maskedLength := by
  have hpad : (Masking.pad a.suite (Envelope.maskingKey a.suite a.randomized)
      a.response.maskingNonce).length = a.suite.maskedLength := a.suite.hash.length_expand _ _ _
  unfold plain
  rw [Bytes.length_xor, hpad, ready.length_masked, Nat.min_self]

theorem length_serverKey (ready : a.Ready) : a.serverKey.length = a.suite.publicLength := by
  unfold serverKey
  rw [List.length_take, length_plain ready]
  unfold Suite.maskedLength
  omega

theorem length_drop_plain (ready : a.Ready) :
    (a.plain.drop a.suite.publicLength).length = a.suite.envelopeLength := by
  rw [List.length_drop, length_plain ready]
  unfold Suite.maskedLength
  omega

/-- The mask of a response comes off. -/
theorem unmask_eq (ready : a.Ready) :
    Masking.unmask a.suite (Envelope.maskingKey a.suite a.randomized) a.response.maskingNonce
      a.response.maskedResponse = .ok (a.serverKey, a.envelope) := by
  have hpad : (Masking.pad a.suite (Envelope.maskingKey a.suite a.randomized)
      a.response.maskingNonce).length = a.suite.maskedLength := a.suite.hash.length_expand _ _ _
  have hmask := Framing.mask_eq_ok_iff.mpr ⟨ready.length_masked.trans hpad.symm, rfl⟩
  unfold Masking.unmask
  refine Except.refuseIf_eq_ok_iff.mpr ⟨not_not_intro ready.length_masked, ?_⟩
  exact Except.bind_of_ok hmask <|
    Except.bind_of_ok (if_neg (not_not_intro (length_drop_plain ready))) rfl

/-- The envelope opens to its private key, or its tag is refused. -/
theorem recover_eq (ready : a.Ready) :
    Envelope.recover a.suite a.randomized a.envelope a.serverKey a.params.identifiers =
      (a.check .envelope >>= fun _ ↦ .ok a.privateKey) := by
  have hclear : Envelope.cleartext a.serverKey a.params.identifiers = .ok _ :=
    Except.bind_of_ok (Framing.vector_of_short ready.identifiers.server) <|
      Except.bind_of_ok (Framing.vector_of_short ready.identifiers.client) rfl
  by_cases htag : a.expectedTag = a.envelope.tag
  · have hpad : (Envelope.pad a.suite a.randomized a.envelope.nonce).length =
        a.suite.privateLength := a.suite.hash.length_expand _ _ _
    have hkey := (Envelope.toBytes_split (length_drop_plain ready)).1.encryptedKey
    have hcheck : a.check .envelope = .ok () := if_pos htag
    rw [hcheck]
    exact Envelope.recover_eq_ok_iff.mpr
      ⟨_, hclear, htag, Framing.mask_eq_ok_iff.mpr ⟨hkey.trans hpad.symm, rfl⟩⟩
  · have hcheck : a.check .envelope = .error .envelopeRejected := if_neg htag
    rw [hcheck]
    exact Envelope.recover_of_tag_ne hclear htag

/-- The three shared values are computed one after the other. -/
theorem clientShared_eq :
    SessionKeys.clientShared a.suite a.secrets.ephemeralKey.memory a.privateKey a.serverKey
        a.response.serverKeyshare =
      (do
        a.check .freshFresh
        a.check .freshStatic
        a.check .staticFresh
        .ok (.ofExcept a.freshFresh ++ .ofExcept a.freshStatic ++ .ofExcept a.staticFresh)) := by
  refine Except.bind_eq_check fun x hx ↦ Except.bind_eq_check fun y hy ↦
    Except.bind_eq_check fun z hz ↦ ?_
  rw [show a.freshFresh = .ok x from hx, show a.freshStatic = .ok y from hy,
    show a.staticFresh = .ok z from hz]
  rfl

/-- The transcript is written. -/
theorem toBytes_transcript (sized : Groups.Sized) (ready : a.Ready) {key : Bytes}
    (hkey : a.clientKey = .ok key) :
    Transcript.toBytes
      { context := a.params.context
        clientIdentity := identity a.params.identifiers.client key
        request := a.secrets.request
        serverIdentity := identity a.params.identifiers.server a.serverKey
        credentialPart := a.response.credentialPart
        serverNonce := a.response.serverNonce
        serverKeyshare := a.response.serverKeyshare } = .ok a.transcript := by
  have hwidth : a.suite.publicLength < 65536 := sized.publicLength_lt _
  have hclient : key.length < 65536 := (sized.length_publicKey hkey).trans_lt hwidth
  have hserver : a.serverKey.length < 65536 := (length_serverKey ready).trans_lt hwidth
  have hclientId := length_identity_lt (Nat.lt_succ_of_le ready.identifiers.client) hclient
  have hserverId := length_identity_lt (Nat.lt_succ_of_le ready.identifiers.server) hserver
  unfold transcript
  rw [hkey]
  exact Except.bind_of_ok (Framing.vector_of_short ready.length_context) <|
    Except.bind_of_ok (Framing.vector_of_short (Nat.le_of_lt_succ hclientId)) <|
    Except.bind_of_ok (Framing.vector_of_short (Nat.le_of_lt_succ hserverId)) rfl

/-- The last step makes its checks one after the other and gives the result. -/
theorem complete_eq (sized : Groups.Sized) (ready : a.Ready) :
    complete a.suite a.secrets a.response a.params =
      (forM Check.all a.check >>= fun _ ↦ .ok a.result) := by
  simp only [Check.all, Check.upToEnvelope, List.cons_append, List.nil_append, List.forM_cons,
    List.forM_nil, bind_assoc, pure_bind]
  unfold complete
  refine Except.bind_eq_bind rfl fun _ _ ↦ Except.bind_eq_check fun e he ↦ ?_
  refine Except.bind_of_ok ready.blinding <| Except.bind_of_ok ready.password <|
    Except.bind_of_ok (finalize_eq sized ready he) ?_
  rw [randomize_eq, bind_assoc]
  refine Except.bind_eq_bind rfl fun _ _ ↦ Except.bind_of_ok rfl <|
    Except.bind_of_ok (unmask_eq ready) ?_
  dsimp only
  rw [recover_eq ready, bind_assoc]
  refine Except.bind_eq_bind rfl fun _ _ ↦ Except.bind_of_ok rfl <|
    Except.bind_eq_check fun key hkey ↦ ?_
  refine Except.bind_eq_bind rfl fun _ _ ↦ Except.bind_of_ok ready.ephemeralKey ?_
  rw [clientShared_eq]
  simp only [bind_assoc]
  refine Except.bind_eq_bind rfl fun _ _ ↦ Except.bind_eq_bind rfl fun _ _ ↦
    Except.bind_eq_bind rfl fun _ _ ↦ Except.bind_of_ok rfl <|
    Except.bind_of_ok (toBytes_transcript sized ready hkey) <|
    Except.bind_of_ok (SessionKeys.derive_eq _ _) <| Except.bind_eq_bind rfl fun _ _ ↦ rfl

/-- So it returns exactly if all checks pass. -/
theorem complete_eq_ok_iff (sized : Groups.Sized) (ready : a.Ready) {result : LoginResult} :
    complete a.suite a.secrets a.response a.params = .ok result ↔
      (∀ c, a.check c = .ok ()) ∧ result = a.result := by
  rw [complete_eq sized ready, Except.bind_eq_ok_iff]
  constructor
  · rintro ⟨_, hpasses, h⟩
    have hall := Except.forM_eq_ok_iff.mp hpasses
    exact ⟨fun c ↦ hall c c.mem_all, (Except.ok.inj h).symm⟩
  · rintro ⟨hall, rfl⟩
    exact ⟨(), Except.forM_eq_ok_iff.mpr fun c _ ↦ hall c, rfl⟩

/-- And it fails exactly as the first check that does not pass. -/
theorem complete_eq_error_iff (sized : Groups.Sized) (ready : a.Ready) {err : Error} :
    complete a.suite a.secrets a.response a.params = .error err ↔ ∃ c, a.FailsAt c err := by
  rw [complete_eq sized ready]
  have hrow : (∃ c, a.FailsAt c err) ↔ forM Check.all a.check = .error err := by
    rw [Except.forM_eq_error_iff]
    exact exists_comm
  rw [hrow]
  cases forM Check.all a.check with
  | ok _ => exact ⟨nofun, nofun⟩
  | error err' => simp [bind, Except.bind]

/-! ### Responses that agree up to the envelope -/

/-- Responses that agree in all that the checks up to the envelope look at. -/
structure AgreeToEnvelope (r r' : CredentialResponse) : Prop where
  evaluatedMessage : r.evaluatedMessage = r'.evaluatedMessage
  maskingNonce : r.maskingNonce = r'.maskingNonce
  maskedResponse : r.maskedResponse = r'.maskedResponse

/-- Two attempts that differ in the response alone, where the responses agree up to the envelope. -/
structure Alike (a a' : Attempt) : Prop where
  suite : a.suite = a'.suite
  secrets : a.secrets = a'.secrets
  params : a.params = a'.params
  response : AgreeToEnvelope a.response a'.response

variable {a' : Attempt}

/-- The checks up to the envelope come out alike for them. -/
theorem Alike.check_eq (h : Alike a a') {c : Check} (hc : c ∈ Check.upToEnvelope) :
    a'.check c = a.check c := by
  obtain ⟨s, secrets, ⟨_, _, _, _, _, _, _⟩, params⟩ := a
  obtain ⟨s', secrets', ⟨_, _, _, _, _, _, _⟩, params'⟩ := a'
  obtain ⟨rfl, rfl, rfl, rfl, rfl, rfl⟩ := h
  simp only [Check.upToEnvelope, List.mem_cons, List.not_mem_nil, or_false] at hc
  obtain rfl | rfl | rfl | rfl := hc <;> rfl

/-- A check among those up to the envelope that is the first to fail for one of them is so for the
other. -/
theorem Alike.failsAt (h : Alike a a') {before after : List Check} {c : Check} {err : Error}
    (hsplit : Check.upToEnvelope = before ++ c :: after)
    (hbefore : ∀ c' ∈ before, a.check c' = .ok ()) (hc : a.check c = .error err) :
    a.FailsAt c err ∧ a'.FailsAt c err := by
  have hall : Check.all = before ++ c :: (after ++ [.clientKey, .serverKey, .freshFresh,
      .freshStatic, .staticFresh, .confirmation]) := by
    rw [Check.all, hsplit, List.append_assoc, List.cons_append]
  have hmem : c ∈ Check.upToEnvelope := by simp [hsplit]
  refine ⟨⟨before, _, hall, hbefore, hc⟩, before, _, hall, fun c' hc' ↦ ?_, ?_⟩
  · have hmem' : c' ∈ Check.upToEnvelope := by simp [hsplit, hc']
    rw [h.check_eq hmem', hbefore c' hc']
  · rw [h.check_eq hmem, hc]

/-- Both pass the checks up to the envelope, or both fail at the same of them in the same way. -/
theorem Alike.pass_or_failsAt (h : Alike a a') :
    (∀ c ∈ Check.upToEnvelope, a.check c = .ok () ∧ a'.check c = .ok ()) ∨
      ∃ c ∈ Check.upToEnvelope, ∃ err, a.FailsAt c err ∧ a'.FailsAt c err := by
  cases hrow : forM Check.upToEnvelope a.check with
  | ok _ =>
    have hpasses := Except.forM_eq_ok_iff.mp hrow
    exact .inl fun c hc ↦ ⟨hpasses c hc, (h.check_eq hc).trans (hpasses c hc)⟩
  | error err =>
    obtain ⟨before, c, after, hsplit, hbefore, hc⟩ := Except.forM_eq_error_iff.mp hrow
    have hmem : c ∈ Check.upToEnvelope := by simp [hsplit]
    exact .inr ⟨c, hmem, err, h.failsAt hsplit hbefore hc⟩

/-- Where the checks before it pass, both fail at a tag that does not match. -/
theorem Alike.failsAt_envelope (h : Alike a a')
    (hbefore : ∀ c ∈ [Check.reflection, .element, .stretching], a.check c = .ok ())
    (htag : a.expectedTag ≠ a.envelope.tag) :
    a.FailsAt .envelope .envelopeRejected ∧ a'.FailsAt .envelope .envelopeRejected := by
  have hsplit : Check.upToEnvelope = [Check.reflection, .element, .stretching] ++ .envelope :: [] :=
    rfl
  exact h.failsAt hsplit hbefore (if_neg htag)

end Attempt

section Start

variable [Groups]

/-- A state of a first step is ready for the last one. -/
theorem ready_of_start (sized : Groups.Sized) {s : Suite} {password : Bytes}
    (hpassword : password.length ≤ 65535) {request : CredentialRequest} {state : ClientLoginState}
    {e : Entropy} (hstart : ((start s password).runOn e).1 = .ok (request, state))
    {response : CredentialResponse} (hmasked : response.maskedResponse.length = s.maskedLength)
    {params : LoginParameters} (hcontext : params.context.length ≤ 65535)
    (hids : params.identifiers.Fits) :
    Attempt.Ready ⟨s, state.content, response, params⟩ ∧ state.suite = s ∧
      state.consumed = false := by
  obtain ⟨⟨blinding, blinded⟩, e₁, hblind, h⟩ :=
    Draw.runOn_bind_eq_ok_iff.mp (Draw.runOn_of_fst hstart)
  obtain ⟨r, hr, rfl⟩ := Blinding.exists_scalar_of_blind sized hblind
  obtain ⟨nonce, e₂, -, h⟩ := Draw.runOn_bind_eq_ok_iff.mp h
  obtain ⟨ephemeralKey, e₃, -, h⟩ := Draw.runOn_bind_eq_ok_iff.mp h
  obtain ⟨keyshare, -, h⟩ := Draw.runOn_lift_bind_eq_ok_iff.mp h
  obtain ⟨wire, -, h⟩ := Draw.runOn_lift_bind_eq_ok_iff.mp h
  cases h
  have hread : Bytes.toNat (Bytes.ofNat s.scalarLength r) = r := Bytes.toNat_ofNat hr.lt_pow
  refine ⟨⟨?_, rfl, rfl, rfl, hpassword, hmasked, hcontext, hids⟩, rfl, rfl⟩
  show s.group.IsScalar (Bytes.toNat (Bytes.ofNat s.scalarLength r))
  rwa [hread]

/-- The last step on a fresh state and a response of its suite is its main part. -/
theorem finish_of_fresh {state : ClientLoginState} {response : CredentialResponse}
    {params : LoginParameters} (hfresh : state.consumed = false)
    (hsuite : response.suite = state.suite) :
    (finish (.login state) (.message (.credentialResponse response)) params).1 =
      complete state.suite state.content response params := by
  simp [finish, accept, State.asLogin, asResponse, SingleUse.consume, hfresh, hsuite, bind,
    Except.bind, pure, Except.pure]

/-- On a fresh state of a first step with a password that is not too long, a response of its suite
whose masked part has its size, and a context and identities that are not too long, the client's
last step returns exactly if all its checks pass, and fails exactly as the first check that does
not.  Another response that agrees with this one up to the envelope passes the checks up to there,
or fails at the same one in the same way; a tag that does not match is always told as such. -/
theorem verdict_of_start (sized : Groups.Sized) {s : Suite} {password : Bytes}
    (hpassword : password.length ≤ 65535) {request : CredentialRequest} {state : ClientLoginState}
    {e : Entropy} (hstart : ((start s password).runOn e).1 = .ok (request, state))
    {response : CredentialResponse} (hsuite : response.suite = s)
    (hmasked : response.maskedResponse.length = s.maskedLength)
    {params : LoginParameters} (hcontext : params.context.length ≤ 65535)
    (hids : params.identifiers.Fits) :
    let attempt (r : CredentialResponse) : Attempt := ⟨s, state.content, r, params⟩
    let outcome (r : CredentialResponse) :=
      (finish (.login state) (.message (.credentialResponse r)) params).1
    (∀ result, outcome response = .ok result ↔
      (∀ c, (attempt response).check c = .ok ()) ∧ result = (attempt response).result) ∧
    (∀ err, outcome response = .error err ↔ ∃ c, (attempt response).FailsAt c err) ∧
    ∀ response' : CredentialResponse, response'.suite = s →
      Attempt.AgreeToEnvelope response response' →
      ((∀ c ∈ Check.upToEnvelope, (attempt response).check c = .ok () ∧
          (attempt response').check c = .ok ()) ∨
        ∃ c ∈ Check.upToEnvelope, ∃ err, (attempt response).FailsAt c err ∧
          (attempt response').FailsAt c err ∧ outcome response = .error err ∧
          outcome response' = .error err) ∧
      ((∀ c ∈ [Check.reflection, .element, .stretching], (attempt response).check c = .ok ()) →
        (attempt response).expectedTag ≠ (attempt response).envelope.tag →
        outcome response = .error .envelopeRejected ∧
          outcome response' = .error .envelopeRejected) := by
  intro attempt outcome
  have hready (r : CredentialResponse) (hlength : r.maskedResponse.length = s.maskedLength) :=
    ready_of_start sized hpassword hstart hlength hcontext hids
  obtain ⟨ready, rfl, hfresh⟩ := hready response hmasked
  have houtcome (r : CredentialResponse) (hr : r.suite = state.suite) :
      outcome r = complete state.suite state.content r params := finish_of_fresh hfresh hr
  have hfails (r : CredentialResponse) (hr : r.suite = state.suite)
      (hlength : r.maskedResponse.length = state.suite.maskedLength) (err : Error) :
      outcome r = .error err ↔ ∃ c, (attempt r).FailsAt c err := by
    rw [houtcome r hr]
    exact Attempt.complete_eq_error_iff sized (hready r hlength).1
  refine ⟨fun result ↦ ?_, hfails response hsuite hmasked, fun response' hsuite' hagree ↦ ?_⟩
  · rw [houtcome response hsuite]
    exact Attempt.complete_eq_ok_iff sized ready
  have halike : Attempt.Alike (attempt response) (attempt response') := ⟨rfl, rfl, rfl, hagree⟩
  have hfails' := hfails response' hsuite' (hagree.maskedResponse ▸ hmasked)
  have hboth {c : Check} {err : Error}
      (h : (attempt response).FailsAt c err ∧ (attempt response').FailsAt c err) :
      outcome response = .error err ∧ outcome response' = .error err :=
    ⟨(hfails response hsuite hmasked err).mpr ⟨c, h.1⟩, (hfails' err).mpr ⟨c, h.2⟩⟩
  refine ⟨?_, fun hbefore htag ↦ hboth (halike.failsAt_envelope hbefore htag)⟩
  obtain hpass | ⟨c, hc, err, h, h'⟩ := halike.pass_or_failsAt
  · exact .inl hpass
  · exact .inr ⟨c, hc, err, h, h', hboth ⟨h, h'⟩⟩

end Start

attribute [local instance] Groups.closed in
/-- The answer to a registered client over residues passes every check. -/
theorem verdict_of_start_residue : ∃ request state response,
    ((start Residue.plainSuite (Bytes.ofString "secret")).runOn ⟨.steady, []⟩).1 =
        .ok (request, state) ∧
      response.suite = Residue.plainSuite ∧
      response.maskedResponse.length = Residue.plainSuite.maskedLength ∧
      ∀ c, Attempt.check ⟨Residue.plainSuite, state.content, response, {}⟩ c = .ok () := by
  obtain ⟨setup, record, exportKey, session, hmake, -, hsession⟩ := exists_session_residue
  obtain ⟨hsetup, -⟩ := ServerSetup.holds_of_make hmake
  obtain ⟨_, _, request, state, response, _, hpassword, -, hstart, hanswer, hfinish, -⟩ :=
    steps_of_run hsession
  cases hpassword
  obtain ⟨_, -, -, hrespond⟩ := runOn_answer_eq_ok_iff.mp (Draw.runOn_of_fst hanswer)
  obtain ⟨_, _, _, _, _, _, _, -, -, -, answered⟩ := answered_of_respond hrespond
  have hsuite : response.suite = Residue.plainSuite := answered.suite.trans hsetup
  have hmasked : response.maskedResponse.length = Residue.plainSuite.maskedLength :=
    hsetup ▸ Masking.length_of_mask answered.masked
  rw [hsetup] at hstart
  have hlength : (Bytes.ofString "secret").length ≤ 65535 := by decide
  have hcontext : ({} : LoginParameters).context.length ≤ 65535 := by decide
  have hids : ({} : LoginParameters).identifiers.Fits := ⟨by decide, by decide⟩
  obtain ⟨hreturns, -⟩ := verdict_of_start (Groups.sized_seeded Residue.closedOfSeed) hlength hstart
    hsuite hmasked hcontext hids
  exact ⟨request, state, response, hstart, hsuite, hmasked, ((hreturns _).mp hfinish).1⟩

end Login

end Apake
