import Apake.Proofs.Blinding
import Apake.Proofs.Group.Sizes
import Apake.Proofs.Handshake.Derivation
import Apake.Proofs.Handshake.Transcript
import Apake.Proofs.Server.Setup
import Apake.Proofs.Wire.Message

/-!
# How the parts of a step fail

Whatever a part of a step is given, it fails in the protocol's own ways, with two exceptions: a
string may be too long to stand behind its length, and a stretching function may have settings that
it cannot run with.  A part that draws may also search for ever, which is no failure.
-/

namespace Apake

attribute [local instance (2000)] instPowNat

/-- Every source, where besides the protocol's own failures some others are excused. -/
def Trust.protocol (others : Error → Prop) : Trust :=
  ⟨fun _ ↦ True, fun err ↦ err.isProtocol = true ∨ others err⟩

variable {others : Error → Prop}

/-! ### Secrets and lengths -/

/-- The failures of a source are the protocol's own. -/
theorem Error.isProtocol_of_randomness {err : Error} (h : err.family = .randomness) :
    err.isProtocol = true := by
  unfold isProtocol
  rw [h]

/-- What is served on every source is so where the protocol's failures are excused and a search may
go on for ever. -/
theorem Draw.Serves.protocol {α : Type} {searches : Prop} {d : Draw α} {P : α → Prop}
    (h : d.Serves (.anySource searches) P) (hendless : searches → others .endless) :
    d.Serves (.protocol others) P := by
  refine h.relax (fun _ _ ↦ trivial) fun err herr ↦ ?_
  obtain hrandom | ⟨rfl, hsearches⟩ := herr
  · exact .inl (Error.isProtocol_of_randomness hrandom)
  · exact .inr (hendless hsearches)

theorem Secret.read_served (x : Secret) :
    Served (.protocol others) (fun bs ↦ bs = x.memory) x.read := by
  unfold read
  split
  · exact .inl rfl
  · exact rfl

/-- A string that is too long is not written behind its length. -/
theorem Framing.vector_of_long {data : Bytes} (hlong : 65535 < data.length) :
    vector data = .error .overflow :=
  vector_eq_error_iff.mpr ⟨hlong, rfl⟩

/-- A string is written behind its length unless it is too long. -/
theorem Framing.vector_served {data : Bytes} (hlong : 65535 < data.length → others .overflow) :
    Served (.protocol others) (fun _ ↦ True) (vector data) := by
  by_cases hfits : data.length < 256 ^ 2
  · rw [vector_eq_ok_iff.mpr ⟨hfits, rfl⟩]
    exact trivial
  · have hlength : 65535 < data.length := by omega
    rw [vector_of_long hlength]
    exact .inr (hlong hlength)

theorem Message.checkSizes_served (kind : String) (names : List String) (sizes : List Nat)
    (parts : List Bytes) :
    Served (.protocol others) (fun _ ↦ True) (checkSizes kind names sizes parts) := by
  induction names generalizing sizes parts with
  | nil => exact trivial
  | cons name names ih =>
    cases sizes with
    | nil => exact trivial
    | cons size sizes =>
      cases parts with
      | nil => exact trivial
      | cons part parts =>
        rw [checkSizes]
        split
        · exact .inl rfl
        · exact ih sizes parts

/-! ### Stretching -/

namespace Stretching

/-- Whether a setting is a whole number of so many bits. -/
def Setting.IsCount (bits : Nat) (v : Setting) : Prop := ∃ k, count bits v = .ok k

/-- A whole number of the right size is read. -/
theorem Setting.IsCount.served {t : Trust} {bits : Nat} {v : Setting} (h : IsCount bits v) :
    Served t (fun k ↦ count bits v = .ok k) (count bits v) := by
  obtain ⟨k, hk⟩ := h
  rw [hk]
  exact rfl

/-- A number of so many bits is read as itself. -/
theorem Setting.count_natCast {bits k : Nat} (h : k < 2 ^ bits) : count bits (.integer k) = .ok k :=
  if_pos ⟨Int.natCast_nonneg k, Int.ofNat_lt.mpr h⟩

/-- Whether a function has settings that it can run with: whole numbers of its word size, and for
Argon2id no more memory than there is. -/
def Runs : Stretching → Prop
  | identity => True
  | scrypt q => q.n < 2 ^ 64 ∧ Setting.IsCount 64 q.r ∧ Setting.IsCount 64 q.p
  | argon2id q => Setting.IsCount 32 q.passes ∧ Setting.IsCount 32 q.lanes ∧
      Setting.IsCount 32 q.memory ∧
      ∀ memory, Setting.count 32 q.memory = .ok memory → 1024 * memory ≤ memoryLimit

/-- With such settings a function fails in its own ways only. -/
theorem Runs.stretch_served {f : Stretching} (runs : f.Runs) (data : Bytes) :
    Served (.protocol others) (fun _ ↦ True) (f.stretch data) := by
  cases f with
  | identity => exact trivial
  | scrypt q =>
    -- The cost is read before the goal can be evaluated, which would count up to its bound.
    rw [stretch, Scrypt.stretch, Setting.count_natCast runs.1]
    obtain ⟨-, hr, hp⟩ := runs
    refine .ok_bind rfl <| hr.served.bind fun r _ ↦ hp.served.bind fun p _ ↦ ?_
    dsimp only
    split
    · exact .inl rfl
    · split
      · exact .inl rfl
      · split
        · exact .inl rfl
        · exact trivial
  | argon2id q =>
    obtain ⟨hpasses, hlanes, hmemory, hlimit⟩ := runs
    rw [stretch, Argon2.stretch]
    refine hpasses.served.bind fun passes _ ↦ hlanes.served.bind fun lanes _ ↦
      hmemory.served.bind fun memory hmemory ↦ ?_
    rw [if_neg (Nat.not_lt.mpr (hlimit memory hmemory))]
    split
    · exact .inl rfl
    · exact trivial

/-- Whether what a function fails with is excused where it cannot run with its settings. -/
def Excused (others : Error → Prop) (f : Stretching) : Prop :=
  ∀ data err, f.stretch data = .error err → ¬ f.Runs → others err

/-- So a function fails in the protocol's own ways or is excused. -/
theorem Excused.stretch_served {f : Stretching} (excused : f.Excused others) (data : Bytes) :
    Served (.protocol others) (fun _ ↦ True) (f.stretch data) := by
  by_cases runs : f.Runs
  · exact runs.stretch_served data
  · cases h : f.stretch data with
    | ok stretched => exact trivial
    | error err => exact .inr (excused data err h runs)

end Stretching

section Groups

variable [Groups]

/-! ### Groups -/

namespace PrimeGroup

omit [Groups]

variable {g : PrimeGroup}

theorem decodeElement_served (bs : Bytes) (name : String) :
    Served (.protocol others) (fun _ ↦ True) (g.decodeElement bs name) := by
  unfold decodeElement
  split
  · exact .inl rfl
  · split
    · exact .inl rfl
    · split
      · exact .inl rfl
      · exact trivial

theorem decodeScalar_served (bs : Bytes) (name : String) :
    Served (.protocol others) (fun _ ↦ True) (g.decodeScalar bs name) := by
  unfold decodeScalar
  split
  · exact .inl rfl
  · dsimp only
    split
    · exact .inl rfl
    · exact trivial

/-- Hashing into the group under a tag that fits behind its length gives up in the end at worst. -/
theorem hash_served {tag : Bytes} (htag : tag.length < 256 ^ 2) (data : Bytes) :
    Served (.protocol others) (fun _ ↦ True) (g.hash data tag) := by
  have hfrom (attempts counter : Nat) :
      Served (.protocol others) (fun _ ↦ True) (g.hashFrom data tag attempts counter) := by
    induction attempts generalizing counter with
    | zero => exact .inl rfl
    | succ attempts ih =>
      have hseed : hashSeed data tag counter = .ok _ :=
        Except.bind_of_ok (Framing.vector_eq_ok_iff.mpr ⟨htag, rfl⟩) rfl
      refine .ok_bind hseed ?_
      dsimp only
      split
      · exact ih (counter + 1)
      · exact trivial
  exact hfrom 256 0

theorem deriveScalar_served (h : HashAlgorithm) (seed info : Bytes) :
    Served (.protocol others) (fun _ ↦ True) (g.deriveScalar h seed info) := by
  have hfrom (key : Bytes) (attempts counter : Nat) :
      Served (.protocol others) (fun _ ↦ True) (g.deriveFrom h key info attempts counter) := by
    induction attempts generalizing counter with
    | zero => exact .inl rfl
    | succ attempts ih =>
      rw [deriveFrom]
      split
      · exact ih (counter + 1)
      · exact trivial
  exact hfrom _ 256 0

/-- A scalar has an inverse. -/
theorem exists_invert {k : Nat} (hk : g.IsScalar k) : ∃ inverse, g.invert k = .ok inverse := by
  have hpos : (0 : Int) < g.order := by exact_mod_cast hk.1.trans hk.2
  have hne := Laws.emod_ne_zero hk
  have hnonneg := Int.emod_nonneg (k : Int) hpos.ne'
  exact ⟨_, if_neg (by omega)⟩

end PrimeGroup

namespace ExchangeName

variable {x : ExchangeName}

theorem publicKey_served (sk : Bytes) :
    Served (.protocol others) (fun pk ↦ x.publicKey sk = .ok pk) (x.publicKey sk) := by
  cases x with
  | x25519 =>
    by_cases hlength : sk.length = 32
    · rw [publicKey_x25519_eq_ok_iff.mpr ⟨hlength, rfl⟩]
      exact rfl
    · have hrefused : montgomeryKey sk = .error (.wrongLength "private key" 32 sk.length) :=
        if_pos hlength
      rw [show x25519.publicKey sk = _ from Except.bind_of_error hrefused]
      exact .inl rfl
  | prime group =>
    cases hread : (Groups.prime group).decodeScalar sk "private key" with
    | error err =>
      rw [show (prime group).publicKey sk = _ from Except.bind_of_error hread]
      have hserved : Served (.protocol others) (fun _ ↦ True)
          ((Groups.prime group).decodeScalar sk "private key") :=
        PrimeGroup.decodeScalar_served sk _
      rw [hread] at hserved
      exact hserved
    | ok k =>
      rw [publicKey_prime_eq_ok_iff.mpr ⟨k, hread, rfl⟩]
      exact rfl

theorem validatePublicKey_served (pk : Bytes) (name : String) :
    Served (.protocol others) (fun _ ↦ True) (x.validatePublicKey pk name) := by
  cases x with
  | x25519 =>
    show Served _ _ (if pk.length ≠ 32 then _ else _)
    split
    · exact .inl rfl
    · exact trivial
  | prime group => exact (PrimeGroup.decodeElement_served pk name).bind fun _ _ ↦ trivial

theorem diffieHellman_served (sk pk : Bytes) :
    Served (.protocol others) (fun _ ↦ True) (x.diffieHellman sk pk) := by
  cases x with
  | x25519 =>
    refine (validatePublicKey_served pk "public key").bind fun _ _ ↦ ?_
    split
    · exact .inl rfl
    · dsimp only
      split
      · exact .inl rfl
      · exact trivial
  | prime group =>
    exact (PrimeGroup.decodeScalar_served sk _).bind fun _ _ ↦
      (PrimeGroup.decodeElement_served pk _).bind fun _ _ ↦ trivial

end ExchangeName

variable {s : Suite}

/-! ### Blinding -/

namespace Blinding

omit [Groups] in
theorem checkNotReflected_served (blinded evaluated : Bytes) :
    Served (.protocol others) (fun _ ↦ True) (checkNotReflected blinded evaluated) := by
  unfold checkNotReflected
  split
  · exact .inl rfl
  · exact trivial

omit [Groups] in
/-- The tag of every suite fits behind its length. -/
theorem length_tag_lt (s : Suite) : (tag s).length < 256 ^ 2 := by
  have hlength (selection : SuiteName) : (Bytes.ofString "OPAQUE-HashToGroup-" ++
      Bytes.ofString selection.name).length < 256 ^ 2 := by
    cases selection <;> decide
  exact hlength s.selection

theorem blind_serves_protocol (sized : Groups.Sized) (s : Suite) (password : Bytes)
    (hendless : s.group.Searches → others .endless) :
    (blind s password).Serves (.protocol others) fun _ ↦ True :=
  .lift_served_bind (PrimeGroup.hash_served (length_tag_lt s) password) fun _ _ ↦
    ((PrimeGroup.randomScalar_serves (sized.prime _).order_pos id).protocol hendless).bind
      fun _ _ ↦ .pure trivial

/-- A blinding is the encoding of a scalar. -/
theorem exists_scalar_of_blind (sized : Groups.Sized) {password : Bytes}
    {x : Bytes × s.group.Element} {e e' : Entropy} (h : (blind s password).runOn e = (.ok x, e')) :
    ∃ r : Nat, s.group.IsScalar r ∧ x.1 = Bytes.ofNat s.scalarLength r := by
  obtain ⟨point, -, h⟩ := Draw.runOn_lift_bind_eq_ok_iff.mp h
  obtain ⟨r, e₁, hr, h⟩ := Draw.runOn_bind_eq_ok_iff.mp h
  have hscalar := (PrimeGroup.randomScalar_serves (sized.prime _).order_pos id).of_runOn trivial hr
  cases h
  exact ⟨r, hscalar, rfl⟩

/-- The client's last part fails only where the password is too long. -/
theorem finalize_served (sized : Groups.Sized) {password : Bytes} {r : Nat}
    (hr : s.group.IsScalar r) (evaluated : s.group.Element)
    (hlong : 65535 < password.length → others .overflow) :
    Served (.protocol others) (fun _ ↦ True) (finalize s password r evaluated) := by
  obtain ⟨inverse, hinverse⟩ := PrimeGroup.exists_invert hr
  have hunblinded : (s.group.encode (s.group.multiply inverse evaluated)).length < 65536 := by
    rw [(sized.prime _).length_encode]
    exact (sized.prime _).elementLength_lt
  refine .ok_bind hinverse <| .bind (P := fun _ ↦ True) ?_ fun _ _ ↦ trivial
  refine (Framing.vector_served hlong).bind fun _ _ ↦ ?_
  refine (Framing.vector_served fun h ↦ ?_).bind fun _ _ ↦ trivial
  omega

/-- Where the client's last part returns, it would have failed for the length with a long
password. -/
theorem finalize_of_long {password : Bytes} {r : Nat} {evaluated : s.group.Element} {output : Bytes}
    (h : finalize s password r evaluated = .ok output) {long : Bytes}
    (hlong : 65535 < long.length) : finalize s long r evaluated = .error .overflow := by
  obtain ⟨inverse, hinverse, -⟩ := Except.bind_eq_ok_iff.mp h
  exact Except.bind_of_ok hinverse <| Except.bind_of_error <| Except.bind_of_error <|
    Framing.vector_of_long hlong

omit [Groups] in
/-- Randomizing fails as the stretching function does. -/
theorem randomize_served (excused : s.stretching.Excused others) (output : Bytes) :
    Served (.protocol others) (fun _ ↦ True) (randomize s output) :=
  (excused.stretch_served output).bind fun _ _ ↦ trivial

end Blinding

theorem ServerSetup.accountKey_served (setup : ServerSetup) (identifier : Bytes) :
    Served (.protocol others) (fun _ ↦ True) (accountKey setup identifier) :=
  (Secret.read_served _).bind fun _ _ ↦ PrimeGroup.deriveScalar_served _ _ _

/-! ### Credentials -/

namespace Envelope

variable {ids : Identifiers} {serverKey : Bytes}

omit [Groups] in
theorem cleartext_served (hserver : 65535 < (ids.server.getD []).length → others .overflow)
    (hclient : 65535 < (ids.client.getD []).length → others .overflow) :
    Served (.protocol others) (fun _ ↦ True) (cleartext serverKey ids) :=
  (Framing.vector_served hserver).bind fun _ _ ↦ (Framing.vector_served hclient).bind
    fun _ _ ↦ trivial

omit [Groups] in
theorem cleartext_of_long
    (hlong : 65535 < (ids.server.getD []).length ∨ 65535 < (ids.client.getD []).length) :
    cleartext serverKey ids = .error .overflow := by
  by_cases hserver : 65535 < (ids.server.getD []).length
  · exact Except.bind_of_error (Framing.vector_of_long hserver)
  · have hfits : (ids.server.getD []).length < 256 ^ 2 := by omega
    exact Except.bind_of_ok (Framing.vector_eq_ok_iff.mpr ⟨hfits, rfl⟩) <|
      Except.bind_of_error <| Framing.vector_of_long <| hlong.resolve_left hserver

/-- Where sealing returns, it would have failed for its length with a long identity. -/
theorem enclose_of_long {randomized privateKey nonce : Bytes} {ids' : Identifiers} {e : Envelope}
    (h : enclose s randomized privateKey serverKey nonce ids' = .ok e)
    (hlong : 65535 < (ids.server.getD []).length ∨ 65535 < (ids.client.getD []).length) :
    enclose s randomized privateKey serverKey nonce ids = .error .overflow := by
  obtain ⟨hlength, encryptedKey, -, hmask, -, -⟩ := enclose_eq_ok_iff.mp h
  unfold enclose
  rw [if_neg (not_not_intro hlength)]
  exact Except.bind_of_ok hmask <| Except.bind_of_error <| cleartext_of_long hlong

/-- Sealing a private key of its size fails only where an identity is too long. -/
theorem enclose_served {randomized privateKey nonce : Bytes}
    (hkey : privateKey.length = s.privateLength)
    (hserver : 65535 < (ids.server.getD []).length → others .overflow)
    (hclient : 65535 < (ids.client.getD []).length → others .overflow) :
    Served (.protocol others) (fun _ ↦ True)
      (enclose s randomized privateKey serverKey nonce ids) := by
  have hpad : privateKey.length = (pad s randomized nonce).length := by
    rw [hkey]
    exact (s.hash.length_expand _ _ _).symm
  unfold enclose
  refine .refuseIf (.inl rfl) fun _ ↦ ?_
  exact .ok_bind (Framing.mask_eq_ok_iff.mpr ⟨hpad, rfl⟩) <|
    (cleartext_served hserver hclient).bind fun _ _ ↦ trivial

/-- So does opening an envelope of the right sizes, unless its tag does not match. -/
theorem recover_served {e : Envelope} (fits : e.Fits s) (randomized : Bytes)
    (hserver : 65535 < (ids.server.getD []).length → others .overflow)
    (hclient : 65535 < (ids.client.getD []).length → others .overflow) :
    Served (.protocol others) (fun _ ↦ True) (recover s randomized e serverKey ids) := by
  have hpad : e.encryptedKey.length = (pad s randomized e.nonce).length := by
    rw [fits.encryptedKey]
    exact (s.hash.length_expand _ _ _).symm
  refine (cleartext_served hserver hclient).bind fun _ _ ↦ .refuseIf ?_ fun _ ↦ ?_
  · exact .inl rfl
  rw [Framing.mask_eq_ok_iff.mpr ⟨hpad, rfl⟩]
  exact trivial

end Envelope

/-- What is unmasked has the sizes of the suite. -/
theorem Masking.unmask_served (key nonce masked : Bytes) :
    Served (.protocol others) (fun x ↦ x.1.length = s.publicLength ∧ x.2.Fits s)
      (unmask s key nonce masked) := by
  unfold unmask
  refine .refuseIf ?_ fun hlength ↦ ?_
  · exact .inl rfl
  have hlength : masked.length = s.maskedLength := Decidable.not_not.mp hlength
  have hpad : (pad s key nonce).length = s.maskedLength := s.hash.length_expand _ _ _
  have hmask := Framing.mask_eq_ok_iff.mpr ⟨hlength.trans hpad.symm, rfl⟩
  have hplain := (Framing.length_of_mask hmask).trans hpad
  unfold Suite.maskedLength at hplain
  have hdrop : ((masked.xor (pad s key nonce)).drop s.publicLength).length = s.envelopeLength := by
    rw [List.length_drop]
    omega
  have htake : ((masked.xor (pad s key nonce)).take s.publicLength).length = s.publicLength := by
    rw [List.length_take]
    omega
  refine .ok_bind hmask <| .ok_bind (if_neg (not_not_intro hdrop)) ?_
  exact ⟨htake, (Envelope.toBytes_split hdrop).1⟩

/-- Writing a message fails at a field that does not have its size. -/
theorem Message.toBytes_served (m : Message) :
    Served (.protocol others) (fun _ ↦ True) m.toBytes :=
  (checkSizes_served _ _ _ _).bind fun _ _ ↦ trivial

/-! ### The handshake -/

omit [Groups] in
theorem Transcript.toBytes_served {t : Transcript}
    (hcontext : 65535 < t.context.length → others .overflow)
    (hclient : 65535 < t.clientIdentity.length → others .overflow)
    (hserver : 65535 < t.serverIdentity.length → others .overflow) :
    Served (.protocol others) (fun _ ↦ True) t.toBytes :=
  (Framing.vector_served hcontext).bind fun _ _ ↦ (Framing.vector_served hclient).bind fun _ _ ↦
    (Framing.vector_served hserver).bind fun _ _ ↦ trivial

namespace SessionKeys

theorem clientShared_served (fresh static serverStatic serverFresh : Bytes) :
    Served (.protocol others) (fun _ ↦ True)
      (clientShared s fresh static serverStatic serverFresh) :=
  (ExchangeName.diffieHellman_served _ _).bind fun _ _ ↦
    (ExchangeName.diffieHellman_served _ _).bind fun _ _ ↦
      (ExchangeName.diffieHellman_served _ _).bind fun _ _ ↦ trivial

theorem serverShared_served (fresh static clientStatic clientFresh : Bytes) :
    Served (.protocol others) (fun _ ↦ True)
      (serverShared s fresh static clientStatic clientFresh) :=
  (ExchangeName.diffieHellman_served _ _).bind fun _ _ ↦
    (ExchangeName.diffieHellman_served _ _).bind fun _ _ ↦
      (ExchangeName.diffieHellman_served _ _).bind fun _ _ ↦ trivial

end SessionKeys

end Groups

end Apake
