import Mathlib.Logic.Function.Basic
import Apake.Proofs.Protocol.Completeness

/-!
# A state serves one finishing step

A collection of states is handed to calls of any kind in any order.  Each call either refuses its
arguments and leaves its state alone, or gives its state up, whatever else comes of it; so every
state is at any time the one that was made or what is left of it when it is given up, and no state
serves two finishing steps.
-/

namespace Apake

/-! ### What a state holds -/

/-- A secret that can no longer be read and whose buffer is all zeros. -/
structure Secret.IsWiped (x : Secret) : Prop where
  wiped : x.wiped = true
  zeros : x.memory = Bytes.zeros x.memory.length

/-- Wiping a live secret leaves nothing of it. -/
theorem Secret.isWiped_wipe {x : Secret} (h : x.wiped = false) : x.wipe.IsWiped := by
  unfold wipe
  rw [if_neg (by simp [h])]
  refine ⟨rfl, ?_⟩
  simp only [overwrite, Bytes.length_zeros]

namespace State

/-- The secrets that a state holds; what is no state holds none. -/
def secrets : State → List Secret
  | registration s => [s.content.blinding]
  | login s => [s.content.password, s.content.blinding, s.content.ephemeralKey]
  | pending s => [s.content.expectedMac, s.content.sessionKey]
  | other _ => []

/-- Whether a state has been used or given up; what is no state counts as used. -/
def consumed : State → Bool
  | registration s => s.consumed
  | login s => s.consumed
  | pending s => s.consumed
  | other _ => true

/-- A state that has not been used and whose secrets are live. -/
structure IsFresh (s : State) : Prop where
  unconsumed : s.consumed = false
  live : ∀ x ∈ s.secrets, x.wiped = false

/-- A state that was given up is used. -/
theorem consumed_zeroize (s : State) : s.zeroize.consumed = true := by cases s <;> rfl

/-- Giving a state up wipes each of its secrets. -/
theorem secrets_zeroize (s : State) : s.zeroize.secrets = s.secrets.map Secret.wipe := by
  cases s <;> rfl

/-- Giving a state up again changes nothing. -/
theorem zeroize_zeroize (s : State) : s.zeroize.zeroize = s.zeroize := by
  cases s with
  | registration s =>
    simp only [zeroize, SingleUse.zeroize, Holding.wipe, Secret.wipe_wipe]
  | login s => simp only [zeroize, SingleUse.zeroize, Holding.wipe, Secret.wipe_wipe]
  | pending s => simp only [zeroize, SingleUse.zeroize, Holding.wipe, Secret.wipe_wipe]
  | other kind => rfl

/-- Nothing is left of the secrets of a fresh state that was given up. -/
theorem IsFresh.isWiped_zeroize {s : State} (h : s.IsFresh) :
    ∀ x ∈ s.zeroize.secrets, x.IsWiped := by
  intro x hx
  rw [secrets_zeroize] at hx
  obtain ⟨y, hy, rfl⟩ := List.mem_map.mp hx
  exact Secret.isWiped_wipe (h.live y hy)

/-- A fresh state holds a secret that is not wiped. -/
theorem IsFresh.not_forall_isWiped {s : State} (h : s.IsFresh) :
    ¬ ∀ x ∈ s.secrets, x.IsWiped := by
  intro hwiped
  have hhead : ∃ x, x ∈ s.secrets := by
    cases s with
    | other kind => cases h.unconsumed
    | _ => exact ⟨_, List.mem_cons_self⟩
  obtain ⟨x, hx⟩ := hhead
  have hlive := h.live x hx
  rw [(hwiped x hx).wiped] at hlive
  cases hlive

end State

/-! ### What a finishing step does with its arguments -/

namespace SingleUse

variable {σ : Type} [Holding σ]

/-- A state is accepted for a message exactly if it is unused and the message's suite has the value of
its own; otherwise it is the state that is refused. -/
theorem consume_cases (s : SingleUse σ) (t : Suite) :
    (s.consumed = false ∧ t.same s.suite = true ∧
        s.consume (some t) = .ok { s with consumed := true }) ∨
      ((s.consumed = true ∨ t.same s.suite = false) ∧
        ∃ err, s.consume (some t) = .error err ∧ err.family = .state) := by
  unfold consume
  by_cases hused : s.consumed = true
  · exact .inr ⟨.inl hused, _, if_pos hused, rfl⟩
  · rw [if_neg hused]
    by_cases hsuite : t.same s.suite = true
    · exact .inl ⟨by simpa using hused, hsuite, if_pos hsuite⟩
    · exact .inr ⟨.inr (by simpa using hsuite), _, if_neg hsuite, rfl⟩

end SingleUse

section Calls

variable [Groups]

/-- The client's last step of a registration up to where it looks at the password, which turns out
to have no bytes. -/
def Registration.completeWithout (s : Suite) (secrets : RegistrationSecrets)
    (response : RegistrationResponse) (err : Error) : Except Error RegistrationResult := do
  Blinding.checkNotReflected secrets.blindedMessage response.evaluatedMessage
  let _ ← s.group.decodeElement response.evaluatedMessage "evaluated message"
  s.exchange.validatePublicKey response.serverPublicKey "server public key"
  let _ ← s.group.invert (← secrets.blinding.readNat)
  throw err

/-- The client's last step of a registration with a password as it is handed over. -/
def Registration.finishWith (state : State) (password : Phrase) (response : Item)
    (ids : Identifiers) (entropy : Entropy) : Except Error RegistrationResult × State × Entropy :=
  match password.toBytes with
  | .ok bytes => finish state bytes response ids entropy
  | .error err =>
    match accept state response with
    | .error e => (.error e, state, entropy)
    | .ok (s, r) => (completeWithout s.suite s.content r err, .registration s.zeroize, entropy)

/-- A last step whose arguments are refused leaves the state alone. -/
theorem Registration.finishWith_of_error {state : State} {item : Item} {err : Error}
    (h : accept state item = .error err) (password : Phrase) (ids : Identifiers)
    (entropy : Entropy) :
    finishWith state password item ids entropy = (.error err, state, entropy) := by
  unfold finishWith finish
  rw [h]
  cases password.toBytes <;> rfl

/-- A last step whose arguments are accepted gives the state up, whatever comes of it. -/
theorem Registration.finishWith_of_ok {state : State} {item : Item} {s : ClientRegistrationState}
    {r : RegistrationResponse} (h : accept state item = .ok (s, r)) (password : Phrase)
    (ids : Identifiers) (entropy : Entropy) :
    (finishWith state password item ids entropy).2.1 = .registration s.zeroize := by
  unfold finishWith finish
  rw [h]
  cases password.toBytes <;> rfl

theorem Login.finish_of_error {state : State} {item : Item} {err : Error}
    (h : accept state item = .error err) (params : LoginParameters) :
    finish state item params = (.error err, state) := by
  unfold finish
  rw [h]

theorem Login.finish_of_ok {state : State} {item : Item} {s : ClientLoginState}
    {r : CredentialResponse} (h : accept state item = .ok (s, r)) (params : LoginParameters) :
    (finish state item params).2 = .login s.zeroize := by
  unfold finish
  rw [h]

omit [Groups] in
theorem Login.confirm_of_error {state : State} {item : Item} {err : Error}
    (h : acceptFinalization state item = .error err) :
    confirm state item = (.error err, state) := by
  unfold confirm
  rw [h]

omit [Groups] in
theorem Login.confirm_of_ok {state : State} {item : Item} {s : ServerLoginState}
    {f : CredentialFinalization} (h : acceptFinalization state item = .ok (s, f)) :
    (confirm state item).2 = .pending s.zeroize := by
  unfold confirm
  rw [h]

/-- What may be done to a state. -/
inductive StateCall
  | register (password : Phrase) (response : Item) (ids : Identifiers) (entropy : Entropy)
  | login (response : Item) (params : LoginParameters)
  | confirm (finalization : Item)
  | zeroize
  /-- Leaving a block that the state was opened for. -/
  | leave

/-- What a call may give back. -/
inductive Outcome
  | registered (result : RegistrationResult)
  | loggedIn (result : LoginResult)
  | released (sessionKey : Bytes)
  | nothing

namespace StateCall

/-- What a call gives back and what becomes of its state. -/
def run : StateCall → State → Except Error Outcome × State
  | register password response ids entropy, state =>
    let done := Registration.finishWith state password response ids entropy
    (done.1.map .registered, done.2.1)
  | login response params, state =>
    let done := Login.finish state response params
    (done.1.map .loggedIn, done.2)
  | confirm finalization, state =>
    let done := Login.confirm state finalization
    (done.1.map .released, done.2)
  | zeroize, state | leave, state => (.ok .nothing, state.zeroize)

omit [Groups] in
/-- Whether a call is a finishing step. -/
def isFinish : StateCall → Bool
  | register .. | login .. | confirm .. => true
  | zeroize | leave => false

omit [Groups] in
/-- Whether the state of a finishing step is of the right kind, and its message of the right class
and of a suite of the value of the state's. -/
def fits : StateCall → State → Bool
  | c, .registration s =>
    match c with
    | register _ (.message (.registrationResponse r)) _ _ => r.suite.same s.suite
    | _ => false
  | c, .login s =>
    match c with
    | login (.message (.credentialResponse r)) _ => r.suite.same s.suite
    | _ => false
  | c, .pending s =>
    match c with
    | confirm (.message (.credentialFinalization f)) => f.suite.same s.suite
    | _ => false
  | _, .other _ => false

/-- What can become of a finishing step: its arguments are in order and its state is given up, or
they are not, or the state was used before, and the state is refused and stays. -/
def Settles (c : StateCall) (state : State) : Prop :=
  (c.fits state = true ∧ state.consumed = false ∧ (c.run state).2 = state.zeroize) ∨
    ((c.fits state = false ∨ state.consumed = true) ∧
      ∃ err, c.run state = (.error err, state) ∧ err.family = .state)

/-- A step that gives its state up once that is accepted for a message, and is refused with the
state otherwise, settles the state. -/
private theorem Settles.of_consume {c : StateCall} {state : State} {σ : Type} [Holding σ]
    {s : SingleUse σ} {t : Suite} (hfits : c.fits state = t.same s.suite)
    (hconsumed : state.consumed = s.consumed)
    (hgone : s.consume (some t) = .ok { s with consumed := true } → (c.run state).2 = state.zeroize)
    (hrefused : ∀ err, s.consume (some t) = .error err → c.run state = (.error err, state)) :
    c.Settles state := by
  unfold Settles
  rw [hfits, hconsumed]
  obtain ⟨hfresh, hsuite, h⟩ | ⟨hwhy, err, h, hfamily⟩ := s.consume_cases t
  · exact .inl ⟨hsuite, hfresh, hgone h⟩
  · exact .inr ⟨hwhy.symm, err, hrefused err h, hfamily⟩

private theorem register_settles (password : Phrase) (item : Item) (ids : Identifiers)
    (entropy : Entropy) (state : State) :
    (register password item ids entropy).Settles state := by
  have hrefused (err : Error) (h : Registration.accept state item = .error err) :
      (register password item ids entropy).run state = (.error err, state) := by
    rw [run, Registration.finishWith_of_error h]
    rfl
  cases state with
  | registration s =>
    cases item with
    | message m =>
      cases m with
      | registrationResponse r =>
        have haccept : Registration.accept (.registration s) (.message (.registrationResponse r)) =
            s.consume (some r.suite) >>= fun s' ↦ pure (s', r) := rfl
        refine .of_consume (s := s) (t := r.suite) rfl rfl (fun h ↦ ?_) fun err h ↦ ?_
        · have hgone := Registration.finishWith_of_ok (haccept.trans (Except.bind_of_ok h rfl))
            password ids entropy
          exact hgone
        · exact hrefused err (haccept.trans (Except.bind_of_error h))
      | _ => exact .inr ⟨.inl rfl, _, hrefused _ rfl, rfl⟩
    | _ => exact .inr ⟨.inl rfl, _, hrefused _ rfl, rfl⟩
  | _ => exact .inr ⟨.inl rfl, _, hrefused _ rfl, rfl⟩

private theorem login_settles (item : Item) (params : LoginParameters) (state : State) :
    (login item params).Settles state := by
  have hrefused (err : Error) (h : Login.accept state item = .error err) :
      (login item params).run state = (.error err, state) := by
    rw [run, Login.finish_of_error h]
    rfl
  cases state with
  | login s =>
    cases item with
    | message m =>
      cases m with
      | credentialResponse r =>
        have haccept : Login.accept (.login s) (.message (.credentialResponse r)) =
            s.consume (some r.suite) >>= fun s' ↦ pure (s', r) := rfl
        refine .of_consume (s := s) (t := r.suite) rfl rfl (fun h ↦ ?_) fun err h ↦ ?_
        · have hgone := Login.finish_of_ok (haccept.trans (Except.bind_of_ok h rfl)) params
          exact hgone
        · exact hrefused err (haccept.trans (Except.bind_of_error h))
      | _ => exact .inr ⟨.inl rfl, _, hrefused _ rfl, rfl⟩
    | _ => exact .inr ⟨.inl rfl, _, hrefused _ rfl, rfl⟩
  | _ => exact .inr ⟨.inl rfl, _, hrefused _ rfl, rfl⟩

private theorem confirm_settles (item : Item) (state : State) : (confirm item).Settles state := by
  have hrefused (err : Error) (h : Login.acceptFinalization state item = .error err) :
      (confirm item).run state = (.error err, state) := by
    rw [run, Login.confirm_of_error h]
    rfl
  cases state with
  | pending s =>
    cases item with
    | message m =>
      cases m with
      | credentialFinalization f =>
        have haccept : Login.acceptFinalization (.pending s)
            (.message (.credentialFinalization f)) =
            s.consume (some f.suite) >>= fun s' ↦ pure (s', f) := rfl
        refine .of_consume (s := s) (t := f.suite) rfl rfl (fun h ↦ ?_) fun err h ↦ ?_
        · have hgone := Login.confirm_of_ok (haccept.trans (Except.bind_of_ok h rfl))
          exact hgone
        · exact hrefused err (haccept.trans (Except.bind_of_error h))
      | _ => exact .inr ⟨.inl rfl, _, hrefused _ rfl, rfl⟩
    | _ => exact .inr ⟨.inl rfl, _, hrefused _ rfl, rfl⟩
  | _ => exact .inr ⟨.inl rfl, _, hrefused _ rfl, rfl⟩

/-- A finishing step settles its state. -/
theorem settles_of_isFinish {c : StateCall} (hc : c.isFinish = true) (state : State) :
    c.Settles state := by
  cases c with
  | register password item ids entropy => exact register_settles password item ids entropy state
  | login item params => exact login_settles item params state
  | confirm item => exact confirm_settles item state
  | zeroize => cases hc
  | leave => cases hc

/-- Any other call gives its state up. -/
theorem run_of_not_isFinish {c : StateCall} (hc : c.isFinish = false) (state : State) :
    (c.run state).2 = state.zeroize := by
  cases c with
  | zeroize => rfl
  | leave => rfl
  | _ => cases hc

/-- After a call a state is as it was, or given up. -/
theorem run_eq_or (c : StateCall) (state : State) :
    (c.run state).2 = state ∨ (c.run state).2 = state.zeroize := by
  cases hc : c.isFinish with
  | true =>
    obtain ⟨-, -, h⟩ | ⟨-, err, h, -⟩ := settles_of_isFinish hc state
    · exact .inr h
    · exact .inl (by rw [h])
  | false => exact .inr (run_of_not_isFinish hc state)

/-- A used state stays used. -/
theorem consumed_run {c : StateCall} {state : State} (h : state.consumed = true) :
    (c.run state).2.consumed = true := by
  obtain hrun | hrun := c.run_eq_or state
  · rw [hrun, h]
  · rw [hrun, State.consumed_zeroize]

end StateCall

/-! ### States as they are made -/

/-- States that a first step made, and what is no state. -/
inductive State.Made : State → Prop
  | registration {s : Suite} {password : Bytes} {e : Entropy} {request : RegistrationRequest}
    {state : ClientRegistrationState} :
    ((Registration.start s password).runOn e).1 = .ok (request, state) → Made (.registration state)
  | login {s : Suite} {password : Bytes} {e : Entropy} {request : CredentialRequest}
    {state : ClientLoginState} :
    ((Login.start s password).runOn e).1 = .ok (request, state) → Made (.login state)
  | pending {request : Item} {record : Option Item} {identifier : Bytes} {setup : ServerSetup}
    {params : LoginParameters} {e : Entropy} {response : CredentialResponse}
    {state : ServerLoginState} :
    ((Login.answer request record identifier setup params).runOn e).1 = .ok (response, state) →
      Made (.pending state)
  | other (kind : String) : Made (.other kind)

/-- What a first step made is fresh. -/
theorem State.Made.isFresh {state : State} (h : state.Made) :
    state.IsFresh ∨ ∃ kind, state = .other kind := by
  cases h with
  | registration h =>
    obtain ⟨⟨blinding, blinded⟩, e₁, -, h⟩ :=
      Draw.runOn_bind_eq_ok_iff.mp (Draw.runOn_of_fst h)
    cases h
    exact .inl ⟨rfl, by simp [secrets, Secret.ofBytes]⟩
  | login h =>
    obtain ⟨⟨blinding, blinded⟩, e₁, -, h⟩ :=
      Draw.runOn_bind_eq_ok_iff.mp (Draw.runOn_of_fst h)
    obtain ⟨nonce, e₂, -, h⟩ := Draw.runOn_bind_eq_ok_iff.mp h
    obtain ⟨ephemeralKey, e₃, -, h⟩ := Draw.runOn_bind_eq_ok_iff.mp h
    obtain ⟨keyshare, -, h⟩ := Draw.runOn_lift_bind_eq_ok_iff.mp h
    obtain ⟨wire, -, h⟩ := Draw.runOn_lift_bind_eq_ok_iff.mp h
    cases h
    exact .inl ⟨rfl, by simp [secrets, Secret.ofBytes]⟩
  | pending h =>
    have h := Draw.runOn_of_fst h
    unfold Login.answer at h
    obtain ⟨r, -, h⟩ := Draw.runOn_lift_bind_eq_ok_iff.mp h
    obtain ⟨-, h⟩ := Draw.runOn_refuseIf_eq_ok_iff.mp h
    obtain ⟨upload, -, h⟩ := Draw.runOn_lift_bind_eq_ok_iff.mp h
    obtain ⟨_, _, _, _, _, _, _, -, -, -, answered⟩ := Login.answered_of_respond h
    rw [answered.state]
    exact .inl ⟨rfl, by simp [secrets, Secret.ofBytes]⟩
  | other kind => exact .inr ⟨kind, rfl⟩

/-! ### Collections of states under calls in any order -/

namespace StateCall

variable {ι : Type} [DecidableEq ι]

/-- A collection after a call on one of its states. -/
def step (states : ι → State) (call : ι × StateCall) : ι → State :=
  Function.update states call.1 (call.2.run (states call.1)).2

/-- A collection after a sequence of calls. -/
def after (states : ι → State) (calls : List (ι × StateCall)) : ι → State :=
  calls.foldl step states

/-- The calls on one state of a collection, each with the state as it found it. -/
def visits (i : ι) : (ι → State) → List (ι × StateCall) → List (StateCall × State)
  | _, [] => []
  | states, call :: calls =>
    (if call.1 = i then [(call.2, states i)] else []) ++ visits i (step states call) calls

omit [Groups] in
/-- Whether a visit is a finishing step that gets past the refusals. -/
def isAttempt (visit : StateCall × State) : Bool :=
  visit.1.isFinish && visit.1.fits visit.2 && !visit.2.consumed

/-- What a visit has given back, if it is a finishing step that returned. -/
def result? (visit : StateCall × State) : Option Outcome :=
  if visit.1.isFinish then (visit.1.run visit.2).1.toOption else none

theorem step_self (states : ι → State) (i : ι) (c : StateCall) :
    step states (i, c) i = (c.run (states i)).2 := Function.update_self i _ states

/-- A call that leaves its state alone leaves the collection alone. -/
theorem step_of_run_eq {states : ι → State} {i : ι} {c : StateCall}
    (h : (c.run (states i)).2 = states i) : step states (i, c) = states := by
  unfold step
  dsimp only
  rw [h, Function.update_eq_self]

/-- If every state is the one that was made or that one given up, a call keeps it so. -/
theorem kept_step {made states : ι → State}
    (hkept : ∀ i, states i = made i ∨ states i = (made i).zeroize) (call : ι × StateCall) (i : ι) :
    step states call i = made i ∨ step states call i = (made i).zeroize := by
  obtain ⟨j, c⟩ := call
  by_cases hij : i = j
  · subst hij
    rw [step_self]
    obtain hrun | hrun := c.run_eq_or (states i)
    · rw [hrun]
      exact hkept i
    · right
      rw [hrun]
      obtain h | h := hkept i
      · rw [h]
      · rw [h, State.zeroize_zeroize]
  · have hother : step states (j, c) i = states i := Function.update_of_ne hij _ states
    rw [hother]
    exact hkept i

/-- After any sequence of calls every state is the one that was made or that one given up. -/
theorem kept_after (states : ι → State) (calls : List (ι × StateCall)) (i : ι) :
    after states calls i = states i ∨ after states calls i = (states i).zeroize := by
  have hkept (now : ι → State) (hnow : ∀ i, now i = states i ∨ now i = (states i).zeroize) :
      ∀ i, after now calls i = states i ∨ after now calls i = (states i).zeroize := by
    induction calls generalizing now with
    | nil => exact hnow
    | cons call calls ih => exact ih _ (kept_step hnow call)
  exact hkept states (fun _ ↦ .inl rfl) i

/-- A state that was made is used exactly if all its secrets are wiped, and holds what it was made
with as long as it is unused. -/
theorem consumed_iff_of_kept {made now : State} (hmade : made.Made)
    (hkept : now = made ∨ now = made.zeroize) :
    (now.consumed = true ↔ ∀ x ∈ now.secrets, x.IsWiped) ∧ (now.consumed = false → now = made) := by
  obtain hfresh | ⟨kind, rfl⟩ := hmade.isFresh
  · obtain rfl | rfl := hkept
    · refine ⟨⟨fun h ↦ ?_, fun h ↦ absurd h hfresh.not_forall_isWiped⟩, fun _ ↦ rfl⟩
      rw [hfresh.unconsumed] at h
      cases h
    · refine ⟨⟨fun _ ↦ hfresh.isWiped_zeroize, fun _ ↦ made.consumed_zeroize⟩, fun h ↦ ?_⟩
      rw [made.consumed_zeroize] at h
      cases h
  · obtain rfl | rfl := hkept
    · exact ⟨⟨fun _ x hx ↦ absurd hx List.not_mem_nil, fun _ ↦ rfl⟩, fun _ ↦ rfl⟩
    · exact ⟨⟨fun _ x hx ↦ absurd hx List.not_mem_nil, fun _ ↦ rfl⟩, fun _ ↦ rfl⟩

/-- A used state stays used whatever is done to the collection. -/
theorem consumed_step {states : ι → State} {i : ι} (h : (states i).consumed = true)
    (call : ι × StateCall) : (step states call i).consumed = true := by
  obtain ⟨j, c⟩ := call
  by_cases hij : i = j
  · subst hij
    rw [step_self]
    exact consumed_run h
  · have hother : step states (j, c) i = states i := Function.update_of_ne hij _ states
    rw [hother, h]

/-- No finishing step gets past the refusals of a used state. -/
theorem countP_isAttempt_of_consumed {states : ι → State} {i : ι}
    (h : (states i).consumed = true) (calls : List (ι × StateCall)) :
    (visits i states calls).countP isAttempt = 0 := by
  induction calls generalizing states with
  | nil => rfl
  | cons call calls ih =>
    rw [visits, List.countP_append, ih (consumed_step h call)]
    split
    · simp [isAttempt, h]
    · rfl

/-- At most one finishing step gets past the refusals of a state. -/
theorem countP_isAttempt_le_one (states : ι → State) (i : ι) (calls : List (ι × StateCall)) :
    (visits i states calls).countP isAttempt ≤ 1 := by
  induction calls generalizing states with
  | nil => exact Nat.zero_le 1
  | cons call calls ih =>
    rw [visits, List.countP_append]
    obtain ⟨j, c⟩ := call
    by_cases hij : j = i
    · subst hij
      rw [if_pos rfl, List.countP_singleton]
      by_cases hattempt : isAttempt (c, states j) = true
      -- The state is given up by the attempt, so none follows.
      · have hfinish : c.isFinish = true ∧ c.fits (states j) = true ∧
            (states j).consumed = false := by
          simpa [isAttempt, and_assoc] using hattempt
        have hused : (step states (j, c) j).consumed = true := by
          rw [step_self]
          obtain ⟨-, -, h⟩ | ⟨hwhy, -⟩ := settles_of_isFinish hfinish.1 (states j)
          · rw [h, State.consumed_zeroize]
          · simp [hfinish] at hwhy
        rw [countP_isAttempt_of_consumed hused, if_pos hattempt]
      · rw [if_neg hattempt, Nat.zero_add]
        exact ih _
    · rw [if_neg hij, List.countP_nil, Nat.zero_add]
      exact ih _

/-- Only an attempt gives a result. -/
theorem isAttempt_of_result? {visit : StateCall × State} (h : (result? visit).isSome = true) :
    isAttempt visit = true := by
  obtain ⟨c, state⟩ := visit
  cases hc : c.isFinish with
  | false => simp [result?, hc] at h
  | true =>
    obtain ⟨hfits, hfresh, -⟩ | ⟨-, err, hrun, -⟩ := settles_of_isFinish hc state
    · simp [isAttempt, hc, hfits, hfresh]
    · simp [result?, hc, hrun, Except.toOption] at h

/-- A state gives at most one result. -/
theorem length_results_le_one (states : ι → State) (i : ι) (calls : List (ι × StateCall)) :
    ((visits i states calls).filterMap result?).length ≤ 1 := by
  calc ((visits i states calls).filterMap result?).length
      = (visits i states calls).countP fun visit ↦ (result? visit).isSome := by
        rw [List.length_filterMap_eq_countP]
    _ ≤ (visits i states calls).countP isAttempt :=
        List.countP_mono_left fun _ _ h ↦ isAttempt_of_result? h
    _ ≤ 1 := countP_isAttempt_le_one states i calls

/-- After any sequence of calls on states that were made: a state is used exactly if all its secrets
are wiped, and an unused state is the one that was made; a finishing step with a state of the wrong
kind, a message of the wrong class or a suite of another value is refused and changes nothing; one
whose arguments are in order leaves its state used and wiped, as giving up does; a used state is
refused and stays; and of all finishing steps on one state at most one gets as far as to look at a
confirmation, and at most one gives a result.  A call that searches for ever has no time after it, so
of that nothing is said. -/
theorem single_use {states : ι → State} (hmade : ∀ i, (states i).Made)
    (calls : List (ι × StateCall)) :
    let now := after states calls
    (∀ i, ((now i).consumed = true ↔ ∀ x ∈ (now i).secrets, x.IsWiped) ∧
      ((now i).consumed = false → now i = states i)) ∧
    (∀ i c, c.isFinish = true → c.fits (now i) = false ∨ (now i).consumed = true →
      step now (i, c) = now ∧ ∃ err, (c.run (now i)).1 = .error err ∧ err.family = .state) ∧
    (∀ i c, c.isFinish = true ∧ c.fits (now i) = true ∨ c.isFinish = false →
      (step now (i, c) i).consumed = true ∧ ∀ x ∈ (step now (i, c) i).secrets, x.IsWiped) ∧
    ∀ i, (visits i states calls).countP isAttempt ≤ 1 ∧
      ((visits i states calls).filterMap result?).length ≤ 1 := by
  intro now
  have hkept := kept_after states calls
  refine ⟨fun i ↦ consumed_iff_of_kept (hmade i) (hkept i), fun i c hc hwhy ↦ ?_, fun i c hc ↦ ?_,
    fun i ↦ ⟨countP_isAttempt_le_one states i calls, length_results_le_one states i calls⟩⟩
  · obtain ⟨hfits, hfresh, -⟩ | ⟨-, err, hrun, hfamily⟩ := settles_of_isFinish hc (now i)
    · simp [hfits, hfresh] at hwhy
    · exact ⟨step_of_run_eq (by rw [hrun]), err, by rw [hrun], hfamily⟩
  · have hused : (step now (i, c) i).consumed = true := by
      rw [step_self]
      obtain ⟨hfinish, hfits⟩ | hother := hc
      · obtain ⟨-, -, h⟩ | ⟨hwhy, err, h, -⟩ := settles_of_isFinish hfinish (now i)
        · rw [h, State.consumed_zeroize]
        · rw [h]
          simpa [hfits] using hwhy
      · rw [run_of_not_isFinish hother, State.consumed_zeroize]
    have hnext := consumed_iff_of_kept (hmade i) (kept_step hkept (i, c) i)
    exact ⟨hused, hnext.1.mp hused⟩

end StateCall

end Calls

attribute [local instance] Groups.closed in
/-- The states of a login over residues, one for each side, are used exactly if they are wiped after
calls that fit and calls that do not, and two confirmations make at most one attempt. -/
theorem StateCall.single_use_residue :
    ∃ (states : Bool → State) (guess : CredentialFinalization),
      (∀ i, (states i).Made) ∧ (∀ i, (states i).IsFresh) ∧
      (confirm (.message (.credentialFinalization guess))).fits (states true) = true ∧
      let calls := [(true, confirm .other), (false, leave),
        (true, confirm (.message (.credentialFinalization guess))),
        (true, confirm (.message (.credentialFinalization guess)))]
      (∀ i, (after states calls i).consumed = true ↔
        ∀ x ∈ (after states calls i).secrets, x.IsWiped) ∧
      (visits true states calls).countP isAttempt ≤ 1 ∧
      ((visits true states calls).filterMap result?).length ≤ 1 := by
  obtain ⟨setup, record, exportKey, session, -, -, hsession⟩ := Login.exists_session_residue
  obtain ⟨_, _, sent, clientState, response, serverState, -, -, hstart, hanswer, -, -⟩ :=
    Login.steps_of_run hsession
  have hmade (i : Bool) : State.Made (if i then .pending serverState else .login clientState) := by
    cases i with
    | false => exact .login hstart
    | true => exact .pending hanswer
  have hfresh (i : Bool) :
      State.IsFresh (if i then .pending serverState else .login clientState) := by
    obtain h | ⟨kind, h⟩ := (hmade i).isFresh
    · exact h
    · cases i <;> cases h
  obtain ⟨hused, -, -, honce⟩ := single_use hmade [(true, confirm .other), (false, leave),
    (true, confirm (.message (.credentialFinalization ⟨serverState.suite, []⟩))),
    (true, confirm (.message (.credentialFinalization ⟨serverState.suite, []⟩)))]
  exact ⟨_, ⟨serverState.suite, []⟩, hmade, hfresh, by simp [fits], fun i ↦ (hused i).1, honce true⟩

end Apake
