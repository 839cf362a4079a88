import Apake.Proofs.Protocol.SingleUse
import Apake.Proofs.Random.Vigilance

/-!
# Steps on a source that goes wrong

Every step that draws is vigilant: it stops at the first draw that is not answered in full.  The
last step of a registration gives its state up even then, and it does not draw unless the secret of
that state was live, so nothing is left of the secret.
-/

namespace Apake

section Vigilance

open Draw

variable [Groups]

/-- A setup is generated with vigilance. -/
theorem ServerSetup.generate_vigilant (s : Suite) : (generate s).Vigilant :=
  (Vigilant.bytes _).bind fun _ ↦ (Vigilant.randomPrivateKey _).bind fun _ ↦ .lift _

/-- A password is blinded with vigilance. -/
theorem Blinding.blind_vigilant (s : Suite) (password : Bytes) : (blind s password).Vigilant :=
  .lift_bind fun _ ↦ (Vigilant.randomScalar _).bind fun _ ↦ .pure _

namespace Registration

/-- The client's first step is vigilant. -/
theorem start_vigilant (s : Suite) (password : Bytes) : (start s password).Vigilant :=
  (Blinding.blind_vigilant s password).bind fun _ ↦ .pure _

/-- The main part of the client's last step is vigilant. -/
theorem complete_vigilant (s : Suite) (secrets : RegistrationSecrets) (password : Bytes)
    (response : RegistrationResponse) (ids : Identifiers) :
    (complete s secrets password response ids).Vigilant := by
  unfold complete
  refine .lift_bind fun _ ↦ .lift_bind fun _ ↦ .lift_bind fun _ ↦ .lift_bind fun _ ↦
    .lift_bind fun _ ↦ .lift_bind fun _ ↦ ?_
  refine (Vigilant.randomPrivateKey _).bind fun _ ↦ (Vigilant.bytes _).bind fun _ ↦ ?_
  exact .lift_bind fun _ ↦ .lift_bind fun _ ↦ .pure _

end Registration

namespace Login

/-- The client's first step is vigilant. -/
theorem start_vigilant (s : Suite) (password : Bytes) : (start s password).Vigilant := by
  unfold start
  refine (Blinding.blind_vigilant s password).bind fun _ ↦ ?_
  refine (Vigilant.bytes _).bind fun _ ↦ (Vigilant.randomPrivateKey _).bind fun _ ↦ ?_
  exact .lift_bind fun _ ↦ .lift_bind fun _ ↦ .pure _

/-- The server's answer to an accepted request is vigilant. -/
theorem respond_vigilant (setup : ServerSetup) (upload : RegistrationUpload)
    (request : CredentialRequest) (identifier : Bytes) (params : LoginParameters) :
    (respond setup upload request identifier params).Vigilant := by
  unfold respond
  refine .lift_bind fun _ ↦ .lift_bind fun _ ↦ .lift_bind fun _ ↦ ?_
  refine (Vigilant.bytes _).bind fun _ ↦ .lift_bind fun _ ↦ ?_
  refine (Vigilant.bytes _).bind fun _ ↦ (Vigilant.randomPrivateKey _).bind fun _ ↦ ?_
  refine .lift_bind fun _ ↦ .lift_bind fun _ ↦ .lift_bind fun _ ↦ ?_
  exact .lift_bind fun _ ↦ .lift_bind fun _ ↦ .lift_bind fun _ ↦ .pure _

/-- The server's first step is vigilant. -/
theorem answer_vigilant (request : Item) (record : Option Item) (identifier : Bytes)
    (setup : ServerSetup) (params : LoginParameters) :
    (answer request record identifier setup params).Vigilant := by
  unfold answer
  refine .lift_bind fun _ ↦ .refuseIf <| .lift_bind fun _ ↦ ?_
  exact respond_vigilant _ _ _ _ _

end Login

/-! ### What a last step did before it drew -/

namespace Registration

variable {e : Entropy}

/-- The main part of a last step does not draw once its secret is wiped. -/
theorem snd_complete_of_wiped {suite : Suite} {secrets : RegistrationSecrets}
    (h : secrets.blinding.wiped = true) (password : Bytes) (response : RegistrationResponse)
    (ids : Identifiers) : ((complete suite secrets password response ids).runOn e).2 = e := by
  have hread : secrets.blinding.readNat = .error .secretWiped := by
    rw [Secret.readNat, Secret.read, if_pos h]
    rfl
  unfold complete
  refine Draw.snd_runOn_lift_bind fun _ _ ↦ Draw.snd_runOn_lift_bind fun _ _ ↦
    Draw.snd_runOn_lift_bind fun _ _ ↦ Draw.snd_runOn_lift_bind fun _ hblinding ↦ ?_
  rw [hread] at hblinding
  cases hblinding

/-- The client's last step as a computation that draws. -/
def finishDraw (state : State) (password : Phrase) (response : Item) (ids : Identifiers) :
    Draw RegistrationResult :=
  ExceptT.mk fun e ↦
    let done := finishWith state password response ids e
    (done.1, done.2.2)

/-- A last step that is refused, or whose password has no bytes, leaves the supply alone; any other
is its main part, which gives up a state of which the secret is accepted. -/
theorem finishDraw_cases (state : State) (password : Phrase) (response : Item)
    (ids : Identifiers) (e : Entropy) :
    ((finishDraw state password response ids).runOn e).2 = e ∨
      ∃ (s : ClientRegistrationState) (r : RegistrationResponse) (bytes : Bytes),
        (finishDraw state password response ids).runOn e =
            (complete s.suite s.content bytes r ids).runOn e ∧
          (finishWith state password response ids e).2.1 = .registration s.zeroize := by
  have hrun : (finishDraw state password response ids).runOn e =
      ((finishWith state password response ids e).1,
        (finishWith state password response ids e).2.2) := rfl
  rw [hrun]
  cases haccept : accept state response with
  | error err =>
    left
    rw [finishWith_of_error haccept]
  | ok accepted =>
    obtain ⟨s, r⟩ := accepted
    have hstate := finishWith_of_ok haccept password ids e
    cases hbytes : password.toBytes with
    | error err =>
      left
      rw [finishWith, hbytes]
      dsimp only
      rw [haccept]
    | ok bytes =>
      right
      refine ⟨s, r, bytes, ?_, hstate⟩
      rw [finishWith, hbytes]
      dsimp only
      rw [finish, haccept]

/-- The client's last step is vigilant. -/
theorem finishDraw_vigilant (state : State) (password : Phrase) (response : Item)
    (ids : Identifiers) : (finishDraw state password response ids).Vigilant := by
  intro e
  obtain hidle | ⟨s, r, bytes, hrun, -⟩ := finishDraw_cases state password response ids e
  · exact ⟨[], hidle, .nil⟩
  · rw [hrun]
    exact complete_vigilant _ _ _ _ _ e

/-- After a last step that drew, its state is used and nothing is left of its secret. -/
theorem wiped_of_draw {state : State} {password : Phrase} {response : Item} {ids : Identifiers}
    {made : List Nat} (hdraw : made ≠ [])
    (h : ((finishDraw state password response ids).runOn e).2 =
      { e with asked := made ++ e.asked }) :
    let left := (finishWith state password response ids e).2.1
    left.consumed = true ∧ ∀ x ∈ left.secrets, x.IsWiped := by
  have hdrew : ((finishDraw state password response ids).runOn e).2 ≠ e := by
    intro hidle
    rw [hidle] at h
    have hasked : e.asked = made ++ e.asked := congrArg Entropy.asked h
    exact hdraw (List.self_eq_append_left.mp hasked)
  obtain hidle | ⟨s, r, bytes, hrun, hstate⟩ := finishDraw_cases state password response ids e
  · exact absurd hidle hdrew
  · have hlive : s.content.blinding.wiped = false := by
      by_contra hwiped
      rw [Bool.not_eq_false] at hwiped
      rw [hrun] at hdrew
      exact hdrew (snd_complete_of_wiped hwiped bytes r ids)
    rw [hstate]
    refine ⟨rfl, fun x hx ↦ ?_⟩
    obtain rfl := List.mem_singleton.mp hx
    exact Secret.isWiped_wipe hlive

end Registration

/-! ### All calls that draw -/

/-- The calls that draw, with their arguments. -/
inductive DrawingCall
  | generate (s : Suite)
  | startRegistration (s : Suite) (password : Phrase)
  | finishRegistration (state : State) (password : Phrase) (response : Item) (ids : Identifiers)
  | startLogin (s : Suite) (password : Phrase)
  | answerLogin (request : Item) (record : Option Item) (identifier : Phrase) (setup : ServerSetup)
    (params : LoginParameters)

namespace DrawingCall

omit [Groups] in
/-- What a call returns. -/
def Result : DrawingCall → Type
  | generate .. => ServerSetup
  | startRegistration .. => RegistrationRequest × ClientRegistrationState
  | finishRegistration .. => RegistrationResult
  | startLogin .. => CredentialRequest × ClientLoginState
  | answerLogin .. => CredentialResponse × ServerLoginState

/-- A call as a computation. -/
def draw : (c : DrawingCall) → Draw c.Result
  | generate s => ServerSetup.generate s
  | startRegistration s password => do Registration.start s (← password.toBytes)
  | finishRegistration state password response ids =>
    Registration.finishDraw state password response ids
  | startLogin s password => do Login.start s (← password.toBytes)
  | answerLogin request record identifier setup params => do
    Login.answer request record (← identifier.toBytes) setup params

/-- The state that was handed to a call, as the call leaves it. -/
def stateAfter (e : Entropy) : DrawingCall → Option State
  | finishRegistration state password response ids =>
    some (Registration.finishWith state password response ids e).2.1
  | _ => none

/-- All calls are vigilant. -/
theorem draw_vigilant (c : DrawingCall) : c.draw.Vigilant := by
  cases c with
  | generate s => exact ServerSetup.generate_vigilant s
  | startRegistration s password => exact .lift_bind fun _ ↦ Registration.start_vigilant _ _
  | finishRegistration state password response ids =>
    exact Registration.finishDraw_vigilant state password response ids
  | startLogin s password => exact .lift_bind fun _ ↦ Login.start_vigilant _ _
  | answerLogin request record identifier setup params =>
    exact .lift_bind fun _ ↦ Login.answer_vigilant _ _ _ _ _

end DrawingCall

end Vigilance

/-- A source that gives zeros at first and then nothing that is a byte string. -/
def Source.brokenLater : Source := fun earlier n ↦
  if earlier = [] then .bytes (Bytes.zeros n) else .other

section Standard

attribute [local instance] Groups.standard

end Standard

end Apake
