import Apake.Secret
import Apake.Suite

/-!
# Single-use states

What one side keeps between two steps of a run: its suite, its secrets, and whether it has been used.
A state serves one finishing step; using it up or giving it up wipes every secret it holds.
-/

namespace Apake

/-- What a kind of state holds: its name and how its secrets are wiped. -/
class Holding (σ : Type) where
  kind : String
  wipe : σ → σ

/-- A state that serves one finishing step. -/
structure SingleUse (σ : Type) where
  suite : Suite
  content : σ
  consumed : Bool := false
  deriving DecidableEq

namespace SingleUse

variable {σ : Type} [Holding σ]

/-- Marks a state as used for a message of a given suite, or for no message; a state that was used
before and a message of a suite of another value are refused. -/
def consume (s : SingleUse σ) (suite : Option Suite) : Except Error (SingleUse σ) :=
  if s.consumed then .error (.stateConsumed (Holding.kind σ))
  else
    match suite with
    | some other =>
      if other.same s.suite then .ok { s with consumed := true }
      else .error (.stateOfOtherSuite (Holding.kind σ) s.suite.name other.name)
    | none => .ok { s with consumed := true }

/-- Gives a state up: it counts as used and its secrets are wiped. -/
def zeroize (s : SingleUse σ) : SingleUse σ :=
  { s with consumed := true, content := Holding.wipe s.content }

end SingleUse

/-- What a client keeps while it registers. -/
structure RegistrationSecrets where
  blinding : Secret
  blindedMessage : Bytes
  deriving DecidableEq

/-- What a client keeps while it logs in. -/
structure LoginSecrets where
  password : Secret
  blinding : Secret
  blindedMessage : Bytes
  ephemeralKey : Secret
  request : Bytes
  deriving DecidableEq

/-- What a server keeps while a client logs in. -/
structure PendingSecrets where
  expectedMac : Secret
  sessionKey : Secret
  deriving DecidableEq

instance : Holding RegistrationSecrets where
  kind := "ClientRegistrationState"
  wipe s := { s with blinding := s.blinding.wipe }

instance : Holding LoginSecrets where
  kind := "ClientLoginState"
  wipe s :=
    { s with
      password := s.password.wipe
      blinding := s.blinding.wipe
      ephemeralKey := s.ephemeralKey.wipe }

instance : Holding PendingSecrets where
  kind := "ServerLoginState"
  wipe s := { s with expectedMac := s.expectedMac.wipe, sessionKey := s.sessionKey.wipe }

/-- A client's state while it registers. -/
abbrev ClientRegistrationState := SingleUse RegistrationSecrets

/-- A client's state while it logs in. -/
abbrev ClientLoginState := SingleUse LoginSecrets

/-- A server's state while a client logs in. -/
abbrev ServerLoginState := SingleUse PendingSecrets

/-- What may be handed to a finishing step as its state. -/
inductive State
  | registration (s : ClientRegistrationState)
  | login (s : ClientLoginState)
  | pending (s : ServerLoginState)
  /-- Anything else, of which only the kind is known. -/
  | other (kind : String)
  deriving DecidableEq

namespace State

/-- The kind of a state. -/
def kind : State → String
  | registration _ => Holding.kind RegistrationSecrets
  | login _ => Holding.kind LoginSecrets
  | pending _ => Holding.kind PendingSecrets
  | other kind => kind

/-- The client's registration state, or the failure to be one. -/
def asRegistration : State → Except Error ClientRegistrationState
  | registration s => .ok s
  | s => .error (.unexpectedState (Holding.kind RegistrationSecrets) s.kind)

/-- The client's login state, or the failure to be one. -/
def asLogin : State → Except Error ClientLoginState
  | login s => .ok s
  | s => .error (.unexpectedState (Holding.kind LoginSecrets) s.kind)

/-- The server's login state, or the failure to be one. -/
def asPending : State → Except Error ServerLoginState
  | pending s => .ok s
  | s => .error (.unexpectedState (Holding.kind PendingSecrets) s.kind)

/-- Marks a state as used for a message of a given suite, or for no message. -/
def consume (suite : Option Suite) : State → Except Error State
  | registration s => (s.consume suite).map registration
  | login s => (s.consume suite).map login
  | pending s => (s.consume suite).map pending
  | other kind => .ok (other kind)

/-- Gives a state up. -/
def zeroize : State → State
  | registration s => registration s.zeroize
  | login s => login s.zeroize
  | pending s => pending s.zeroize
  | other kind => other kind

end State

end Apake
