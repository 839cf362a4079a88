import Apake.Main
import Apake.Proofs.Console.History
import Apake.Proofs.Protocol.Agreement
import Apake.Proofs.Protocol.Availability
import Apake.Proofs.Protocol.Delivery
import Apake.Proofs.Protocol.Hiding
import Apake.Proofs.Protocol.SingleUse
import Apake.Proofs.Protocol.StepFailure
import Apake.Proofs.Protocol.UnknownAccount
import Apake.Proofs.Wire.Writing
import Apake.Proofs.Credential.Opening
import Apake.Proofs.Protocol.Verdict
import Apake.Proofs.Json.Members
import Apake.Proofs.Store.Durability
import Apake.Proofs.Store.FailedPut
import Apake.Proofs.Store.Loading
import Apake.Proofs.Group.Canonical
import Apake.Proofs.Group.Sampling
import Apake.Proofs.Protocol.SourceFailure
import Apake.Proofs.Credential.Malleability
import Apake.Proofs.Encodings
import Apake.Proofs.Handshake.Shared
import Apake.Proofs.Purposes
