import Apake.Console.Table
import Apake.Suite

/-!
# Pages of the terminal program

The banner, the page that explains the protocol and lists the suites, and the menu.
-/

namespace Apake.Console

/-- The program's name and version. -/
def programName : String := "OPAQUE Engine v1.0.0"

/-- What the program is. -/
def banner : List String :=
  panel programName
    ["Asymmetric Password-Authenticated Key Exchange", "OPRF • Envelope • Triple-DH"]

/-- The parts of the protocol. -/
def featureTable : List String :=
  let features := [
    ("OPRF", "Password never leaves the client"),
    ("Envelope", "Client key sealed under the randomized password"),
    ("Key Exchange", "Triple-DH with explicit MAC confirmation"),
    ("Unknown users", "Answered with a derived stand-in record"),
    ("Stretching", "identity, scrypt or argon2id")]
  plainTable "Protocol" [⟨"", features.map Prod.fst, false⟩, ⟨"", features.map Prod.snd, false⟩]

/-- The suites with their parts. -/
def suiteTable : List String :=
  let suites : List Suite := SuiteName.all.map fun n ↦ ⟨n, .identity⟩
  framedTable "Ciphersuites" [
    ⟨"Name", suites.map Suite.name, false⟩,
    ⟨"OPRF", suites.map fun s ↦ s.blinding.name, false⟩,
    ⟨"Key exchange", suites.map fun s ↦ s.exchange.name, false⟩,
    ⟨"Hash", suites.map fun s ↦ s.hash.name, false⟩,
    ⟨"Session key", suites.map fun s ↦ s!"{s.hashLength} bytes", true⟩]

/-- How to begin. -/
def quickStart : List String :=
  panel "Quick Start"
    ["Server:", "  $ opaque-engine setup", "", "Client:",
      "  $ opaque-engine register --user alice", "  $ opaque-engine login --user alice"]

/-- The page that explains the protocol. -/
def infoPage : List String :=
  banner ++ featureTable ++ [""] ++ suiteTable ++ [s!"Default suite: {Suite.default.name}", ""] ++
    quickStart

/-- The banner with the choices under it. -/
def menuPage : List String :=
  banner ++ ["", "Mode:", "  1. Register", "  2. Log in", "  3. Protocol info", "  4. Exit"]

/-- The question under the choices. -/
def menuQuestion : String := "\nSelect [1/2/3/4] (2): "

/-- What is said about an answer that is no choice. -/
def menuComplaint : String := "Please select one of the available options"

end Apake.Console
