import Apake.Bytes
import Apake.Error

/-!
# Random sources

A random source answers a request for a number of bytes and may depend on everything it was asked
before, so it is a function of the history of requests.  Operations draw from an entropy supply,
which remembers that history; whatever a source answers, a draw returns exactly the number of bytes
asked for or fails, and the request is on record either way.

Some operations draw until a result is usable, which a source can put off for ever.  Such a search
is the least fixed point of its recursion, so it has no result exactly if it never ends; the outcome
`endless` stands for that.
-/

namespace Apake

/-- What a random source answers.  A failure of the source is taken as its text, so one that cannot
be put into words is left out. -/
inductive Reply
  /-- Bytes, rightly or wrongly counted. -/
  | bytes (bs : Bytes)
  /-- Something that is no byte string. -/
  | other
  /-- A failure of the source's own. -/
  | failure (reason : String)

/-- A random source: the answer to a request, given the earlier requests, most recent first. -/
abbrev Source := (earlier : List Nat) → (asked : Nat) → Reply

/-- A random source together with what it was asked so far, most recent first. -/
structure Entropy where
  source : Source
  asked : List Nat := []

/-- A computation that draws from an entropy supply and may fail; the supply outlives a failure. -/
abbrev Draw (α : Type) := ExceptT Error (StateM Entropy) α

namespace Draw

/-- Runs a computation on a supply. -/
def runOn {α : Type} (d : Draw α) (e : Entropy) : Except Error α × Entropy := d.run.run e

/-- The bytes in a reply to a request for `n` bytes. -/
def accept (n : Nat) : Reply → Except Error Bytes
  | .bytes bs => if bs.length = n then .ok bs else .error (.sourceMiscounted n)
  | .other => .error (.sourceMiscounted n)
  | .failure reason => .error (.sourceFailed reason)

/-- Draws `n` bytes. -/
def bytes (n : Nat) : Draw Bytes :=
  ExceptT.mk fun e ↦ (accept n (e.source e.asked n), { e with asked := n :: e.asked })

/-- Draws the number that `n` bytes spell. -/
def number (n : Nat) : Draw Nat := do return Bytes.toNat (← bytes n)

/-- Draws a number of bytes; no source returns a negative number of them. -/
def bytesOfCount (n : Int) : Draw Bytes :=
  if n < 0 then
    ExceptT.mk fun e ↦
      let failure : Error := match e.source e.asked 0 with
        | .failure reason => .sourceFailed reason
        | _ => .sourceMiscounted n
      (.error failure, { e with asked := 0 :: e.asked })
  else bytes n.toNat

section Until

variable {α : Type}

/-- Repeats a computation until a result passes a test or the computation fails; there is nothing if
this never happens. -/
def search (d : Draw α) (p : α → Bool) (e : Entropy) : Option (Except Error α × Entropy) :=
  match d.runOn e with
  | (.error err, e') => some (.error err, e')
  | (.ok a, e') => if p a then some (.ok a, e') else d |>.search p e'
partial_fixpoint

/-- The first result of a computation that passes a test, however often the computation has to be
repeated.  If that goes on for ever nothing is left behind, and the supply that was given stands for
it. -/
def first (d : Draw α) (p : α → Bool) : Draw α :=
  ExceptT.mk fun e ↦ (search d p e).getD (.error .endless, e)

end Until

theorem runOn_bytes (n : Nat) (e : Entropy) :
    (bytes n).runOn e = (accept n (e.source e.asked n), { e with asked := n :: e.asked }) := rfl

theorem length_of_accept {n : Nat} {r : Reply} {bs : Bytes} (h : accept n r = .ok bs) :
    bs.length = n := by
  cases r with
  | bytes b =>
    rw [accept] at h
    split at h
    next hlen => cases h; exact hlen
    next => cases h
  | other => cases h
  | failure reason => cases h

end Draw

end Apake
