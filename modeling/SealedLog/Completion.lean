import SealedLog.Command

/-!
# Completions

Every command has a completion of its own. It is pending until its command is resolved for the
first time; later attempts to resolve it change nothing. The outcome is handed out once, to the
one who waits, while the status stays.

- `Completion.resolve`: tells whether it was the first to resolve.
- `Completion.collect`: the outcome for the one who waits.
- `Handle`: the right to resolve a completion, which is given up if it is not used.
- `Ticket`: the number of a completion, by which an element refers to it.
-/

namespace SealedLog

/-- How far a command has come. -/
inductive CommandStatus
  | pending
  | succeeded
  | failed
deriving Repr, DecidableEq

/-- The status of a command that ended so. -/
def CommandStatus.ofOutcome : Outcome → CommandStatus
  | .ok _ => .succeeded
  | .error _ => .failed

/-- Where the outcome of one command arrives. -/
structure Completion where
  status : CommandStatus := .pending
  outcome : Option Outcome := none

namespace Completion

/-- Resolves a pending completion; `false` if it was resolved before. -/
def resolve (completion : Completion) (outcome : Outcome) : Completion × Bool :=
  if completion.status = .pending then (⟨.ofOutcome outcome, some outcome⟩, true)
  else (completion, false)

/-- What a wait that is over finds: nothing if the command is still pending. -/
def collect (completion : Completion) : Option Outcome × Completion :=
  if completion.status = .pending then (none, completion)
  else (completion.outcome, { completion with outcome := none })

end Completion

/-- The right to resolve a completion. Using it uses it up. -/
structure Handle where
  armed : Bool := true
deriving Repr, DecidableEq

namespace Handle

/-- Takes the completion out of a handle and resolves it; a handle that was used before has none.
What the attempt was told comes last, if there was one. -/
def use (handle : Handle) (outcome : Outcome) (completion : Completion) :
    (Handle × Completion) × List Bool :=
  if handle.armed then
    let (completion, first) := completion.resolve outcome
    ((⟨false⟩, completion), [first])
  else ((handle, completion), [])

/-- Gives a handle up, which is what becomes of every handle in the end. -/
def drop (handle : Handle) (completion : Completion) : (Handle × Completion) × List Bool :=
  handle.use (.error .abandoned) completion

/-- Resolves the completion with an answer. Then the handle is given up. -/
def complete (handle : Handle) (outcome : Outcome) (completion : Completion) :
    (Handle × Completion) × List Bool :=
  let ((handle, completion), told) := handle.use outcome completion
  let (left, more) := handle.drop completion
  (left, told ++ more)

end Handle

/-- The number of a completion, counted from zero in the order of submission. -/
abbrev Ticket := Nat

/-- One attempt of an element to resolve a command. Giving a command up without an answer
resolves it as abandoned. -/
structure Resolution where
  ticket : Ticket
  outcome : Outcome

/-- The resolution of a command that is given up. -/
def Resolution.drop (ticket : Ticket) : Resolution := ⟨ticket, .error .abandoned⟩

namespace Completion

/-- The completions after one attempt to resolve. -/
def settle (completions : List Completion) (resolution : Resolution) : List Completion :=
  completions.modify resolution.ticket fun completion =>
    (completion.resolve resolution.outcome).1

/-- The completions after several attempts to resolve, in order. -/
def settleAll (completions : List Completion) (resolutions : List Resolution) :
    List Completion :=
  resolutions.foldl settle completions

end Completion

end SealedLog
