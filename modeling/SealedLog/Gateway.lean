import SealedLog.Act
import SealedLog.Element
import SealedLog.Error

/-!
# The command gateway

A gateway submits commands to one element, one at a time, and waits for each of them. Every
command gets a new completion, so a late answer to an earlier command cannot be taken for the
answer to a later one.

- `Gateway.waited`: what one wait finds, and the status it leaves.
- `Gateway.submitAndWait`: one command from submission to result.
- `Gateway.generateRandom` and the other four: one kind of command each, with the kind of answer
  that belongs to it.
-/

namespace SealedLog

/-- A connection to an element. -/
structure Gateway (ε : Type) where
  element : ε
  /-- All completions handed to the element so far. -/
  completions : List Completion := []
  /-- How long a command may take; without a limit a caller waits as long as it takes. -/
  timeout : Option Span
  /-- How many commands were submitted, refused ones included. -/
  issued : Nat := 0
  /-- The status of the latest command. -/
  status : Option CommandStatus := none

namespace Gateway

variable {ε : Type}

/-- The completion with a ticket. -/
def completion (gateway : Gateway ε) (ticket : Ticket) : Completion :=
  gateway.completions.getD ticket {}

/-- The gateway after attempts to resolve commands. -/
def settle (gateway : Gateway ε) (resolutions : List Resolution) : Gateway ε :=
  { gateway with completions := Completion.settleAll gateway.completions resolutions }

/-- The gateway when a command has just been submitted. -/
def submitted (gateway : Gateway ε) (reaction : Reaction ε) : Gateway ε :=
  settle
    { gateway with
      element := reaction.element
      completions := gateway.completions ++ [{}]
      issued := gateway.issued + 1
      status := some .pending }
    reaction.resolved

/-- Whether a command has not been resolved yet. -/
def isPending (gateway : Gateway ε) (ticket : Ticket) : Bool :=
  (gateway.completion ticket).status = .pending

/-- What a wait for a command finds, and the gateway when the status of the command has been
noted. -/
def waited (gateway : Gateway ε) (ticket : Ticket) (activity : Activity ε) :
    Option Outcome × Gateway ε :=
  let gateway := { gateway with element := activity.element }.settle activity.timely
  let (found, rest) := (gateway.completion ticket).collect
  -- What arrives between the end of the wait and this note still shows in the status.
  let gateway :=
    { gateway with completions := gateway.completions.set ticket rest }.settle activity.overdue
  (found, { gateway with status := some (gateway.completion ticket).status })

section Commands

variable [Element ε]

/-- Hands a command to the element. -/
def submit (command : Command) : Act (Gateway ε) (Option StatusCode) :=
  modifyGet fun gateway =>
    let reaction := Element.submit gateway.completions.length command gateway.element
    (reaction.refusal, gateway.submitted reaction)

/-- Waits for an accepted command while the element works. A command that is resolved already is
not waited for. -/
def wait (ticket : Ticket) : Act (Gateway ε) (Option Outcome) := do
  let gateway ← get
  let world ← Scene.world
  let activity : Activity ε :=
    if gateway.isPending ticket then Element.await gateway.timeout gateway.element world.files
    else { element := gateway.element, files := world.files }
  let (found, gateway) := gateway.waited ticket activity
  -- Who finds nothing has waited to the end.
  let elapsed := if found.isSome then activity.elapsed else gateway.timeout.getD activity.elapsed
  set gateway
  set { world with
    files := activity.files
    waited := world.waited + elapsed
    notices := activity.notices.reverse ++ world.notices }
  return found

/-- Submits a command and waits until it is resolved or the time is over. -/
def submitAndWait (command : Command) : Attempt (Gateway ε) CommandError Output := do
  let before ← get
  let about : List (String × String) :=
    [("command", Notice.quoted command.name), ("seq", toString (before.issued + 1))]
  match ← (submit command : Act (Gateway ε) (Option StatusCode)) with
  | some code =>
    -- The element may have resolved a command it refuses; nobody asks for that outcome.
    modify fun gateway => { gateway with status := some .failed }
    Scene.note ⟨.warn, "command rejected at submission", about ++ [("code", code.text)], .gateway⟩
    throw (.refused command.name code)
  | none =>
    let found ← (wait before.completions.length : Act (Gateway ε) (Option Outcome))
    match found, before.timeout with
    | some (.ok output), _ => return output
    | some (.error code), _ =>
      Scene.note ⟨.warn, "command failed", about ++ [("code", code.text)], .gateway⟩
      throw (.failed command.name code)
    | none, some timeout =>
      Scene.note ⟨.warn, "command timed out; abandoning",
        about ++ [("timeout", timeout.text)], .gateway⟩
      throw (.timedOut command.name timeout)
    | none, none => Scene.halt .waitsForever

/-- Random bytes from the element. -/
def generateRandom (len : Nat) : Attempt (Gateway ε) CommandError Bytes := do
  match ← submitAndWait (.generateRandom len) with
  | .random bytes => return bytes
  | _ => throw (.unexpectedResponse (Command.generateRandom len).name)

/-- The metadata of a key slot. -/
def readMetadata (slot : ObjectId) : Attempt (Gateway ε) CommandError Bytes := do
  match ← submitAndWait (.readMetadata slot) with
  | .metadata bytes => return bytes
  | _ => throw (.unexpectedResponse (Command.readMetadata slot).name)

/-- Sets the metadata of a key slot. Any answer that is no failure will do. -/
def writeMetadata (slot : ObjectId) (metadata : Bytes) :
    Attempt (Gateway ε) CommandError Unit := do
  let _ ← submitAndWait (.writeMetadata slot metadata)

/-- Makes a key inside the element. Any answer that is no failure will do. -/
def generateSymmetricKey (slot : KeySlot) : Attempt (Gateway ε) CommandError Unit := do
  let _ ← submitAndWait (.generateSymmetricKey slot.id slot.algorithm slot.usage)

/-- A plaintext enciphered inside the element. -/
def encrypt (slot : KeySlot) (mode : CipherMode) (plaintext iv : Bytes) :
    Attempt (Gateway ε) CommandError Bytes := do
  match ← submitAndWait (.encrypt slot.id mode plaintext iv) with
  | .ciphertext bytes => return bytes
  | _ => throw (.unexpectedResponse (Command.encrypt slot.id mode plaintext iv).name)

end Commands

end Gateway

end SealedLog
