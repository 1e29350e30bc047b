import SealedLog.Gateway

/-!
# The scripted element

An element that answers by a script, one step for each command. It can answer with anything,
refuse, hold handles back and resolve them later, so it stands in for elements that misbehave.

- `ScriptedElement.react`: the next step applied to a command.
- `ScriptedElement.release`: resolves a handle that is held back.
-/

namespace SealedLog

/-- What a script does with a handle. -/
inductive Answer
  | output (output : Output)
  | fail (code : StatusCode)
  /-- The handle is given up. -/
  | drop
  /-- The handle is kept for later. -/
  | hold
deriving Repr, DecidableEq

namespace Answer

/-- How an answer resolves a command, if it does. -/
def outcome? : Answer → Option Outcome
  | .output what => some (.ok what)
  | .fail code => some (.error code)
  | .drop => some (.error .abandoned)
  | .hold => none

end Answer

/-- One step of a script. -/
structure ScriptStep where
  answer : Answer := .output .done
  /-- The command is refused after that. -/
  refusal : Option StatusCode := none
  /-- A handle held back is resolved before that. -/
  late : Option (Nat × Answer) := none
deriving Repr, DecidableEq

/-- An element that follows a script. -/
structure ScriptedElement where
  steps : List ScriptStep := []
  /-- The commands submitted so far, refused ones included. -/
  seen : List Command := []
  /-- The handles that were held back, in order, without those resolved since. -/
  held : List (Option Ticket) := []
deriving Repr, DecidableEq

namespace ScriptedElement

/-- Resolves a handle that is held back, and says how. -/
def release (element : ScriptedElement) (index : Nat) (answer : Answer) :
    Option Resolution × ScriptedElement :=
  match element.held[index]?, answer.outcome? with
  | some (some ticket), some outcome =>
    (some ⟨ticket, outcome⟩, { element with held := element.held.set index none })
  | _, _ => (none, element)

/-- The element when the handle that a step is late with has been resolved. -/
def catchUp (element : ScriptedElement) (step : ScriptStep) :
    Option Resolution × ScriptedElement :=
  match step.late with
  | none => (none, element)
  | some (index, answer) => element.release index answer

/-- The reaction to a command: the next step, or a plain answer if the script is over. -/
def react (ticket : Ticket) (command : Command) (element : ScriptedElement) :
    Reaction ScriptedElement :=
  let step := element.steps.headD {}
  let element :=
    { element with steps := element.steps.drop 1, seen := element.seen ++ [command] }
  let (caughtUp, element) := element.catchUp step
  match step.answer.outcome? with
  | some outcome =>
    { element, refusal := step.refusal
      resolved := caughtUp.toList ++ [⟨ticket, outcome⟩] }
  | none =>
    { element := { element with held := element.held ++ [some ticket] }
      refusal := step.refusal
      resolved := caughtUp.toList }

/-- A script is followed when commands are submitted; nothing happens while a caller waits. -/
instance : Element ScriptedElement where
  name _ := "script"
  submit := react
  await _ element files := { element, files }

end ScriptedElement

/-- Resolves a handle that is held back, and says whether there was one. -/
def Gateway.release (index : Nat) (answer : Answer) (gateway : Gateway ScriptedElement) :
    Bool × Gateway ScriptedElement :=
  let (resolution, element) := gateway.element.release index answer
  (resolution.isSome, { gateway with element }.settle resolution.toList)

end SealedLog
