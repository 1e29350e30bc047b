import SealedLog.Completion
import SealedLog.Files
import SealedLog.Notice
import SealedLog.Text.Span

/-!
# Secure elements

An element is a state machine that takes commands. It accepts or refuses a command when it is
submitted, and it may resolve this command or earlier ones then. The rest of its work it does
while a caller waits; only then does it touch files, and only then does time go by.

- `Reaction`: what an element does when a command is submitted.
- `Activity`: what it does while a caller waits.
- `Element`: an element with both.
-/

namespace SealedLog

/-- What an element does when a command is submitted to it. -/
structure Reaction (ε : Type) where
  element : ε
  /-- The command is not accepted. -/
  refusal : Option StatusCode := none
  /-- Resolved before the submission returns. -/
  resolved : List Resolution := []

/-- What an element does while a caller waits. -/
structure Activity (ε : Type) where
  element : ε
  files : Files
  /-- Resolved before the wait is over. -/
  timely : List Resolution := []
  /-- Resolved after the wait is over, but before the caller notes how its command stands. -/
  overdue : List Resolution := []
  /-- How long it took until the last of the timely ones was resolved. -/
  elapsed : Span := ⟨0⟩
  /-- Reported by the element's worker. -/
  notices : List Notice := []

/-- A secure element with states `ε`. -/
class Element (ε : Type) where
  /-- The name by which the element is known. -/
  name : ε → String
  /-- The reaction to a command, whose completion has the ticket given. -/
  submit : Ticket → Command → ε → Reaction ε
  /-- The activity while a caller waits, for a limited time or for as long as it takes. -/
  await : Option Span → ε → Files → Activity ε

/-- The reaction of an element that is one of two. -/
def Reaction.map {α β : Type} (f : α → β) (reaction : Reaction α) : Reaction β :=
  { reaction with element := f reaction.element }

/-- The activity of an element that is one of two. -/
def Activity.map {α β : Type} (f : α → β) (activity : Activity α) : Activity β :=
  { activity with element := f activity.element }

instance {α β : Type} [Element α] [Element β] : Element (α ⊕ β) where
  name := Sum.elim Element.name Element.name
  submit ticket command element :=
    match element with
    | .inl element => (Element.submit ticket command element).map .inl
    | .inr element => (Element.submit ticket command element).map .inr
  await limit element files :=
    match element with
    | .inl element => (Element.await limit element files).map .inl
    | .inr element => (Element.await limit element files).map .inr

end SealedLog
