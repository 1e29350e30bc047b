import SealedLog.Files
import SealedLog.Notice
import SealedLog.Text.Span

/-!
# Actions

Everything the log does is an action: a function of some state and of the world around it. An
action gives a result and the new states, or it never comes back, because it waits for something
that does not happen or because it is aborted.

- `World`: the file system, the clock and the time things take, and the notices so far.
- `Scene α`: an action on the world alone.
- `Act σ α`: an action on a state `σ` and the world.
- `Attempt σ ε α`: an action whose result can be an error `ε`.
- `Act.within`, `Attempt.within`: an action on a part of a larger state.
-/

namespace SealedLog

/-- What surrounds a run. Notices are kept latest first. -/
structure World where
  files : Files := {}
  /-- Milliseconds on the clock when an action begins. -/
  now : Nat := 0
  /-- How long callers have waited for an element. -/
  waited : Span := ⟨0⟩
  /-- The moment it takes to wake a worker up. -/
  handover : Span := ⟨0⟩
  notices : List Notice := []
deriving Repr

/-- Why a caller never gets an answer. -/
inductive Halt
  /-- An answer is waited for that no one will give. -/
  | waitsForever
  /-- A log is divided into records of no length. -/
  | emptyRecords
  /-- More bytes are asked for at once than there can ever be. -/
  | capacityOverflow
deriving Repr, DecidableEq

/-- An action on the world. -/
abbrev Scene := StateT World (Except Halt)

/-- An action on a state and the world. -/
abbrev Act (σ : Type) := StateT σ Scene

/-- An action whose result can be an error. -/
abbrev Attempt (σ ε : Type) := ExceptT ε (Act σ)

namespace Scene

variable {α : Type}

/-- An action that does not come back. -/
def halt (why : Halt) : Scene α := fun _ => .error why

/-- The world as it is. -/
def world : Scene World := get

/-- Reports an event. -/
def note (notice : Notice) : Scene Unit :=
  modify fun world => { world with notices := notice :: world.notices }

/-- A step on the file system. -/
def onFiles (step : FileStep α) : Scene (Except SystemError α) :=
  modifyGet fun world =>
    let (result, files) := step world.files
    (result, { world with files })

end Scene

namespace Act

variable {σ τ α : Type}

/-- An action on a part of a state. -/
def within (part : τ → σ) (replace : σ → τ → τ) (act : Act σ α) : Act τ α :=
  fun state world =>
    match act (part state) world with
    | .error why => .error why
    | .ok ((a, inner), world) => .ok ((a, replace inner state), world)

end Act

namespace Attempt

variable {σ τ ε ε₂ α : Type}

/-- An attempt that is over at once: it has a result, good or bad, or it does not come back. -/
def ended (outcome : Except Halt (Except ε α)) : Attempt σ ε α :=
  ExceptT.mk fun state world => outcome.map fun result => ((result, state), world)

/-- An attempt on a part of a state. -/
def within (part : τ → σ) (replace : σ → τ → τ) (attempt : Attempt σ ε α) : Attempt τ ε α :=
  ExceptT.mk (Act.within part replace attempt.run)

/-- An attempt whose result, good or bad, is a value to go on with. -/
def caught (attempt : Attempt σ ε α) : Attempt σ ε₂ (Except ε α) :=
  ExceptT.mk (do return .ok (← attempt.run))

/-- An attempt with its error put into other terms. -/
def orElseAs (attempt : Attempt σ ε α) (f : ε → ε₂) : Attempt σ ε₂ α := ExceptT.adapt f attempt

end Attempt

end SealedLog
