import SealedLog.Proofs.Gateway.Fate

/-!
# Results and the status beside them

When a command has come back, the gateway shows how it stands. Result and status are taken from the
completion one after the other, and the element does not wait for either. So a command that timed
out can be resolved after its caller has turned away and before the status is noted: the caller is
told of a timeout, and the gateway shows a command that was resolved.

- `Agrees result status`: result and status tell the same.
- `Fate.agrees_iff`: they do so but for one fate.
- `agrees_iff_of_run`: so it is for any command and any element; what a late resolution leaves.
- `not_agrees_of_tardy`: an element that is always late.
-/

namespace SealedLog.Gateway

/-- The status of a command tells the same as its result. -/
structure Agrees (result : Except CommandError Output) (status : Option CommandStatus) : Prop where
  succeeded : status = some .succeeded ↔ ∃ output, result = .ok output
  failed : status = some .failed ↔ ∃ command code,
    result = .error (.refused command code) ∨ result = .error (.failed command code)
  pending : status = some .pending ↔ ∃ command timeout, result = .error (.timedOut command timeout)

namespace Agrees

theorem of_output (output : Output) : Agrees (.ok output) (some .succeeded) := by
  constructor <;> simp

theorem of_refused (command : String) (code : StatusCode) :
    Agrees (.error (.refused command code)) (some .failed) := by
  constructor <;> simp

theorem of_failed (command : String) (code : StatusCode) :
    Agrees (.error (.failed command code)) (some .failed) := by
  constructor <;> simp

theorem of_timedOut_iff {command : String} {timeout : Span} {status : CommandStatus} :
    Agrees (.error (.timedOut command timeout)) (some status) ↔ status = .pending := by
  constructor
  · intro h
    exact Option.some.inj (h.pending.mpr ⟨command, timeout, rfl⟩)
  · rintro rfl
    constructor <;> simp

end Agrees

/-- Of all the fates that come to a result, only that of a late resolution has another status. -/
theorem Fate.agrees_iff {fate : Fate} {timeout : Option Span} {command : Command}
    {result : Except CommandError Output} (h : fate.result timeout command = .ok result) :
    Agrees result (some fate.status) ↔ ∀ outcome, fate ≠ .late outcome := by
  cases fate with
  | refused code =>
    obtain rfl := Except.ok.inj h
    simpa [status] using Agrees.of_refused command.name code
  | inTime outcome =>
    cases outcome with
    | ok output =>
      obtain rfl := Except.ok.inj h
      simpa [status, CommandStatus.ofOutcome] using Agrees.of_output output
    | error code =>
      obtain rfl := Except.ok.inj h
      simpa [status, CommandStatus.ofOutcome] using Agrees.of_failed command.name code
  | late outcome =>
    cases timeout with
    | none => cases h
    | some timeout =>
      obtain rfl := Except.ok.inj h
      rw [Agrees.of_timedOut_iff]
      simpa [status] using Completion.status_ofOutcome_ne_pending outcome
  | left =>
    cases timeout with
    | none => cases h
    | some timeout =>
      obtain rfl := Except.ok.inj h
      rw [Agrees.of_timedOut_iff]
      simp [status]

/-- A late resolution is told as a timeout. -/
theorem Fate.result_late {outcome : Outcome} {timeout : Option Span} {command : Command}
    {result : Except CommandError Output}
    (h : (Fate.late outcome).result timeout command = .ok result) :
    ∃ limit, timeout = some limit ∧ result = .error (.timedOut command.name limit) := by
  cases timeout with
  | none => cases h
  | some limit => exact ⟨limit, rfl, (Except.ok.inj h).symm⟩

variable {ε : Type} [Element ε]

/-- Any command has come back from any element, whenever and however often that has resolved it.
The status that the gateway shows then agrees with the result, unless the command was resolved
between the end of the wait and the note of its status. In that one case the result is a timeout,
and the status is that of the outcome nobody was given. -/
theorem agrees_iff_of_run {command : Command} {gateway gateway' : Gateway ε} {world world' : World}
    {result : Except CommandError Output}
    (h : (submitAndWait command).run gateway world = .ok ((result, gateway'), world')) :
    (Agrees result gateway'.status ↔
        ∀ outcome, gateway.fate command world.files ≠ .late outcome) ∧
      ∀ outcome, gateway.fate command world.files = .late outcome →
        (∃ limit, gateway.timeout = some limit ∧
          result = .error (.timedOut command.name limit)) ∧
        gateway'.status = some (.ofOutcome outcome) := by
  obtain ⟨⟨rfl, -, -⟩, hresult⟩ := ended_of_run h
  rw [status_after]
  constructor
  · exact Fate.agrees_iff hresult
  · intro outcome hlate
    rw [hlate] at hresult ⊢
    exact ⟨Fate.result_late hresult, rfl⟩

/-! ## An element that is late -/

/-- An element that resolves every command just when the wait for it is over. -/
structure Tardy where
  due : Ticket := 0

instance : Element Tardy where
  name _ := "tardy"
  submit ticket _ _ := { element := ⟨ticket⟩ }
  await _ tardy files := { element := tardy, files, overdue := [⟨tardy.due, .ok .done⟩] }

/-- A gateway to an element that is late. -/
def awaiting : Gateway Tardy where
  element := {}
  timeout := some (.ofMillis 10)

/-- The caller is told that the command did not complete, and the gateway shows that it succeeded. -/
theorem agrees_iff_of_late_run :
    ∃ gateway world, (submitAndWait (.writeMetadata 7 [32])).run awaiting {}
        = .ok ((.error (.timedOut "write_metadata" (.ofMillis 10)), gateway), world) ∧
      gateway.status = some .succeeded ∧
      ¬ Agrees (.error (.timedOut "write_metadata" (.ofMillis 10))) gateway.status := by
  have hrun : ∃ gateway world, (submitAndWait (.writeMetadata 7 [32])).run awaiting {}
      = .ok ((.error (.timedOut "write_metadata" (.ofMillis 10)), gateway), world) :=
    ⟨_, _, rfl⟩
  obtain ⟨gateway, world, hrun⟩ := hrun
  have hlate : awaiting.fate (.writeMetadata 7 [32]) {} = .late (.ok .done) := rfl
  obtain ⟨hagrees, hshown⟩ := agrees_iff_of_run hrun
  refine ⟨gateway, world, hrun, (hshown _ hlate).2, ?_⟩
  exact fun hagree => hagrees.mp hagree _ hlate

/-- Not every result agrees with the status beside it. -/
theorem not_agrees_of_tardy :
    ¬ ∀ (command : Command) (gateway gateway' : Gateway Tardy) (world world' : World)
      (result : Except CommandError Output),
      (submitAndWait command).run gateway world = .ok ((result, gateway'), world') →
      Agrees result gateway'.status := by
  intro hagree
  have hagrees := hagree (.writeMetadata 7 [32]) awaiting _ {} _
    (.error (.timedOut "write_metadata" (.ofMillis 10))) rfl
  have hpending := hagrees.pending.mpr ⟨_, _, rfl⟩
  cases hpending

end SealedLog.Gateway
