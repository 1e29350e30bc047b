import SealedLog.Proofs.Completion
import SealedLog.Proofs.Gateway
import SealedLog.Proofs.SoftElement.Worker

/-!
# A software element at a gateway

When no fault is prepared and there is time enough, a command through a gateway comes to what the
element answers when it is through with everything before it.

- `Undisturbed`: no fault, and time enough for one more command.
- `served`: the execution of a command after everything that was queued.
- `submitAndWait_served`: a command ends as it is executed.
-/

namespace SealedLog.SoftElement

open Gateway

variable {gateway gateway' : Gateway SoftElement} {files : Files} {command : Command}

/-- A command that passes the check is queued when no fault is prepared. -/
theorem react_of_no_fault {element : SoftElement} (hfaults : element.faults = [])
    (hcheck : checkParameters command = .ok ()) (ticket : Ticket) :
    element.react ticket command =
      { element :=
          { element with
            queue := element.queue ++ [⟨ticket, command, none⟩]
            history := element.history ++ [command.name] } } := by
  rw [react, hcheck, hfaults]
  rcases element with ⟨slots, generator, latency, handover, stateFile, queue, spent, faults, old,
    stalled⟩
  cases hfaults
  rfl

/-- No fault is prepared, what is queued belongs to other commands, and there is time enough for one
command after that. -/
structure Undisturbed (gateway : Gateway SoftElement) (files : Files) : Prop where
  faults : gateway.element.faults = []
  queued : ∀ job ∈ gateway.element.queue, job.ticket < gateway.completions.length
  inTime : ((gateway.element.await none files).elapsed
    + gateway.element.pace).isWithin gateway.timeout = true

/-- A command executed after everything that was queued. -/
def served (gateway : Gateway SoftElement) (command : Command) (files : Files) : Execution :=
  (gateway.element.settled files).execute command (gateway.element.await none files).files

/-- The gateway after a command was served. -/
structure After (gateway : Gateway SoftElement) (command : Command) (files : Files)
    (gateway' : Gateway SoftElement) : Prop where
  element : gateway'.element =
    { (served gateway command files).element with
      history := gateway.element.history ++ [command.name] }
  completions : gateway'.completions.length = gateway.completions.length + 1
  timeout : gateway'.timeout = gateway.timeout

theorem sent_eq (hfaults : gateway.element.faults = [])
    (hcheck : checkParameters command = .ok ()) :
    gateway.sent command =
      { gateway with
        element :=
          { gateway.element with
            queue := gateway.element.queue ++ [⟨gateway.completions.length, command, none⟩]
            history := gateway.element.history ++ [command.name] }
        completions := gateway.completions ++ [{}]
        issued := gateway.issued + 1
        status := some .pending } := by
  rw [sent]
  show gateway.submitted (react _ _ _) = _
  rw [react_of_no_fault hfaults hcheck]
  rfl

/-- What the worker does after a command was submitted: everything before it, and then the
command. -/
theorem activity_sent (h : Undisturbed gateway files)
    (hcheck : checkParameters command = .ok ()) :
    (gateway.sent command).activity gateway.completions.length files
      = withHistory (gateway.element.history ++ [command.name])
          (andThen (gateway.element.await none files)
            ⟨gateway.completions.length, command, none⟩) := by
  have hpending : (gateway.sent command).isPending gateway.completions.length = true := by
    rw [sent_eq h.faults hcheck, isPending, completion]
    simp
  have hall : workOff none
      (gateway.element.queue ++ [⟨gateway.completions.length, command, none⟩])
      { gateway.element with queue := [], history := gateway.element.history ++ [command.name] }
      files = withHistory (gateway.element.history ++ [command.name])
          (andThen (gateway.element.await none files)
            ⟨gateway.completions.length, command, none⟩) :=
    (workOff_withHistory _ _ { gateway.element with queue := [] } files).trans
      (congrArg (withHistory _) (workOff_append _ _ _ _))
  rw [activity, if_pos hpending, sent_eq h.faults hcheck, ← hall]
  refine workOff_of_isWithin _ _ _ _ ?_
  rw [hall]
  -- Nothing was spent on the command before, or it takes less than its time.
  refine Span.isWithin_of_le ?_ h.inTime
  have hpace : (gateway.element.await none files).element.pace = gateway.element.pace :=
    (steady_workOff gateway.element.queue { gateway.element with queue := [] } files).pace
  show _ + ((gateway.element.await none files).element.pace.nanos - _) ≤ _
  rw [hpace]
  simp only [Span.nanos_add]
  omega

/-- A command is answered as it is executed. -/
theorem answered_served (h : Undisturbed gateway files)
    (hcheck : checkParameters command = .ok ()) :
    (gateway.answered command files).1.1 = some (served gateway command files).outcome ∧
      After gateway command files (gateway.answered command files).1.2 := by
  -- Whatever else is resolved meanwhile belongs to an earlier command.
  have hothers : ∀ resolution ∈ (gateway.element.await none files).timely,
      resolution.ticket ≠ gateway.completions.length := by
    intro resolution hresolution
    obtain ⟨job, hjob, hticket⟩ := ticket_of_mem_timely hresolution
    rw [hticket]
    exact Nat.ne_of_lt (h.queued job hjob)
  have htimely : (andThen (gateway.element.await none files)
      ⟨gateway.completions.length, command, none⟩).timely
        = (gateway.element.await none files).timely
          ++ [⟨gateway.completions.length, (served gateway command files).outcome⟩] := by
    have hid : (served gateway command files).outcome.map id
        = (served gateway command files).outcome := by
      cases (served gateway command files).outcome <;> rfl
    rw [← hid]
    rfl
  have hlen := gateway.length_answered command files
  rw [answered] at hlen ⊢
  dsimp only at hlen ⊢
  rw [activity_sent h hcheck, waited, sent_eq h.faults hcheck] at hlen ⊢
  refine ⟨?_, ⟨rfl, hlen, rfl⟩⟩
  show ((Completion.settleAll _ (andThen _ _).timely).getD _ {}).collect.1 = _
  rw [htimely]
  refine Completion.collect_settleAll hothers ?_ ?_ _
  · simp
  · simp

variable {world : World} {Halts : Halt → Prop}
  {Bad : CommandError → Gateway SoftElement → World → Prop}
  {Good : Output → Gateway SoftElement → World → Prop}

/-- A command ends as it is executed. -/
theorem submitAndWait_served (h : Undisturbed gateway world.files)
    (hcheck : checkParameters command = .ok ())
    (hok : ∀ output gateway' world', (served gateway command world.files).outcome = .ok output →
      After gateway command world.files gateway' → Good output gateway' world')
    (hfailed : ∀ code gateway' world',
      (served gateway command world.files).outcome = .error code →
      After gateway command world.files gateway' →
        Bad (.failed command.name code) gateway' world') :
    (submitAndWait command).Ensures gateway world Halts Bad Good := by
  obtain ⟨hfound, hafter⟩ := answered_served h hcheck
  refine submitAndWait_ensures ?_ ?_ ?_ ?_ ?_
  · intro code world' hrefusal
    rw [show Element.submit _ command gateway.element = _ from
      react_of_no_fault h.faults hcheck _] at hrefusal
    cases hrefusal
  · intro output world' houtput _ _
    rw [hfound] at houtput
    exact hok output _ world' (Option.some.inj houtput) hafter
  · intro code world' hcode _ _
    rw [hfound] at hcode
    exact hfailed code _ world' (Option.some.inj hcode) hafter
  · intro timeout world' hnone
    rw [hfound] at hnone
    cases hnone
  · intro hnone
    rw [hfound] at hnone
    cases hnone

/-- A command that is executed without an error ends in its output. -/
theorem submitAndWait_of_ok (h : Undisturbed gateway world.files)
    (hcheck : checkParameters command = .ok ()) {output : Output}
    (houtput : (served gateway command world.files).outcome = .ok output)
    (hgood : ∀ gateway' world', After gateway command world.files gateway' →
      Good output gateway' world') :
    (submitAndWait command).Ensures gateway world Halts Bad Good := by
  refine submitAndWait_served h hcheck ?_ ?_
  · intro other gateway' world' hother hafter
    rw [houtput] at hother
    obtain rfl := Except.ok.inj hother
    exact hgood gateway' world' hafter
  · intro code gateway' world' hcode
    rw [houtput] at hcode
    cases hcode

/-! ## Nothing queued -/

/-- No fault is prepared, nothing is queued, and there is time enough for any command. -/
structure Idle (gateway : Gateway SoftElement) : Prop where
  faults : gateway.element.faults = []
  queue : gateway.element.queue = []
  inTime : gateway.element.pace.isWithin gateway.timeout = true

theorem Idle.undisturbed (h : Idle gateway) (files : Files) : Undisturbed gateway files := by
  refine ⟨h.faults, ?_, ?_⟩
  · rw [h.queue]
    exact fun _ hmem => absurd hmem List.not_mem_nil
  · refine Span.isWithin_of_le ?_ h.inTime
    rw [await, h.queue, workOff]
    exact Nat.le_of_eq (Nat.zero_add _)

/-- After a command nothing is queued. -/
theorem After.idle (hafter : After gateway command files gateway')
    (h : Undisturbed gateway files) : Idle gateway' := by
  have hsteady := steady_settled gateway.element files
  have hexecuted := execute_element (gateway.element.settled files) command
    (gateway.element.await none files).files
  constructor
  · rw [hafter.element]
    show (served gateway command files).element.faults = []
    rw [served, hexecuted]
    exact hsteady.faults.trans h.faults
  · rw [hafter.element]
    show (served gateway command files).element.queue = []
    rw [served, hexecuted]
    exact hsteady.queue
  · rw [hafter.element, hafter.timeout]
    show (served gateway command files).element.pace.isWithin _ = true
    rw [served, hexecuted]
    refine Span.isWithin_of_le ?_ h.inTime
    show (gateway.element.settled files).pace.nanos ≤ _
    rw [hsteady.pace]
    exact Nat.le_add_left _ _

theorem After.slots (hafter : After gateway command files gateway') :
    gateway'.element.slots = (served gateway command files).element.slots := by
  rw [hafter.element]

end SealedLog.SoftElement
