import Mathlib.Data.List.Basic
import SealedLog.Proofs.Gateway

/-!
# The fate of a command

What a command comes to is decided by what happens to its own completion until the call returns.

- `Completion.first`: of several attempts to resolve commands, the first at a given one.
- `Gateway.Fate`: all that the call of a command depends on.
- `Gateway.submitAndWait_fate`: the result of a command, from its fate alone.
- `Gateway.status_after`, `Gateway.issued_after`: so are the status and the count.
-/

namespace SealedLog

/-! ## The first attempt -/

namespace Completion

variable {completions : List Completion} {resolutions : List Resolution} {ticket : Ticket}

/-- The outcome of the first attempt at the command with a ticket. -/
def first (ticket : Ticket) (resolutions : List Resolution) : Option Outcome :=
  (resolutions.find? fun resolution => resolution.ticket = ticket).map (·.outcome)

theorem first_cons_self (outcome : Outcome) (later : List Resolution) :
    first ticket (⟨ticket, outcome⟩ :: later) = some outcome := by
  rw [first, List.find?_cons_of_pos (by simp)]
  rfl

theorem first_cons_of_ne {resolution : Resolution} (h : resolution.ticket ≠ ticket)
    (later : List Resolution) : first ticket (resolution :: later) = first ticket later := by
  rw [first, List.find?_cons_of_neg (by simpa using h), first]

theorem mem_of_first {outcome : Outcome} (h : first ticket resolutions = some outcome) :
    ⟨ticket, outcome⟩ ∈ resolutions := by
  obtain ⟨resolution, hfind, rfl⟩ := Option.map_eq_some_iff.mp h
  have hticket : resolution.ticket = ticket := by simpa using List.find?_some hfind
  rw [← hticket]
  exact List.mem_of_find?_eq_some hfind

/-- A completion after an attempt, if there was one. -/
def attempted (completion : Completion) : Option Outcome → Completion
  | none => completion
  | some outcome => (completion.resolve outcome).1

theorem attempted_of_resolved {completion : Completion} (h : completion.status ≠ .pending)
    (attempt : Option Outcome) : completion.attempted attempt = completion := by
  cases attempt with
  | none => rfl
  | some outcome => rw [attempted, resolve, if_neg h]

theorem status_ofOutcome_ne_pending (outcome : Outcome) :
    CommandStatus.ofOutcome outcome ≠ .pending := by
  cases outcome <;> exact CommandStatus.noConfusion

/-- Of the attempts at a completion only the first one counts, and no attempt at another. -/
theorem getD_settleAll_first (hlen : ticket < completions.length) :
    (settleAll completions resolutions).getD ticket {}
      = (completions.getD ticket {}).attempted (first ticket resolutions) := by
  induction resolutions generalizing completions with
  | nil => rfl
  | cons resolution later ih =>
    rcases resolution with ⟨other, outcome⟩
    have hrest : (settleAll completions (⟨other, outcome⟩ :: later)).getD ticket {}
        = ((settle completions ⟨other, outcome⟩).getD ticket {}).attempted (first ticket later) :=
      ih (by rw [settle, List.length_modify]; exact hlen)
    rw [hrest]
    by_cases hother : other = ticket
    · subst hother
      have hself : (settle completions ⟨other, outcome⟩).getD other {}
          = ((completions.getD other {}).resolve outcome).1 := by
        rw [settle, List.getD_eq_getElem?_getD, List.getElem?_modify_eq,
          List.getElem?_eq_getElem hlen, List.getD_eq_getElem?_getD,
          List.getElem?_eq_getElem hlen]
        rfl
      rw [hself, first_cons_self]
      -- It is resolved now, whether by this attempt or before it.
      refine attempted_of_resolved ?_ _
      rw [resolve]
      split
      · exact status_ofOutcome_ne_pending outcome
      · assumption
    · rw [getD_settle_of_ne hother, first_cons_of_ne hother]

theorem collect_attempted (attempt : Option Outcome) :
    (attempted {} attempt).collect
      = (attempt, ⟨(attempt.map CommandStatus.ofOutcome).getD .pending, none⟩) := by
  cases attempt with
  | none => rfl
  | some outcome => cases outcome <;> rfl

end Completion

namespace Gateway

variable {ε : Type} [Element ε] {gateway : Gateway ε}

/-! ## Fates -/

/-- What happens to a command's own completion until the call returns. -/
inductive Fate
  /-- The command is not accepted. -/
  | refused (code : StatusCode)
  /-- It is resolved while the caller waits, or before. -/
  | inTime (outcome : Outcome)
  /-- It is resolved when the wait is over, just before its status is noted. -/
  | late (outcome : Outcome)
  /-- It is left open. -/
  | left
deriving DecidableEq

namespace Fate

/-- The status of a command with such a fate. -/
def status : Fate → CommandStatus
  | refused _ => .failed
  | inTime outcome | late outcome => .ofOutcome outcome
  | left => .pending

/-- What the call of a command comes to. -/
def result (timeout : Option Span) (command : Command) :
    Fate → Except Halt (Except CommandError Output)
  | refused code => .ok (.error (.refused command.name code))
  | inTime (.ok output) => .ok (.ok output)
  | inTime (.error code) => .ok (.error (.failed command.name code))
  | late _ | left =>
    match timeout with
    | some timeout => .ok (.error (.timedOut command.name timeout))
    | none => .error .waitsForever

end Fate

/-- What happens to the completion of the next command until its call returns. -/
def fate (gateway : Gateway ε) (command : Command) (files : Files) : Fate :=
  let ticket := gateway.completions.length
  let reaction := Element.submit ticket command gateway.element
  let activity := (gateway.sent command).activity ticket files
  match reaction.refusal with
  | some code => .refused code
  | none =>
    match Completion.first ticket (reaction.resolved ++ activity.timely) with
    | some outcome => .inTime outcome
    | none =>
      match Completion.first ticket activity.overdue with
      | some outcome => .late outcome
      | none => .left

/-- A wait finds what was first done to the completion of its command; the status may be that of
something later. -/
theorem answered_first (gateway : Gateway ε) (command : Command) (files : Files) :
    let ticket := gateway.completions.length
    let activity := (gateway.sent command).activity ticket files
    let found := Completion.first ticket
      ((Element.submit ticket command gateway.element).resolved ++ activity.timely)
    (gateway.answered command files).1.1 = found ∧
      (gateway.answered command files).1.2.status
        = some (((found.or (Completion.first ticket activity.overdue)).map
            CommandStatus.ofOutcome).getD .pending) := by
  intro ticket activity found
  let settled : Gateway ε :=
    { gateway.sent command with element := activity.element }.settle activity.timely
  have hall : settled.completions =
      Completion.settleAll (gateway.completions ++ [({} : Completion)])
        ((Element.submit ticket command gateway.element).resolved ++ activity.timely) :=
    List.foldl_append.symm
  have hlen : ticket < settled.completions.length := by
    rw [hall, Completion.length_settleAll, List.length_append, List.length_singleton]
    exact Nat.lt_succ_self _
  have hnew : (gateway.completions ++ [({} : Completion)]).getD ticket {} = {} := by simp [ticket]
  have hown : settled.completion ticket = Completion.attempted {} found := by
    rw [completion, hall, Completion.getD_settleAll_first (by simp [ticket]), hnew]
  have hcollect := Completion.collect_attempted found
  rw [← hown] at hcollect
  refine ⟨congrArg Prod.fst hcollect, congrArg some ?_⟩
  show ((Completion.settleAll (settled.completions.set ticket (settled.completion ticket).collect.2)
    activity.overdue).getD ticket {}).status = _
  rw [hcollect, Completion.getD_settleAll_first (by rw [List.length_set]; exact hlen),
    List.getD_eq_getElem?_getD, List.getElem?_set_self hlen]
  cases hfound : found with
  | none =>
    cases Completion.first ticket activity.overdue <;> rfl
  | some outcome =>
    rw [Completion.attempted_of_resolved]
    · rfl
    · exact Completion.status_ofOutcome_ne_pending outcome

/-! ## Commands -/

/-- The gateway after a command. -/
def after (gateway : Gateway ε) (command : Command) (files : Files) : Gateway ε :=
  match (Element.submit gateway.completions.length command gateway.element).refusal with
  | some _ => { gateway.sent command with status := some .failed }
  | none => (gateway.answered command files).1.2

/-- A command is counted, however it ends. -/
theorem issued_after (gateway : Gateway ε) (command : Command) (files : Files) :
    (gateway.after command files).issued = gateway.issued + 1 := by
  rw [after]
  split <;> rfl

theorem timeout_after (gateway : Gateway ε) (command : Command) (files : Files) :
    (gateway.after command files).timeout = gateway.timeout := by
  rw [after]
  split <;> rfl

/-- The status is that of the fate. -/
theorem status_after (gateway : Gateway ε) (command : Command) (files : Files) :
    (gateway.after command files).status = some (gateway.fate command files).status := by
  obtain ⟨-, hstatus⟩ := answered_first gateway command files
  rw [after, fate]
  cases hrefusal : (Element.submit gateway.completions.length command gateway.element).refusal with
  | some code => rfl
  | none =>
    dsimp only at hstatus ⊢
    rw [hstatus]
    cases Completion.first gateway.completions.length
      ((Element.submit gateway.completions.length command gateway.element).resolved
        ++ ((gateway.sent command).activity gateway.completions.length files).timely) with
    | some outcome => rfl
    | none =>
      cases Completion.first gateway.completions.length
        ((gateway.sent command).activity gateway.completions.length files).overdue <;> rfl

/-- The files after a command. -/
def filesAfter (gateway : Gateway ε) (command : Command) (files : Files) : Files :=
  match (Element.submit gateway.completions.length command gateway.element).refusal with
  | some _ => files
  | none => (gateway.answered command files).2

/-- How things stand after a command: the gateway, the files, and the clock, which has not moved. -/
structure Ended (gateway : Gateway ε) (command : Command) (world : World) (gateway' : Gateway ε)
    (world' : World) : Prop where
  reached : gateway' = gateway.after command world.files
  files : world'.files = gateway.filesAfter command world.files
  now : world'.now = world.now

/-- A command comes to what its fate says. -/
theorem submitAndWait_fate (command : Command) (gateway : Gateway ε) (world : World) :
    (submitAndWait command).Ensures gateway world
      (fun why => (gateway.fate command world.files).result gateway.timeout command = .error why)
      (fun error gateway' world' => Ended gateway command world gateway' world' ∧
        (gateway.fate command world.files).result gateway.timeout command = .ok (.error error))
      fun output gateway' world' => Ended gateway command world gateway' world' ∧
        (gateway.fate command world.files).result gateway.timeout command = .ok (.ok output) := by
  obtain ⟨hfound, -⟩ := answered_first gateway command world.files
  rw [fate]
  cases hrefusal : (Element.submit gateway.completions.length command gateway.element).refusal with
  | some code =>
    refine Attempt.Ensures.step rfl ?_
    refine Attempt.Ensures.step rfl ?_
    rw [hrefusal]
    refine Attempt.Ensures.step rfl ?_
    refine Attempt.Ensures.step rfl ?_
    refine Attempt.Ensures.throw ⟨⟨?_, ?_, rfl⟩, rfl⟩
    · rw [after, hrefusal]
      rfl
    · rw [filesAfter, hrefusal]
  | none =>
    have hafter : ∀ world' : World, world'.files = (gateway.answered command world.files).2 →
        world'.now = world.now →
        Ended gateway command world (gateway.answered command world.files).1.2 world' := by
      intro world' hfiles hnow
      refine ⟨?_, ?_, hnow⟩
      · rw [after, hrefusal]
      · rw [filesAfter, hrefusal, hfiles]
    dsimp only
    refine submitAndWait_ensures ?_ ?_ ?_ ?_ ?_
    · intro code world' hcode
      rw [hrefusal] at hcode
      cases hcode
    · intro output world' houtput hfiles hnow
      rw [← hfound, houtput]
      exact ⟨hafter world' hfiles hnow, rfl⟩
    · intro code world' hcode hfiles hnow
      rw [← hfound, hcode]
      exact ⟨hafter world' hfiles hnow, rfl⟩
    · intro timeout world' hnone htimeout hfiles hnow
      rw [← hfound, hnone, htimeout]
      cases Completion.first gateway.completions.length
        ((gateway.sent command).activity gateway.completions.length world.files).overdue <;>
        exact ⟨hafter world' hfiles hnow, rfl⟩
    · intro hnone htimeout
      rw [← hfound, hnone, htimeout]
      cases Completion.first gateway.completions.length
        ((gateway.sent command).activity gateway.completions.length world.files).overdue <;> rfl

/-- A command that has come back came to what its fate says. -/
theorem ended_of_run {command : Command} {gateway' : Gateway ε} {world world' : World}
    {result : Except CommandError Output}
    (h : (submitAndWait command).run gateway world = .ok ((result, gateway'), world')) :
    Ended gateway command world gateway' world' ∧
      (gateway.fate command world.files).result gateway.timeout command = .ok result := by
  have hends := (submitAndWait_fate command gateway world).ends _ _ _ h
  cases result with
  | error error => exact hends
  | ok output => exact hends

end Gateway

end SealedLog
