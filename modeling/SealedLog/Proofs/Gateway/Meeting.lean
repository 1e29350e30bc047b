import SealedLog.Proofs.Completion.OneShot
import SealedLog.Proofs.Gateway.Fate

/-!
# Where a caller meets the outcome

A command is handed to the element, and then its caller waits at the completion, while the element
works. In whatever order things happen there, the first attempt to resolve the command decides. So
the call comes to what its wait finds. It can wait forever, but not run out of a time it does not
have.

- `Completion.waits_call`: how a wait ends between two series of attempts.
- `Gateway.moves`, `Gateway.waitFor`: what happens at the completion of a command until its call
  returns, and how its wait ends.
- `Completion.Wait.result`: what a caller makes of a wait.
- `Gateway.Meets`, `Gateway.resolved_once`: any moves at a completion, and those of a command.
-/

namespace SealedLog

/-! ## A wait between attempts -/

namespace Completion

/-- The attempts at the completion with a ticket. -/
def own (ticket : Ticket) (resolutions : List Resolution) : List Move :=
  (resolutions.filter fun resolution => resolution.ticket = ticket).map fun resolution =>
    .resolve resolution.outcome

/-- A wait that begins after some attempts and ends after others. If it is for a limited time, that
is over in the end. -/
def call (ticket : Ticket) (early : List Resolution) (limited : Bool) (late : List Resolution) :
    List Move :=
  own ticket early ++ [.wait 0 limited] ++ own ticket late ++ [.wake 0] ++ [.expire 0]

variable {ticket : Ticket} {resolutions early late : List Resolution} {limited : Bool}

theorem uses_own : uses (own ticket resolutions) = [] := by
  simp [uses, own, Move.handle?]

/-- The first of the attempts at a completion is the one that counts. -/
theorem head?_attempts_own :
    (attempts [] (own ticket resolutions)).head? = first ticket resolutions := by
  rw [first, ← List.head?_filter, own]
  cases resolutions.filter fun resolution => resolution.ticket = ticket <;> rfl

theorem attempts_own_eq_nil_iff :
    attempts [] (own ticket resolutions) = [] ↔ first ticket resolutions = none := by
  rw [← head?_attempts_own, List.head?_eq_none_iff]

theorem first_append :
    first ticket (early ++ late) = (first ticket early).or (first ticket late) := by
  rw [first, List.find?_append, first, first]
  cases List.find? (fun resolution => resolution.ticket = ticket) early <;> rfl

/-- No one waits where there are only attempts. -/
theorem waiter?_own {move : Move} (h : move ∈ own ticket resolutions) : move.waiter? = none := by
  obtain ⟨resolution, -, rfl⟩ := List.mem_map.mp h
  rfl

theorem others_own (waiter : Nat) (move : Move) (h : move ∈ own ticket resolutions) :
    move.waiter? ≠ some waiter := by
  rw [waiter?_own h]
  nofun

theorem not_found_of_unbegun {moves : List Move} {waiter : Nat}
    (h : (run moves).waits waiter = .unbegun) (outcome : Outcome) :
    ¬ Found (run moves).waits waiter outcome := by
  rintro ⟨limited, hended⟩
  rw [h] at hended
  cases hended

theorem waits_own (waiter : Nat) : (run (own ticket resolutions)).waits waiter = .unbegun :=
  waits_run_of_absent (others_own waiter)

/-- A wait that begins after an attempt is over at once. -/
theorem waits_call_of_early {outcome : Outcome} (h : first ticket early = some outcome) :
    (run (call ticket early limited late)).waits 0 = .ended limited (some outcome) := by
  have htried : attempts [] (own ticket early) ≠ [] := by
    rw [Ne, attempts_own_eq_nil_iff, h]
    nofun
  have hbegun := (oneShot_of_moves _).begun htried
    (fun other => not_found_of_unbegun (waits_own other)) 0 limited (waits_own 0)
  rw [head?_attempts_own, h] at hbegun
  rw [call]
  exact waits_run_of_ended (waits_run_of_ended (waits_run_of_ended hbegun _) _) _

section Late

variable (h : first ticket early = none)
include h

/-- When the wait has begun, before all attempts. -/
theorem attempts_of_late (limited : Bool) (late : List Resolution) :
    attempts [] (own ticket early ++ [.wait 0 limited] ++ own ticket late)
      = attempts [] (own ticket late) := by
  have hearly : attempts [] (own ticket early) = [] := attempts_own_eq_nil_iff.mpr h
  rw [attempts_append, attempts_concat, hearly, uses_concat, uses_own]
  rfl

theorem asleep_of_late (limited : Bool) (late : List Resolution) :
    ∃ notified, (run (own ticket early ++ [.wait 0 limited] ++ own ticket late)).waits 0
      = .asleep limited notified := by
  have hpending : (run (own ticket early)).completion.status = .pending := by
    rw [(kept_run _).status_eq_pending_iff, attempts_own_eq_nil_iff, h]
  have hasleep : (run (own ticket early ++ [.wait 0 limited])).waits 0 = .asleep limited false := by
    rw [run_concat, Rendezvous.after, waits_own]
    exact waits_look_of_pending hpending
  obtain hsame | hnotified := waits_run_of_others (own ticket early ++ [.wait 0 limited])
    (own ticket late) (others_own 0)
  · exact ⟨false, hsame.trans hasleep⟩
  · exact ⟨true, by rw [hnotified, hasleep, Wait.notified]⟩

theorem not_found_of_late (waiter : Nat) (outcome : Outcome) :
    ¬ Found (run (own ticket early ++ [.wait 0 limited] ++ own ticket late)).waits waiter
      outcome := by
  by_cases hwaiter : waiter = 0
  · subst hwaiter
    obtain ⟨notified, hasleep⟩ := asleep_of_late h limited late
    rintro ⟨limited', hended⟩
    rw [hasleep] at hended
    cases hended
  · refine not_found_of_unbegun (waits_run_of_absent fun move hmove => ?_) outcome
    simp only [List.mem_append, List.mem_singleton] at hmove
    obtain (hmove | rfl) | hmove := hmove
    · exact others_own waiter move hmove
    · exact fun heq => hwaiter (Option.some.inj heq).symm
    · exact others_own waiter move hmove

/-- A wait that begins before an attempt ends with it. -/
theorem waits_call_of_late {outcome : Outcome} (hlate : first ticket late = some outcome) :
    (run (call ticket early limited late)).waits 0 = .ended limited (some outcome) := by
  have htried : attempts [] (own ticket late) ≠ [] := by
    rw [Ne, attempts_own_eq_nil_iff, hlate]
    nofun
  have hattempts := attempts_of_late h limited late
  obtain ⟨notified, hasleep⟩ := asleep_of_late h limited late
  obtain ⟨-, hwoken, -⟩ := (oneShot_of_moves _).woken (hattempts ▸ htried) (not_found_of_late h)
    0 limited notified hasleep
  rw [hattempts, head?_attempts_own, hlate] at hwoken
  rw [call]
  exact waits_run_of_ended hwoken _

/-- A wait without any attempt ends when its time is over, or never. -/
theorem waits_call_of_none (hlate : first ticket late = none) :
    (run (call ticket early limited late)).waits 0
      = if limited then .ended true none else .asleep false false := by
  obtain ⟨notified, hasleep⟩ := asleep_of_late h limited late
  have hnone : attempts [] (own ticket early ++ [.wait 0 limited] ++ own ticket late) = [] := by
    rw [attempts_of_late h limited late, attempts_own_eq_nil_iff, hlate]
  have hwake : (run (own ticket early ++ [.wait 0 limited] ++ own ticket late ++ [.wake 0])).waits 0
      = .asleep limited false := by
    rw [run_concat, Rendezvous.after, hasleep]
    exact waits_look_of_pending ((kept_run _).status_eq_pending_iff.mpr hnone)
  rw [call, run_concat, Rendezvous.after, hwake]
  cases limited with
  | false => exact hwake
  | true =>
    refine waits_leave_of_pending ((kept_run _).status_eq_pending_iff.mpr ?_)
    rw [attempts_concat, hnone]
    rfl

/-- There are no attempts at all. -/
theorem attempts_call_of_none (hlate : first ticket late = none) :
    attempts [] (call ticket early limited late) = [] := by
  rw [call, attempts_concat, attempts_concat, attempts_of_late h,
    attempts_own_eq_nil_iff.mpr hlate]
  rfl

end Late

/-- How a wait ends is decided by the first attempt, before it or during it. -/
theorem waits_call (ticket : Ticket) (early : List Resolution) (limited : Bool)
    (late : List Resolution) :
    (run (call ticket early limited late)).waits 0
      = match first ticket (early ++ late) with
        | some outcome => .ended limited (some outcome)
        | none => if limited then .ended true none else .asleep false false := by
  rw [first_append]
  cases hearly : first ticket early with
  | some outcome => exact waits_call_of_early hearly
  | none =>
    cases hlate : first ticket late with
    | some outcome => exact waits_call_of_late hearly hlate
    | none => exact waits_call_of_none hearly hlate

/-- What a caller makes of a wait. -/
def Wait.result (timeout : Option Span) (command : Command) :
    Wait → Except Halt (Except CommandError Output)
  | .ended _ (some (.ok output)) => .ok (.ok output)
  | .ended _ (some (.error code)) => .ok (.error (.failed command.name code))
  | .ended _ none => .ok (.error (.timedOut command.name (timeout.getD ⟨0⟩)))
  | .unbegun | .asleep _ _ => .error .waitsForever

end Completion

namespace Gateway

open Completion

variable {ε : Type} [Element ε]

/-! ## The wait for a command -/

/-- What happens at the completion of the next command until its call returns. -/
def moves (gateway : Gateway ε) (command : Command) (files : Files) : List Move :=
  let ticket := gateway.completions.length
  call ticket (Element.submit ticket command gateway.element).resolved gateway.timeout.isSome
    ((gateway.sent command).activity ticket files).timely

/-- How the wait for the next command ends. -/
def waitFor (gateway : Gateway ε) (command : Command) (files : Files) : Wait :=
  (run (gateway.moves command files)).waits 0

/-- What the next command comes to. -/
def outcome (gateway : Gateway ε) (command : Command) (world : World) :
    Except Halt (Except CommandError Output) :=
  ((submitAndWait command).run gateway world).map fun ended => ended.1.1

/-- The calls of a command are what its completion makes of them. -/
structure Meets (gateway : Gateway ε) (command : Command) (world : World) : Prop where
  /-- An accepted command comes to what its wait finds. -/
  accepted :
    (Element.submit gateway.completions.length command gateway.element).refusal = none →
    gateway.outcome command world
      = (gateway.waitFor command world.files).result gateway.timeout command
  /-- A refused one is not waited for. -/
  refused : ∀ code,
    (Element.submit gateway.completions.length command gateway.element).refusal = some code →
    gateway.outcome command world = .ok (.error (.refused command.name code))
  /-- Without a limit there is no time to run out of. -/
  unlimited : gateway.timeout = none → ∀ name timeout,
    gateway.outcome command world ≠ .ok (.error (.timedOut name timeout))
  /-- It is waited forever only where there is no limit and no attempt. -/
  forever : ∀ why, gateway.outcome command world = .error why →
    gateway.timeout = none ∧ attempts [] (gateway.moves command world.files) = []

/-- A command comes to what its fate says. -/
theorem outcome_eq_result (gateway : Gateway ε) (command : Command) (world : World) :
    gateway.outcome command world
      = (gateway.fate command world.files).result gateway.timeout command := by
  have hfate := submitAndWait_fate command gateway world
  rw [outcome]
  cases hrun : (submitAndWait command).run gateway world with
  | error why => exact (hfate.halts why hrun).symm
  | ok ended =>
    obtain ⟨⟨result, gateway'⟩, world'⟩ := ended
    exact (ended_of_run hrun).2.symm

section Accepted

variable {gateway : Gateway ε} {command : Command} {files : Files}

/-- An accepted command comes to what its wait finds. -/
theorem result_waitFor
    (h : (Element.submit gateway.completions.length command gateway.element).refusal = none) :
    (gateway.waitFor command files).result gateway.timeout command
      = (gateway.fate command files).result gateway.timeout command := by
  rw [waitFor, moves, waits_call, fate, h]
  dsimp only
  cases first gateway.completions.length
      ((Element.submit gateway.completions.length command gateway.element).resolved
        ++ ((gateway.sent command).activity gateway.completions.length files).timely) with
  | some outcome => cases outcome <;> rfl
  | none =>
    cases first gateway.completions.length
      ((gateway.sent command).activity gateway.completions.length files).overdue <;>
      cases gateway.timeout <;> rfl

/-- A wait without a limit finds an outcome, or it goes on where there is no attempt. -/
theorem waitFor_of_unlimited (h : gateway.timeout = none) (command : Command) (files : Files) :
    (∃ outcome, gateway.waitFor command files = .ended false (some outcome)) ∨
      gateway.waitFor command files = .asleep false false ∧
        attempts [] (gateway.moves command files) = [] := by
  rw [waitFor, moves, waits_call, h, Option.isSome_none, first_append]
  cases hearly : first gateway.completions.length
      (Element.submit gateway.completions.length command gateway.element).resolved with
  | some outcome => exact .inl ⟨outcome, rfl⟩
  | none =>
    cases hlate : first gateway.completions.length
        ((gateway.sent command).activity gateway.completions.length files).timely with
    | some outcome => exact .inl ⟨outcome, rfl⟩
    | none => exact .inr ⟨rfl, attempts_call_of_none hearly hlate⟩

/-- A wait with a limit comes to an end. -/
theorem waitFor_of_limited (h : gateway.timeout.isSome) (command : Command) (files : Files) :
    ∃ found, gateway.waitFor command files = .ended true found := by
  rw [waitFor, moves, waits_call, h]
  split
  · exact ⟨_, rfl⟩
  · exact ⟨none, rfl⟩

end Accepted

section Outcomes

variable {gateway : Gateway ε} {command : Command} {world : World}

theorem outcome_of_refused {code : StatusCode}
    (h : (Element.submit gateway.completions.length command gateway.element).refusal
      = some code) :
    gateway.outcome command world = .ok (.error (.refused command.name code)) := by
  rw [outcome_eq_result, fate, h]
  rfl

theorem outcome_of_accepted
    (h : (Element.submit gateway.completions.length command gateway.element).refusal = none) :
    gateway.outcome command world
      = (gateway.waitFor command world.files).result gateway.timeout command := by
  rw [outcome_eq_result, result_waitFor h]

/-- Without a limit there is no time to run out of. -/
theorem not_timedOut_of_unlimited (h : gateway.timeout = none) (name : String) (timeout : Span) :
    gateway.outcome command world ≠ .ok (.error (.timedOut name timeout)) := by
  cases hrefusal : (Element.submit gateway.completions.length command gateway.element).refusal with
  | some code =>
    rw [outcome_of_refused hrefusal]
    nofun
  | none =>
    rw [outcome_of_accepted hrefusal]
    obtain ⟨outcome, hended⟩ | ⟨hasleep, -⟩ := waitFor_of_unlimited h command world.files
    · rw [hended]
      cases outcome <;> nofun
    · rw [hasleep]
      nofun

/-- It is waited forever only where there is no limit and no attempt. -/
theorem unattempted_of_halt {why : Halt} (h : gateway.outcome command world = .error why) :
    gateway.timeout = none ∧ attempts [] (gateway.moves command world.files) = [] := by
  cases hrefusal : (Element.submit gateway.completions.length command gateway.element).refusal with
  | some code =>
    rw [outcome_of_refused hrefusal] at h
    cases h
  | none =>
    rw [outcome_of_accepted hrefusal] at h
    cases hlimit : gateway.timeout with
    | none =>
      obtain ⟨outcome, hended⟩ | ⟨-, hnone⟩ := waitFor_of_unlimited hlimit command world.files
      · rw [hended] at h
        rcases outcome with _ | _ <;> cases h
      · exact ⟨rfl, hnone⟩
    | some timeout =>
      have hlimited : gateway.timeout.isSome := by rw [hlimit]; rfl
      obtain ⟨found, hended⟩ := waitFor_of_limited hlimited command world.files
      rw [hended] at h
      rcases found with _ | _ | _ <;> cases h

end Outcomes

/-- A completion is resolved once, whatever happens at it. So the call of a command comes to what
was tried first, and without a limit it cannot run out of time. -/
theorem resolved_once (moves : List Move) (gateway : Gateway ε) (command : Command)
    (world : World) : OneShot moves ∧ Meets gateway command world := by
  refine ⟨oneShot_of_moves moves, ?_⟩
  constructor
  · exact outcome_of_accepted
  · intro code
    exact outcome_of_refused
  · exact not_timedOut_of_unlimited
  · intro why
    exact unattempted_of_halt

end Gateway

end SealedLog
