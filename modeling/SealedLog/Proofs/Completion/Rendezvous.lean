import Mathlib.Data.List.Induction
import Mathlib.Logic.Function.Basic
import SealedLog.Completion

/-!
# Meeting at a completion

Whoever has a handle to a completion may use it or give it up, others may resolve it without one,
and some may wait for it, all in any order. Someone who waits looks at the completion, sleeps while
it is pending and looks again when woken up, for a reason or without one. The first attempt that
gets to the completion wakes all who sleep.

- `Move`, `attempts`: what can happen at a completion, and the outcomes that get there. A handle
  gets there once.
- `Rendezvous`, `run`: how things stand after one move and after several.
- `complete_eq_use`: a completed handle is given up too, which has no effect.
- `waits_run_of_others`, `waits_run_of_ended`: what a wait does not depend on.
-/

namespace SealedLog.Completion

/-! ## Moves -/

/-- What can happen at a completion. Handles are numbered, and so are those who wait. -/
inductive Move
  /-- The completion is resolved without a handle. -/
  | resolve (outcome : Outcome)
  | complete (handle : Nat) (outcome : Outcome)
  | drop (handle : Nat)
  /-- A wait begins. It is for a limited time or for as long as it takes. -/
  | wait (waiter : Nat) (limited : Bool)
  /-- Someone who sleeps wakes up, notified or for no reason. -/
  | wake (waiter : Nat)
  /-- The time of someone who sleeps is over. -/
  | expire (waiter : Nat)

namespace Move

/-- The handle that a move uses. -/
def handle? : Move → Option Nat
  | complete handle _ | drop handle => some handle
  | _ => none

/-- The outcome with which a move resolves a pending completion. -/
def outcome? : Move → Option Outcome
  | resolve outcome | complete _ outcome => some outcome
  | drop _ => some (.error .abandoned)
  | _ => none

/-- The one whose wait begins, goes on or ends by a move. -/
def waiter? : Move → Option Nat
  | wait waiter _ | wake waiter | expire waiter => some waiter
  | _ => none

/-- The outcome that gets to the completion, if these handles were used before. -/
def reaching (used : List Nat) (move : Move) : List Outcome :=
  if move.handle?.any (· ∈ used) then [] else move.outcome?.toList

end Move

/-- The handles that are used. -/
def uses (moves : List Move) : List Nat := moves.filterMap Move.handle?

/-- The outcomes that get to the completion, in order. -/
def attempts (used : List Nat) : List Move → List Outcome
  | [] => []
  | move :: later => move.reaching used ++ attempts (used ++ move.handle?.toList) later

section Moves

variable (moves : List Move) (move : Move)

theorem uses_concat : uses (moves ++ [move]) = uses moves ++ move.handle?.toList := by
  rw [uses, List.filterMap_append]
  cases hhandle : move.handle? <;> simp [uses, hhandle]

theorem attempts_append (used : List Nat) (later : List Move) :
    attempts used (moves ++ later)
      = attempts used moves ++ attempts (used ++ uses moves) later := by
  induction moves generalizing used with
  | nil => simp [attempts, uses]
  | cons move moves ih =>
    have huses : uses (move :: moves) = move.handle?.toList ++ uses moves := by
      cases hhandle : move.handle? <;> simp [uses, hhandle]
    simp [attempts, ih, huses]

theorem attempts_concat :
    attempts [] (moves ++ [move]) = attempts [] moves ++ move.reaching (uses moves) := by
  simp [attempts_append, attempts]

end Moves

/-! ## What the attempts come to -/

/-- What attempts are told: the first that it was the first, and all others that they were not. -/
def verdicts : List Outcome → List Bool
  | [] => []
  | _ :: later => true :: later.map fun _ => false

/-- The status that attempts leave. -/
def standing (tried : List Outcome) : CommandStatus :=
  (tried.head?.map CommandStatus.ofOutcome).getD .pending

theorem verdicts_concat (tried : List Outcome) (outcome : Outcome) :
    verdicts (tried ++ [outcome]) = verdicts tried ++ [tried.isEmpty] := by
  cases tried <;> simp [verdicts]

theorem standing_eq_pending_iff (tried : List Outcome) :
    standing tried = .pending ↔ tried = [] := by
  cases tried with
  | nil => simp [standing]
  | cons outcome later => cases outcome <;> simp [standing, CommandStatus.ofOutcome]

/-! ## Rendezvous -/

/-- How far a wait has come. -/
inductive Wait
  | unbegun
  | asleep (limited notified : Bool)
  | ended (limited : Bool) (found : Option Outcome)

/-- Whoever sleeps is notified. -/
def Wait.notified : Wait → Wait
  | .asleep limited _ => .asleep limited true
  | wait => wait

namespace Wait

variable {wait : Wait} {limited : Bool} {found : Option Outcome}

theorem notified_eq_ended : wait.notified = .ended limited found ↔ wait = .ended limited found := by
  cases wait <;> simp [notified]

theorem notified_notified : wait.notified.notified = wait.notified := by
  cases wait <;> rfl

end Wait

/-- A completion with the handles to it and with those who wait for it. -/
structure Rendezvous where
  completion : Completion := {}
  handles : Nat → Handle := fun _ => {}
  /-- What the attempts to resolve were told, in order. -/
  told : List Bool := []
  waits : Nat → Wait := fun _ => .unbegun

namespace Rendezvous

/-- Attempts were made, and the one that has resolved the completion has notified all who sleep. -/
def informed (meeting : Rendezvous) (completion : Completion) (told : List Bool) : Rendezvous :=
  { meeting with
    completion
    told := meeting.told ++ told
    waits := if true ∈ told then fun waiter => (meeting.waits waiter).notified else meeting.waits }

/-- A handle was used. -/
def used (meeting : Rendezvous) (number : Nat) (result : (Handle × Completion) × List Bool) :
    Rendezvous :=
  { meeting.informed result.1.2 result.2 with
    handles := Function.update meeting.handles number result.1.1 }

/-- A wait ends with what it finds. -/
def leave (meeting : Rendezvous) (waiter : Nat) (limited : Bool) : Rendezvous :=
  let (found, completion) := meeting.completion.collect
  { meeting with
    completion
    waits := Function.update meeting.waits waiter (.ended limited found) }

/-- Someone looks at the completion and sleeps while it is pending. -/
def look (meeting : Rendezvous) (waiter : Nat) (limited : Bool) : Rendezvous :=
  if meeting.completion.status = .pending then
    { meeting with waits := Function.update meeting.waits waiter (.asleep limited false) }
  else meeting.leave waiter limited

/-- One move. -/
def after (meeting : Rendezvous) : Move → Rendezvous
  | .resolve outcome =>
    let (completion, first) := meeting.completion.resolve outcome
    meeting.informed completion [first]
  | .complete number outcome =>
    meeting.used number ((meeting.handles number).complete outcome meeting.completion)
  | .drop number => meeting.used number ((meeting.handles number).drop meeting.completion)
  | .wait waiter limited =>
    match meeting.waits waiter with
    | .unbegun => meeting.look waiter limited
    | _ => meeting
  | .wake waiter =>
    match meeting.waits waiter with
    | .asleep limited _ => meeting.look waiter limited
    | _ => meeting
  | .expire waiter =>
    match meeting.waits waiter with
    | .asleep true _ => meeting.leave waiter true
    | _ => meeting

end Rendezvous

/-- One move after the other. -/
def run (moves : List Move) : Rendezvous := moves.foldl Rendezvous.after {}

theorem run_concat (moves : List Move) (move : Move) :
    run (moves ++ [move]) = (run moves).after move := by
  simp [run]

/-! ## Handles -/

section Handles

variable (outcome : Outcome) (completion : Completion)

/-- A completed handle is given up too, which has no effect. -/
theorem complete_eq_use (handle : Handle) :
    handle.complete outcome completion = handle.use outcome completion := by
  rcases handle with ⟨_ | _⟩
  · rfl
  · simp [Handle.complete, Handle.drop, Handle.use]

theorem use_armed :
    Handle.use ⟨true⟩ outcome completion
      = ((⟨false⟩, (completion.resolve outcome).1), [(completion.resolve outcome).2]) := rfl

theorem use_spent :
    Handle.use ⟨false⟩ outcome completion = ((⟨false⟩, completion), []) := rfl

/-- What is resolved with an answer is resolved by completing its handle. -/
theorem settle_eq_complete (completions : List Completion) (ticket : Ticket) :
    settle completions ⟨ticket, outcome⟩
      = completions.modify ticket fun completion =>
          (Handle.complete {} outcome completion).1.2 := by
  simp only [complete_eq_use]
  rfl

/-- What is given up is resolved by dropping its handle. -/
theorem settle_eq_drop (completions : List Completion) (ticket : Ticket) :
    settle completions (.drop ticket)
      = completions.modify ticket fun completion => (Handle.drop {} completion).1.2 := rfl

end Handles

/-! ## Waits -/

section Waiters

variable {meeting : Rendezvous} {move : Move} {waiter : Nat} {limited : Bool}
  {found : Option Outcome}

theorem waits_informed (meeting : Rendezvous) (completion : Completion) (told : List Bool)
    (waiter : Nat) :
    (meeting.informed completion told).waits waiter = meeting.waits waiter ∨
      (meeting.informed completion told).waits waiter = (meeting.waits waiter).notified := by
  rw [Rendezvous.informed]
  split
  · exact .inr rfl
  · exact .inl rfl

theorem waits_leave_of_ne {other : Nat} (h : other ≠ waiter) :
    (meeting.leave waiter limited).waits other = meeting.waits other :=
  Function.update_of_ne h _ _

theorem waits_leave_of_pending (h : meeting.completion.status = .pending) :
    (meeting.leave waiter limited).waits waiter = .ended limited none := by
  rw [Rendezvous.leave, collect, if_pos h]
  exact Function.update_self waiter _ meeting.waits

theorem waits_look_of_pending (h : meeting.completion.status = .pending) :
    (meeting.look waiter limited).waits waiter = .asleep limited false := by
  rw [Rendezvous.look, if_pos h]
  exact Function.update_self waiter _ meeting.waits

theorem waits_look_of_ne {other : Nat} (h : other ≠ waiter) :
    (meeting.look waiter limited).waits other = meeting.waits other := by
  rw [Rendezvous.look]
  split
  · exact Function.update_of_ne h _ _
  · exact waits_leave_of_ne h

/-- What others do may notify someone, and nothing else. -/
theorem waits_after_of_others (meeting : Rendezvous) (h : move.waiter? ≠ some waiter) :
    (meeting.after move).waits waiter = meeting.waits waiter ∨
      (meeting.after move).waits waiter = (meeting.waits waiter).notified := by
  cases move with
  | resolve outcome =>
    exact waits_informed meeting (meeting.completion.resolve outcome).1 [_] waiter
  | complete number outcome =>
    exact waits_informed meeting
      ((meeting.handles number).complete outcome meeting.completion).1.2 _ waiter
  | drop number =>
    exact waits_informed meeting ((meeting.handles number).drop meeting.completion).1.2 _ waiter
  | wait other limited =>
    have hne : waiter ≠ other := fun heq => h (congrArg some heq.symm)
    left
    rw [Rendezvous.after]
    split
    · exact waits_look_of_ne hne
    · rfl
  | wake other =>
    have hne : waiter ≠ other := fun heq => h (congrArg some heq.symm)
    left
    rw [Rendezvous.after]
    split
    · exact waits_look_of_ne hne
    · rfl
  | expire other =>
    have hne : waiter ≠ other := fun heq => h (congrArg some heq.symm)
    left
    rw [Rendezvous.after]
    split
    · exact waits_leave_of_ne hne
    · rfl

/-- The same for any number of moves. -/
theorem waits_run_of_others (moves later : List Move)
    (h : ∀ move ∈ later, move.waiter? ≠ some waiter) :
    (run (moves ++ later)).waits waiter = (run moves).waits waiter ∨
      (run (moves ++ later)).waits waiter = ((run moves).waits waiter).notified := by
  induction later using List.reverseRecOn with
  | nil => exact .inl (by rw [List.append_nil])
  | append_singleton later move ih =>
    rw [← List.append_assoc, run_concat]
    have hlater := ih fun other hother => h other (List.mem_append_left _ hother)
    obtain hlast | hlast := waits_after_of_others (run (moves ++ later))
      (h move (List.mem_append_right _ (List.mem_singleton_self move))) <;> rw [hlast]
    · exact hlater
    · obtain hlater | hlater := hlater <;> rw [hlater]
      · exact .inr rfl
      · exact .inr Wait.notified_notified

/-- Who never waits is never found waiting. -/
theorem waits_run_of_absent {moves : List Move} (h : ∀ move ∈ moves, move.waiter? ≠ some waiter) :
    (run moves).waits waiter = .unbegun := by
  obtain hsame | hnotified := waits_run_of_others [] moves h
  · exact hsame
  · exact hnotified

/-- A wait that is over stays over. -/
theorem waits_after_of_ended (h : meeting.waits waiter = .ended limited found) :
    (meeting.after move).waits waiter = .ended limited found := by
  by_cases hwaiter : move.waiter? = some waiter
  · cases move with
    | resolve | complete | drop => cases hwaiter
    | wait | wake | expire =>
      obtain rfl := Option.some.inj hwaiter
      rw [Rendezvous.after, h]
      exact h
  · obtain hsame | hnotified := waits_after_of_others meeting hwaiter
    · rw [hsame, h]
    · rw [hnotified, h, Wait.notified]
      nofun

theorem waits_run_of_ended {moves : List Move} (h : (run moves).waits waiter = .ended limited found)
    (later : List Move) : (run (moves ++ later)).waits waiter = .ended limited found := by
  induction later using List.reverseRecOn with
  | nil => rwa [List.append_nil]
  | append_singleton later move ih =>
    rw [← List.append_assoc, run_concat]
    exact waits_after_of_ended ih

end Waiters

end SealedLog.Completion
