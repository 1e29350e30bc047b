import SealedLog.Gateway
import SealedLog.Proofs.Act
import SealedLog.Proofs.Completion

/-!
# Commands through a gateway

What a command comes to, from the reaction of the element when it is submitted and from its
activity while it is waited for.

- `Gateway.wait_eq`: a wait, with what the element does meanwhile.
- `Gateway.submitAndWait_ensures`: all the ways in which a command can end.
- `Gateway.submitAndWait_ends`: a command ends, unless its answer is waited for forever.
- `Gateway.generateRandom_ensures` and the others: the answer has to be of the kind asked for.
-/

namespace SealedLog.Gateway

variable {ε : Type} [Element ε]

/-- What the element does while a command is waited for. -/
def activity (gateway : Gateway ε) (ticket : Ticket) (files : Files) : Activity ε :=
  if gateway.isPending ticket then Element.await gateway.timeout gateway.element files
  else { element := gateway.element, files }

/-- The gateway when a command was handed to the element. -/
def sent (gateway : Gateway ε) (command : Command) : Gateway ε :=
  gateway.submitted (Element.submit gateway.completions.length command gateway.element)

/-- What the wait for a command finds that was just handed to the element, with the gateway and the
files after it. -/
def answered (gateway : Gateway ε) (command : Command) (files : Files) :
    (Option Outcome × Gateway ε) × Files :=
  let sent := gateway.sent command
  let activity := sent.activity gateway.completions.length files
  (sent.waited gateway.completions.length activity, activity.files)

/-- A wait always ends; what it finds is another matter. The clock stands still meanwhile. -/
theorem wait_eq (ticket : Ticket) (gateway : Gateway ε) (world : World) :
    ∃ world', wait ticket gateway world
        = .ok (gateway.waited ticket (gateway.activity ticket world.files), world') ∧
      world'.files = (gateway.activity ticket world.files).files ∧ world'.now = world.now :=
  ⟨_, rfl, rfl, rfl⟩

/-- Every command has a completion of its own. -/
theorem length_sent (gateway : Gateway ε) (command : Command) :
    (gateway.sent command).completions.length = gateway.completions.length + 1 := by
  show (Completion.settleAll _ _).length = _
  rw [Completion.length_settleAll, List.length_append, List.length_singleton]

theorem length_answered (gateway : Gateway ε) (command : Command) (files : Files) :
    (gateway.answered command files).1.2.completions.length = gateway.completions.length + 1 := by
  show (Completion.settleAll (List.set (Completion.settleAll _ _) _ _) _).length = _
  rw [Completion.length_settleAll, List.length_set, Completion.length_settleAll, length_sent]

variable {gateway : Gateway ε} {world : World} {Halts : Halt → Prop}
  {Bad : CommandError → Gateway ε → World → Prop}

/-- All the ways in which a command can end. -/
theorem submitAndWait_ensures {command : Command} {Good : Output → Gateway ε → World → Prop}
    (hrefused : ∀ code world',
      (Element.submit gateway.completions.length command gateway.element).refusal = some code →
      world'.files = world.files → world'.now = world.now →
      Bad (.refused command.name code) { gateway.sent command with status := some .failed } world')
    (hok : ∀ output world', (gateway.answered command world.files).1.1 = some (.ok output) →
      world'.files = (gateway.answered command world.files).2 → world'.now = world.now →
      Good output (gateway.answered command world.files).1.2 world')
    (hfailed : ∀ code world', (gateway.answered command world.files).1.1 = some (.error code) →
      world'.files = (gateway.answered command world.files).2 → world'.now = world.now →
      Bad (.failed command.name code) (gateway.answered command world.files).1.2 world')
    (htimedOut : ∀ timeout world', (gateway.answered command world.files).1.1 = none →
      gateway.timeout = some timeout → world'.files = (gateway.answered command world.files).2 →
      world'.now = world.now →
      Bad (.timedOut command.name timeout) (gateway.answered command world.files).1.2 world')
    (hforever : (gateway.answered command world.files).1.1 = none → gateway.timeout = none →
      Halts .waitsForever) :
    (submitAndWait command).Ensures gateway world Halts Bad Good := by
  refine Attempt.Ensures.step rfl ?_
  refine Attempt.Ensures.step rfl ?_
  cases hrefusal : (Element.submit gateway.completions.length command gateway.element).refusal with
  | some code =>
    refine Attempt.Ensures.step rfl ?_
    refine Attempt.Ensures.step rfl ?_
    exact Attempt.Ensures.throw (hrefused code _ hrefusal rfl rfl)
  | none =>
    -- What the wait finds decides; without a limit it has to find something.
    obtain ⟨world', hwait, hfiles, hnow⟩ :=
      wait_eq gateway.completions.length (gateway.sent command) world
    change world'.files = (gateway.answered command world.files).2 at hfiles
    rcases hfound : (gateway.answered command world.files).1 with ⟨found, gateway'⟩
    simp only [hfound] at hok hfailed htimedOut hforever
    change (gateway.sent command).waited gateway.completions.length _ = _ at hfound
    rw [hfound] at hwait
    refine Attempt.Ensures.step (Attempt.lift_of_ok hwait) ?_
    cases found with
    | some outcome =>
      cases outcome with
      | ok output => exact Attempt.Ensures.pure (hok output world' rfl hfiles hnow)
      | error code =>
        refine Attempt.Ensures.step rfl ?_
        exact Attempt.Ensures.throw (hfailed code _ rfl hfiles hnow)
    | none =>
      rcases gateway with ⟨element, completions, timeout, issued, status⟩
      cases timeout with
      | some timeout =>
        refine Attempt.Ensures.step rfl ?_
        exact Attempt.Ensures.throw (htimedOut timeout _ rfl rfl hfiles hnow)
      | none => exact Act.Ensures.of_halt rfl (hforever rfl rfl)

/-- A command ends, unless its answer is waited for forever. -/
theorem submitAndWait_ends (command : Command) (gateway : Gateway ε) (world : World) :
    (submitAndWait command).Ensures gateway world (· = .waitsForever) (fun _ _ _ => True)
      fun _ _ _ => True :=
  submitAndWait_ensures (fun _ _ _ _ _ => trivial) (fun _ _ _ _ _ => trivial)
    (fun _ _ _ _ _ => trivial) (fun _ _ _ _ _ _ => trivial) fun _ _ => rfl

/-! ## Kinds of answers -/

variable {Good : Bytes → Gateway ε → World → Prop}

theorem generateRandom_ensures {len : Nat}
    (h : (submitAndWait (.generateRandom len)).Ensures gateway world Halts Bad
      fun output gateway world => (∀ bytes, output = .random bytes → Good bytes gateway world) ∧
        ((∀ bytes, output ≠ .random bytes) →
          Bad (.unexpectedResponse (Command.generateRandom len).name) gateway world)) :
    (generateRandom len).Ensures gateway world Halts Bad Good := by
  refine h.bind fun output gateway world hanswer => ?_
  cases output with
  | random bytes => exact Attempt.Ensures.pure (hanswer.1 bytes rfl)
  | metadata | ciphertext | done => exact Attempt.Ensures.throw (hanswer.2 nofun)

theorem readMetadata_ensures {slot : ObjectId}
    (h : (submitAndWait (.readMetadata slot)).Ensures gateway world Halts Bad
      fun output gateway world => (∀ bytes, output = .metadata bytes → Good bytes gateway world) ∧
        ((∀ bytes, output ≠ .metadata bytes) →
          Bad (.unexpectedResponse (Command.readMetadata slot).name) gateway world)) :
    (readMetadata slot).Ensures gateway world Halts Bad Good := by
  refine h.bind fun output gateway world hanswer => ?_
  cases output with
  | metadata bytes => exact Attempt.Ensures.pure (hanswer.1 bytes rfl)
  | random | ciphertext | done => exact Attempt.Ensures.throw (hanswer.2 nofun)

theorem encrypt_ensures {slot : KeySlot} {mode : CipherMode} {plaintext iv : Bytes}
    (h : (submitAndWait (.encrypt slot.id mode plaintext iv)).Ensures gateway world Halts Bad
      fun output gateway world => (∀ bytes, output = .ciphertext bytes → Good bytes gateway world) ∧
        ((∀ bytes, output ≠ .ciphertext bytes) →
          Bad (.unexpectedResponse (Command.encrypt slot.id mode plaintext iv).name) gateway
            world)) :
    (encrypt slot mode plaintext iv).Ensures gateway world Halts Bad Good := by
  refine h.bind fun output gateway world hanswer => ?_
  cases output with
  | ciphertext bytes => exact Attempt.Ensures.pure (hanswer.1 bytes rfl)
  | random | metadata | done => exact Attempt.Ensures.throw (hanswer.2 nofun)

/-- Of a command that writes or makes something, any answer will do. -/
theorem writeMetadata_ensures {slot : ObjectId} {metadata : Bytes}
    {Good : Unit → Gateway ε → World → Prop}
    (h : (submitAndWait (.writeMetadata slot metadata)).Ensures gateway world Halts Bad
      fun _ => Good ()) :
    (writeMetadata slot metadata).Ensures gateway world Halts Bad Good :=
  h.bind fun _ _ _ hgood => Attempt.Ensures.pure hgood

theorem generateSymmetricKey_ensures {slot : KeySlot} {Good : Unit → Gateway ε → World → Prop}
    (h : (submitAndWait (.generateSymmetricKey slot.id slot.algorithm slot.usage)).Ensures gateway
      world Halts Bad fun _ => Good ()) :
    (generateSymmetricKey slot).Ensures gateway world Halts Bad Good :=
  h.bind fun _ _ _ hgood => Attempt.Ensures.pure hgood

end SealedLog.Gateway
