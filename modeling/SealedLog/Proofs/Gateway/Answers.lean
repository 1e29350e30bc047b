import SealedLog.Proofs.Gateway.Isolation

/-!
# Kinds of answers

To each kind of command belongs one kind of output. The calls that ask for bytes take no other
output for an answer. The two calls that change a slot do not look: they take whatever output the
element delivers for a sign that the change was made.

- `Command.Asks`: the kind of output that belongs to a command.
- `Gateway.Call.run_of_result`: a call whose command is answered comes back.
- `Gateway.Call.run_of_output`: what each call makes of each output.
- `Gateway.Call.not_refused_of_random`: random bytes pass for a change that was made.
-/

namespace SealedLog

/-- The kind of output that belongs to a command. -/
def Command.Asks : Command → Output → Prop
  | .generateRandom _, .random _ => True
  | .readMetadata _, .metadata _ => True
  | .writeMetadata _ _, .done => True
  | .generateSymmetricKey _ _ _, .done => True
  | .encrypt _ _ _ _, .ciphertext _ => True
  | _, _ => False

/-- The commands that change a slot; no bytes belong to their answers. -/
def Command.Changes : Command → Prop
  | .writeMetadata _ _ | .generateSymmetricKey _ _ _ => True
  | _ => False

namespace Gateway

/-- What an output delivers. -/
def delivered : Output → Response
  | .random bytes | .metadata bytes | .ciphertext bytes => .bytes bytes
  | .done => .done

namespace Call

/-- The calls of one kind of command each; a command of any kind is passed on by the other one. -/
def Typed : Call → Prop
  | .raw _ => False
  | _ => True

/-! ## Judging outputs -/

variable {call : Call} {output : Output}

/-- The output that belongs to the command is passed on as it was delivered. -/
theorem judge_of_asks (htyped : call.Typed) (hasks : call.asCommand.Asks output) :
    call.judge output = .ok (delivered output) := by
  cases call with
  | raw command => exact htyped.elim
  | generateRandom len =>
    cases output with
    | random bytes => rfl
    | metadata | ciphertext | done => exact hasks.elim
  | readMetadata slot =>
    cases output with
    | metadata bytes => rfl
    | random | ciphertext | done => exact hasks.elim
  | writeMetadata slot metadata =>
    cases output with
    | done => rfl
    | random | metadata | ciphertext => exact hasks.elim
  | generateSymmetricKey slot =>
    cases output with
    | done => rfl
    | random | metadata | ciphertext => exact hasks.elim
  | encrypt slot mode plaintext iv =>
    cases output with
    | ciphertext bytes => rfl
    | random | metadata | done => exact hasks.elim

/-- Where bytes are asked for, any other output is an error that names the command. -/
theorem judge_of_other (htyped : call.Typed) (hother : ¬ call.asCommand.Asks output)
    (hchanges : ¬ call.asCommand.Changes) :
    call.judge output = .error (.unexpectedResponse call.asCommand.name) := by
  cases call with
  | raw command => exact htyped.elim
  | generateRandom len =>
    cases output with
    | random bytes => exact absurd trivial hother
    | metadata | ciphertext | done => rfl
  | readMetadata slot =>
    cases output with
    | metadata bytes => exact absurd trivial hother
    | random | ciphertext | done => rfl
  | writeMetadata | generateSymmetricKey => exact absurd trivial hchanges
  | encrypt slot mode plaintext iv =>
    cases output with
    | ciphertext bytes => exact absurd trivial hother
    | random | metadata | done => rfl

/-- Where a slot is changed, every output will do. -/
theorem judge_of_changes (htyped : call.Typed) (hchanges : call.asCommand.Changes) :
    call.judge output = .ok .done := by
  cases call with
  | raw command => exact htyped.elim
  | writeMetadata | generateSymmetricKey => rfl
  | generateRandom | readMetadata | encrypt => exact hchanges.elim

/-! ## Calls that are answered -/

variable {ε : Type} [Element ε] {gateway : Gateway ε} {world : World}

/-- A call comes back if the fate of its command has a result. -/
theorem run_of_result {result : Except CommandError Response}
    (h : call.result gateway.timeout (gateway.fate call.asCommand world.files) = .ok result) :
    ∃ world', call.perform.run gateway world
      = .ok ((result, gateway.after call.asCommand world.files), world') := by
  have hperform := call.perform_fate gateway world
  cases hrun : call.perform.run gateway world with
  | error why =>
    have hwhy := hperform.halts why hrun
    rw [h] at hwhy
    cases hwhy
  | ok ended =>
    obtain ⟨⟨found, gateway'⟩, world'⟩ := ended
    obtain ⟨rfl, hfound⟩ := ended_of_run hrun
    rw [h] at hfound
    obtain rfl := Except.ok.inj hfound
    exact ⟨world', rfl⟩

/-- The element resolves the command of a call with an output in time. Then the call comes back.
With the output that belongs to the command it gives back just what was delivered. With any other
one it fails, and names the command, if it asks for bytes; a change is taken for made. -/
theorem run_of_output (htyped : call.Typed)
    (hresolved : gateway.fate call.asCommand world.files = .inTime (.ok output)) :
    ∃ result world', call.perform.run gateway world
        = .ok ((result, gateway.after call.asCommand world.files), world') ∧
      (call.asCommand.Asks output → result = .ok (delivered output)) ∧
      (¬ call.asCommand.Asks output → ¬ call.asCommand.Changes →
        result = .error (.unexpectedResponse call.asCommand.name)) ∧
      (call.asCommand.Changes → result = .ok .done) := by
  have hresult : call.result gateway.timeout (gateway.fate call.asCommand world.files)
      = .ok (call.judge output) := by
    rw [result, hresolved]
    rfl
  obtain ⟨world', hrun⟩ := run_of_result hresult
  refine ⟨call.judge output, world', hrun, ?_, ?_, ?_⟩
  · intro hasks
    exact judge_of_asks htyped hasks
  · intro hother hchanges
    exact judge_of_other htyped hother hchanges
  · intro hchanges
    exact judge_of_changes htyped hchanges

/-- A gateway to an element that answers the next command so. -/
def answering (output : Output) : Gateway ScriptedElement where
  element := { steps := [{ answer := .output output }] }
  timeout := some (.ofMillis 10)

/-- Random bytes are no metadata. -/
theorem run_of_random :
    (readMetadata 7).Typed ∧
      (answering (.random [1, 2])).fate (.readMetadata 7) {} = .inTime (.ok (.random [1, 2])) ∧
      ∃ gateway world, (readMetadata 7).perform.run (answering (.random [1, 2])) {}
        = .ok ((.error (.unexpectedResponse "read_metadata"), gateway), world) := by
  have htyped : (readMetadata 7).Typed := trivial
  have hresolved : (answering (.random [1, 2])).fate (readMetadata 7).asCommand ({} : World).files
      = .inTime (.ok (.random [1, 2])) := rfl
  obtain ⟨result, world, hrun, -, hother, -⟩ := run_of_output htyped hresolved
  rw [hother id id] at hrun
  exact ⟨htyped, hresolved, _, world, hrun⟩

/-- Metadata was to be written, and the element answers with random bytes: no kind of answer to
that command, and yet the call succeeds. -/
theorem not_refused_of_random :
    ¬ ∀ (call : Call) (gateway gateway' : Gateway ScriptedElement) (world world' : World)
      (output : Output) (result : Except CommandError Response), call.Typed →
      gateway.fate call.asCommand world.files = .inTime (.ok output) →
      call.perform.run gateway world = .ok ((result, gateway'), world') →
      ¬ call.asCommand.Asks output →
      result = .error (.unexpectedResponse call.asCommand.name) := by
  intro hrefused
  have herror := hrefused (.writeMetadata 7 [32]) (answering (.random [1])) _ {} _ (.random [1])
    (.ok .done) trivial rfl rfl id
  cases herror

end Call

end Gateway

end SealedLog
