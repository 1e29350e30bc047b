import SealedLog.Act
import SealedLog.Cbc
import SealedLog.Element
import SealedLog.Generator
import SealedLog.Sha256
import SealedLog.SoftElement.StateFile

/-!
# The software element

A stand-in for a secure element. Commands are checked when they are submitted, and a worker
executes them in that order, each after a fixed latency. A caller that gives up does not stop the
worker: the commands behind wait for the one given up. Key bytes are used inside only: what leaves
is random bytes, metadata and ciphertext. Faults can be prepared, each for the next command that
passes the check.

- `SoftElement.checkParameters`: the check at submission.
- `SoftElement.react`: the submission of a command, with the next fault put to it.
- `SoftElement.execute`: what a command does to the slots, the generator and the state file.
- `SoftElement.await`: what the worker does while a caller waits.
- `SoftElement.start`: an element with the slots of a state file.
-/

namespace SealedLog

/-- What goes wrong with the next command. -/
inductive Fault
  /-- The command is refused. -/
  | rejectSubmission (code : StatusCode)
  /-- The command is accepted and fails without being executed. -/
  | failCompletion (code : StatusCode)
  /-- The command is accepted and never resolved. -/
  | stall
  /-- The command is executed, and the last byte of its output is lost. -/
  | shortOutput
deriving Repr, DecidableEq

/-- An accepted command that waits for the worker, with the fault due for it. -/
structure Job where
  ticket : Ticket
  command : Command
  fault : Option Fault := none
deriving Repr, DecidableEq

/-- A software element. -/
structure SoftElement where
  slots : Slots := .empty
  generator : Generator
  latency : Span := ⟨0⟩
  /-- The moment it takes the worker to take up a job. -/
  handover : Span := ⟨0⟩
  /-- Where the slots are stored after every change. -/
  stateFile : Option Path := none
  /-- The accepted commands that the worker has not dealt with, first one next. -/
  queue : List Job := []
  /-- The time already spent on the first of them. -/
  spent : Span := ⟨0⟩
  /-- Faults for the coming commands, next one first. -/
  faults : List Fault := []
  /-- The names of the accepted commands, in order. -/
  history : List String := []
  /-- The commands that are held back and never resolved. -/
  stalled : List Ticket := []

namespace SoftElement

/-- The fewest random bytes an element gives. -/
def randomMin : Nat := 8

/-- The most random bytes an element gives. -/
def randomMax : Nat := 256

/-- The longest metadata of a slot. -/
def metadataMax : Nat := 44

/-- The check that comes before everything else. -/
def checkParameters : Command → Except StatusCode Unit
  | .generateRandom len =>
    if randomMin ≤ len ∧ len ≤ randomMax then .ok () else .error .invalidInput
  | .writeMetadata _ metadata =>
    if metadata = [] ∨ metadataMax < metadata.length then .error .invalidInput else .ok ()
  | _ => .ok ()

/-! ## Execution -/

/-- What came of executing a command. -/
structure Execution where
  outcome : Outcome
  element : SoftElement
  files : Files
  notices : List Notice := []

/-- The notice of a state file that could not be stored. -/
def notSaved (path : Path) (error : SystemError) : Notice where
  level := .error
  text := "failed to persist secure element state"
  fields := [("path", path.text), ("error", (LogError.element (.storage error)).message)]
  reporter := .element

/-- Gives a slot an entry. With a state file the new slots are stored first, and a failure to
store them leaves the slots alone. -/
def commit (element : SoftElement) (id : ObjectId) (entry : SlotEntry) (files : Files) :
    Execution :=
  let slots := element.slots.insert id entry
  match element.stateFile with
  | none => ⟨.ok .done, { element with slots }, files, []⟩
  | some path =>
    match StateFile.save Sha256.digest path slots files with
    | (.ok (), files) => ⟨.ok .done, { element with slots }, files, []⟩
    | (.error error, files) => ⟨.error .deviceError, element, files, [notSaved path error]⟩

/-- Executes a command. -/
def execute (element : SoftElement) (command : Command) (files : Files) : Execution :=
  match command with
  | .generateRandom len =>
    let (bytes, generator) := element.generator.fill len
    ⟨.ok (.random bytes), { element with generator }, files, []⟩
  | .readMetadata slot => ⟨.ok (.metadata (element.slots.metadata slot)), element, files, []⟩
  | .writeMetadata slot metadata =>
    let entry := (element.slots.get? slot).getD {}
    element.commit slot { entry with metadata } files
  | .generateSymmetricKey slot algorithm _ =>
    match element.slots.get? slot with
    | none => ⟨.error .accessCondition, element, files, []⟩
    | some entry =>
      if entry.metadata = [] then ⟨.error .accessCondition, element, files, []⟩
      else
        -- The key is drawn before it is stored, so a failure to store it uses the draw up.
        let (key, generator) := element.generator.fill algorithm.keyLen
        commit { element with generator } slot { entry with key := some key } files
  | .encrypt slot .cbc plaintext iv =>
    match element.slots.key? slot with
    | none => ⟨.error .keyNotFound, element, files, []⟩
    | some key =>
      if plaintext = [] then ⟨.error .invalidInput, element, files, []⟩
      else
        match Cbc.encryptAes key iv plaintext with
        | none => ⟨.error .invalidInput, element, files, []⟩
        | some ciphertext => ⟨.ok (.ciphertext ciphertext), element, files, []⟩

/-- An output without its last byte. -/
def shortened : Output → Output
  | .random bytes => .random bytes.dropLast
  | .metadata bytes => .metadata bytes.dropLast
  | .ciphertext bytes => .ciphertext bytes.dropLast
  | .done => .done

/-! ## Submission -/

/-- The reaction to a command that is not accepted; its completion is given up. -/
def refuse (element : SoftElement) (ticket : Ticket) (code : StatusCode) :
    Reaction SoftElement :=
  { element, refusal := some code, resolved := [.drop ticket] }

/-- The reaction to a command. A command that fails the check uses up no fault. -/
def react (ticket : Ticket) (command : Command) (element : SoftElement) :
    Reaction SoftElement :=
  match checkParameters command with
  | .error code => element.refuse ticket code
  | .ok () =>
    let fault := element.faults.head?
    let element := { element with faults := element.faults.drop 1 }
    match fault with
    | some (.rejectSubmission code) => element.refuse ticket code
    | fault =>
      { element :=
          { element with
            queue := element.queue ++ [⟨ticket, command, fault⟩]
            history := element.history ++ [command.name] } }

/-! ## The worker -/

/-- How long the worker is busy with a command that it executes. -/
def pace (element : SoftElement) : Span := element.handover + element.latency

/-- How long the worker is busy with a job. A job that is not executed costs no latency. -/
def duration (element : SoftElement) (job : Job) : Span :=
  match job.fault with
  | some .stall | some (.failCompletion _) => element.handover
  | _ => element.pace

/-- What the worker does when it is through with a job. -/
def perform (element : SoftElement) (job : Job) (files : Files) : Activity SoftElement :=
  match job.fault with
  | some .stall =>
    { element := { element with stalled := element.stalled ++ [job.ticket] }, files }
  | some (.failCompletion code) => { element, files, timely := [⟨job.ticket, .error code⟩] }
  | some .shortOutput => executed shortened
  | _ => executed id
where
  /-- The job executed and resolved with its output changed. -/
  executed (change : Output → Output) : Activity SoftElement :=
    let execution := element.execute job.command files
    { element := execution.element
      files := execution.files
      timely := [⟨job.ticket, execution.outcome.map change⟩]
      notices := execution.notices }

/-- Jobs done one after the other while there is time. The first one for which there is not is
left with the time already spent on it, and the ones behind it are left as they are. -/
def workOff (limit : Option Span) : List Job → SoftElement → Files → Activity SoftElement
  | [], element, files => { element, files }
  | job :: later, element, files =>
    let need := element.duration job - element.spent
    if need.isWithin limit then
      let first := { element with spent := ⟨0⟩ }.perform job files
      let rest := workOff (limit.map (· - need)) later first.element first.files
      { rest with
        timely := first.timely ++ rest.timely
        elapsed := need + rest.elapsed
        notices := first.notices ++ rest.notices }
    else
      { element :=
          { element with queue := job :: later, spent := element.spent + limit.getD ⟨0⟩ }
        files }

/-- What the worker does while a caller waits. -/
def await (limit : Option Span) (element : SoftElement) (files : Files) :
    Activity SoftElement :=
  workOff limit element.queue { element with queue := [] } files

instance : Element SoftElement where
  name _ := "soft-secure-element"
  submit := react
  await := await

/-! ## Preparation -/

/-- An element whose slot has the usual metadata and a known key. -/
def withKey (element : SoftElement) (slot : ObjectId) (key : Bytes) : SoftElement :=
  { element with slots := element.slots.insert slot ⟨KeySlot.descriptor, some key⟩ }

/-- Prepares a fault for a coming command. -/
def injectFault (element : SoftElement) (fault : Fault) : SoftElement :=
  { element with faults := element.faults ++ [fault] }

/-- An element with the slots of its state file, or with none if there is no such file. -/
def start (generator : Generator) (latency : Span) (stateFile : Option Path) :
    Scene (Except ElementError SoftElement) := do
  let world ← Scene.world
  let fresh : SoftElement := { generator, latency, handover := world.handover, stateFile }
  match stateFile with
  | none => return .ok fresh
  | some path =>
    match Files.present path world.files with
    | (.ok true, files) =>
      let (loaded, files) := StateFile.load Sha256.digest path files
      set { world with files }
      match loaded with
      | .error error => return .error error
      | .ok slots =>
        Scene.note ⟨.info, "secure element state loaded",
          [("path", path.text), ("slots", toString slots.size)], .element⟩
        return .ok { fresh with slots }
    | (_, files) =>
      set { world with files }
      return .ok fresh

end SoftElement

end SealedLog
