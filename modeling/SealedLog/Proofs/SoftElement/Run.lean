import SealedLog.Proofs.SoftElement.Slots
import SealedLog.SoftElement

/-!
# Runs of a software element

An element lives through commands that are submitted, faults that are prepared, times in which its
worker gets on, and whatever happens to the files from outside, in any order.

- `Step`, `Run`: what can happen to an element, once and any number of times.
- `commit`: the only way in which slots change. What committing keeps, runs keep: `run_keeps`.
-/

namespace SealedLog.SoftElement

/-- An element with the files around it and the number of commands submitted so far. -/
structure Situation where
  element : SoftElement
  files : Files
  issued : Nat

/-- What can happen to an element. The parameter says what can happen to the files from outside. -/
inductive Step (outside : Files → Files → Prop) : Situation → Situation → Prop
  | submit (command : Command) {element : SoftElement} {files : Files} {issued : Nat} :
      Step outside ⟨element, files, issued⟩
        ⟨(element.react issued command).element, files, issued + 1⟩
  | inject (fault : Fault) {element : SoftElement} {files : Files} {issued : Nat} :
      Step outside ⟨element, files, issued⟩ ⟨element.injectFault fault, files, issued⟩
  | work (limit : Option Span) {element : SoftElement} {files : Files} {issued : Nat} :
      Step outside ⟨element, files, issued⟩
        ⟨(element.await limit files).element, (element.await limit files).files, issued⟩
  | outside {element : SoftElement} {files files' : Files} {issued : Nat} :
      outside files files' → Step outside ⟨element, files, issued⟩ ⟨element, files', issued⟩

/-- Any number of steps. -/
inductive Run (outside : Files → Files → Prop) (first : Situation) : Situation → Prop
  | refl : Run outside first first
  | tail {middle last : Situation} :
      Run outside first middle → Step outside middle last → Run outside first last

/-- The entry has the key that the slot has, or a new one of the right length. -/
def MayBecome (slots : Slots) (id : ObjectId) (entry : SlotEntry) : Prop :=
  entry.key = slots.key? id ∨ ∃ key, entry.key = some key ∧ key.length = Algorithm.aes128.keyLen

/-- What is said about slots, state file and file system is kept when a command commits. -/
def KeptByCommit (Keeps : Slots → Option Path → Files → Prop) : Prop :=
  ∀ (element : SoftElement) (id : ObjectId) (entry : SlotEntry) (files : Files),
    MayBecome element.slots id entry → Keeps element.slots element.stateFile files →
    Keeps (element.commit id entry files).element.slots
      (element.commit id entry files).element.stateFile (element.commit id entry files).files

variable {Keeps : Slots → Option Path → Files → Prop}

theorem length_bytes (generator : Generator) (count : Nat) :
    (generator.bytes count).length = 8 * count := by
  induction count generalizing generator with
  | zero => rfl
  | succ count ih =>
    rw [Generator.bytes, List.length_append, ih, wordBytes, List.length_map, List.length_range]
    omega

/-- A generator gives as many bytes as it is asked for. -/
theorem length_fill (generator : Generator) (len : Nat) :
    (generator.fill len).1.length = len := by
  rw [Generator.fill, List.length_take, length_bytes, Generator.wordsFor]
  omega

/-- A change of a slot is made, or the command fails and nothing is changed. -/
theorem commit_cases (element : SoftElement) (id : ObjectId) (entry : SlotEntry) (files : Files) :
    ((element.commit id entry files).outcome = .ok .done ∧
      (element.commit id entry files).element.slots = element.slots.insert id entry) ∨
    ((element.commit id entry files).outcome = .error .deviceError ∧
      (element.commit id entry files).element.slots = element.slots) := by
  rw [commit]
  split
  · exact .inl ⟨rfl, rfl⟩
  · split
    · exact .inl ⟨rfl, rfl⟩
    · exact .inr ⟨rfl, rfl⟩

/-- A command changes slots and files by committing, or not at all. -/
theorem execute_keeps (hcommit : KeptByCommit Keeps) (element : SoftElement) (command : Command)
    {files : Files} (h : Keeps element.slots element.stateFile files) :
    Keeps (element.execute command files).element.slots
      (element.execute command files).element.stateFile (element.execute command files).files := by
  cases command with
  | generateRandom len => exact h
  | readMetadata slot => exact h
  | writeMetadata slot metadata =>
    refine hcommit element slot _ files (.inl ?_) h
    show ((element.slots.get? slot).getD {}).key = _
    rw [Slots.key?]
    cases element.slots.get? slot <;> rfl
  | generateSymmetricKey slot algorithm usage =>
    rw [execute]
    split
    · exact h
    · split
      · exact h
      · -- The generator has moved on, which says nothing about slots and files.
        refine hcommit { element with generator := _ } slot _ files (.inr ?_) h
        cases algorithm
        refine ⟨_, rfl, ?_⟩
        exact length_fill element.generator Algorithm.aes128.keyLen
  | encrypt slot mode plaintext iv =>
    cases mode
    rw [execute]
    split
    · exact h
    · split
      · exact h
      · split <;> exact h

/-- So does a job, whatever fault it comes with. -/
theorem perform_keeps (hcommit : KeptByCommit Keeps) (element : SoftElement) (job : Job)
    {files : Files} (h : Keeps element.slots element.stateFile files) :
    Keeps (element.perform job files).element.slots
      (element.perform job files).element.stateFile (element.perform job files).files := by
  rw [perform]
  split
  · exact h
  · exact h
  · exact execute_keeps hcommit element job.command h
  · exact execute_keeps hcommit element job.command h

/-- So do any number of jobs, by induction on them. -/
theorem workOff_keeps (hcommit : KeptByCommit Keeps) (jobs : List Job) (limit : Option Span)
    (element : SoftElement) {files : Files} (h : Keeps element.slots element.stateFile files) :
    Keeps (workOff limit jobs element files).element.slots
      (workOff limit jobs element files).element.stateFile
      (workOff limit jobs element files).files := by
  induction jobs generalizing limit element files with
  | nil => exact h
  | cons job later ih =>
    rw [workOff]
    split
    · exact ih _ _ (perform_keeps hcommit { element with spent := ⟨0⟩ } job h)
    · exact h

/-- A submitted command is refused, or it is queued with the fault that is due. -/
theorem react_cases (ticket : Ticket) (command : Command) (element : SoftElement) :
    (∃ code faults, element.react ticket command = refuse { element with faults } ticket code) ∨
      element.react ticket command =
        { element :=
            { element with
              faults := element.faults.drop 1
              queue := element.queue ++ [⟨ticket, command, element.faults.head?⟩]
              history := element.history ++ [command.name] } } := by
  rw [react]
  cases checkParameters command with
  | error code => exact .inl ⟨code, element.faults, rfl⟩
  | ok _ =>
    cases element.faults.head? with
    | none => exact .inr rfl
    | some fault =>
      cases fault with
      | rejectSubmission code => exact .inl ⟨code, element.faults.drop 1, rfl⟩
      | failCompletion code => exact .inr rfl
      | stall => exact .inr rfl
      | shortOutput => exact .inr rfl

/-- What is queued was queued before, or it is the command that is submitted. -/
theorem mem_queue_react {ticket : Ticket} {command : Command} {element : SoftElement} {job : Job}
    (h : job ∈ (element.react ticket command).element.queue) :
    job ∈ element.queue ∨ job.ticket = ticket ∧ job.command = command := by
  rcases react_cases ticket command element with ⟨code, faults, hreact⟩ | hreact <;>
    rw [hreact] at h
  · exact .inl h
  · rcases List.mem_append.mp h with hold | hnew
    · exact .inl hold
    · rw [List.mem_singleton.mp hnew]
      exact .inr ⟨rfl, rfl⟩

/-- What committing keeps is kept by every step. -/
theorem step_keeps {outside : Files → Files → Prop} (hcommit : KeptByCommit Keeps)
    (houtside : ∀ {slots stateFile files files'}, outside files files' →
      Keeps slots stateFile files → Keeps slots stateFile files')
    {first last : Situation} (hstep : Step outside first last)
    (h : Keeps first.element.slots first.element.stateFile first.files) :
    Keeps last.element.slots last.element.stateFile last.files := by
  cases hstep with
  | @submit command element files issued =>
    rcases react_cases issued command element with ⟨code, faults, hreact⟩ | hreact <;>
      rw [hreact] <;> exact h
  | inject fault => exact h
  | @work limit element files issued =>
    exact workOff_keeps hcommit element.queue limit { element with queue := [] } h
  | outside hfiles => exact houtside hfiles h

/-- What committing keeps is kept throughout a run. -/
theorem run_keeps {outside : Files → Files → Prop} (hcommit : KeptByCommit Keeps)
    (houtside : ∀ {slots stateFile files files'}, outside files files' →
      Keeps slots stateFile files → Keeps slots stateFile files')
    {first last : Situation} (hrun : Run outside first last)
    (h : Keeps first.element.slots first.element.stateFile first.files) :
    Keeps last.element.slots last.element.stateFile last.files := by
  induction hrun with
  | refl => exact h
  | tail _ hstep ih => exact step_keeps hcommit houtside hstep ih

end SealedLog.SoftElement
