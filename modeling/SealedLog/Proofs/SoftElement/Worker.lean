import SealedLog.Proofs.SoftElement.Run

/-!
# The worker of a software element

What a worker does with its jobs when it has the time: it does all of them, one after the other.

- `workOff_of_isWithin`: a limit that is not met changes nothing.
- `workOff_append`: the last job is done when the others are.
- `ticket_of_mem_timely`: no one hears of a command that was not queued.
- `settled`: the element with nothing left to do.
-/

namespace SealedLog

/-! ## Time -/

namespace Span

@[simp] theorem nanos_add (a b : Span) : (a + b).nanos = a.nanos + b.nanos := rfl

@[simp] theorem nanos_sub (a b : Span) : (a - b).nanos = a.nanos - b.nanos := rfl

theorem add_assoc (a b c : Span) : a + b + c = a + (b + c) :=
  congrArg Span.mk (Nat.add_assoc a.nanos b.nanos c.nanos)

theorem add_comm (a b : Span) : a + b = b + a :=
  congrArg Span.mk (Nat.add_comm a.nanos b.nanos)

theorem isWithin_of_le {a b : Span} {limit : Option Span} (hle : a.nanos ≤ b.nanos)
    (h : b.isWithin limit = true) : a.isWithin limit = true := by
  cases limit with
  | none => rfl
  | some limit =>
    simp only [isWithin, decide_eq_true_eq] at h ⊢
    omega

end Span

namespace SoftElement

/-! ## Jobs -/

/-- What came of a job and of the ones behind it. -/
def behind (first : Activity SoftElement) (need : Span) (rest : Activity SoftElement) :
    Activity SoftElement :=
  { rest with
    timely := first.timely ++ rest.timely
    elapsed := need + rest.elapsed
    notices := first.notices ++ rest.notices }

/-- What came of jobs and of one more behind them. -/
def andThen (before : Activity SoftElement) (job : Job) : Activity SoftElement :=
  let last := { before.element with spent := ⟨0⟩ }.perform job before.files
  { before with
    element := last.element
    files := last.files
    timely := before.timely ++ last.timely
    elapsed := before.elapsed + (before.element.duration job - before.element.spent)
    notices := before.notices ++ last.notices }

theorem workOff_cons {limit : Option Span} {job : Job} {element : SoftElement}
    (h : (element.duration job - element.spent).isWithin limit = true) (later : List Job)
    (files : Files) :
    workOff limit (job :: later) element files
      = behind ({ element with spent := ⟨0⟩ }.perform job files)
          (element.duration job - element.spent)
          (workOff (limit.map (· - (element.duration job - element.spent))) later
            ({ element with spent := ⟨0⟩ }.perform job files).element
            ({ element with spent := ⟨0⟩ }.perform job files).files) := by
  rw [workOff, if_pos h]
  rfl

theorem workOff_none_cons (job : Job) (later : List Job) (element : SoftElement) (files : Files) :
    workOff none (job :: later) element files
      = behind ({ element with spent := ⟨0⟩ }.perform job files)
          (element.duration job - element.spent)
          (workOff none later ({ element with spent := ⟨0⟩ }.perform job files).element
            ({ element with spent := ⟨0⟩ }.perform job files).files) := rfl

/-- Jobs that are done in time are done as if there were no limit. -/
theorem workOff_of_isWithin (jobs : List Job) (limit : Option Span) (element : SoftElement)
    (files : Files) (h : (workOff none jobs element files).elapsed.isWithin limit = true) :
    workOff limit jobs element files = workOff none jobs element files := by
  induction jobs generalizing limit element files with
  | nil => rfl
  | cons job later ih =>
    cases limit with
    | none => rfl
    | some limit =>
      rw [workOff_none_cons] at h ⊢
      change (_ + (workOff none later _ _).elapsed).isWithin _ = true at h
      have hneed : (element.duration job - element.spent).isWithin (some limit) = true :=
        Span.isWithin_of_le (by simp) h
      rw [workOff_cons hneed]
      congr 1
      refine ih _ _ _ ?_
      simp only [Option.map_some, Span.isWithin, decide_eq_true_eq, Span.nanos_add,
        Span.nanos_sub] at h ⊢
      omega

/-- The last job is done when the others are. -/
theorem workOff_append (jobs : List Job) (job : Job) (element : SoftElement) (files : Files) :
    workOff none (jobs ++ [job]) element files
      = andThen (workOff none jobs element files) job := by
  induction jobs generalizing element files with
  | nil =>
    rw [List.nil_append, workOff_none_cons]
    simp only [behind, andThen, workOff, List.nil_append, List.append_nil]
    rw [Span.add_comm]
  | cons first later ih =>
    rw [List.cons_append, workOff_none_cons, workOff_none_cons, ih]
    simp only [behind, andThen, List.append_assoc, Span.add_assoc]

/-- What a job resolves is its own command. -/
theorem ticket_of_mem_perform {element : SoftElement} {job : Job} {files : Files}
    {resolution : Resolution} (h : resolution ∈ (element.perform job files).timely) :
    resolution.ticket = job.ticket := by
  rw [perform] at h
  split at h
  · cases h
  · rw [List.mem_singleton.mp h]
  · rw [List.mem_singleton.mp h]
  · rw [List.mem_singleton.mp h]

/-- No one hears of a command that was not queued. -/
theorem ticket_of_mem_timely {limit : Option Span} {jobs : List Job} {element : SoftElement}
    {files : Files} {resolution : Resolution}
    (h : resolution ∈ (workOff limit jobs element files).timely) :
    ∃ job ∈ jobs, resolution.ticket = job.ticket := by
  induction jobs generalizing limit element files with
  | nil => cases h
  | cons job later ih =>
    rw [workOff] at h
    split at h
    · rcases List.mem_append.mp h with hfirst | hlater
      · exact ⟨job, List.mem_cons_self, ticket_of_mem_perform hfirst⟩
      · obtain ⟨other, hother, hticket⟩ := ih hlater
        exact ⟨other, List.mem_cons_of_mem job hother, hticket⟩
    · cases h

/-! ## What commands do not look at -/

/-- The first element with the slots, the generator and the state file of the second: these are all
that a command looks at. -/
def dressed (outer element : SoftElement) : SoftElement :=
  { outer with
    slots := element.slots
    generator := element.generator
    stateFile := element.stateFile }

theorem commit_dressed (outer element : SoftElement) (id : ObjectId) (entry : SlotEntry)
    (files : Files) :
    (dressed outer element).commit id entry files
      = { element.commit id entry files with
          element := dressed outer (element.commit id entry files).element } := by
  rcases element with ⟨slots, generator, latency, handover, stateFile, queue, spent, faults, old,
    stalled⟩
  cases stateFile with
  | none => rfl
  | some path =>
    rw [commit, commit]
    dsimp only [dressed]
    split <;> rfl

theorem execute_dressed (outer element : SoftElement) (command : Command) (files : Files) :
    (dressed outer element).execute command files
      = { element.execute command files with
          element := dressed outer (element.execute command files).element } := by
  cases command with
  | generateRandom len => rfl
  | readMetadata slot => rfl
  | writeMetadata slot metadata => exact commit_dressed outer element slot _ files
  | generateSymmetricKey slot algorithm usage =>
    rw [execute, execute]
    dsimp only [dressed]
    cases element.slots.get? slot with
    | none => rfl
    | some entry =>
      by_cases hempty : entry.metadata = []
      · simp only [if_pos hempty]
      · simp only [if_neg hempty]
        exact commit_dressed outer
          { element with generator := (element.generator.fill algorithm.keyLen).2 } slot _ files
  | encrypt slot mode plaintext iv =>
    cases mode
    rw [execute, execute]
    dsimp only [dressed]
    cases element.slots.key? slot with
    | none => rfl
    | some key =>
      by_cases hempty : plaintext = []
      · simp only [if_pos hempty]
      · simp only [if_neg hempty]
        cases Cbc.encryptAes key iv plaintext <;> rfl

/-- A command leaves everything but slots and generator as it is. -/
theorem execute_element (element : SoftElement) (command : Command) (files : Files) :
    (element.execute command files).element
      = dressed element (element.execute command files).element :=
  congrArg Execution.element (execute_dressed element element command files)

/-- What only submission and preparation change is as it was. -/
structure Steady (element element' : SoftElement) : Prop where
  pace : element'.pace = element.pace
  queue : element'.queue = element.queue
  faults : element'.faults = element.faults

theorem steady_perform (element : SoftElement) (job : Job) (files : Files) :
    Steady element (element.perform job files).element := by
  have hexecute := execute_element element job.command files
  rw [perform]
  split
  · exact ⟨rfl, rfl, rfl⟩
  · exact ⟨rfl, rfl, rfl⟩
  · show Steady element (element.execute job.command files).element
    rw [hexecute]
    exact ⟨rfl, rfl, rfl⟩
  · show Steady element (element.execute job.command files).element
    rw [hexecute]
    exact ⟨rfl, rfl, rfl⟩

theorem steady_workOff (jobs : List Job) (element : SoftElement) (files : Files) :
    Steady element (workOff none jobs element files).element := by
  induction jobs generalizing element files with
  | nil => exact ⟨rfl, rfl, rfl⟩
  | cons job later ih =>
    have hfirst := steady_perform { element with spent := ⟨0⟩ } job files
    have hlater := ih ({ element with spent := ⟨0⟩ }.perform job files).element
      ({ element with spent := ⟨0⟩ }.perform job files).files
    exact ⟨hlater.pace.trans hfirst.pace, hlater.queue.trans hfirst.queue,
      hlater.faults.trans hfirst.faults⟩

theorem mem_queue_workOff {limit : Option Span} {jobs : List Job} {element : SoftElement}
    {files : Files} {job : Job} (h : job ∈ (workOff limit jobs element files).element.queue) :
    job ∈ jobs ∨ job ∈ element.queue := by
  induction jobs generalizing limit element files with
  | nil => exact .inr h
  | cons first later ih =>
    rw [workOff] at h
    split at h
    · rcases ih h with hlater | hqueue
      · exact .inl (List.mem_cons_of_mem first hlater)
      · rw [(steady_perform _ _ _).queue] at hqueue
        exact .inr hqueue
    · exact .inl h

/-- What is queued was submitted. -/
theorem queued_of_run {outside : Files → Files → Prop} {first last : Situation}
    (hrun : Run outside first last)
    (h : ∀ job ∈ first.element.queue, job.ticket < first.issued) :
    ∀ job ∈ last.element.queue, job.ticket < last.issued := by
  induction hrun with
  | refl => exact h
  | tail _ hstep ih =>
    intro job hjob
    cases hstep with
    | @submit command element files issued =>
      -- A refused command is not queued, but its ticket is used up.
      rcases react_cases issued command element with ⟨code, faults, hreact⟩ | hreact
      · rw [hreact] at hjob
        exact Nat.lt_succ_of_lt (ih job hjob)
      · rw [hreact] at hjob
        rcases List.mem_append.mp hjob with hold | hnew
        · exact Nat.lt_succ_of_lt (ih job hold)
        · rw [List.mem_singleton.mp hnew]
          exact Nat.lt_succ_self issued
    | inject fault => exact ih job hjob
    | work limit =>
      rcases mem_queue_workOff hjob with hqueue | hnone
      · exact ih job hqueue
      · cases hnone
    | outside _ => exact ih job hjob

/-! ## History -/

/-- An activity of the same element with another history. -/
def withHistory (history : List String) (activity : Activity SoftElement) : Activity SoftElement :=
  { activity with element := { activity.element with history } }

theorem execute_withHistory (history : List String) (element : SoftElement) (command : Command)
    (files : Files) :
    ({ element with history } : SoftElement).execute command files
      = { element.execute command files with
          element := { (element.execute command files).element with history } } := by
  have helement := execute_element element command files
  refine (execute_dressed { element with history } element command files).trans ?_
  generalize element.execute command files = execution at helement
  rw [helement]
  rfl

theorem perform_withHistory (history : List String) (element : SoftElement) (job : Job)
    (files : Files) :
    ({ element with history } : SoftElement).perform job files
      = withHistory history (element.perform job files) := by
  have hexecuted : ∀ change, perform.executed { element with history } job files change
      = withHistory history (perform.executed element job files change) := by
    intro change
    rw [perform.executed, perform.executed, execute_withHistory]
    rfl
  rw [perform, perform]
  split
  · rfl
  · rfl
  · exact hexecuted shortened
  · exact hexecuted id

/-- No work looks at the history. -/
theorem workOff_withHistory (history : List String) (jobs : List Job) (element : SoftElement)
    (files : Files) :
    workOff none jobs { element with history } files
      = withHistory history (workOff none jobs element files) := by
  induction jobs generalizing element files with
  | nil => rfl
  | cons job later ih =>
    let first := { element with spent := ⟨0⟩ }.perform job files
    have hfirst : ({ element with history, spent := ⟨0⟩ } : SoftElement).perform job files
        = withHistory history first :=
      perform_withHistory history { element with spent := ⟨0⟩ } job files
    rw [workOff_none_cons, workOff_none_cons, hfirst]
    show behind _ _ (workOff none later { first.element with history } first.files) = _
    rw [ih]
    rfl

/-! ## Nothing left to do -/

/-- The element when its worker is through with everything that was queued. -/
def settled (element : SoftElement) (files : Files) : SoftElement :=
  { (element.await none files).element with spent := ⟨0⟩ }

theorem steady_settled (element : SoftElement) (files : Files) :
    Steady { element with queue := [] } (element.settled files) := by
  have hsteady := steady_workOff element.queue { element with queue := [] } files
  exact ⟨hsteady.pace, hsteady.queue, hsteady.faults⟩

/-- An element with nothing to do is settled. -/
theorem settled_of_idle {element : SoftElement} (hqueue : element.queue = []) (files : Files) :
    element.settled files = { element with spent := ⟨0⟩ } := by
  rw [settled, await, hqueue, workOff]

end SoftElement

end SealedLog
