import SealedLog.Proofs.SoftElement.Worker

/-!
# How far a worker gets

A worker that is interrupted has done the first of its jobs, just as it would have done them without
a limit, and the others are left. It does not matter in how many stretches the jobs are done.

- `Akin`, `Tantamount`: elements that no command tells apart, and activities with the same effects.
- `await_split`: what a worker does in the time it has.
- `workOff_none_append`: two stretches are as good as one.
- `stalled_workOff`, `tickets_workOff`: each job is held back or resolved.
-/

namespace SealedLog.SoftElement

/-! ## Elements that are alike to a worker -/

/-- Two elements that no command tells apart, and that hold back the same commands. -/
structure Akin (element element' : SoftElement) : Prop where
  slots : element.slots = element'.slots
  generator : element.generator = element'.generator
  stateFile : element.stateFile = element'.stateFile
  stalled : element.stalled = element'.stalled

/-- Two activities with the same effects. They may have taken different times. -/
structure Tantamount (activity activity' : Activity SoftElement) : Prop where
  element : Akin activity.element activity'.element
  files : activity.files = activity'.files
  timely : activity.timely = activity'.timely

variable {element element' : SoftElement}

theorem Akin.refl (element : SoftElement) : Akin element element := ⟨rfl, rfl, rfl, rfl⟩

theorem Akin.trans {element'' : SoftElement} (h : Akin element element')
    (h' : Akin element' element'') : Akin element element'' :=
  ⟨h.slots.trans h'.slots, h.generator.trans h'.generator, h.stateFile.trans h'.stateFile,
    h.stalled.trans h'.stalled⟩

theorem Tantamount.trans {activity activity' activity'' : Activity SoftElement}
    (h : Tantamount activity activity') (h' : Tantamount activity' activity'') :
    Tantamount activity activity'' :=
  ⟨h.element.trans h'.element, h.files.trans h'.files, h.timely.trans h'.timely⟩

/-- A command does the same to both. -/
theorem Akin.execute (h : Akin element element') (command : Command) (files : Files) :
    Akin (element.execute command files).element (element'.execute command files).element ∧
      (element.execute command files).files = (element'.execute command files).files ∧
      (element.execute command files).outcome = (element'.execute command files).outcome := by
  have hdressed : dressed element element' = element := by
    rw [dressed, ← h.slots, ← h.generator, ← h.stateFile]
  have hexecute := execute_dressed element element' command files
  rw [hdressed] at hexecute
  have hstalled : (element'.execute command files).element.stalled = element'.stalled := by
    rw [execute_element]
    rfl
  rw [hexecute]
  exact ⟨⟨rfl, rfl, rfl, h.stalled.trans hstalled.symm⟩, rfl, rfl⟩

/-- So does a job, whatever fault it comes with. -/
theorem Akin.perform (h : Akin element element') (job : Job) (files : Files) :
    Tantamount (element.perform job files) (element'.perform job files) := by
  obtain ⟨helement, hfiles, houtcome⟩ := h.execute job.command files
  have hexecuted : ∀ change, Tantamount (perform.executed element job files change)
      (perform.executed element' job files change) := by
    intro change
    refine ⟨helement, hfiles, ?_⟩
    rw [perform.executed, perform.executed, houtcome]
  rw [SoftElement.perform, SoftElement.perform]
  split
  · exact ⟨⟨h.slots, h.generator, h.stateFile, congrArg (· ++ [job.ticket]) h.stalled⟩, rfl, rfl⟩
  · exact ⟨h, rfl, rfl⟩
  · exact hexecuted shortened
  · exact hexecuted id

/-- So do any number of jobs. -/
theorem Akin.workOff (h : Akin element element') (jobs : List Job) (files : Files) :
    Tantamount (workOff none jobs element files) (workOff none jobs element' files) := by
  induction jobs generalizing element element' files with
  | nil => exact ⟨h, rfl, rfl⟩
  | cons job later ih =>
    have hrested : Akin { element with spent := ⟨0⟩ } { element' with spent := ⟨0⟩ } :=
      ⟨h.slots, h.generator, h.stateFile, h.stalled⟩
    obtain ⟨helement, hfiles, htimely⟩ := hrested.perform job files
    have hlater := ih helement ({ element with spent := ⟨0⟩ }.perform job files).files
    rw [workOff_none_cons, workOff_none_cons]
    rw [← hfiles]
    exact ⟨hlater.element, hlater.files, congrArg₂ (· ++ ·) htimely hlater.timely⟩

/-! ## Stretches of work -/

/-- Jobs behind other jobs begin where those have ended. -/
theorem workOff_none_append (jobs more : List Job) (element : SoftElement) (files : Files) :
    let before := workOff none jobs element files
    let after := workOff none more before.element before.files
    (workOff none (jobs ++ more) element files).element = after.element ∧
      (workOff none (jobs ++ more) element files).files = after.files ∧
      (workOff none (jobs ++ more) element files).timely = before.timely ++ after.timely := by
  induction jobs generalizing element files with
  | nil => exact ⟨rfl, rfl, rfl⟩
  | cons job later ih =>
    obtain ⟨helement, hfiles, htimely⟩ :=
      ih ({ element with spent := ⟨0⟩ }.perform job files).element
        ({ element with spent := ⟨0⟩ }.perform job files).files
    rw [List.cons_append, workOff_none_cons, workOff_none_cons]
    refine ⟨helement, hfiles, ?_⟩
    rw [behind, behind]
    dsimp only at htimely ⊢
    rw [htimely, List.append_assoc]

/-- A worker resolves nothing when the wait is over. -/
theorem overdue_workOff (limit : Option Span) (jobs : List Job) (element : SoftElement)
    (files : Files) : (workOff limit jobs element files).overdue = [] := by
  induction jobs generalizing limit element files with
  | nil => rfl
  | cons job later ih =>
    rw [workOff]
    split
    · exact ih _ _ _
    · rfl

/-- No job changes the history. -/
theorem history_perform (element : SoftElement) (job : Job) (files : Files) :
    (element.perform job files).element.history = element.history :=
  congrArg (·.element.history) (perform_withHistory element.history element job files)

/-- A worker does the first of its jobs, as if it had all the time, and leaves the others. -/
theorem workOff_split (limit : Option Span) (jobs : List Job) (element : SoftElement)
    (files : Files) (hqueue : element.queue = []) :
    ∃ done left, jobs = done ++ left ∧
      Tantamount (workOff limit jobs element files) (workOff none done element files) ∧
      (workOff limit jobs element files).element.queue = left ∧
      (workOff limit jobs element files).element.faults = element.faults ∧
      (workOff limit jobs element files).element.history = element.history ∧
      (limit = none → left = []) := by
  induction jobs generalizing limit element files with
  | nil => exact ⟨[], [], rfl, ⟨.refl _, rfl, rfl⟩, hqueue, rfl, rfl, fun _ => rfl⟩
  | cons job later ih =>
    by_cases hneed : (element.duration job - element.spent).isWithin limit = true
    · let first := { element with spent := ⟨0⟩ }.perform job files
      have hsteady := steady_perform { element with spent := ⟨0⟩ } job files
      obtain ⟨done, left, rfl, hsame, hleft, hfaults, hhistory, hall⟩ :=
        ih (limit.map (· - (element.duration job - element.spent))) first.element first.files
          (hsteady.queue.trans hqueue)
      rw [workOff_cons hneed]
      refine ⟨job :: done, left, rfl, ?_, hleft, hfaults.trans hsteady.faults,
        hhistory.trans (history_perform _ job files), ?_⟩
      · rw [workOff_none_cons]
        exact ⟨hsame.element, hsame.files, congrArg (first.timely ++ ·) hsame.timely⟩
      · rintro rfl
        exact hall rfl
    · rw [workOff, if_neg hneed]
      refine ⟨[], job :: later, rfl, ⟨⟨rfl, rfl, rfl, rfl⟩, rfl, rfl⟩, rfl, rfl, rfl, ?_⟩
      rintro rfl
      exact absurd rfl hneed

/-- The same for what was queued. -/
theorem await_split (limit : Option Span) (element : SoftElement) (files : Files) :
    ∃ done left, element.queue = done ++ left ∧
      Tantamount (element.await limit files) (workOff none done element files) ∧
      (element.await limit files).element.queue = left ∧
      (element.await limit files).element.faults = element.faults ∧
      (element.await limit files).element.history = element.history ∧
      (limit = none → left = []) := by
  obtain ⟨done, left, hjobs, hsame, hkept⟩ :=
    workOff_split limit element.queue { element with queue := [] } files rfl
  have hakin : Akin { element with queue := [] } element := ⟨rfl, rfl, rfl, rfl⟩
  exact ⟨done, left, hjobs, hsame.trans (hakin.workOff done files), hkept⟩

/-! ## What becomes of each job -/

/-- A job is held back if it was to be, and is resolved otherwise. -/
theorem perform_outcome (element : SoftElement) (job : Job) (files : Files) :
    if job.fault = some .stall then
      (element.perform job files).element.stalled = element.stalled ++ [job.ticket] ∧
        (element.perform job files).timely = []
    else
      (element.perform job files).element.stalled = element.stalled ∧
        (element.perform job files).timely.map (·.ticket) = [job.ticket] := by
  have hexecute : (element.execute job.command files).element.stalled = element.stalled := by
    rw [execute_element]
    rfl
  rcases job with ⟨ticket, command, _ | _ | _ | _ | _⟩
  · exact ⟨hexecute, rfl⟩
  · exact ⟨hexecute, rfl⟩
  · exact ⟨rfl, rfl⟩
  · exact ⟨rfl, rfl⟩
  · exact ⟨hexecute, rfl⟩

/-- The commands that are held back are those that were to be. -/
theorem stalled_workOff (jobs : List Job) (element : SoftElement) (files : Files) :
    (workOff none jobs element files).element.stalled
      = element.stalled ++ (jobs.filter fun job => job.fault = some .stall).map (·.ticket) := by
  induction jobs generalizing element files with
  | nil => simp [workOff]
  | cons job later ih =>
    have hjob := perform_outcome { element with spent := ⟨0⟩ } job files
    rw [workOff_none_cons, behind]
    dsimp only
    rw [ih]
    by_cases hstall : job.fault = some .stall
    · rw [if_pos hstall] at hjob
      rw [hjob.1, List.filter_cons_of_pos (by simpa using hstall), List.append_assoc]
      rfl
    · rw [if_neg hstall] at hjob
      rw [hjob.1, List.filter_cons_of_neg (by simpa using hstall)]

/-- All others are resolved, one after the other. -/
theorem tickets_workOff (jobs : List Job) (element : SoftElement) (files : Files) :
    (workOff none jobs element files).timely.map (·.ticket)
      = (jobs.filter fun job => job.fault ≠ some .stall).map (·.ticket) := by
  induction jobs generalizing element files with
  | nil => rfl
  | cons job later ih =>
    have hjob := perform_outcome { element with spent := ⟨0⟩ } job files
    rw [workOff_none_cons, behind]
    dsimp only
    rw [List.map_append, ih]
    by_cases hstall : job.fault = some .stall
    · rw [if_pos hstall] at hjob
      rw [hjob.2, List.filter_cons_of_neg (by simpa using hstall)]
      rfl
    · rw [if_neg hstall] at hjob
      rw [hjob.2, List.filter_cons_of_pos (by simpa using hstall)]
      rfl

end SealedLog.SoftElement
