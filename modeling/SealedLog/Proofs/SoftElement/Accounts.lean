import SealedLog.Proofs.SoftElement.Progress
import SealedLog.Proofs.SoftElement.Secrecy

/-!
# The accounts of a software element

Commands are submitted and faults are prepared in any order, and now and then the worker gets on.
The accounts of all that are kept beside the element, from the events alone: which fault was put to
which command, and so which commands were refused. The element agrees with them. Its worker has done
the first of the accepted commands, one after the other as if there had been no interruption, and
the others are in its queue.

- `Books`, `Entry`: the accounts; `Books.enter` is for one event.
- `Balanced`: how an element agrees with them. `Balanced.submit`, `Balanced.inject` and
  `Balanced.work` are for one event, and `balanced_live` is for a life.
- `Accounts`, `accounts_of_life`: what follows for faults, history, handles and stalled commands.
-/

namespace SealedLog.SoftElement

/-! ## Books -/

/-- The fault that is put to a command when this one comes next: none if the command fails the
check. -/
def faultFor (command : Command) (next : Option Fault) : Option Fault :=
  match checkParameters command with
  | .error _ => none
  | .ok _ => next

/-- A command that was submitted, with the fault that was put to it. -/
structure Entry where
  ticket : Ticket
  command : Command
  fault : Option Fault

namespace Entry

/-- Why a command is refused, if it is. -/
def refusal (entry : Entry) : Option StatusCode :=
  match checkParameters entry.command, entry.fault with
  | .error code, _ => some code
  | .ok _, some (.rejectSubmission code) => some code
  | .ok _, _ => none

def accepted (entry : Entry) : Bool := entry.refusal.isNone

def stalls (entry : Entry) : Bool := entry.fault = some .stall

/-- What the worker has to do for a command that is accepted. -/
def job (entry : Entry) : Job := ⟨entry.ticket, entry.command, entry.fault⟩

end Entry

/-- The faults that were prepared and the commands that were submitted, both in order. -/
structure Books where
  prepared : List Fault := []
  entries : List Entry := []

namespace Books

/-- The faults that were put to commands. -/
def met (books : Books) : List Fault := books.entries.filterMap (·.fault)

/-- The commands that were accepted. -/
def accepted (books : Books) : List Entry := books.entries.filter (·.accepted)

/-- The fault for the next command: the first that no command has met. -/
def due (books : Books) (command : Command) : Option Fault :=
  faultFor command books.prepared[books.met.length]?

/-- One event. -/
def enter (books : Books) : Event → Books
  | .inject fault => { books with prepared := books.prepared ++ [fault] }
  | .submit command =>
    { books with
      entries := books.entries ++ [⟨books.entries.length, command, books.due command⟩] }
  | .work _ => books

end Books

/-- The books of a life. -/
def booksOf (events : List Event) : Books := events.foldl Books.enter {}

theorem booksOf_concat (events : List Event) (event : Event) :
    booksOf (events ++ [event]) = (booksOf events).enter event := by
  simp [booksOf]

/-- A command is refused or queued, as the entry for it says. -/
theorem react_eq (ticket : Ticket) (command : Command) (element : SoftElement) :
    let fault := faultFor command element.faults.head?
    let entry : Entry := ⟨ticket, command, fault⟩
    element.react ticket command =
      { element :=
          { element with
            faults := element.faults.drop fault.toList.length
            queue := element.queue ++ ([entry].filter (·.accepted)).map (·.job)
            history := element.history ++ ([entry].filter (·.accepted)).map (·.command.name) }
        refusal := entry.refusal
        resolved := ([entry].filter fun entry => !entry.accepted).map fun entry =>
          .drop entry.ticket } := by
  rw [react]
  cases hcheck : checkParameters command with
  | error code => simp [faultFor, Entry.accepted, Entry.refusal, hcheck, refuse]
  | ok _ =>
    cases hfaults : element.faults with
    | nil => simp [faultFor, Entry.accepted, Entry.refusal, Entry.job, hcheck]
    | cons fault later =>
      cases fault <;> simp [faultFor, Entry.accepted, Entry.refusal, Entry.job, hcheck, refuse]

/-- A fault that is put to a command is used up. -/
theorem faultFor_append (command : Command) (faults : List Fault) :
    (faultFor command faults.head?).toList
        ++ faults.drop (faultFor command faults.head?).toList.length = faults := by
  rw [faultFor]
  cases checkParameters command with
  | error code => rfl
  | ok _ => cases faults <;> rfl

/-! ## Balance -/

theorem Situation.live_concat (events : List Event) (event : Event) (situation : Situation) :
    situation.live (events ++ [event])
      = ((situation.live events).1 ++ [((situation.live events).2.meet event).1],
        ((situation.live events).2.meet event).2) := by
  induction events generalizing situation with
  | nil => rfl
  | cons first later ih => simp only [List.cons_append, Situation.live, ih]

/-- What submissions were answered, in order. -/
def answers (events : List Event) (heard : List Heard) : List (Command × Option StatusCode) :=
  (events.zip heard).filterMap fun
    | (.submit command, heard) => some (command, heard.refusal)
    | _ => none

theorem answers_concat {events : List Event} {heard : List Heard}
    (hlength : events.length = heard.length) (event : Event) (last : Heard) :
    answers (events ++ [event]) (heard ++ [last])
      = answers events heard ++ answers [event] [last] := by
  rw [answers, List.zip_append hlength, List.filterMap_append]
  rfl

/-- How an element agrees with its books, when some of the accepted commands are done and the others
are left. -/
structure Balanced (first : Situation) (events : List Event) (heard : List Heard)
    (last : Situation) (done left : List Entry) : Prop where
  length : events.length = heard.length
  /-- Faults were put to commands in the order in which they were prepared, and the element has the
  others. -/
  faults : (booksOf events).met ++ last.element.faults = (booksOf events).prepared
  issued : last.issued = (booksOf events).entries.length
  tickets : (booksOf events).entries.map (·.ticket) = List.range (booksOf events).entries.length
  /-- Submissions were answered as the check says, and the fault that was put to them. -/
  answers : answers events heard
    = (booksOf events).entries.map fun entry => (entry.command, entry.refusal)
  history : last.element.history = (booksOf events).accepted.map (·.command.name)
  /-- The first of the accepted commands are done, and the others are queued. -/
  accepted : (booksOf events).accepted = done ++ left
  queue : last.element.queue = left.map (·.job)
  /-- What was done was done in order, and nothing else was done. -/
  element : Akin last.element (workOff none (done.map (·.job)) first.element first.files).element
  files : last.files = (workOff none (done.map (·.job)) first.element first.files).files
  /-- The worker resolved what it did, and submission gave up what it refused. -/
  resolved : (heard.flatMap (·.resolved)).Perm
    (((booksOf events).entries.filter fun entry => !entry.accepted).map
        (fun entry => .drop entry.ticket)
      ++ (workOff none (done.map (·.job)) first.element first.files).timely)

namespace Balanced

variable {first last : Situation} {events : List Event} {heard : List Heard}
  {done left : List Entry}

/-- The fault that is due is the first that the element has left. -/
theorem due_eq (h : Balanced first events heard last done left) (command : Command) :
    (booksOf events).due command = faultFor command last.element.faults.head? := by
  have hnext : (booksOf events).prepared[(booksOf events).met.length]?
      = last.element.faults.head? := by
    rw [← h.faults, List.getElem?_append_right (Nat.le_refl _), Nat.sub_self,
      List.head?_eq_getElem?]
  rw [Books.due, hnext]

theorem submit (h : Balanced first events heard last done left) (command : Command) :
    ∃ more, Balanced first (events ++ [.submit command])
      (heard ++ [(last.meet (.submit command)).1]) (last.meet (.submit command)).2 done
      (left ++ more) := by
  let fault := faultFor command last.element.faults.head?
  let entry : Entry := ⟨last.issued, command, fault⟩
  have hbooks : booksOf (events ++ [.submit command])
      = { booksOf events with entries := (booksOf events).entries ++ [entry] } := by
    rw [booksOf_concat, Books.enter, ← h.issued, h.due_eq]
  refine ⟨[entry].filter (·.accepted), ?_⟩
  rw [Situation.meet, react_eq]
  constructor
  · simp [h.length]
  · have hmet : (booksOf (events ++ [.submit command])).met
        = (booksOf events).met ++ fault.toList := by
      rw [hbooks, Books.met, List.filterMap_append, Books.met]
      cases hfault : fault <;> simp [entry, hfault]
    rw [hmet, List.append_assoc]
    dsimp only
    rw [faultFor_append, h.faults, hbooks]
  · simp [hbooks, h.issued]
  · simp [hbooks, h.tickets, h.issued, entry, List.range_succ]
  · rw [answers_concat h.length, h.answers, hbooks, List.map_append]
    rfl
  · rw [hbooks, Books.accepted, List.filter_append, List.map_append, ← Books.accepted, ← h.history]
  · rw [hbooks, Books.accepted, List.filter_append, ← List.append_assoc, ← h.accepted]
    rfl
  · rw [List.map_append, ← h.queue]
  · exact ⟨h.element.slots, h.element.generator, h.element.stateFile, h.element.stalled⟩
  · exact h.files
  · rw [hbooks, List.flatMap_append, List.flatMap_singleton, List.filter_append, List.map_append]
    refine (h.resolved.append_right _).trans ?_
    rw [List.append_assoc, List.append_assoc]
    exact List.perm_append_comm.append_left _

theorem inject (h : Balanced first events heard last done left) (fault : Fault) :
    Balanced first (events ++ [.inject fault]) (heard ++ [(last.meet (.inject fault)).1])
      (last.meet (.inject fault)).2 done left := by
  have hbooks : booksOf (events ++ [.inject fault])
      = { booksOf events with prepared := (booksOf events).prepared ++ [fault] } :=
    booksOf_concat events (.inject fault)
  constructor
  · simp [h.length]
  · rw [hbooks]
    show (booksOf events).met ++ (last.element.faults ++ [fault]) = _
    rw [← List.append_assoc, h.faults]
  · rw [hbooks]
    exact h.issued
  · rw [hbooks]
    exact h.tickets
  · rw [answers_concat h.length, h.answers, hbooks]
    exact List.append_nil _
  · rw [hbooks]
    exact h.history
  · rw [hbooks]
    exact h.accepted
  · exact h.queue
  · exact ⟨h.element.slots, h.element.generator, h.element.stateFile, h.element.stalled⟩
  · exact h.files
  · rw [hbooks]
    simpa [Situation.meet] using h.resolved

theorem work (h : Balanced first events heard last done left) (limit : Option Span) :
    ∃ more rest, left = more ++ rest ∧ (limit = none → rest = []) ∧
      Balanced first (events ++ [.work limit]) (heard ++ [(last.meet (.work limit)).1])
        (last.meet (.work limit)).2 (done ++ more) rest := by
  have hbooks : booksOf (events ++ [.work limit]) = booksOf events :=
    booksOf_concat events (.work limit)
  obtain ⟨did, kept, hjobs, hsame, hqueue, hfaults, hhistory, hall⟩ :=
    await_split limit last.element last.files
  rw [h.queue] at hjobs
  obtain ⟨more, rest, rfl, rfl, rfl⟩ := List.map_eq_append_iff.mp hjobs
  -- What was done before and what was done now are done as one.
  obtain ⟨helement, hfiles, htimely⟩ :=
    workOff_none_append (done.map (·.job)) (more.map (·.job)) first.element first.files
  rw [← List.map_append, ← h.files] at helement hfiles htimely
  have hmore := hsame.trans (h.element.workOff (more.map (·.job)) last.files)
  refine ⟨more, rest, rfl, fun hlimit => List.map_eq_nil_iff.mp (hall hlimit), ?_⟩
  constructor
  · simp [h.length]
  · rw [hbooks]
    exact (congrArg (_ ++ ·) hfaults).trans h.faults
  · rw [hbooks]
    exact h.issued
  · rw [hbooks]
    exact h.tickets
  · rw [answers_concat h.length, h.answers, hbooks]
    exact List.append_nil _
  · rw [hbooks]
    exact hhistory.trans h.history
  · rw [hbooks, h.accepted, List.append_assoc]
  · exact hqueue
  · rw [helement]
    exact hmore.element
  · rw [hfiles]
    exact hmore.files
  · have hheard : (last.meet (.work limit)).1.resolved
        = (last.element.await limit last.files).timely := by
      show _ ++ (workOff _ _ _ _).overdue = _
      rw [overdue_workOff, List.append_nil]
    rw [hbooks, List.flatMap_append, List.flatMap_singleton, hheard, htimely, hmore.timely,
      ← List.append_assoc]
    exact h.resolved.append_right _

end Balanced

/-- An element with whatever slots that has just been made, among some files. -/
def Situation.fresh (slots : Slots) (generator : Generator) (latency handover : Span)
    (stateFile : Option Path) (files : Files) : Situation :=
  ⟨{ slots, generator, latency, handover, stateFile }, files, 0⟩

section Life

variable (slots : Slots) (generator : Generator) (latency handover : Span)
  (stateFile : Option Path) (files : Files)

/-- It agrees with empty books. -/
theorem balanced_fresh :
    Balanced (.fresh slots generator latency handover stateFile files) [] []
      (.fresh slots generator latency handover stateFile files) [] [] where
  length := rfl
  faults := rfl
  issued := rfl
  tickets := rfl
  answers := rfl
  history := rfl
  accepted := rfl
  queue := rfl
  element := .refl _
  files := rfl
  resolved := .refl _

/-- It agrees with its books throughout its life. When its worker has had all the time, nothing is
left. -/
theorem balanced_live (events : List Event) :
    let first := Situation.fresh slots generator latency handover stateFile files
    ∃ done left, Balanced first events (first.live events).1 (first.live events).2 done left ∧
      ∀ before, events = before ++ [.work none] → left = [] := by
  intro first
  induction events using List.reverseRecOn with
  | nil =>
    exact ⟨[], [], balanced_fresh slots generator latency handover stateFile files, fun _ _ => rfl⟩
  | append_singleton events event ih =>
    obtain ⟨done, left, hbalanced, -⟩ := ih
    rw [Situation.live_concat]
    cases event with
    | submit command =>
      obtain ⟨more, hmore⟩ := hbalanced.submit command
      refine ⟨done, left ++ more, hmore, fun before hbefore => ?_⟩
      cases (List.append_inj_right' hbefore rfl)
    | inject fault =>
      refine ⟨done, left, hbalanced.inject fault, fun before hbefore => ?_⟩
      cases (List.append_inj_right' hbefore rfl)
    | work limit =>
      obtain ⟨more, rest, -, hall, hmore⟩ := hbalanced.work limit
      refine ⟨done ++ more, rest, hmore, fun before hbefore => hall ?_⟩
      cases (List.append_inj_right' hbefore rfl)
      rfl

end Life

/-! ## Accounts -/

/-- The tickets of everything that was resolved, in order. -/
def resolvedTickets (heard : List Heard) : List Ticket :=
  (heard.flatMap (·.resolved)).map (·.ticket)

/-- What follows for the history and for the handles of the commands. -/
structure Accounts (first : Situation) (events : List Event) (heard : List Heard)
    (last : Situation) (done left : List Entry) : Prop
    extends Balanced first events heard last done left where
  /-- The history names the commands whose submissions were answered well, and no others. -/
  named : last.element.history
    = ((SoftElement.answers events heard).filter (·.2.isNone)).map (·.1.name)
  /-- A command that is done was resolved once, unless it is held back. -/
  once : ∀ entry ∈ done, (resolvedTickets heard).count entry.ticket = if entry.stalls then 0 else 1
  /-- Those held back are those that were to be. -/
  stalled : last.element.stalled = (done.filter (·.stalls)).map (·.ticket)
  /-- A command that is queued was not resolved. -/
  waiting : ∀ entry ∈ left, (resolvedTickets heard).count entry.ticket = 0
  /-- A command that was refused was given up once. It is neither queued nor held back. -/
  refused : ∀ entry ∈ (booksOf events).entries, entry.accepted = false →
    (resolvedTickets heard).count entry.ticket = 1 ∧
      .drop entry.ticket ∈ heard.flatMap (·.resolved) ∧
      entry.ticket ∉ left.map (·.ticket) ∧ entry.ticket ∉ last.element.stalled
  /-- When the worker has just had all the time, nothing is left. -/
  idle : ∀ before, events = before ++ [.work none] → left = []

/-- Of entries with different tickets, each is counted once. -/
theorem count_ticket {entries : List Entry} (hnodup : (entries.map (·.ticket)).Nodup)
    {entry : Entry} (hentry : entry ∈ entries) (p : Entry → Bool) :
    ((entries.filter p).map (·.ticket)).count entry.ticket = if p entry then 1 else 0 := by
  by_cases hp : p entry
  · rw [if_pos hp]
    refine List.count_eq_one_of_mem (hnodup.sublist (List.filter_sublist.map _)) ?_
    exact List.mem_map_of_mem (List.mem_filter.mpr ⟨hentry, hp⟩)
  · rw [if_neg hp, List.count_eq_zero]
    intro hmem
    obtain ⟨other, hother, hticket⟩ := List.mem_map.mp hmem
    obtain ⟨hother, hp'⟩ := List.mem_filter.mp hother
    rw [List.inj_on_of_nodup_map hnodup hother hentry hticket] at hp'
    exact hp hp'

namespace Balanced

variable {first last : Situation} {events : List Event} {heard : List Heard}
  {done left : List Entry}

/-- Every command is refused, done or left, and no two have one ticket. -/
theorem nodup_tickets (h : Balanced first events heard last done left) :
    (((booksOf events).entries.filter fun entry => !entry.accepted).map (·.ticket)
      ++ (done.map (·.ticket) ++ left.map (·.ticket))).Nodup := by
  have hperm : ((booksOf events).entries.filter (fun entry => !entry.accepted)
      ++ (booksOf events).accepted).Perm (booksOf events).entries := by
    refine List.perm_append_comm.trans ?_
    exact List.filter_append_perm _ _
  rw [← List.map_append, ← h.accepted, ← List.map_append]
  rw [(hperm.map _).nodup_iff, h.tickets]
  exact List.nodup_range

/-- The handles that were used. -/
theorem perm_resolvedTickets (h : Balanced first events heard last done left) :
    (resolvedTickets heard).Perm
      (((booksOf events).entries.filter fun entry => !entry.accepted).map (·.ticket)
        ++ (done.filter fun entry => !entry.stalls).map (·.ticket)) := by
  have hworked := tickets_workOff (done.map (·.job)) first.element first.files
  rw [List.filter_map, List.map_map] at hworked
  have hperm := h.resolved.map (·.ticket)
  rw [List.map_append, List.map_map, hworked] at hperm
  refine hperm.trans (.of_eq ?_)
  congr 2
  refine List.filter_congr fun entry _ => ?_
  simp [Entry.stalls, Entry.job]

theorem stalled_eq (h : Balanced first events heard last done left)
    (hfirst : first.element.stalled = []) :
    last.element.stalled = (done.filter (·.stalls)).map (·.ticket) := by
  rw [h.element.stalled, stalled_workOff, hfirst, List.filter_map, List.map_map]
  rfl

theorem accounts (h : Balanced first events heard last done left)
    (hfirst : first.element.stalled = [])
    (hidle : ∀ before, events = before ++ [.work none] → left = []) :
    Accounts first events heard last done left := by
  obtain ⟨hrefused, haccepted, hapart⟩ := List.nodup_append.mp h.nodup_tickets
  obtain ⟨hdone, -, hapart'⟩ := List.nodup_append.mp haccepted
  have hcount : ∀ ticket, (resolvedTickets heard).count ticket
      = (((booksOf events).entries.filter fun entry => !entry.accepted).map (·.ticket)).count ticket
        + ((done.filter fun entry => !entry.stalls).map (·.ticket)).count ticket := by
    intro ticket
    rw [h.perm_resolvedTickets.count_eq, List.count_append]
  have hamong : ∀ (p : Entry → Bool) ticket, ticket ∈ (done.filter p).map (·.ticket) →
      ticket ∈ done.map (·.ticket) :=
    fun p ticket hmem => (List.filter_sublist.map _).subset hmem
  refine ⟨h, ?_, ?_, ?_, ?_, ?_, hidle⟩
  · rw [h.history, h.answers, List.filter_map, List.map_map]
    rfl
  · intro entry hentry
    have hticket : entry.ticket ∈ done.map (·.ticket) := List.mem_map_of_mem hentry
    have hnot : entry.ticket
        ∉ ((booksOf events).entries.filter fun entry => !entry.accepted).map (·.ticket) :=
      fun hmem => hapart _ hmem _ (List.mem_append_left _ hticket) rfl
    rw [hcount, List.count_eq_zero.mpr hnot, Nat.zero_add, count_ticket hdone hentry]
    cases entry.stalls <;> rfl
  · exact h.stalled_eq hfirst
  · intro entry hentry
    have hticket : entry.ticket ∈ left.map (·.ticket) := List.mem_map_of_mem hentry
    have hnot : entry.ticket
        ∉ ((booksOf events).entries.filter fun entry => !entry.accepted).map (·.ticket) :=
      fun hmem => hapart _ hmem _ (List.mem_append_right _ hticket) rfl
    have hnot' : entry.ticket ∉ (done.filter fun entry => !entry.stalls).map (·.ticket) :=
      fun hmem => hapart' _ (hamong _ _ hmem) _ hticket rfl
    rw [hcount, List.count_eq_zero.mpr hnot, List.count_eq_zero.mpr hnot']
  · intro entry hentry hnotAccepted
    have hmem : entry ∈ (booksOf events).entries.filter fun entry => !entry.accepted :=
      List.mem_filter.mpr ⟨hentry, by rw [hnotAccepted]; rfl⟩
    have hticket : entry.ticket
        ∈ ((booksOf events).entries.filter fun entry => !entry.accepted).map (·.ticket) :=
      List.mem_map_of_mem hmem
    have hnot : ∀ p, entry.ticket ∉ (done.filter p).map (·.ticket) :=
      fun p hdone => hapart _ hticket _ (List.mem_append_left _ (hamong p _ hdone)) rfl
    refine ⟨?_, ?_, ?_, ?_⟩
    · rw [hcount, List.count_eq_one_of_mem hrefused hticket, List.count_eq_zero.mpr (hnot _)]
    · refine h.resolved.mem_iff.mpr (List.mem_append_left _ ?_)
      exact List.mem_map_of_mem hmem
    · exact fun hleft => hapart _ hticket _ (List.mem_append_right _ hleft) rfl
    · rw [h.stalled_eq hfirst]
      exact hnot _

end Balanced

/-- The accounts of a software element, over whatever is submitted, prepared and worked off in
whatever order. -/
theorem accounts_of_life (slots : Slots) (generator : Generator) (latency handover : Span)
    (stateFile : Option Path) (files : Files) (events : List Event) :
    let first := Situation.fresh slots generator latency handover stateFile files
    ∃ done left, Accounts first events (first.live events).1 (first.live events).2 done left := by
  intro first
  obtain ⟨done, left, hbalanced, hidle⟩ :=
    balanced_live slots generator latency handover stateFile files events
  exact ⟨done, left, hbalanced.accounts rfl hidle⟩

end SealedLog.SoftElement
