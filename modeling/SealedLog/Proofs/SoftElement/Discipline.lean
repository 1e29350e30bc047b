import SealedLog.Proofs.Cbc
import SealedLog.Proofs.SoftElement.Reopening
import SealedLog.Proofs.SoftElement.Service

/-!
# What is in the slots of a software element

Metadata is checked when it is submitted, a key is made for a slot with metadata only, and what
comes out of a state file was written into it by an element. So whatever an element lived through,
a slot that has an entry has metadata of a permitted length, and its key, if it has one, is a whole
AES key. This is what makes the answers to an encryption depend on the slot and the lengths alone.

- `Change`: what a command can do to the slots.
- `Reachable written situation`: what an element can come to, with the slots written on the way.
- `Reachable.await`: a worker that gets on for a while does one job after the other.
- `Disciplined`: what every element keeps.
- `disciplined_of_reachable`: the slots of a reachable element, and its answers.
-/

namespace SealedLog

/-- The metadata has a permitted length, and the key is absent or whole. -/
structure SlotEntry.Sound (entry : SlotEntry) : Prop where
  written : 1 ≤ entry.metadata.length
  bounded : entry.metadata.length ≤ SoftElement.metadataMax
  whole : ∀ key, entry.key = some key → key.length = Algorithm.aes128.keyLen

namespace SoftElement

variable {element : SoftElement} {files : Files} {issued : Nat} {written : List ObjectId}

/-! ## What a command does to the slots -/

/-- What a command can do to the slots: nothing, or what it is there for. -/
inductive Change (slots : Slots) : Command → Outcome → Slots → Prop
  | none (command : Command) (outcome : Outcome) : Change slots command outcome slots
  | written (slot : ObjectId) (metadata : Bytes) :
      Change slots (.writeMetadata slot metadata) (.ok .done)
        (slots.insert slot { (slots.get? slot).getD {} with metadata })
  | keyed {slot : ObjectId} {entry : SlotEntry} {key : Bytes} (algorithm : Algorithm)
      (usage : KeyUsage) :
      slots.get? slot = some entry → key.length = algorithm.keyLen →
      Change slots (.generateSymmetricKey slot algorithm usage) (.ok .done)
        (slots.insert slot { entry with key := some key })

/-- A command does nothing to the slots, or what it is there for. -/
theorem change_execute (element : SoftElement) (command : Command) (files : Files) :
    Change element.slots command (element.execute command files).outcome
      (element.execute command files).element.slots := by
  cases command with
  | generateRandom len => exact .none _ _
  | readMetadata slot => exact .none _ _
  | writeMetadata slot metadata =>
    rw [execute]
    rcases commit_cases element slot _ files with ⟨houtcome, hslots⟩ | ⟨houtcome, hslots⟩ <;>
      rw [houtcome, hslots]
    · exact .written slot metadata
    · exact .none _ _
  | generateSymmetricKey slot algorithm usage =>
    rw [execute]
    split
    · exact .none _ _
    · rename_i entry hentry
      split
      · exact .none _ _
      · dsimp only
        rcases commit_cases
          { element with generator := (element.generator.fill algorithm.keyLen).2 }
          slot _ files with ⟨houtcome, hslots⟩ | ⟨houtcome, hslots⟩ <;> rw [houtcome, hslots]
        · exact .keyed algorithm usage hentry (length_fill element.generator _)
        · exact .none _ _
  | encrypt slot mode plaintext iv =>
    cases mode
    rw [execute]
    split
    · exact .none _ _
    · split
      · exact .none _ _
      · split <;> exact .none _ _

/-- A job does to the slots what its command does, and the worker reports how it went. A job that
is not executed does nothing. -/
theorem change_perform (element : SoftElement) (job : Job) (files : Files) :
    (element.perform job files).element.slots = element.slots ∨
    ∃ outcome, Change element.slots job.command outcome (element.perform job files).element.slots ∧
      (outcome = .ok .done → (element.perform job files).timely = [⟨job.ticket, outcome⟩]) := by
  have hchange := change_execute element job.command files
  rw [perform]
  split
  · exact .inl rfl
  · exact .inl rfl
  · refine .inr ⟨_, hchange, fun houtcome => ?_⟩
    rw [houtcome]
    show [Resolution.mk job.ticket ((element.execute job.command files).outcome.map shortened)] = _
    rw [houtcome]
    rfl
  · refine .inr ⟨_, hchange, fun houtcome => ?_⟩
    rw [houtcome]
    show [Resolution.mk job.ticket ((element.execute job.command files).outcome.map id)] = _
    rw [houtcome]
    rfl

/-! ## What an element can come to -/

/-- The slot whose metadata a job has written, as the worker reports it. -/
def wrote (job : Job) (resolved : List Resolution) : List ObjectId :=
  match job.command, resolved with
  | .writeMetadata slot _, [⟨_, .ok .done⟩] => [slot]
  | _, _ => []

/-- What an element can come to, with the slots whose metadata was written on the way. It is new,
or it is opened on a file that such an element has saved. Commands are submitted and faults are
prepared, the worker does its jobs, and the files change from outside, at any time. -/
inductive Reachable : List ObjectId → Situation → Prop
  | fresh (generator : Generator) (latency handover : Span) (stateFile : Option Path)
      (files : Files) :
      Reachable [] ⟨{ generator, latency, handover, stateFile }, files, 0⟩
  | opened {written : List ObjectId} {saver : Situation} {generator : Generator} {latency : Span}
      {path : Path} {world after : World} {element : SoftElement} :
      Reachable written saver →
      world.files.read? path = some (StateFile.encode Sha256.digest saver.element.slots) →
      start generator latency (some path) world = .ok (.ok element, after) →
      Reachable written ⟨element, after.files, 0⟩
  | withKey {written : List ObjectId} {element : SoftElement} {files : Files} {issued : Nat}
      (slot : ObjectId) {key : Bytes} :
      Reachable written ⟨element, files, issued⟩ → key.length = Algorithm.aes128.keyLen →
      Reachable (slot :: written) ⟨element.withKey slot key, files, issued⟩
  | submit {written : List ObjectId} {element : SoftElement} {files : Files} {issued : Nat}
      (command : Command) :
      Reachable written ⟨element, files, issued⟩ →
      Reachable written ⟨(element.react issued command).element, files, issued + 1⟩
  | inject {written : List ObjectId} {element : SoftElement} {files : Files} {issued : Nat}
      (fault : Fault) :
      Reachable written ⟨element, files, issued⟩ →
      Reachable written ⟨element.injectFault fault, files, issued⟩
  | perform {written : List ObjectId} {element : SoftElement} {files : Files} {issued : Nat}
      {job : Job} {later : List Job} :
      Reachable written ⟨{ element with queue := job :: later }, files, issued⟩ →
      Reachable
        (wrote job ({ element with spent := ⟨0⟩ }.perform job files).timely ++ written)
        ⟨{ ({ element with spent := ⟨0⟩ }.perform job files).element with queue := later },
          ({ element with spent := ⟨0⟩ }.perform job files).files, issued⟩
  | spend {written : List ObjectId} {element : SoftElement} {files : Files} {issued : Nat}
      (spent : Span) :
      Reachable written ⟨element, files, issued⟩ →
      Reachable written ⟨{ element with spent }, files, issued⟩
  | outside {written : List ObjectId} {element : SoftElement} {files : Files} {issued : Nat}
      (files' : Files) :
      Reachable written ⟨element, files, issued⟩ → Reachable written ⟨element, files', issued⟩

theorem withQueue_nil (h : element.queue = []) : { element with queue := [] } = element := by
  rw [← h]

theorem reachable_workOff (jobs : List Job) (limit : Option Span)
    (hqueue : element.queue = [])
    (h : Reachable written ⟨{ element with queue := jobs }, files, issued⟩) :
    ∃ written', Reachable written'
      ⟨(workOff limit jobs element files).element, (workOff limit jobs element files).files,
        issued⟩ := by
  induction jobs generalizing limit element files written with
  | nil =>
    refine ⟨written, ?_⟩
    rwa [withQueue_nil hqueue] at h
  | cons job later ih =>
    rw [workOff]
    split
    · have hsteady := steady_perform { element with spent := ⟨0⟩ } job files
      exact ih _ (hsteady.queue.trans hqueue) (.perform h)
    · exact ⟨written, .spend _ h⟩

/-- A worker that gets on for a while does one job after the other. -/
theorem Reachable.await (limit : Option Span) (h : Reachable written ⟨element, files, issued⟩) :
    ∃ written', Reachable written'
      ⟨(element.await limit files).element, (element.await limit files).files, issued⟩ :=
  reachable_workOff element.queue limit rfl h

/-- An idle element that is given a command and does it. -/
def attended (element : SoftElement) (ticket : Ticket) (command : Command) (files : Files) :
    Activity SoftElement :=
  ({ element with history := element.history ++ [command.name], spent := ⟨0⟩ } :
    SoftElement).perform ⟨ticket, command, none⟩ files

theorem Reachable.attended (hqueue : element.queue = []) (hfaults : element.faults = [])
    {command : Command} (hcheck : checkParameters command = .ok ())
    (h : Reachable written ⟨element, files, issued⟩) :
    Reachable (wrote ⟨issued, command, none⟩ (element.attended issued command files).timely
        ++ written)
      ⟨(element.attended issued command files).element,
        (element.attended issued command files).files, issued + 1⟩ := by
  have hsubmit := h.submit command
  rw [react_of_no_fault hfaults hcheck] at hsubmit
  dsimp only at hsubmit
  rw [hqueue, List.nil_append] at hsubmit
  have hsteady := steady_perform
    { element with history := element.history ++ [command.name], spent := ⟨0⟩ }
    ⟨issued, command, none⟩ files
  have hdone := @Reachable.perform written
    { element with history := element.history ++ [command.name] } files _ _ [] hsubmit
  rwa [withQueue_nil (hsteady.queue.trans hqueue)] at hdone

/-- A run leads from what an element can come to to what it can come to. -/
theorem Reachable.run {first last : Situation} (hrun : Run (fun _ _ => True) first last)
    (h : Reachable written first) : ∃ written', Reachable written' last := by
  induction hrun with
  | refl => exact ⟨written, h⟩
  | tail _ hstep ih =>
    obtain ⟨written', hmiddle⟩ := ih
    cases hstep with
    | submit command => exact ⟨written', .submit command hmiddle⟩
    | inject fault => exact ⟨written', .inject fault hmiddle⟩
    | work limit => exact hmiddle.await limit
    | outside _ => exact ⟨written', .outside _ hmiddle⟩

/-! ## What is kept -/

/-- What every element keeps: sound entries, in slots that were written only, and jobs that passed
the check. -/
structure Disciplined (written : List ObjectId) (element : SoftElement) : Prop where
  sound : ∀ id entry, element.slots.get? id = some entry → entry.Sound
  known : ∀ id entry, element.slots.get? id = some entry → id ∈ written
  checked : ∀ job ∈ element.queue, checkParameters job.command = .ok ()

/-- Metadata that passes the check has a permitted length. -/
theorem length_of_checked {slot : ObjectId} {metadata : Bytes}
    (h : checkParameters (.writeMetadata slot metadata) = .ok ()) :
    1 ≤ metadata.length ∧ metadata.length ≤ metadataMax := by
  rw [checkParameters] at h
  split at h
  · cases h
  · rename_i hmetadata
    obtain ⟨hne, hlength⟩ := not_or.mp hmetadata
    exact ⟨List.length_pos_iff.mpr hne, Nat.le_of_not_lt hlength⟩

/-- A checked command leaves sound entries sound. -/
theorem Change.sound {slots slots' : Slots} {command : Command} {outcome : Outcome}
    (hchange : Change slots command outcome slots')
    (hchecked : checkParameters command = .ok ())
    (h : ∀ id entry, slots.get? id = some entry → entry.Sound) :
    ∀ id entry, slots'.get? id = some entry → entry.Sound := by
  intro id entry hentry
  cases hchange with
  | none => exact h id entry hentry
  | written slot metadata =>
    rw [Slots.get?_insert] at hentry
    split_ifs at hentry
    · obtain rfl := Option.some.inj hentry
      obtain ⟨hwritten, hbounded⟩ := length_of_checked hchecked
      refine ⟨hwritten, hbounded, fun key hkey => ?_⟩
      cases hold : slots.get? slot with
      | none =>
        rw [hold] at hkey
        cases hkey
      | some old =>
        rw [hold] at hkey
        exact (h slot old hold).whole key hkey
    · exact h id entry hentry
  | @keyed slot old key algorithm usage hold hkey =>
    rw [Slots.get?_insert] at hentry
    split_ifs at hentry
    · obtain rfl := Option.some.inj hentry
      have hsound := h slot old hold
      refine ⟨hsound.written, hsound.bounded, fun other hother => ?_⟩
      obtain rfl := Option.some.inj hother
      cases algorithm
      exact hkey
    · exact h id entry hentry

/-- A slot that has got an entry had one, or its metadata was written. -/
theorem Change.known {slots slots' : Slots} {command : Command} {outcome : Outcome}
    (hchange : Change slots command outcome slots') {id : ObjectId} {entry : SlotEntry}
    (h : slots'.get? id = some entry) :
    (∃ old, slots.get? id = some old) ∨
      ∃ metadata, command = .writeMetadata id metadata ∧ outcome = .ok .done := by
  cases hchange with
  | none => exact .inl ⟨entry, h⟩
  | written slot metadata =>
    rw [Slots.get?_insert] at h
    split_ifs at h with heq
    · exact .inr ⟨metadata, by rw [heq], rfl⟩
    · exact .inl ⟨entry, h⟩
  | @keyed slot old key algorithm usage hold _ =>
    rw [Slots.get?_insert] at h
    split_ifs at h with heq
    · exact .inl ⟨old, heq ▸ hold⟩
    · exact .inl ⟨entry, h⟩

theorem mem_wrote {job : Job} {id : ObjectId} {metadata : Bytes}
    (h : job.command = .writeMetadata id metadata) : id ∈ wrote job [⟨job.ticket, .ok .done⟩] := by
  unfold wrote
  rw [h]
  exact List.mem_singleton_self id

theorem Disciplined.perform {job : Job} {later : List Job}
    (h : Disciplined written { element with queue := job :: later }) :
    Disciplined (wrote job ({ element with spent := ⟨0⟩ }.perform job files).timely ++ written)
      { ({ element with spent := ⟨0⟩ }.perform job files).element with queue := later } := by
  have hchecked := h.checked job List.mem_cons_self
  have hlater := fun other hother => h.checked other (List.mem_cons_of_mem job hother)
  rcases change_perform { element with spent := ⟨0⟩ } job files with
    hslots | ⟨outcome, hchange, houtcome⟩
  · refine ⟨fun id entry hentry => h.sound id entry (hslots ▸ hentry), fun id entry hentry => ?_,
      hlater⟩
    exact List.mem_append_right _ (h.known id entry (hslots ▸ hentry))
  · refine ⟨hchange.sound hchecked h.sound, fun id entry hentry => ?_, hlater⟩
    rcases hchange.known hentry with ⟨old, hold⟩ | ⟨metadata, hcommand, hdone⟩
    · exact List.mem_append_right _ (h.known id old hold)
    · refine List.mem_append_left _ ?_
      rw [houtcome hdone, hdone]
      exact mem_wrote hcommand

theorem Disciplined.react (h : Disciplined written element) (ticket : Ticket) (command : Command) :
    Disciplined written (element.react ticket command).element := by
  rw [SoftElement.react]
  cases hcheck : checkParameters command with
  | error code => exact ⟨h.sound, h.known, h.checked⟩
  | ok _ =>
    have hqueued : ∀ job ∈ element.queue ++ [⟨ticket, command, element.faults.head?⟩],
        checkParameters job.command = .ok () := by
      intro job hjob
      rcases List.mem_append.mp hjob with hold | hnew
      · exact h.checked job hold
      · rw [List.mem_singleton.mp hnew]
        exact hcheck
    dsimp only
    split
    · exact ⟨h.sound, h.known, h.checked⟩
    · exact ⟨h.sound, h.known, hqueued⟩

/-- An element that is opened on saved slots has the same slots, and nothing to do. -/
theorem same_of_start {generator : Generator} {latency : Span} {path : Path} {world after : World}
    {slots : Slots} (hread : world.files.read? path = some (StateFile.encode Sha256.digest slots))
    (hstart : start generator latency (some path) world = .ok (.ok element, after)) :
    element.slots.Same slots ∧ element.queue = [] := by
  obtain ⟨place, mode, hexisting⟩ := Files.read?_eq_some_iff.mp hread
  rw [start_eq, hexisting] at hstart
  dsimp only at hstart
  split at hstart
  · cases hstart
  · rename_i loaded made hload
    obtain ⟨helement, -⟩ := Prod.mk.inj (Except.ok.inj hstart)
    obtain rfl := Except.ok.inj helement
    obtain ⟨content, hcontent, hdecode, -⟩ := StateFile.read?_of_load hload
    obtain rfl := Option.some.inj (hread.symm.trans hcontent)
    obtain ⟨found, hfound, hsame⟩ := StateFile.decode_encode Sha256.digest path slots
    obtain rfl := Except.ok.inj (hfound.symm.trans hdecode)
    exact ⟨hsame, rfl⟩

/-- Every element is disciplined, by induction on what it lived through. -/
theorem Reachable.disciplined {situation : Situation} (h : Reachable written situation) :
    Disciplined written situation.element := by
  induction h with
  | fresh generator latency handover stateFile files =>
    refine ⟨fun id entry hentry => ?_, fun id entry hentry => ?_, fun job hjob => ?_⟩
    · cases hentry
    · cases hentry
    · cases hjob
  | opened _ hread hstart ih =>
    obtain ⟨hsame, hqueue⟩ := same_of_start hread hstart
    refine ⟨fun id entry hentry => ih.sound id entry ((hsame id).symm.trans hentry),
      fun id entry hentry => ih.known id entry ((hsame id).symm.trans hentry), ?_⟩
    show ∀ job ∈ SoftElement.queue _, _
    rw [hqueue]
    exact fun job hjob => absurd hjob List.not_mem_nil
  | @withKey written element files issued slot key _ hkey ih =>
    refine ⟨fun id entry hentry => ?_, fun id entry hentry => ?_, ih.checked⟩
    · rw [SoftElement.withKey, Slots.get?_insert] at hentry
      split_ifs at hentry
      · obtain rfl := Option.some.inj hentry
        have hlength : KeySlot.descriptor.length = 8 := rfl
        refine ⟨?_, ?_, fun other hother => ?_⟩
        · exact hlength ▸ (by decide : 1 ≤ 8)
        · exact hlength ▸ (by decide : 8 ≤ metadataMax)
        · obtain rfl := Option.some.inj hother
          exact hkey
      · exact ih.sound id entry hentry
    · rw [SoftElement.withKey, Slots.get?_insert] at hentry
      split_ifs at hentry with heq
      · exact heq ▸ List.mem_cons_self
      · exact List.mem_cons_of_mem slot (ih.known id entry hentry)
  | submit command _ ih => exact ih.react _ command
  | inject fault _ ih => exact ⟨ih.sound, ih.known, ih.checked⟩
  | perform _ ih => exact ih.perform
  | spend spent _ ih => exact ⟨ih.sound, ih.known, ih.checked⟩
  | outside files' _ ih => exact ih

/-! ## Answers -/

/-- A key is found in a slot with an entry that holds it. -/
theorem entry_of_key? {slots : Slots} {id : ObjectId} {key : Bytes}
    (h : slots.key? id = some key) : ∃ entry, slots.get? id = some entry ∧ entry.key = some key :=
  Option.bind_eq_some_iff.mp h

/-- Without a key nothing is enciphered. -/
theorem execute_encrypt_of_no_key {slot : ObjectId} (hkey : element.slots.key? slot = none)
    (mode : CipherMode) (plaintext iv : Bytes) (files : Files) :
    (element.execute (.encrypt slot mode plaintext iv) files).outcome = .error .keyNotFound := by
  cases mode
  rw [execute, hkey]

/-- With a whole key a message of whole blocks is enciphered, and nothing else. -/
theorem execute_encrypt_of_key {slot : ObjectId} {key : Bytes}
    (hkey : element.slots.key? slot = some key) (hwhole : key.length = Algorithm.aes128.keyLen)
    (mode : CipherMode) (plaintext iv : Bytes) (files : Files) :
    if plaintext = [] ∨ plaintext.length % Aes.blockLen ≠ 0 ∨ iv.length ≠ Aes.blockLen then
      (element.execute (.encrypt slot mode plaintext iv) files).outcome = .error .invalidInput
    else ∃ ciphertext,
      (element.execute (.encrypt slot mode plaintext iv) files).outcome
        = .ok (.ciphertext ciphertext) ∧ ciphertext.length = plaintext.length := by
  cases mode
  rw [execute, hkey]
  dsimp only
  by_cases hempty : plaintext = []
  · rw [if_pos (.inl hempty), if_pos hempty]
  · rw [if_neg hempty]
    by_cases hlengths : iv.length = Aes.blockLen ∧ plaintext.length % Aes.blockLen = 0
    · obtain ⟨ciphertext, hciphertext, hlength⟩ :=
        Cbc.exists_encryptAes hwhole hlengths.1 hlengths.2
      rw [if_neg (by tauto), hciphertext]
      exact ⟨ciphertext, rfl, hlength⟩
    · have hnone : Cbc.encryptAes key iv plaintext = none :=
        if_neg fun hall => hlengths hall.2
      rw [if_pos (by tauto), hnone]

/-- The outcome of a job without a fault is reported as it is. -/
theorem timely_of_no_fault (element : SoftElement) {job : Job} (hfault : job.fault = none)
    (files : Files) :
    (element.perform job files).timely
      = [⟨job.ticket, (element.execute job.command files).outcome⟩] := by
  rw [perform, hfault]
  show [Resolution.mk job.ticket ((element.execute job.command files).outcome.map id)] = _
  cases (element.execute job.command files).outcome <;> rfl

/-- No key is made for a slot without an entry. -/
theorem execute_generate_of_no_entry {slot : ObjectId} (h : element.slots.get? slot = none)
    (algorithm : Algorithm) (usage : KeyUsage) (files : Files) :
    element.execute (.generateSymmetricKey slot algorithm usage) files
      = ⟨.error .accessCondition, element, files, []⟩ := by
  rw [execute, h]

/-- Whatever an element lived through, its entries are sound. So a message is not enciphered for
want of a key exactly if the slot has none, it is refused exactly if there is a key and the message
or the initial block is not whole, and otherwise it keeps its length. A key is never made for a slot
whose metadata was not written. What a command comes to is what is reported of its job, unless a
fault was prepared for it. -/
theorem disciplined_of_reachable (written : List ObjectId) (element : SoftElement) (files : Files)
    (issued : Nat) (h : Reachable written ⟨element, files, issued⟩) :
    (∀ id entry, element.slots.get? id = some entry → entry.Sound) ∧
    (∀ slot mode plaintext iv now, ∃ outcome,
      (element.execute (.encrypt slot mode plaintext iv) now).outcome = outcome ∧
      (outcome = .error .keyNotFound ↔ element.slots.hasKey slot = false) ∧
      (outcome = .error .invalidInput ↔ element.slots.hasKey slot = true ∧
        (plaintext = [] ∨ plaintext.length % Aes.blockLen ≠ 0 ∨ iv.length ≠ Aes.blockLen)) ∧
      (outcome ≠ .error .keyNotFound → outcome ≠ .error .invalidInput →
        ∃ ciphertext, outcome = .ok (.ciphertext ciphertext) ∧
          ciphertext.length = plaintext.length)) ∧
    (∀ slot algorithm usage now, ∀ id ∉ written,
      (element.execute (.generateSymmetricKey slot algorithm usage) now).element.slots.hasKey id
        = false ∧
      (slot = id → element.execute (.generateSymmetricKey slot algorithm usage) now
        = ⟨.error .accessCondition, element, now, []⟩)) ∧
    ∀ job now, job.fault = none →
      (element.perform job now).timely
        = [⟨job.ticket, (element.execute job.command now).outcome⟩] := by
  have hkept := h.disciplined
  refine ⟨hkept.sound, fun slot mode plaintext iv now => ⟨_, rfl, ?_⟩,
    fun slot algorithm usage now id hid => ?_,
    fun job now hfault => timely_of_no_fault element hfault now⟩
  · rw [Slots.hasKey]
    cases hkey : element.slots.key? slot with
    | none =>
      rw [execute_encrypt_of_no_key hkey]
      simp [StatusCode.keyNotFound, StatusCode.invalidInput]
    | some key =>
      obtain ⟨entry, hentry, hholds⟩ := entry_of_key? hkey
      have hanswer := execute_encrypt_of_key hkey
        ((hkept.sound slot entry hentry).whole key hholds) mode plaintext iv now
      split_ifs at hanswer with hlengths
      · rw [hanswer]
        simpa [StatusCode.keyNotFound, StatusCode.invalidInput] using hlengths
      · obtain ⟨ciphertext, houtcome, hlength⟩ := hanswer
        rw [houtcome]
        exact ⟨by simp, by simpa using hlengths, fun _ _ => ⟨ciphertext, rfl, hlength⟩⟩
  · have hnone : element.slots.get? id = none := by
      cases hentry : element.slots.get? id with
      | none => rfl
      | some entry => exact absurd (hkept.known id entry hentry) hid
    refine ⟨?_, fun heq => execute_generate_of_no_entry (heq ▸ hnone) algorithm usage now⟩
    rw [Slots.hasKey, Slots.key?]
    cases hentry : (element.execute (.generateSymmetricKey slot algorithm usage)
        now).element.slots.get? id with
    | none => rfl
    | some entry =>
      rcases (change_execute element _ now).known hentry with ⟨old, hold⟩ | ⟨metadata, hcommand, -⟩
      · rw [hnone] at hold
        cases hold
      · cases hcommand

/-- An element that was given metadata for a slot and has made its key has stored both. -/
theorem reachable_of_provisioned :
    ∃ element files, Reachable [5] ⟨element, files, 2⟩ ∧ element.slots.hasKey 5 = true ∧
      files.mishaps.head?.join = none ∧
      files.read? ⟨"/slots.json"⟩ = some (StateFile.encode Sha256.digest element.slots) := by
  let fresh : SoftElement := { generator := .stepping 0 1, stateFile := some ⟨"/slots.json"⟩ }
  let first := fresh.attended 0 (.writeMetadata 5 [32]) {}
  let second := first.element.attended 1 (.generateSymmetricKey 5 .aes128 .encryption) first.files
  have hwritten : wrote ⟨0, .writeMetadata 5 [32], none⟩ first.timely ++ [] = [5] := by
    decide +kernel
  have hkept : wrote ⟨1, .generateSymmetricKey 5 .aes128 .encryption, none⟩ second.timely ++ [5]
      = [5] := by
    decide +kernel
  have hfirst : Reachable [5] ⟨first.element, first.files, 1⟩ := by
    rw [← hwritten]
    exact Reachable.attended rfl rfl rfl (.fresh _ _ _ _ _)
  have hsteady := steady_perform { fresh with history := ["write_metadata"] }
    ⟨0, .writeMetadata 5 [32], none⟩ {}
  have hsecond : Reachable [5] ⟨second.element, second.files, 2⟩ := by
    rw [← hkept]
    exact Reachable.attended hsteady.queue hsteady.faults rfl hfirst
  exact ⟨second.element, second.files, hsecond, by decide +kernel, by decide +kernel,
    by decide +kernel⟩

/-- Metadata is written and a key is made, both are stored, and another element is opened on the
file: the slot has its key and enciphers two blocks, and no other slot can get a key. -/
theorem disciplined_of_opened :
    ∃ element files, Reachable [5] ⟨element, files, 0⟩ ∧
      (∃ ciphertext, (element.execute (.encrypt 5 .cbc (List.replicate 32 0)
          (List.replicate 16 0)) files).outcome = .ok (.ciphertext ciphertext) ∧
        ciphertext.length = 32) ∧
      element.execute (.generateSymmetricKey 6 .aes128 .encryption) files
        = ⟨.error .accessCondition, element, files, []⟩ := by
  obtain ⟨saver, saved, hsaver, hkey, hdue, hread⟩ := reachable_of_provisioned
  obtain ⟨found, hfound, hsame⟩ :=
    StateFile.decode_encode Sha256.digest ⟨"/slots.json"⟩ saver.slots
  have hstored : Kept ⟨"/slots.json"⟩ saver.slots ({ files := saved } : World).files :=
    .inl ⟨_, found, hread, hfound, hsame⟩
  obtain ⟨element, after, hstart, hslots⟩ := start_of_kept (.stepping 7 1) ⟨0⟩ hstored hdue
  have hopened : Reachable [5] ⟨element, after.files, 0⟩ := .opened hsaver hread hstart
  obtain ⟨-, hencrypt, hgenerate, -⟩ := disciplined_of_reachable [5] element after.files 0 hopened
  obtain ⟨outcome, houtcome, hno, hinvalid, hciphertext⟩ :=
    hencrypt 5 .cbc (List.replicate 32 0) (List.replicate 16 0) after.files
  have hhas : element.slots.hasKey 5 = true := by
    rw [Slots.hasKey, hslots.key?_eq]
    exact hkey
  have hfound : outcome ≠ .error .keyNotFound := by
    rw [Ne, hno, hhas]
    decide
  have hvalid : outcome ≠ .error .invalidInput := by
    rw [Ne, hinvalid]
    rintro ⟨-, hlengths⟩
    revert hlengths
    decide
  obtain ⟨ciphertext, hok, hlength⟩ := hciphertext hfound hvalid
  exact ⟨element, after.files, hopened,
    ⟨ciphertext, houtcome.trans hok, hlength.trans List.length_replicate⟩,
    (hgenerate 6 .aes128 .encryption after.files 6 (by decide)).2 rfl⟩

end SoftElement

end SealedLog
