import SealedLog.Proofs.SoftElement.Draws
import SealedLog.Proofs.SoftElement.Saving
import SealedLog.Proofs.SoftElement.Slots

/-!
# Commands are carried out or not

A command that is refused, that fails or that is never resolved leaves the slots as they were, and
the state file too, whatever goes wrong on the way to it. A command that succeeds changes one part
of one slot, or none. To lose the last byte of an output makes no difference to any of that.

- `StateFile.Intact path files files'`: the path leads to what it led to before.
- `Unchanged element files element' files'`: the slots and the state file are as they were.
- `unchanged_of_perform`, `unchanged_of_workOff`: jobs without success change nothing.
- `Curtails`: an output that is at most the last byte short.
- `atomic_of_command`: any command, with any fault.
- `not_unchanged_of_climbing`: a path with double dots can begin to lead somewhere.
-/

namespace SealedLog

/-! ## State files -/

namespace StateFile

open Files

variable {path : Path} {files files' files'' : Files}

/-- What the path led to is there unchanged, and it is still vacant if it was. Apart from the
successor of the path no file is touched. -/
structure Intact (path : Path) (files files' : Files) : Prop where
  home : files.home = files'.home
  directory : ∀ place, files.IsDirectory place → files'.IsDirectory place
  found : ∀ found, files.existing path = .ok found → files'.existing path = .ok found
  vacant : Vacant path files → Vacant path files'
  others : ∀ place content mode, files.node? place = some (.file content mode) →
    files'.node? place = some (.file content mode) ∨
      ∃ directory, Leads files' (successor path) directory ∧
        place = directory ++ [(successor path).lastPiece]

theorem Intact.refl (path : Path) (files : Files) : Intact path files files :=
  ⟨rfl, fun _ => id, fun _ => id, id, fun _ _ _ => .inl⟩

theorem Intact.trans (h : Intact path files files') (h' : Intact path files' files'') :
    Intact path files files'' where
  home := h.home.trans h'.home
  directory place hplace := h'.directory place (h.directory place hplace)
  found found hfound := h'.found found (h.found found hfound)
  vacant hvacant := h'.vacant (h.vacant hvacant)
  others place content mode hnode := by
    rcases h.others place content mode hnode with hkept | ⟨directory, hleads, hplace⟩
    · exact h'.others place content mode hkept
    · exact .inr ⟨directory, hleads.mono h'.home h'.directory, hplace⟩

/-- So the content is the same, where the path leads to something or stays vacant. -/
theorem Intact.read?_eq (h : Intact path files files')
    (hsettled : (∃ found, files.existing path = .ok found) ∨ Vacant path files) :
    files'.read? path = files.read? path := by
  rcases hsettled with ⟨found, hfound⟩ | hvacant
  · rw [read?, read?, hfound, h.found found hfound]
  · have hnone : ∀ {made : Files}, Vacant path made → made.read? path = none := by
      intro made hmade
      refine Option.eq_none_iff_forall_ne_some.mpr fun content hread => ?_
      obtain ⟨place, mode, hfound⟩ := read?_eq_some_iff.mp hread
      exact hmade made (.done (.refl made)) _ hfound
    rw [hnone hvacant, hnone (h.vacant hvacant)]

/-- A file beside the path leaves what the path leads to. -/
theorem existing_put_of_found (hne : successor path ≠ path) {directory : Place}
    (hleads : Leads files (successor path) directory)
    (hfree : ¬ files.IsDirectory (directory ++ [(successor path).lastPiece])) (part : Bytes)
    (bits : Nat) {found : Place × Node} (hfound : files.existing path = .ok found) :
    (files.put (directory ++ [(successor path).lastPiece]) (.file part bits)).existing path
      = .ok found := by
  obtain ⟨place, node⟩ := found
  -- The successor leads to another place, be it a file or a directory that is found.
  have hother : place ≠ directory ++ [(successor path).lastPiece] := by
    cases node with
    | directory mode =>
      rintro rfl
      obtain ⟨target, -, -, hnode, -⟩ := existing_ok_iff.mp hfound
      exact hfree ⟨mode, hnode⟩
    | file content mode =>
      obtain ⟨name, hname⟩ := exists_fileName hne
      obtain ⟨above, habove, rfl, -⟩ := leads_of_file hname hfound
      exact place_ne_successor hne habove hleads
  obtain ⟨target, hlocate, rfl, hnode, hslash⟩ := existing_ok_iff.mp hfound
  have hkept : (files.put (directory ++ [(successor path).lastPiece]) (.file part bits)).locate path
      = .ok target := by
    refine locate_mono ?_ (fun other => ?_) hlocate
    · rfl
    · exact (isDirectory_put_file hfree part bits).mpr
  refine existing_ok_iff.mpr ⟨target, hkept, rfl, ?_, hslash⟩
  rw [node?_put_ne hother, hnode]

/-- Before its last step a replacement leaves the path as it is. -/
theorem Begun.intact (h : Begun path files files') (hne : successor path ≠ path) :
    Intact path files files' := by
  have hmade := prepare_grows path files
  have hvacant := h.vacant hne
  cases h with
  | prepared halike =>
    have hgrows := hmade.trans halike.grows
    exact ⟨hgrows.home, fun _ => hgrows.isDirectory, fun _ => hgrows.existing, hvacant,
      fun _ _ _ hnode => .inl (hgrows.keeps hnode)⟩
  | @beside directory part files' hleads hfree halike =>
    refine ⟨?_, ?_, ?_, hvacant, ?_⟩
    · exact hmade.home.trans halike.home_eq.symm
    · intro place hplace
      exact halike.grows.isDirectory
        ((isDirectory_put_file hfree _ _).mpr (hmade.isDirectory hplace))
    · intro found hfound
      rw [halike.existing_eq]
      exact existing_put_of_found hne hleads hfree _ _ (hmade.existing hfound)
    · intro place content mode hnode
      by_cases hplace : place = directory ++ [(successor path).lastPiece]
      · exact .inr ⟨directory, halike.grows.leads (hleads.put_file hfree _ _), hplace⟩
      · refine .inl ?_
        rw [halike.node?_eq, node?_put_ne hplace, hmade.keeps hnode]

/-- A save that fails leaves the path as it is. -/
theorem intact_of_failed_save (hne : successor path ≠ path) {hash : Bytes → Bytes} {slots : Slots}
    {error : SystemError} (h : save hash path slots files = (.error error, files')) :
    Intact path files files' := by
  rcases replace_cases h with ⟨-, hbegun⟩ | ⟨hok, -⟩
  · exact hbegun.intact hne
  · cases hok

end StateFile

/-! ## Commands without success -/

namespace SoftElement

open StateFile (Intact Vacant successor)

variable {element element' element'' : SoftElement} {files files' files'' : Files}

/-- The slots are as they were, and so is what the state file leads to, if there is one; otherwise no
file is touched. -/
structure Unchanged (element : SoftElement) (files : Files) (element' : SoftElement)
    (files' : Files) : Prop where
  slots : element'.slots = element.slots
  stateFile : element'.stateFile = element.stateFile
  memory : element.stateFile = none → files' = files
  intact : ∀ path, element.stateFile = some path → successor path ≠ path →
    Intact path files files'

/-- What else an element keeps has no part in this. -/
theorem Unchanged.of_eq (hslots : element'.slots = element.slots)
    (hstateFile : element'.stateFile = element.stateFile) (files : Files) :
    Unchanged element files element' files :=
  ⟨hslots, hstateFile, fun _ => rfl, fun path _ _ => .refl path files⟩

theorem Unchanged.trans (h : Unchanged element files element' files')
    (h' : Unchanged element' files' element'' files'') :
    Unchanged element files element'' files'' where
  slots := h'.slots.trans h.slots
  stateFile := h'.stateFile.trans h.stateFile
  memory hnone := (h'.memory (h.stateFile.trans hnone)).trans (h.memory hnone)
  intact path hpath hne :=
    (h.intact path hpath hne).trans (h'.intact path (h.stateFile.trans hpath) hne)

/-- A change of a slot that is not stored is not made. -/
theorem unchanged_of_commit {id : ObjectId} {entry : SlotEntry} {code : StatusCode}
    (h : (element.commit id entry files).outcome = .error code) :
    Unchanged element files (element.commit id entry files).element
      (element.commit id entry files).files := by
  rw [commit] at h ⊢
  cases hstateFile : element.stateFile with
  | none =>
    rw [hstateFile] at h
    cases h
  | some path =>
    rw [hstateFile] at h
    dsimp only at h ⊢
    split at h
    · cases h
    · rename_i error made hsave
      refine ⟨rfl, rfl, fun hnone => ?_, fun other hother hne => ?_⟩
      · rw [hstateFile] at hnone
        cases hnone
      · obtain rfl := Option.some.inj (hstateFile.symm.trans hother)
        exact StateFile.intact_of_failed_save hne hsave

/-- A command that fails changes nothing, though it can have drawn from the generator. -/
theorem unchanged_of_execute {command : Command} {code : StatusCode}
    (h : (element.execute command files).outcome = .error code) :
    Unchanged element files (element.execute command files).element
      (element.execute command files).files := by
  cases command with
  | generateRandom len => exact .of_eq (by rfl) (by rfl) files
  | readMetadata slot => exact .of_eq (by rfl) (by rfl) files
  | writeMetadata slot metadata => exact unchanged_of_commit h
  | generateSymmetricKey slot algorithm usage =>
    rw [execute] at h ⊢
    cases hentry : element.slots.get? slot with
    | none => exact .of_eq (by rfl) (by rfl) files
    | some entry =>
      rw [hentry] at h
      dsimp only at h ⊢
      split
      · exact .of_eq (by rfl) (by rfl) files
      · rename_i hwritten
        rw [if_neg hwritten] at h
        -- The generator has moved on, which says nothing about slots and files.
        have hdrawn : Unchanged element files
            { element with generator := (element.generator.fill algorithm.keyLen).2 } files :=
          .of_eq (by rfl) (by rfl) files
        exact hdrawn.trans (unchanged_of_commit h)
  | encrypt slot mode plaintext iv =>
    cases mode
    rw [execute]
    split
    · exact .of_eq (by rfl) (by rfl) files
    · split
      · exact .of_eq (by rfl) (by rfl) files
      · split <;> exact .of_eq (by rfl) (by rfl) files

/-- Nothing is resolved with an output. -/
def Unsuccessful (resolved : List Resolution) : Prop :=
  ∀ resolution ∈ resolved, ∀ output, resolution.outcome ≠ .ok output

/-- A job that fails, or that is never resolved, changes nothing. -/
theorem unchanged_of_perform {job : Job} (h : Unsuccessful (element.perform job files).timely) :
    Unchanged element files (element.perform job files).element
      (element.perform job files).files := by
  have hexecuted : ∀ change, Unsuccessful (perform.executed element job files change).timely →
      Unchanged element files (perform.executed element job files change).element
        (perform.executed element job files change).files := by
    intro change hfails
    cases houtcome : (element.execute job.command files).outcome with
    | error code => exact unchanged_of_execute houtcome
    | ok output =>
      refine absurd ?_ (hfails _ List.mem_cons_self (change output))
      dsimp only
      rw [houtcome]
      rfl
  rw [perform] at h ⊢
  split at h
  · exact .of_eq (by rfl) (by rfl) files
  · exact .of_eq (by rfl) (by rfl) files
  · exact hexecuted shortened h
  · exact hexecuted id h

/-- Nor does any number of such jobs, by induction on them. -/
theorem unchanged_of_workOff {jobs : List Job} {limit : Option Span}
    (h : Unsuccessful (workOff limit jobs element files).timely) :
    Unchanged element files (workOff limit jobs element files).element
      (workOff limit jobs element files).files := by
  induction jobs generalizing limit element files with
  | nil => exact .of_eq (by rfl) (by rfl) files
  | cons job later ih =>
    rw [workOff] at h ⊢
    split
    · rename_i hwithin
      rw [if_pos hwithin] at h
      have hbegun : Unchanged element files { element with spent := ⟨0⟩ } files :=
        .of_eq (by rfl) (by rfl) files
      have hfirst := hbegun.trans (unchanged_of_perform
        fun resolution hmem => h resolution (List.mem_append_left _ hmem))
      exact hfirst.trans (ih fun resolution hmem => h resolution (List.mem_append_right _ hmem))
    · exact .of_eq (by rfl) (by rfl) files

/-! ## Commands that are not executed -/

/-- A command that is refused is not queued, and takes nothing from the generator. -/
theorem react_of_refusal {ticket : Ticket} {command : Command} {code : StatusCode}
    (h : (element.react ticket command).refusal = some code) :
    (element.react ticket command).element.slots = element.slots ∧
      (element.react ticket command).element.stateFile = element.stateFile ∧
      (element.react ticket command).element.generator = element.generator ∧
      (element.react ticket command).element.queue = element.queue := by
  rcases react_cases ticket command element with ⟨other, faults, hreact⟩ | hreact
  · rw [hreact]
    exact ⟨rfl, rfl, rfl, rfl⟩
  · rw [hreact] at h
    cases h

/-! ## Outputs without their last byte -/

/-- The second output is the first, or what is left of it without its last byte. -/
inductive Curtails : Output → Output → Prop
  | random {bytes last : Bytes} : last.length ≤ 1 →
      Curtails (.random (bytes ++ last)) (.random bytes)
  | metadata {bytes last : Bytes} : last.length ≤ 1 →
      Curtails (.metadata (bytes ++ last)) (.metadata bytes)
  | ciphertext {bytes last : Bytes} : last.length ≤ 1 →
      Curtails (.ciphertext (bytes ++ last)) (.ciphertext bytes)
  | done : Curtails .done .done

theorem exists_last (bytes : Bytes) :
    ∃ last : Bytes, last.length ≤ 1 ∧ bytes = bytes.dropLast ++ last := by
  refine ⟨bytes.drop (bytes.length - 1), ?_, ?_⟩
  · rw [List.length_drop]
    omega
  · rw [List.dropLast_eq_take, List.take_append_drop]

theorem curtails_shortened (output : Output) : Curtails output (shortened output) := by
  have hcut : ∀ (bytes : Bytes) (kind : Bytes → Output),
      (∀ {bytes last : Bytes}, last.length ≤ 1 → Curtails (kind (bytes ++ last)) (kind bytes)) →
      Curtails (kind bytes) (kind bytes.dropLast) := by
    intro bytes kind hkind
    obtain ⟨last, hlast, hbytes⟩ := exists_last bytes
    have hcurtails : Curtails (kind (bytes.dropLast ++ last)) (kind bytes.dropLast) := hkind hlast
    rwa [← hbytes] at hcurtails
  cases output with
  | random bytes => exact hcut bytes .random .random
  | metadata bytes => exact hcut bytes .metadata .metadata
  | ciphertext bytes => exact hcut bytes .ciphertext .ciphertext
  | done => exact .done

/-- The loss of a byte shows in the output alone. -/
theorem perform_short (element : SoftElement) (ticket : Ticket) (command : Command)
    (files : Files) :
    let whole := element.perform ⟨ticket, command, none⟩ files
    let short := element.perform ⟨ticket, command, some .shortOutput⟩ files
    short.element = whole.element ∧ short.files = whole.files ∧
      ((∃ code, whole.timely = [⟨ticket, .error code⟩] ∧ short.timely = [⟨ticket, .error code⟩]) ∨
        ∃ output output', whole.timely = [⟨ticket, .ok output⟩] ∧
          short.timely = [⟨ticket, .ok output'⟩] ∧ Curtails output output') := by
  refine ⟨rfl, rfl, ?_⟩
  have hwhole : (element.perform ⟨ticket, command, none⟩ files).timely
      = [⟨ticket, (element.execute command files).outcome.map id⟩] := rfl
  have hshort : (element.perform ⟨ticket, command, some .shortOutput⟩ files).timely
      = [⟨ticket, (element.execute command files).outcome.map shortened⟩] := rfl
  rw [hwhole, hshort]
  cases (element.execute command files).outcome with
  | error code => exact .inl ⟨code, rfl, rfl⟩
  | ok output => exact .inr ⟨output, shortened output, rfl, rfl, curtails_shortened output⟩

/-! ## Commands with success -/

/-- What is written is the metadata of one slot. -/
theorem execute_of_written {slot : ObjectId} {metadata : Bytes} {output : Output}
    (h : (element.execute (.writeMetadata slot metadata) files).outcome = .ok output) :
    (element.execute (.writeMetadata slot metadata) files).element.slots
      = element.slots.insert slot { (element.slots.get? slot).getD {} with metadata } := by
  rw [execute] at h ⊢
  rcases commit_cases element slot _ files with ⟨-, hslots⟩ | ⟨houtcome, -⟩
  · exact hslots
  · rw [houtcome] at h
    cases h

/-- What is made is the key of one slot, which has an entry. -/
theorem execute_of_generated {slot : ObjectId} {algorithm : Algorithm} {usage : KeyUsage}
    {output : Output}
    (h : (element.execute (.generateSymmetricKey slot algorithm usage) files).outcome = .ok output) :
    ∃ entry, element.slots.get? slot = some entry ∧
      (element.execute (.generateSymmetricKey slot algorithm usage) files).element.slots
        = element.slots.insert slot
            { entry with key := some (element.generator.fill algorithm.keyLen).1 } := by
  rw [execute] at h ⊢
  cases hentry : element.slots.get? slot with
  | none =>
    rw [hentry] at h
    cases h
  | some entry =>
    refine ⟨entry, rfl, ?_⟩
    rw [hentry] at h
    dsimp only at h ⊢
    split at h
    · cases h
    · rename_i hwritten
      rw [if_neg hwritten]
      rcases commit_cases
        { element with generator := (element.generator.fill algorithm.keyLen).2 }
        slot _ files with ⟨-, hslots⟩ | ⟨houtcome, -⟩
      · exact hslots
      · rw [houtcome] at h
        cases h

/-- The slots are the same, but for the metadata of one of them. -/
structure Rewrites (id : ObjectId) (metadata : Bytes) (slots slots' : Slots) : Prop where
  others : ∀ other, other ≠ id → slots'.get? other = slots.get? other
  key : slots'.key? id = slots.key? id
  metadata : slots'.metadata id = metadata

/-- The slots are the same, but for the key of one of them. -/
structure Rekeys (id : ObjectId) (key : Bytes) (slots slots' : Slots) : Prop where
  others : ∀ other, other ≠ id → slots'.get? other = slots.get? other
  metadata : slots'.metadata id = slots.metadata id
  key : slots'.key? id = some key

/-- A job that has written metadata has changed nothing else, and has drawn nothing. -/
theorem rewrites_of_perform {job : Job} {ticket : Ticket} {slot : ObjectId} {metadata : Bytes}
    {output : Output} (hjob : job.command = .writeMetadata slot metadata)
    (h : (⟨ticket, .ok output⟩ : Resolution) ∈ (element.perform job files).timely) :
    Rewrites slot metadata element.slots (element.perform job files).element.slots ∧
      (element.perform job files).element.generator = element.generator := by
  obtain ⟨whole, hwhole, -, helement⟩ :=
    Deed.executed_of_ok (show _ ∈ (Deed.mk element job files).activity.timely from h)
  change (element.perform job files).element = (element.execute job.command files).element
    at helement
  change (element.execute job.command files).outcome = .ok whole at hwhole
  rw [hjob] at hwhole helement
  rw [helement, execute_of_written hwhole]
  refine ⟨⟨fun other hother => ?_, ?_, ?_⟩, generator_commit element slot _ files⟩
  · rw [Slots.get?_insert, if_neg hother]
  · rw [Slots.key?_insert, if_pos rfl, Slots.key?]
    cases element.slots.get? slot <;> rfl
  · rw [Slots.metadata, Slots.get?_insert_self]

/-- A job that has made a key has changed nothing else. -/
theorem rekeys_of_perform {job : Job} {ticket : Ticket} {slot : ObjectId} {algorithm : Algorithm}
    {usage : KeyUsage} {output : Output}
    (hjob : job.command = .generateSymmetricKey slot algorithm usage)
    (h : (⟨ticket, .ok output⟩ : Resolution) ∈ (element.perform job files).timely) :
    Rekeys slot (element.generator.fill algorithm.keyLen).1 element.slots
      (element.perform job files).element.slots := by
  obtain ⟨whole, hwhole, -, helement⟩ :=
    Deed.executed_of_ok (show _ ∈ (Deed.mk element job files).activity.timely from h)
  change (element.perform job files).element = (element.execute job.command files).element
    at helement
  change (element.execute job.command files).outcome = .ok whole at hwhole
  rw [hjob] at hwhole helement
  obtain ⟨entry, hentry, hslots⟩ := execute_of_generated hwhole
  rw [helement, hslots]
  refine ⟨fun other hother => ?_, ?_, ?_⟩
  · rw [Slots.get?_insert, if_neg hother]
  · rw [Slots.metadata, Slots.get?_insert_self, Slots.metadata, hentry]
  · rw [Slots.key?_insert, if_pos rfl]

/-! ## Any command -/

/-- Whatever an element has in its slots and its state file, and whatever goes wrong there: a command
that is refused, that fails or that is never resolved changes neither, provided that the path of the
state file leads to something or stays vacant. A command that is not executed draws nothing from the
generator. A command whose output loses its last byte does all that it does otherwise. Metadata that
is written, or a key that is made, is all that changes. -/
theorem atomic_of_command (element : SoftElement) (ticket : Ticket) (command : Command)
    (files : Files) :
    (∀ code, (element.react ticket command).refusal = some code →
      (element.react ticket command).element.slots = element.slots ∧
      (element.react ticket command).element.stateFile = element.stateFile ∧
      (element.react ticket command).element.generator = element.generator ∧
      (element.react ticket command).element.queue = element.queue) ∧
    (∀ fault, let activity := element.perform ⟨ticket, command, fault⟩ files
      Unsuccessful activity.timely →
      Unchanged element files activity.element activity.files ∧
      ∀ path, element.stateFile = some path → successor path ≠ path →
        ((∃ found, files.existing path = .ok found) ∨ Vacant path files) →
        activity.files.read? path = files.read? path) ∧
    (∀ fault, fault = .stall ∨ (∃ code, fault = .failCompletion code) →
      let activity := element.perform ⟨ticket, command, some fault⟩ files
      Unsuccessful activity.timely ∧ activity.element.generator = element.generator ∧
        activity.files = files) ∧
    (let whole := element.perform ⟨ticket, command, none⟩ files
      let short := element.perform ⟨ticket, command, some .shortOutput⟩ files
      short.element = whole.element ∧ short.files = whole.files ∧
        ((∃ code, whole.timely = [⟨ticket, .error code⟩] ∧
            short.timely = [⟨ticket, .error code⟩]) ∨
          ∃ output output', whole.timely = [⟨ticket, .ok output⟩] ∧
            short.timely = [⟨ticket, .ok output'⟩] ∧ Curtails output output')) ∧
    ∀ fault output, let activity := element.perform ⟨ticket, command, fault⟩ files
      ⟨ticket, .ok output⟩ ∈ activity.timely →
      (∀ slot metadata, command = .writeMetadata slot metadata →
        Rewrites slot metadata element.slots activity.element.slots ∧
          activity.element.generator = element.generator) ∧
      ∀ slot algorithm usage, command = .generateSymmetricKey slot algorithm usage →
        Rekeys slot (element.generator.fill algorithm.keyLen).1 element.slots
          activity.element.slots := by
  refine ⟨fun code h => react_of_refusal h, fun fault hfails => ?_, fun fault hfault => ?_,
    perform_short element ticket command files, fun fault output h => ⟨?_, ?_⟩⟩
  · have hunchanged := unchanged_of_perform hfails
    refine ⟨hunchanged, fun path hpath hne hsettled => ?_⟩
    exact (hunchanged.intact path hpath hne).read?_eq hsettled
  · rcases hfault with rfl | ⟨code, rfl⟩
    · exact ⟨nofun, rfl, rfl⟩
    · refine ⟨fun resolution hmem output => ?_, rfl, rfl⟩
      rw [List.mem_singleton.mp hmem]
      exact nofun
  · intro slot metadata hcommand
    exact rewrites_of_perform hcommand h
  · intro slot algorithm usage hcommand
    exact rekeys_of_perform hcommand h

/-- An element whose state file has a path that climbs out of a directory. -/
def climbing : SoftElement where
  generator := .stepping 0 1
  stateFile := some ⟨"/d/../state.json"⟩

/-- Another file where the path would lead if the directory were there, and a directory in the way of
the successor. -/
def obstructed : Files where
  nodes := [(["state.json".toList], .file [7] 0o600), (["state.tmp".toList], .directory 0o755)]

/-- The path of a state file that leads to nothing need not be vacant. A command that fails to store
the slots under `/d/../state.json` makes `/d`, and from then on the path leads to `/state.json`. -/
theorem not_unchanged_of_climbing :
    ¬ ∀ (element : SoftElement) (job : Job) (files : Files) (path : Path),
      element.stateFile = some path → successor path ≠ path →
      Unsuccessful (element.perform job files).timely →
      (element.perform job files).files.read? path = files.read? path := by
  intro hunchanged
  let job : Job := ⟨0, .writeMetadata 7 [32], none⟩
  have hfailed : Unsuccessful (climbing.perform job obstructed).timely := by
    have hall : ((climbing.perform job obstructed).timely.all
        fun resolution => !resolution.outcome.isOk) = true := by decide +kernel
    intro resolution hmem output hok
    have hnot := List.all_eq_true.mp hall resolution hmem
    rw [hok] at hnot
    cases hnot
  have hbefore : obstructed.read? ⟨"/d/../state.json"⟩ = none := by decide +kernel
  have hafter : (climbing.perform job obstructed).files.read? ⟨"/d/../state.json"⟩ = some [7] := by
    decide +kernel
  have hsame := hunchanged climbing job obstructed ⟨"/d/../state.json"⟩ rfl (by decide +kernel) hfailed
  rw [hbefore, hafter] at hsame
  cases hsame

end SoftElement

end SealedLog
