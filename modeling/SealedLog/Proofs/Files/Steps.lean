import SealedLog.Proofs.Files

/-!
# Steps on the file system

What each step can do to the file system, whatever mishaps are due: a step that fails leaves every
node as it was, apart from a write, which can store a first part of its bytes.

- `Alike files files'`: the two differ in the coming mishaps only.
- `Grows files files'`: what was there is still there.
- `makeDirectory_cases`, `openForWriting_cases`, `writeAll_cases`, `rename_cases`: what is there
  after a step.
-/

namespace SealedLog.Files

variable {files files' files'' : Files} {α : Type}

/-! ## Mishaps -/

/-- The two file systems differ in the coming mishaps only. -/
def Alike (files files' : Files) : Prop := ∃ mishaps, files' = { files with mishaps }

@[refl] theorem Alike.refl (files : Files) : Alike files files := ⟨files.mishaps, rfl⟩

theorem Alike.trans (h : Alike files files') (h' : Alike files' files'') :
    Alike files files'' := by
  obtain ⟨mishaps, rfl⟩ := h
  obtain ⟨mishaps', rfl⟩ := h'
  exact ⟨mishaps', rfl⟩

theorem Alike.node?_eq (h : Alike files files') (place : Place) :
    files'.node? place = files.node? place := by
  obtain ⟨mishaps, rfl⟩ := h
  rfl

theorem Alike.home_eq (h : Alike files files') : files'.home = files.home := by
  obtain ⟨mishaps, rfl⟩ := h
  rfl

theorem Alike.follow_eq (h : Alike files files') (start : Place) (pieces : List (List Char)) :
    files'.follow start pieces = files.follow start pieces := by
  induction pieces generalizing start with
  | nil => rfl
  | cons piece rest ih => rw [follow, follow, h.node?_eq, ih, ih, ih]

theorem Alike.approach_eq (h : Alike files files') (path : Path) :
    files'.approach path = files.approach path := by
  rw [approach, approach, h.home_eq]
  simp only [h.follow_eq]

theorem Alike.locate_eq (h : Alike files files') (path : Path) :
    files'.locate path = files.locate path := by
  rw [locate, locate, h.approach_eq]

theorem Alike.existing_eq (h : Alike files files') (path : Path) :
    files'.existing path = files.existing path := by
  rw [existing, existing, h.locate_eq]
  simp only [h.node?_eq]

theorem Alike.read?_eq (h : Alike files files') (path : Path) :
    files'.read? path = files.read? path := by
  rw [read?, read?, h.existing_eq]

theorem Alike.umask_eq (h : Alike files files') : files'.umask = files.umask := by
  obtain ⟨mishaps, rfl⟩ := h
  rfl

theorem Alike.put (h : Alike files files') (place : Place) (node : Node) :
    Alike (files.put place node) (files'.put place node) := by
  obtain ⟨mishaps, rfl⟩ := h
  exact ⟨mishaps, rfl⟩

theorem Alike.remove (h : Alike files files') (place : Place) :
    Alike (files.remove place) (files'.remove place) := by
  obtain ⟨mishaps, rfl⟩ := h
  exact ⟨mishaps, rfl⟩

/-- The file system when the mishap that is due next is over. -/
def later (files : Files) : Files := { files with mishaps := files.mishaps.drop 1 }

theorem alike_later (files : Files) : Alike files files.later := ⟨_, rfl⟩

/-- A step for which a mishap is due fails. -/
theorem attempt_due {act : Files → Except SystemError (α × Files)} {mishap : Mishap}
    (hdue : files.mishaps.head?.join = some mishap) :
    attempt act files = (.error mishap.error, files.later) := by
  rw [attempt, later]
  cases hmishaps : files.mishaps with
  | nil =>
    rw [hmishaps] at hdue
    cases hdue
  | cons due rest =>
    rw [hmishaps] at hdue
    cases due with
    | none => cases hdue
    | some found =>
      obtain rfl : found = mishap := Option.some.inj hdue
      rfl

/-- What becomes of the file system when a step ends in the result given. -/
def afterStep (files : Files) : Except SystemError (α × Files) → Except SystemError α × Files
  | .error error => (.error error, files)
  | .ok (a, files) => (.ok a, files)

/-- A step for which no mishap is due does what it does. -/
theorem attempt_of_none_due (act : Files → Except SystemError (α × Files))
    (hdue : files.mishaps.head?.join = none) :
    attempt act files = files.later.afterStep (act files.later) := by
  rw [attempt, later]
  cases hmishaps : files.mishaps with
  | nil =>
    cases hact : act { files with mishaps := [].drop 1 } <;> simp only [hact] <;> rfl
  | cons due rest =>
    rw [hmishaps] at hdue
    cases due with
    | none =>
      cases hact : act { files with mishaps := (none :: rest).drop 1 } <;>
        simp only [hact] <;> rfl
    | some mishap => cases hdue

/-- A step fails and changes nothing, or does what it does. -/
theorem attempt_cases (act : Files → Except SystemError (α × Files)) (files : Files) :
    (∃ error, attempt act files = (.error error, files.later)) ∨
      ∃ a files', act files.later = .ok (a, files') ∧ attempt act files = (.ok a, files') := by
  cases hdue : files.mishaps.head?.join with
  | some mishap => exact .inl ⟨mishap.error, attempt_due hdue⟩
  | none =>
    have hattempt := attempt_of_none_due act hdue
    cases hact : act files.later with
    | error error =>
      rw [hact] at hattempt
      exact .inl ⟨error, hattempt⟩
    | ok found =>
      rw [hact] at hattempt
      exact .inr ⟨found.1, found.2, rfl, hattempt⟩

/-- A second step goes on where the first one succeeded. -/
theorem bind_of_ok {α β : Type} {first : FileStep α} {a : α} (second : α → FileStep β)
    (h : first files = (.ok a, files')) : (first >>= second) files = second a files' := by
  show StateT.bind first (ExceptT.bindCont second) files = _
  rw [StateT.bind, h]
  rfl

theorem bind_of_error {α β : Type} {first : FileStep α} {error : SystemError}
    (second : α → FileStep β) (h : first files = (.error error, files')) :
    (first >>= second) files = (.error error, files') := by
  show StateT.bind first (ExceptT.bindCont second) files = _
  rw [StateT.bind, h]
  rfl

/-- A computation in two parts succeeds if both parts do. -/
theorem bind_eq_ok {ε α β : Type} {first : Except ε α} {second : α → Except ε β} {b : β} :
    (first >>= second) = .ok b ↔ ∃ a, first = .ok a ∧ second a = .ok b := by
  cases first with
  | error error =>
    constructor
    · intro h
      cases h
    · rintro ⟨a, h, -⟩
      cases h
  | ok a => exact ⟨fun h => ⟨a, rfl, h⟩, fun ⟨_, h, h'⟩ => Except.ok.inj h ▸ h'⟩

/-! ## What is still there -/

/-- What was in the first file system is still in the second. -/
structure Grows (files files' : Files) : Prop where
  home : files.home = files'.home
  keeps : ∀ {place : Place} {node : Node}, files.node? place = some node →
    files'.node? place = some node

@[refl] theorem Grows.refl (files : Files) : Grows files files := ⟨rfl, id⟩

theorem Grows.trans (h : Grows files files') (h' : Grows files' files'') :
    Grows files files'' :=
  ⟨h.home.trans h'.home, fun hnode => h'.keeps (h.keeps hnode)⟩

theorem Alike.grows (h : Alike files files') : Grows files files' :=
  ⟨h.home_eq.symm, fun hnode => (h.node?_eq _).trans hnode⟩

/-- A node is put where none was. -/
theorem grows_put {place : Place} (h : files.node? place = none) (node : Node) :
    Grows files (files.put place node) := by
  refine ⟨rfl, fun {other found} hnode => ?_⟩
  rw [node?_put_ne _ files node, hnode]
  rintro rfl
  rw [h] at hnode
  cases hnode

theorem Grows.isDirectory (h : Grows files files') {place : Place}
    (hdirectory : files.IsDirectory place) : files'.IsDirectory place := by
  obtain ⟨mode, hmode⟩ := hdirectory
  exact ⟨mode, h.keeps hmode⟩

theorem Grows.existing (h : Grows files files') {path : Path} {found : Place × Node}
    (hfound : files.existing path = .ok found) : files'.existing path = .ok found := by
  obtain ⟨target, hlocate, hplace, hnode, hslash⟩ := existing_ok_iff.mp hfound
  exact existing_ok_iff.mpr ⟨target, locate_mono h.home (fun _ => h.isDirectory) hlocate, hplace,
    h.keeps hnode, hslash⟩

theorem Grows.read? (h : Grows files files') {path : Path} {content : Bytes}
    (hread : files.read? path = some content) : files'.read? path = some content := by
  obtain ⟨place, mode, hfound⟩ := read?_eq_some_iff.mp hread
  exact read?_eq_some_iff.mpr ⟨place, mode, h.existing hfound⟩

theorem Grows.leads (h : Grows files files') {path : Path} {place : Place}
    (hleads : Leads files path place) : Leads files' path place :=
  hleads.mono h.home fun _ => h.isDirectory

/-! ## Directories -/

/-- A directory that is made stands where nothing was; otherwise nothing happens. -/
theorem makeDirectory_cases (path : Path) (files : Files) :
    (∃ error, makeDirectory path files = (.error error, files.later)) ∨
      ∃ target mode, files.locate path = .ok target ∧ files.node? target.place = none ∧
        makeDirectory path files
          = (.ok (), files.later.put target.place (.directory mode)) := by
  rw [makeDirectory]
  rcases attempt_cases _ files with ⟨error, h⟩ | ⟨a, files', hact, h⟩ <;> rw [h]
  · exact .inl ⟨error, rfl⟩
  · right
    obtain ⟨target, hlocate, hmake⟩ := bind_eq_ok.mp hact
    rw [(alike_later files).locate_eq] at hlocate
    split at hmake
    · cases hmake
    · split at hmake
      · cases hmake
      · rename_i hnone
        rw [Option.not_isSome_iff_eq_none] at hnone
        obtain ⟨-, rfl⟩ := Prod.mk.inj (Except.ok.inj hmake)
        exact ⟨target, _, hlocate, hnone, rfl⟩

/-- Looking for a directory changes nothing. -/
theorem isDirectory_snd (path : Path) (files : Files) :
    (Files.isDirectory path files).2 = files := by
  rw [Files.isDirectory]
  split <;> rfl

/-- What making a directory keeps is kept when one that is there already will do. -/
theorem settle_keeps {Keeps : Files → Prop} {path : Path}
    (hmake : ∀ files, Keeps files → Keeps (makeDirectory path files).2)
    {files : Files} (hfiles : Keeps files) : Keeps (makeNested.settle path files).2 := by
  have hmade := hmake files hfiles
  rw [makeNested.settle]
  split
  · rename_i made heq
    rw [heq] at hmade
    exact hmade
  · rename_i error made heq
    rw [heq] at hmade
    have hlooked := isDirectory_snd path made
    split <;> rename_i looked hlook <;> rw [hlook] at hlooked
    · exact hlooked ▸ hmade
    · exact hlooked ▸ hmade

/-- Making nested directories keeps what making each of them keeps. -/
theorem makeNested_keeps {Keeps : Files → Prop} {paths : List Path}
    (h : ∀ path ∈ paths, path.text.toList ≠ [] → ∀ files, Keeps files →
      Keeps (makeDirectory path files).2) {files : Files} (hfiles : Keeps files) :
    Keeps (makeNested paths files).2 := by
  induction paths generalizing files with
  | nil => exact hfiles
  | cons path outer ih =>
    rw [makeNested]
    split
    · exact hfiles
    · rename_i hempty
      have hne : path.text.toList ≠ [] := by
        intro hnil
        rw [String.toList_eq_nil_iff] at hnil
        rw [hnil] at hempty
        exact hempty rfl
      have hmake := h path List.mem_cons_self hne
      have hmade := hmake files hfiles
      dsimp only
      split
      · rename_i made heq
        rw [heq] at hmade
        exact hmade
      · rename_i made heq
        rw [heq] at hmade
        -- The directories above are missing: they are made first, then this one again.
        have houter := ih (fun above habove => h above (List.mem_cons_of_mem path habove)) hmade
        split
        · rename_i error nested hnested
          rw [hnested] at houter
          exact houter
        · rename_i nested hnested
          rw [hnested] at houter
          exact settle_keeps hmake houter
      · rename_i error made _ heq
        rw [heq] at hmade
        have hlooked := isDirectory_snd path made
        split <;> rename_i looked hlook <;> rw [hlook] at hlooked
        · exact hlooked ▸ hmade
        · exact hlooked ▸ hmade

/-- Making directories takes nothing away. -/
theorem makeDirectory_grows (path : Path) (files : Files) :
    Grows files (makeDirectory path files).2 := by
  rcases makeDirectory_cases path files with ⟨error, h⟩ | ⟨target, mode, -, hnone, h⟩ <;> rw [h]
  · exact (alike_later files).grows
  · exact (grows_put hnone _).trans ((alike_later files).put _ _).grows

/-- A directory that is there is not made again. -/
theorem makeDirectory_alike {path : Path} {place : Place} {mode : Nat}
    (hthere : files.existing path = .ok (place, .directory mode)) :
    Alike files (makeDirectory path files).2 := by
  obtain ⟨target, hlocate, hplace, hnode, -⟩ := existing_ok_iff.mp hthere
  rcases makeDirectory_cases path files with ⟨error, h⟩ | ⟨found, mode', hfound, hnone, h⟩ <;>
    rw [h]
  · exact alike_later files
  · rw [hlocate] at hfound
    obtain rfl := Except.ok.inj hfound
    rw [hplace, hnode] at hnone
    cases hnone

/-! ## Files -/

/-- A file that is opened keeps its permission bits, and what was in it unless it is emptied; or it is
created where nothing was. -/
theorem openForWriting_cases (path : Path) (mode : Nat) (empty : Bool) (files : Files) :
    (∃ error, openForWriting path mode empty files = (.error error, files.later)) ∨
      ∃ directory bits, Leads files path directory ∧
        ¬ files.IsDirectory (directory ++ [path.lastPiece]) ∧
        bits = (files.mode? path).getD (masked files.umask mode) ∧
        openForWriting path mode empty files = (.ok (directory ++ [path.lastPiece]),
          files.later.put (directory ++ [path.lastPiece])
            (.file (if empty then []
              else (files.contentAt? (directory ++ [path.lastPiece])).getD []) bits)) := by
  rw [openForWriting]
  rcases attempt_cases _ files with ⟨error, h⟩ | ⟨place, files', hact, h⟩ <;> rw [h]
  · exact .inl ⟨error, rfl⟩
  · right
    obtain ⟨approach, happroach, hact⟩ := bind_eq_ok.mp hact
    rw [(alike_later files).approach_eq] at happroach
    split at hact
    · cases hact
    · rename_i hplain
      obtain ⟨target, hlocate, hopen⟩ := bind_eq_ok.mp hact
      rw [(alike_later files).locate_eq] at hlocate
      -- A path with a slash at its end cannot name a file.
      obtain ⟨directory, hleads, htarget⟩ :
          ∃ directory, Leads files path directory ∧
            target.place = directory ++ [path.lastPiece] := by
        obtain ⟨place, name, slash⟩ := approach
        cases name with
        | none => simp at hplain
        | some name =>
          have hslash : slash = false := by simpa using hplain
          subst hslash
          have htarget : target = ⟨target.place, false, true⟩ := by
            rw [locate, happroach] at hlocate
            dsimp only at hlocate
            split at hlocate
            · cases hlocate
            · rw [← Except.ok.inj hlocate]
          rw [htarget] at hlocate
          exact locate_named_iff.mp hlocate
      rw [htarget] at hopen
      split at hopen
      · cases hopen
      · rename_i content bits hnode
        have hcontent : files.contentAt? (directory ++ [path.lastPiece]) = some content := by
          rw [contentAt?, show files.node? _ = _ from hnode]
        obtain ⟨rfl, rfl⟩ := Prod.mk.inj (Except.ok.inj hopen)
        refine ⟨directory, bits, hleads, ?_, ?_, ?_⟩
        · rintro ⟨mode, hmode⟩
          exact absurd (hnode.symm.trans hmode) (by simp)
        · rw [hleads.mode?_eq, modeAt?, show files.node? _ = _ from hnode]
          rfl
        · rw [hcontent]
          rfl
      · rename_i hnone
        have hcontent : files.contentAt? (directory ++ [path.lastPiece]) = none := by
          rw [contentAt?, show files.node? _ = _ from hnone]
        obtain ⟨rfl, rfl⟩ := Prod.mk.inj (Except.ok.inj hopen)
        refine ⟨directory, masked files.later.umask mode, hleads, ?_, ?_, ?_⟩
        · rintro ⟨mode, hmode⟩
          exact absurd (hnone.symm.trans hmode) (by simp)
        · rw [hleads.mode?_eq, modeAt?, show files.node? _ = _ from hnone]
          rfl
        · rw [hcontent, Option.getD_none, ite_self]

/-- A write stores its bytes behind those that are there, or a first part of them. -/
theorem writeAll_cases {place : Place} {content : Bytes} {mode : Nat}
    (hnode : files.node? place = some (.file content mode)) (bytes : Bytes) :
    ∃ taken, Alike (files.put place (.file (content ++ taken) mode))
        (writeAll place bytes files).2 ∧
      ((writeAll place bytes files).1 = .ok () → taken = bytes) := by
  have happended : ∀ mishaps taken, ({ files with mishaps } : Files).appended place taken
      = ({ files with mishaps } : Files).put place (.file (content ++ taken) mode) := by
    intro mishaps taken
    have hnode' : ({ files with mishaps } : Files).node? place = some (.file content mode) := hnode
    rw [appended, hnode']
  rw [writeAll]
  split
  · rename_i mishap later _
    refine ⟨bytes.take mishap.after, ⟨later, happended later _⟩, fun h => ?_⟩
    cases h
  · exact ⟨bytes, ⟨_, happended _ bytes⟩, fun _ => rfl⟩

/-- Waiting for a file to be stored changes nothing that is there. -/
theorem sync_alike (place : Place) (files : Files) : Alike files (sync place files).2 := by
  rw [sync]
  rcases attempt_cases _ files with ⟨error, h⟩ | ⟨a, files', hact, h⟩ <;> rw [h]
  · exact alike_later files
  · obtain ⟨-, rfl⟩ := Prod.mk.inj (Except.ok.inj hact)
    exact alike_later files

/-- What is read is in the file that the path leads to. Reading changes nothing that is there. -/
theorem readAll_cases (path : Path) (files : Files) :
    (∃ error, readAll path files = (.error error, files.later)) ∨
      ∃ content, files.read? path = some content ∧
        readAll path files = (.ok content, files.later) := by
  rw [readAll]
  rcases attempt_cases _ files with ⟨error, h⟩ | ⟨content, files', hact, h⟩ <;> rw [h]
  · exact .inl ⟨error, rfl⟩
  · obtain ⟨⟨place, node⟩, hexisting, hnode⟩ := bind_eq_ok.mp hact
    rw [(alike_later files).existing_eq] at hexisting
    cases node with
    | directory mode => cases hnode
    | file bytes mode =>
      obtain ⟨rfl, rfl⟩ := Prod.mk.inj (Except.ok.inj hnode)
      exact .inr ⟨bytes, read?_eq_some_iff.mpr ⟨place, mode, hexisting⟩, rfl⟩

/-- A file that is moved takes the place of what was there, and that was no directory. -/
theorem rename_cases (source destination : Path) (files : Files) :
    (∃ error, rename source destination files = (.error error, files.later)) ∨
      ∃ place content mode target,
        files.existing source = .ok (place, .file content mode) ∧
        files.locate destination = .ok ⟨target, false, true⟩ ∧
        (target = place ∧ rename source destination files = (.ok (), files.later) ∨
          target ≠ place ∧ ¬ files.IsDirectory target ∧
            rename source destination files
              = (.ok (), (files.later.remove place).put target (.file content mode))) := by
  rw [rename]
  rcases attempt_cases _ files with ⟨error, h⟩ | ⟨a, files', hact, h⟩ <;> rw [h]
  · exact .inl ⟨error, rfl⟩
  · right
    obtain ⟨⟨place, node⟩, hsource, hact⟩ := bind_eq_ok.mp hact
    obtain ⟨⟨target, slash, named⟩, hlocate, hact⟩ := bind_eq_ok.mp hact
    rw [(alike_later files).existing_eq] at hsource
    rw [(alike_later files).locate_eq] at hlocate
    dsimp only at hact
    cases named with
    | false => cases hact
    | true =>
      cases node with
      | directory mode => cases hact
      | file content mode =>
        cases slash with
        | true => cases hact
        | false =>
          simp only [Bool.not_true, Bool.false_eq_true, if_false] at hact
          refine ⟨place, content, mode, target, hsource, hlocate, ?_⟩
          split at hact
          · rename_i heq
            obtain ⟨rfl, rfl⟩ := Prod.mk.inj (Except.ok.inj hact)
            exact .inl ⟨heq, rfl⟩
          · rename_i hne
            split at hact
            · cases hact
            · rename_i hnot
              obtain ⟨rfl, rfl⟩ := Prod.mk.inj (Except.ok.inj hact)
              refine .inr ⟨hne, ?_, rfl⟩
              rintro ⟨mode, hmode⟩
              exact hnot mode hmode

/-- What is moved to a path is found there, with the permission bits it had. -/
theorem existing_of_rename {source destination : Path} {directory : Place} {content : Bytes}
    {mode : Nat} (hsource : Leads files source directory)
    (hnode : files.node? (directory ++ [source.lastPiece]) = some (.file content mode))
    (hstart : files.start source = files.start destination)
    (h : rename source destination files = (.ok (), files')) :
    ∃ place, files'.existing destination = .ok (place, .file content mode) := by
  rcases rename_cases source destination files with
    ⟨error, herror⟩ | ⟨place, found, bits, target, hexisting, hlocate, hmoved⟩
  · rw [herror] at h
    cases h
  · rw [hsource.existing_eq hnode] at hexisting
    obtain ⟨rfl, hfound⟩ := Prod.mk.inj (Except.ok.inj hexisting)
    obtain ⟨rfl, rfl⟩ := Node.file.inj hfound
    obtain ⟨above, hleads, rfl⟩ := locate_named_iff.mp hlocate
    have hfile : ¬ files.IsDirectory (directory ++ [source.lastPiece]) := by
      rintro ⟨other, hother⟩
      rw [hnode] at hother
      cases hother
    rcases hmoved with ⟨hsame, hmoved⟩ | ⟨hne, htarget, hmoved⟩
    · rw [hmoved] at h
      obtain ⟨-, rfl⟩ := Prod.mk.inj h
      rw [(alike_later files).existing_eq]
      exact ⟨_, hleads.existing_eq (hsame ▸ hnode)⟩
    · rw [hmoved] at h
      obtain ⟨-, rfl⟩ := Prod.mk.inj h
      -- The source is not above the start, or it would be above its own directory.
      have houtside : ¬ directory ++ [source.lastPiece] <+: files.start destination := by
        intro hbelow
        rw [← hstart] at hbelow
        have := (follow_inside hfile hbelow hsource.follows).length_le
        rw [List.length_append, List.length_singleton] at this
        omega
      obtain ⟨hfollows, habove⟩ := follow_remove hfile (.inl houtside) hleads.follows
      have habove' : ¬ directory ++ [source.lastPiece] <+: above := by
        rcases habove with habove | rfl
        · exact habove
        · exact absurd hleads.isDirectory hfile
      have htarget' : ¬ (files.remove (directory ++ [source.lastPiece])).IsDirectory
          (above ++ [destination.lastPiece]) := by
        have hbeside : ¬ directory ++ [source.lastPiece] <+: above ++ [destination.lastPiece] := by
          intro hbelow
          rcases List.prefix_concat_iff.mp hbelow with heq | hbelow
          · exact hne heq.symm
          · exact habove' hbelow
        rw [IsDirectory, node?_remove hbeside]
        exact htarget
      have hremoved : Leads (files.remove (directory ++ [source.lastPiece])) destination above :=
        ⟨hleads.whole, hleads.proper, hleads.noZero, hleads.short, hleads.fits, hfollows⟩
      rw [(((alike_later files).remove _).put _ _).existing_eq]
      exact ⟨_, (hremoved.put_file htarget' content mode).existing_eq (node?_put_self _ _ _)⟩

end SealedLog.Files
