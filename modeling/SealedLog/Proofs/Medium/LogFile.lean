import SealedLog.Medium.LogFile
import SealedLog.Proofs.Act
import SealedLog.Proofs.Files.Calm
import SealedLog.Proofs.Files.Furnished
import SealedLog.Proofs.Medium.Appending
import SealedLog.Proofs.Medium.Faultless

/-!
# The log in a file

A file that was opened is found by its path, whatever mishaps meet the steps that open it, restrict
it and write to it. Without mishaps, all of them go well.

- `Files.Holds`: a path leads to a file at a place, with some content.
- `LogFile.openRestricted_put`, `LogFile.openRestricted_cases`: what is left by opening a log.
- `LogFile.appending`: a log in a file can be relied on when it grows at its end.
- `LogFile.faultless`: a log in a file can be relied on while no mishap is to come.
-/

namespace SealedLog

namespace Files

variable {files files' : Files} {path : Path} {place : Place} {content : Bytes}

/-- The path leads to a file at the place, with the content. -/
def Holds (files : Files) (path : Path) (place : Place) (content : Bytes) : Prop :=
  ∃ directory mode, Leads files path directory ∧ place = directory ++ [path.lastPiece] ∧
    files.node? place = some (.file content mode)

theorem Holds.read?_eq (h : Holds files path place content) : files.read? path = some content := by
  obtain ⟨directory, mode, hleads, rfl, hnode⟩ := h
  exact hleads.read?_eq hnode

theorem Holds.alike (h : Holds files path place content) (halike : Alike files files') :
    Holds files' path place content := by
  obtain ⟨directory, mode, hleads, rfl, hnode⟩ := h
  exact ⟨directory, mode, halike.grows.leads hleads, rfl, (halike.node?_eq _).trans hnode⟩

theorem Holds.leads (h : Holds files path place content) :
    ∃ directory, Leads files path directory ∧
      ¬ files.IsDirectory (directory ++ [path.lastPiece]) := by
  obtain ⟨directory, mode, hleads, rfl, hnode⟩ := h
  refine ⟨directory, hleads, ?_⟩
  rintro ⟨bits, hbits⟩
  rw [hnode] at hbits
  cases hbits

theorem Holds.fileName (h : Holds files path place content) :
    path.fileName = some path.lastPiece := by
  obtain ⟨directory, mode, hleads, -, -⟩ := h
  exact Path.fileName_of_proper hleads.proper

/-- A path with a last name holds what is read by it. -/
theorem holds_of_read? {name : List Char} (hname : path.fileName = some name)
    (hread : files.read? path = some content) : ∃ place, Holds files path place content := by
  obtain ⟨place, mode, hexisting⟩ := read?_eq_some_iff.mp hread
  obtain ⟨directory, hleads, hplace, hnode⟩ := leads_of_file hname hexisting
  exact ⟨place, directory, mode, hleads, hplace, hnode⟩

/-- A file can be put in place of one that is there. -/
theorem Holds.put (h : Holds files path place content) (content' : Bytes) (mode : Nat) :
    Holds (files.put place (.file content' mode)) path place content' := by
  obtain ⟨directory, old, hleads, rfl, hnode⟩ := h
  have hfree : ¬ files.IsDirectory (directory ++ [path.lastPiece]) := by
    rintro ⟨bits, hbits⟩
    rw [hnode] at hbits
    cases hbits
  exact ⟨directory, mode, hleads.put_file hfree content' mode, rfl, node?_put_self _ _ _⟩

/-- What is read by a path is what is in the file it leads to, if there is one. -/
theorem Leads.read?_eq_contentAt? {directory : Place} (h : Leads files path directory) :
    files.read? path = files.contentAt? (directory ++ [path.lastPiece]) := by
  have hlocate := locate_named_iff.mpr ⟨directory, h, rfl⟩
  rw [read?, existing, hlocate, contentAt?]
  dsimp only
  cases files.node? (directory ++ [path.lastPiece]) with
  | none => rfl
  | some node => cases node <;> rfl

/-- Restricting the access to a file changes nothing but its permission bits. -/
theorem tighten_put (files : Files) (place : Place) (content : Bytes) (bits : Nat) {mode : Nat}
    (hmode : mode < 0o1000) :
    ∃ bits', Alike (files.put place (.file content bits'))
        (tighten place mode (files.put place (.file content bits))).2 ∧
      ((tighten place mode (files.put place (.file content bits))).1 = .ok () →
        bits' % 0o1000 = mode) := by
  have hlater := alike_later (files.put place (.file content bits))
  rw [tighten]
  rcases attempt_cases _ (files.put place (.file content bits)) with
    ⟨error, hstep⟩ | ⟨a, files', hact, hstep⟩ <;> rw [hstep]
  · exact ⟨bits, hlater, by rintro ⟨⟩⟩
  · rw [hlater.node?_eq, node?_put_self] at hact
    dsimp only at hact
    split at hact
    · rename_i hrestricted
      obtain ⟨-, rfl⟩ := Prod.mk.inj (Except.ok.inj hact)
      exact ⟨bits, hlater, fun _ => hrestricted⟩
    · obtain ⟨-, rfl⟩ := Prod.mk.inj (Except.ok.inj hact)
      refine ⟨mode, ?_, fun _ => Nat.mod_eq_of_lt hmode⟩
      have hagain := hlater.put place (.file content mode)
      rwa [put_put] at hagain

/-- A write changes nothing but the file that it is for, and only adds to what is in it. -/
theorem writeSome_cases (place : Place) (bytes : Bytes) (files : Files) :
    ∃ mishaps part, (writeSome place bytes files).2 = { files with mishaps } ∨
      (writeSome place bytes files).2 = ({ files with mishaps } : Files).appended place part := by
  rw [writeSome]
  split
  · rename_i mishap later _
    split
    · exact ⟨later, [], .inl rfl⟩
    · exact ⟨_, _, .inr rfl⟩
  · exact ⟨_, _, .inr rfl⟩

theorem writeSome_existing {bits : Nat}
    (h : files.existing path = .ok (place, .file content bits)) (bytes : Bytes) :
    ∃ content', (writeSome place bytes files).2.existing path = .ok (place, .file content' bits) ∧
      SameBut place files (writeSome place bytes files).2 := by
  obtain ⟨mishaps, part, hwritten | hwritten⟩ := writeSome_cases place bytes files <;> rw [hwritten]
  · have halike : Alike files { files with mishaps } := ⟨mishaps, rfl⟩
    exact ⟨content, (halike.existing_eq path).trans h, halike.sameBut place⟩
  · have halike : Alike files { files with mishaps } := ⟨mishaps, rfl⟩
    have hthere := (halike.existing_eq path).trans h
    obtain ⟨-, -, -, hnode, -⟩ := existing_ok_iff.mp hthere
    rw [appended, hnode]
    exact ⟨content ++ part, existing_put_file hthere _ bits,
      (halike.sameBut place).trans (sameBut_put place _ _)⟩

/-- A write adds to a file what it has taken. -/
theorem writeSome_holds (h : Holds files path place content) (bytes : Bytes) :
    Holds (writeSome place bytes files).2 path place
      (content ++ match (writeSome place bytes files).1 with
        | .ok count => bytes.take count
        | .error _ => []) := by
  have happended : ∀ mishaps part,
      Holds (({ files with mishaps } : Files).appended place part) path place (content ++ part) := by
    intro mishaps part
    have halike : Alike files { files with mishaps } := ⟨mishaps, rfl⟩
    have hholds := h.alike halike
    obtain ⟨directory, mode, -, rfl, hnode⟩ := id hholds
    rw [appended, hnode]
    exact hholds.put _ mode
  rw [writeSome]
  split
  · rename_i mishap later _
    split
    · rw [List.append_nil]
      exact h.alike ⟨later, rfl⟩
    · exact happended _ _
  · dsimp only
    rw [List.take_length]
    exact happended _ _

end Files

namespace LogFile

open Files

/-- A log that cannot be opened is as it was. For one that is opened a file is put where its path
leads, with what was in it unless it is emptied, and for its owner alone unless an error says that it
may not be. -/
theorem openRestricted_put (file : LogFile) (empty : Bool) (files : Files) :
    (∃ error, file.openRestricted empty files = (.error error, files.later)) ∨
      ∃ directory bits, Leads files file.path directory ∧
        ¬ files.IsDirectory (directory ++ [file.path.lastPiece]) ∧
        Alike (files.put (directory ++ [file.path.lastPiece])
            (.file (if empty then [] else (files.read? file.path).getD []) bits))
          (file.openRestricted empty files).2 ∧
        ((∃ error, (file.openRestricted empty files).1 = .error error) ∨
          (file.openRestricted empty files).1 = .ok (directory ++ [file.path.lastPiece]) ∧
            bits % 0o1000 = fileMode) := by
  rw [openRestricted]
  rcases openForWriting_cases file.path fileMode empty files with
    ⟨error, hopen⟩ | ⟨directory, bits, hleads, hfree, -, hopen⟩
  · exact .inl ⟨error, bind_of_error _ hopen⟩
  · rw [← hleads.read?_eq_contentAt?] at hopen
    generalize hplace : directory ++ [file.path.lastPiece] = place at hfree hopen
    generalize hcontent : (if empty then [] else (files.read? file.path).getD []) = content at hopen
    obtain ⟨bits', hrestricted, hmode⟩ := tighten_put files.later place content bits
      (show fileMode < 0o1000 by decide)
    have halike : Alike (files.put place (.file content bits')) _ :=
      ((alike_later files).put place (.file content bits')).trans hrestricted
    rw [bind_of_ok _ hopen]
    subst hplace hcontent
    refine .inr ⟨directory, bits', hleads, hfree, ?_⟩
    rcases hstep : tighten _ fileMode (files.later.put _ _) with ⟨error | _, restricted⟩
    · rw [hstep] at halike
      rw [bind_of_error _ hstep]
      exact ⟨halike, .inl ⟨error, rfl⟩⟩
    · rw [hstep] at halike hmode
      rw [bind_of_ok _ hstep]
      exact ⟨halike, .inr ⟨rfl, hmode rfl⟩⟩

/-- A log that cannot be opened is as it was. One that is opened is found by its path, with what was
in it unless it is emptied, also when its access cannot be restricted. -/
theorem openRestricted_cases (file : LogFile) (empty : Bool) (files : Files) :
    (∃ error, file.openRestricted empty files = (.error error, files.later)) ∨
      ∃ directory, Leads files file.path directory ∧
        ¬ files.IsDirectory (directory ++ [file.path.lastPiece]) ∧
        Holds (file.openRestricted empty files).2 file.path (directory ++ [file.path.lastPiece])
          (if empty then [] else (files.read? file.path).getD []) ∧
        ((∃ error, (file.openRestricted empty files).1 = .error error) ∨
          (file.openRestricted empty files).1 = .ok (directory ++ [file.path.lastPiece])) := by
  rcases file.openRestricted_put empty files with
    hfailed | ⟨directory, bits, hleads, hfree, hput, hresult⟩
  · exact .inl hfailed
  · refine .inr ⟨directory, hleads, hfree, ?_, hresult.imp id And.left⟩
    exact Holds.alike ⟨directory, bits, hleads.put_file hfree _ bits, rfl, node?_put_self _ _ _⟩ hput

/-- A log that was opened is found by its path, and is for its owner alone. -/
theorem existing_of_openRestricted {file : LogFile} {empty : Bool} {files files' : Files}
    {place : Place}
    (h : file.openRestricted empty files = (.ok place, files')) :
    ∃ bits, bits % 0o1000 = fileMode ∧
      files'.existing file.path
        = .ok (place, .file (if empty then [] else (files.read? file.path).getD []) bits) := by
  rcases file.openRestricted_put empty files with
    ⟨error, hopen⟩ | ⟨directory, bits, hleads, hfree, hput, hresult⟩
  · rw [hopen] at h
    cases h
  · rw [h] at hput hresult
    rcases hresult with ⟨error, herror⟩ | ⟨hplace, hbits⟩
    · cases herror
    · obtain rfl := Except.ok.inj hplace
      refine ⟨bits, hbits, ?_⟩
      rw [hput.existing_eq]
      exact (hleads.put_file hfree _ bits).existing_eq (node?_put_self _ _ _)

/-- Opening a log leaves its content alone. A log that is missing is created, which is no content
either. -/
theorem openRestricted_holds (file : LogFile) (files : Files) :
    ((file.openRestricted false files).2.read? file.path).getD []
        = (files.read? file.path).getD [] ∧
      ∀ place, (file.openRestricted false files).1 = .ok place →
        ∃ content, Holds (file.openRestricted false files).2 file.path place content := by
  rcases file.openRestricted_cases false files with
    ⟨error, hopen⟩ | ⟨directory, -, -, hholds, hresult⟩
  · rw [hopen]
    exact ⟨congrArg (·.getD []) ((alike_later files).read?_eq file.path), nofun⟩
  · refine ⟨congrArg (·.getD []) hholds.read?_eq, fun place hplace => ?_⟩
    rcases hresult with ⟨error, herror⟩ | hok
    · rw [herror] at hplace
      cases hplace
    · obtain rfl := Except.ok.inj (hok.symm.trans hplace)
      exact ⟨_, hholds⟩

/-- A log is emptied, and is for its owner alone, or an error says that it may not be so. -/
theorem truncate_cases (file : LogFile) (files : Files) :
    ∃ result after, Medium.truncate (⟨file, files⟩ : Site LogFile) = (result, ⟨file, after⟩) ∧
      ((∃ error, result = .error error) ∨
        result = .ok () ∧ ∃ place bits, bits % 0o1000 = fileMode ∧
          after.existing file.path = .ok (place, .file [] bits)) := by
  simp only [Medium.truncate]
  rcases hopen : file.openRestricted true files with ⟨error | place, opened⟩
  · exact ⟨.error error, opened, rfl, .inl ⟨error, rfl⟩⟩
  · obtain ⟨bits, hbits, hthere⟩ := existing_of_openRestricted hopen
    have hstored := (sync_alike place opened).existing_eq file.path
    dsimp only
    rcases hsync : Files.sync place opened with ⟨error | _, stored⟩
    · exact ⟨.error error, stored, rfl, .inl ⟨error, rfl⟩⟩
    · rw [hsync] at hstored
      exact ⟨.ok (), stored, rfl, .inr ⟨rfl, place, bits, hbits, hstored.trans hthere⟩⟩

/-- A log that is opened, or cannot be opened, is left alone. -/
theorem openRestricted_spares (file : LogFile) (files : Files) :
    Spares file.path files (file.openRestricted false files).2 := by
  rcases file.openRestricted_cases false files with ⟨error, hopen⟩ | ⟨directory, -, -, hholds, -⟩
  · rw [hopen]
    exact (alike_later files).furnished.spares
  · have hread := hholds.read?_eq
    refine ⟨fun {bytes} hbytes => ?_, fun hbarren => barren_of_read? ?_⟩
    · rw [hread, hbytes]
      rfl
    · rw [hread]
      exact congrArg some (hbarren files (.refl files))

/-- A log in a file has taken what was written before a mishap. -/
def appending : Medium.Appending LogFile where
  content site := (site.files.read? site.medium.path).getD []
  Opened place site := ∃ content, Holds site.files site.medium.path place content
  content_openAppend site := (openRestricted_holds site.medium site.files).1
  opened_openAppend {site writer} h := (openRestricted_holds site.medium site.files).2 writer h
  content_write {writer bytes site} h := by
    obtain ⟨content, hholds⟩ := h
    have hwritten := writeSome_holds hholds bytes
    show ((write writer bytes site).2.files.read? (write writer bytes site).2.medium.path).getD []
      = _ ++ Medium.taken bytes (write writer bytes site).1.1
    rw [hholds.read?_eq, write]
    cases hstep : Files.writeSome writer bytes site.files with
    | mk result files =>
      rw [hstep] at hwritten
      cases result with
      | error error => exact congrArg (·.getD []) hwritten.read?_eq
      | ok count => exact congrArg (·.getD []) hwritten.read?_eq
  opened_write {writer bytes site} h := by
    obtain ⟨content, hholds⟩ := h
    have hwritten := writeSome_holds hholds bytes
    show ∃ content, Holds (write writer bytes site).2.files (write writer bytes site).2.medium.path
      (write writer bytes site).1.2 content
    rw [write]
    cases hstep : Files.writeSome writer bytes site.files with
    | mk result files =>
      rw [hstep] at hwritten
      cases result with
      | error error => exact ⟨_, hwritten⟩
      | ok count => exact ⟨_, hwritten⟩
  content_flush _ := rfl

/-! ## Without mishaps -/

/-- What can be seen of a log in a file. -/
def view : Medium.View LogFile where
  content site := site.files.read? site.medium.path
  removed site :=
    { site with
      files :=
        match site.files.locate site.medium.path with
        | .error _ => site.files
        | .ok target => site.files.remove target.place }

/-- No mishap is to come, and the path leads into a directory and to no directory there. -/
structure Calm (site : Site LogFile) : Prop where
  untroubled : Untroubled site.files
  leads : ∃ directory, Leads site.files site.medium.path directory ∧
    ¬ site.files.IsDirectory (directory ++ [site.medium.path.lastPiece])

/-- A log can be opened, and is found by its path then. -/
theorem Calm.openRestricted {site : Site LogFile} (h : Calm site) (empty : Bool) :
    ∃ place after, site.medium.openRestricted empty site.files = (.ok place, after) ∧
      Untroubled after ∧ Holds after site.medium.path place
        (if empty then [] else (site.files.read? site.medium.path).getD []) := by
  obtain ⟨directory, hleads, hfree⟩ := h.leads
  obtain ⟨bits, hopen⟩ :=
    openForWriting_of_leads h.untroubled.due hleads hfree fileMode empty
  generalize hopened : site.files.later.put _ _ = opened at hopen
  have hlater : Untroubled opened := hopened ▸ h.untroubled.later
  have hdone : ∃ after, site.medium.openRestricted empty site.files
      = (.ok (directory ++ [site.medium.path.lastPiece]), after) ∧ Untroubled after := by
    obtain ⟨hok, hmishaps⟩ := tighten_of_due hlater.due
      (directory ++ [site.medium.path.lastPiece]) fileMode
    refine ⟨_, ?_, fun mishap hmem => hlater.later mishap (hmishaps ▸ hmem)⟩
    rw [LogFile.openRestricted, bind_of_ok _ hopen, bind_of_ok _ (Prod.ext hok rfl)]
    rfl
  obtain ⟨after, hdone, huntroubled⟩ := hdone
  rcases site.medium.openRestricted_cases empty site.files with
    ⟨error, herror⟩ | ⟨_, -, -, hholds, ⟨error, herror⟩ | hok⟩
  · rw [hdone] at herror
    cases herror
  · rw [hdone] at herror
    cases herror
  · rw [hdone] at hholds hok
    rw [← Except.ok.inj hok] at hholds
    exact ⟨_, after, hdone, huntroubled, hholds⟩

/-- A log is calm exactly when it can be opened and no mishap is to come. -/
theorem calm_iff {site : Site LogFile} :
    Calm site ↔ Untroubled site.files ∧
      ∃ place, (site.medium.openRestricted false site.files).1 = .ok place := by
  constructor
  · intro h
    obtain ⟨place, after, hopen, -, -⟩ := h.openRestricted false
    exact ⟨h.untroubled, place, congrArg Prod.fst hopen⟩
  · rintro ⟨huntroubled, place, hplace⟩
    rcases site.medium.openRestricted_cases false site.files with
      ⟨error, herror⟩ | ⟨directory, hleads, hfree, -, -⟩
    · rw [herror] at hplace
      cases hplace
    · exact ⟨huntroubled, directory, hleads, hfree⟩

/-- What is written to an opened log stands at its end. -/
theorem Calm.write {site : Site LogFile} (h : Calm site) {place : Place} {content : Bytes}
    (hholds : Holds site.files site.medium.path place content) (bytes : Bytes) :
    ∃ after, write place bytes site = ((.moved bytes.length, place), ⟨site.medium, after⟩) ∧
      Untroubled after ∧ Holds after site.medium.path place (content ++ bytes) := by
  have hwrite := writeSome_of_due h.untroubled.due place bytes
  have hwritten := writeSome_holds hholds bytes
  rw [hwrite] at hwritten
  dsimp only at hwritten
  rw [List.take_length] at hwritten
  refine ⟨site.files.later.appended place bytes, ?_, ?_, hwritten⟩
  · rw [LogFile.write, hwrite]
  · intro mishap hmem
    rw [mishaps_appended] at hmem
    exact h.untroubled.later mishap hmem

/-- A log is emptied and stored. -/
theorem Calm.truncate {site : Site LogFile} (h : Calm site) :
    ∃ place after, Medium.truncate site = (.ok (), ⟨site.medium, after⟩) ∧ Untroubled after ∧
      Holds after site.medium.path place [] := by
  obtain ⟨place, opened, hopen, huntroubled, hholds⟩ := h.openRestricted true
  refine ⟨place, opened.later, ?_, huntroubled.later, hholds.alike (alike_later opened)⟩
  simp only [Medium.truncate, hopen, sync_of_due huntroubled.due]

/-- What the path leads to is the log, or nothing. -/
theorem Calm.existing {site : Site LogFile} (h : Calm site) :
    (site.files.existing site.medium.path = .error .notFound ∧ view.content site = none) ∨
      ∃ place content mode, site.files.existing site.medium.path = .ok (place, .file content mode) ∧
        view.content site = some content := by
  obtain ⟨directory, hleads, hfree⟩ := h.leads
  have hexisting := existing_of_leads hleads
  show _ ∧ site.files.read? _ = none ∨ _
  cases hnode : site.files.node? (directory ++ [site.medium.path.lastPiece]) with
  | none =>
    rw [hnode] at hexisting
    exact .inl ⟨hexisting, by rw [read?, hexisting]⟩
  | some node =>
    rw [hnode] at hexisting
    cases node with
    | directory mode => exact absurd ⟨mode, hnode⟩ hfree
    | file content mode =>
      exact .inr ⟨_, content, mode, hexisting, read?_eq_some_iff.mpr ⟨_, mode, hexisting⟩⟩

/-- The end of a mishap leaves a log calm. -/
theorem Calm.later {site : Site LogFile} (h : Calm site) :
    Calm ⟨site.medium, site.files.later⟩ := by
  obtain ⟨directory, hleads, hfree⟩ := h.leads
  exact ⟨h.untroubled.later, directory, (alike_later _).grows.leads hleads, hfree⟩

/-- A log that is there can be read from its start. -/
theorem Calm.openRead {site : Site LogFile} (h : Calm site) :
    Medium.openRead site
      = (.ok ((view.content site).map fun content => ⟨content, none⟩),
        ⟨site.medium, site.files.later⟩) := by
  simp only [Medium.openRead, openReader, attempt_of_none_due _ h.untroubled.due,
    (alike_later site.files).existing_eq]
  rcases h.existing with ⟨hexisting, hcontent⟩ | ⟨place, content, mode, hexisting, hcontent⟩ <;>
    rw [hexisting, hcontent] <;> rfl

theorem Calm.size {site : Site LogFile} (h : Calm site) :
    Medium.size site
      = (.ok ((view.content site).map List.length), ⟨site.medium, site.files.later⟩) := by
  simp only [Medium.size, Files.size, attempt_of_none_due _ h.untroubled.due,
    (alike_later site.files).existing_eq]
  rcases h.existing with ⟨hexisting, hcontent⟩ | ⟨place, content, mode, hexisting, hcontent⟩ <;>
    rw [hexisting, hcontent] <;> rfl

/-- A log can be taken away. -/
theorem Calm.removed {site : Site LogFile} (h : Calm site) :
    Calm (view.removed site) ∧ view.content (view.removed site) = none := by
  obtain ⟨directory, hleads, hfree⟩ := h.leads
  have hremoved : view.removed site
      = ⟨site.medium, site.files.remove (directory ++ [site.medium.path.lastPiece])⟩ := by
    simp only [view, locate_named_iff.mpr ⟨directory, hleads, rfl⟩]
  have hvanished := hleads.vanish hfree
  have hnone := node?_remove_self (List.append_ne_nil_of_right_ne_nil directory
    (List.cons_ne_nil site.medium.path.lastPiece [])) site.files
  rw [hremoved]
  refine ⟨⟨h.untroubled, directory, hvanished, ?_⟩, ?_⟩
  · rintro ⟨bits, hbits⟩
    rw [hnone] at hbits
    cases hbits
  · show (site.files.remove _).read? site.medium.path = none
    rw [hvanished.read?_eq_contentAt?, contentAt?, hnone]

/-- A log in a file can be relied on while no mishap is to come. -/
def faultless : Medium.Faultless LogFile where
  toView := view
  Calm := Calm
  Opened place site := ∃ content, Holds site.files site.medium.path place content
  bring rest := ⟨rest, none⟩
  openAppend_calm {site} h := by
    obtain ⟨place, after, hopen, huntroubled, hholds⟩ := h.openRestricted false
    refine ⟨place, ⟨site.medium, after⟩, ?_, ⟨huntroubled, hholds.leads⟩, ⟨_, hholds⟩,
      hholds.read?_eq⟩
    simp only [Medium.openAppend, hopen]
  write_calm {place site old} bytes h hopened hcontent := by
    obtain ⟨content, hholds⟩ := hopened
    obtain rfl := Option.some.inj (hholds.read?_eq.symm.trans hcontent)
    obtain ⟨after, hwrite, huntroubled, hwritten⟩ := h.write hholds bytes
    exact ⟨⟨site.medium, after⟩, hwrite, ⟨huntroubled, hwritten.leads⟩, ⟨_, hwritten⟩,
      hwritten.read?_eq⟩
  flush_calm {place site} h _ := ⟨site, rfl, h, rfl⟩
  truncate_calm {site} h := by
    obtain ⟨place, after, htruncate, huntroubled, hholds⟩ := h.truncate
    exact ⟨⟨site.medium, after⟩, htruncate, ⟨huntroubled, hholds.leads⟩, hholds.read?_eq⟩
  openRead_calm {site} h := ⟨_, h.openRead, h.later, rfl, alike_later _⟩
  size_calm {site} h := ⟨_, h.size, h.later, rfl, alike_later _⟩
  removed_calm {site} h := h.removed
  read_bring _ _ _ := rfl
  remaining_bring _ _ := rfl
  content_untouched {site after} h := by
    show after.files.read? after.medium.path = site.files.read? site.medium.path
    rw [h.medium, h.files.read?_eq]

end LogFile

end SealedLog
