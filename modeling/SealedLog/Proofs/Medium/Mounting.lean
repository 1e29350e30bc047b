import SealedLog.Proofs.Files.Resolved
import SealedLog.Proofs.Medium.LogFile

/-!
# Mounting a log

A log is mounted in three steps: its directory is made, the directory is restricted, and the file in
it is opened and restricted. Each of them can fail, and then those behind it are not taken.

- `LogFile.openRestricted_retains`, `LogFile.openRestricted_sameBut`: what is left alone when a log is
  opened.
- `LogFile.Mounting`: what a mount does to the files, by its result.
- `LogFile.mount_mounting`: every mount comes back so.
- `LogFile.Mounting.retains`: whatever goes wrong, no file loses what is in it.
- `LogFile.Mounting.ready`: a log that is mounted, and its directory.
-/

namespace SealedLog.LogFile

open Files

variable {mountPoint : Path} {file : LogFile} {files files' : Files}

/-! ## Opening -/

/-- Opening a log leaves all files alone. -/
theorem openRestricted_retains (file : LogFile) (files : Files) :
    Retains files (file.openRestricted false files).2 := by
  rcases file.openRestricted_put false files with
    ⟨error, hopen⟩ | ⟨directory, bits, hleads, hfree, hput, -⟩
  · rw [hopen]
    exact (alike_later files).retains
  · rw [hleads.read?_eq_contentAt?] at hput
    exact (retains_put hfree bits).trans hput.retains

/-- Nothing but the log changes when it is opened, also when it is emptied. -/
theorem openRestricted_sameBut (file : LogFile) (empty : Bool) (files : Files) :
    SameBut (files.placeOf file.path) files (file.openRestricted empty files).2 := by
  rcases file.openRestricted_put empty files with
    ⟨error, hopen⟩ | ⟨directory, bits, hleads, -, hput, -⟩
  · rw [hopen]
    exact (alike_later files).sameBut _
  · rw [← hleads.place]
    exact (sameBut_put _ files _).trans (hput.sameBut _)

/-- Nor when it is emptied and stored. -/
theorem truncate_sameBut (file : LogFile) (files : Files) :
    SameBut (files.placeOf file.path) files
      (Medium.truncate (⟨file, files⟩ : Site LogFile)).2.files := by
  have hopened := file.openRestricted_sameBut true files
  simp only [Medium.truncate]
  rcases hopen : file.openRestricted true files with ⟨error | place, opened⟩
  · rw [hopen] at hopened
    exact hopened
  · rw [hopen] at hopened
    exact hopened.trans ((sync_alike place opened).sameBut _)

/-- A log is opened at the place that its path means, and is read by its path already before. -/
theorem place_of_openRestricted {empty : Bool} {place : Place}
    (h : file.openRestricted empty files = (.ok place, files')) :
    place = files.placeOf file.path ∧ files.read? file.path = files.contentAt? place := by
  rcases file.openRestricted_put empty files with
    ⟨error, hopen⟩ | ⟨directory, bits, hleads, -, -, hresult⟩
  · rw [h] at hopen
    cases hopen
  · rw [h] at hresult
    rcases hresult with ⟨error, herror⟩ | ⟨hplace, -⟩
    · cases herror
    · obtain rfl := Except.ok.inj hplace
      exact ⟨hleads.place, hleads.read?_eq_contentAt?⟩

/-! ## Mounting -/

/-- What a mount does to the files. -/
inductive Mounting (mountPoint : Path) (file : LogFile) (files : Files) :
    Except StoreError LogFile → Files → Prop
  /-- The directory cannot be made, or it cannot be restricted. -/
  | unprepared {error : SystemError} {files' : Files} :
      Outfitted files files' →
      Mounting mountPoint file files (.error (.openFailed mountPoint.text error)) files'
  /-- The file cannot be opened, or it cannot be restricted. -/
  | unopened {error : SystemError} {prepared files' : Files} :
      Outfitted files prepared → file.openRestricted false prepared = (.error error, files') →
      Mounting mountPoint file files (.error (.openFailed file.path.text error)) files'
  | mounted {place : Place} {made prepared files' : Files} :
      makeDirectories mountPoint files = (.ok (), made) →
      setMode mountPoint directoryMode made = (.ok (), prepared) →
      file.openRestricted false prepared = (.ok place, files') →
      Mounting mountPoint file files (.ok file) files'

/-- Every mount comes back. -/
theorem mount_mounting (mountPoint : Path) (fileName : String) (world : World) :
    ∃ result world', mount mountPoint fileName world = .ok (result, world') ∧
      Mounting mountPoint ⟨mountPoint.join fileName⟩ world.files result world'.files := by
  have hmade := makeDirectories_outfitted mountPoint world.files
  rcases hmake : makeDirectories mountPoint world.files with ⟨error | _, made⟩
  · rw [hmake] at hmade
    rw [mount, Scene.bind_of_ok (Scene.onFiles_of_eq hmake)]
    exact ⟨_, _, rfl, .unprepared hmade⟩
  · rw [hmake] at hmade
    rw [mount, Scene.bind_of_ok (Scene.onFiles_of_eq hmake)]
    dsimp only
    have hprepared :=
      hmade.trans (setMode_outfitted (directory_of_makeDirectories hmake) directoryMode)
    rcases hset : setMode mountPoint directoryMode made with ⟨error | _, prepared⟩
    · rw [hset] at hprepared
      rw [Scene.bind_of_ok (Scene.onFiles_of_eq hset)]
      exact ⟨_, _, rfl, .unprepared hprepared⟩
    · rw [hset] at hprepared
      rw [Scene.bind_of_ok (Scene.onFiles_of_eq hset)]
      dsimp only
      rcases hopen : LogFile.openRestricted ⟨mountPoint.join fileName⟩ false prepared with
        ⟨error | place, opened⟩
      · rw [Scene.bind_of_ok (Scene.onFiles_of_eq hopen)]
        exact ⟨_, _, rfl, .unopened hprepared hopen⟩
      · rw [Scene.bind_of_ok (Scene.onFiles_of_eq hopen)]
        exact ⟨_, _, rfl, .mounted hmake hset hopen⟩

namespace Mounting

variable {result : Except StoreError LogFile}

theorem outfitted_of_prepared {made prepared : Files}
    (hmake : makeDirectories mountPoint files = (.ok (), made))
    (hset : setMode mountPoint directoryMode made = (.ok (), prepared)) :
    Outfitted files prepared := by
  have hmade := makeDirectories_outfitted mountPoint files
  have hrestricted := setMode_outfitted (directory_of_makeDirectories hmake) directoryMode
  rw [hmake] at hmade
  rw [hset] at hrestricted
  exact hmade.trans hrestricted

/-- The directory of a log, before the log is opened. -/
theorem existing_of_prepared {made prepared : Files}
    (hmake : makeDirectories mountPoint files = (.ok (), made))
    (hset : setMode mountPoint directoryMode made = (.ok (), prepared)) :
    prepared.existing mountPoint
      = .ok (files.placeOf mountPoint, .directory directoryMode) := by
  have houtfitted := outfitted_of_prepared hmake hset
  have hrestricted := setMode_outfitted (directory_of_makeDirectories hmake) directoryMode
  rw [hset] at hrestricted
  obtain ⟨place, node, hthere, rfl⟩ := existing_of_setMode hset
  obtain ⟨bits, rfl⟩ := directory_of_makeDirectories hmake hthere
  obtain ⟨target, hlocate, rfl, -, -⟩ := existing_ok_iff.mp hthere
  have hexisting := existing_ok_iff.mpr ⟨target,
    locate_mono hrestricted.home (fun _ => hrestricted.directory) hlocate, rfl,
    node?_put_self _ _ _, fun _ => ⟨directoryMode, rfl⟩⟩
  rw [← placeOf_of_home houtfitted.home, ← existing_place hexisting]
  exact hexisting

/-- What making directories and opening the log do, a mount does. -/
theorem related (Related : Files → Files → Prop)
    (htrans : ∀ {a b c}, Related a b → Related b c → Related a c)
    (houtfitted : ∀ {a b}, Outfitted a b → Related a b)
    (hopen : ∀ a, Related a (file.openRestricted false a).2)
    (h : Mounting mountPoint file files result files') : Related files files' := by
  cases h with
  | unprepared hprepared => exact houtfitted hprepared
  | @unopened _ prepared _ hprepared hopened =>
    have hlast := hopen prepared
    rw [hopened] at hlast
    exact htrans (houtfitted hprepared) hlast
  | @mounted _ _ prepared _ hmake hset hopened =>
    have hlast := hopen prepared
    rw [hopened] at hlast
    exact htrans (houtfitted (outfitted_of_prepared hmake hset)) hlast

/-- No file loses what is in it. -/
theorem retains (h : Mounting mountPoint file files result files') : Retains files files' :=
  h.related Retains Retains.trans (fun houtfitted => houtfitted.furnished.retains)
    file.openRestricted_retains

/-- No other file changes, nor its permission bits, and there is no other new file. -/
theorem others (h : Mounting mountPoint file files result files') {other : Place}
    (hother : other ≠ files.placeOf file.path) {content : Bytes} {bits : Nat} :
    files.node? other = some (.file content bits) ↔
      files'.node? other = some (.file content bits) := by
  have hrelated := h.related
    (fun before after => before.home = after.home ∧
      ∀ other, other ≠ before.placeOf file.path → ∀ content bits,
        before.node? other = some (.file content bits) ↔
          after.node? other = some (.file content bits))
    ?_ ?_ ?_
  · exact hrelated.2 other hother content bits
  · rintro a b c ⟨hhome, hsame⟩ ⟨hhome', hsame'⟩
    refine ⟨hhome.trans hhome', fun other hother content bits => (hsame other hother _ _).trans ?_⟩
    exact hsame' other (placeOf_of_home hhome file.path ▸ hother) content bits
  · exact fun houtfitted => ⟨houtfitted.home, fun _ _ _ _ => houtfitted.file⟩
  · intro a
    have hsame := file.openRestricted_sameBut false a
    exact ⟨hsame.home, fun _ hother _ _ => by rw [hsame.node hother]⟩

/-- The log is left alone. -/
theorem spares (h : Mounting mountPoint file files result files') :
    Spares file.path files files' :=
  h.related (Spares file.path) Spares.trans (fun houtfitted => houtfitted.furnished.spares)
    file.openRestricted_spares

/-- A log that is mounted is there. -/
theorem holds {found : LogFile} (h : Mounting mountPoint file files (.ok found) files') :
    found = file ∧ ∃ place content, Holds files' file.path place content := by
  cases h with
  | @mounted place _ prepared _ _ _ hopen =>
    have hholds := (file.openRestricted_holds prepared).2
    rw [hopen] at hholds
    exact ⟨rfl, place, hholds place rfl⟩

/-- A log that is mounted is found by its path, with what was in it at the place that the path means.
It is for its owner alone, and so is its directory. -/
theorem ready {found : LogFile} (h : Mounting mountPoint file files (.ok found) files') :
    found = file ∧
      files'.existing mountPoint = .ok (files.placeOf mountPoint, .directory directoryMode) ∧
      ∃ bits, bits % 0o1000 = fileMode ∧
        files'.existing file.path = .ok (files.placeOf file.path,
          .file ((files.contentAt? (files.placeOf file.path)).getD []) bits) := by
  cases h with
  | @mounted place made prepared _ hmake hset hopen =>
    have hfurnished := (outfitted_of_prepared hmake hset).furnished
    have hretains : Retains prepared files' := by
      have hopened := file.openRestricted_retains prepared
      rwa [hopen] at hopened
    obtain ⟨bits, hbits, hlog⟩ := existing_of_openRestricted hopen
    obtain ⟨hplace, hread⟩ := place_of_openRestricted hopen
    rw [placeOf_of_home hfurnished.home] at hplace
    refine ⟨rfl, ?_, bits, hbits, ?_⟩
    · have hprepared := existing_of_prepared hmake hset
      have hdirectory : files.placeOf mountPoint ≠ place := by
        -- The log is a file, so it is not opened in place of the directory.
        obtain ⟨-, -, -, hnode, -⟩ := existing_ok_iff.mp hprepared
        obtain ⟨mode, hmode⟩ := hretains.directory ⟨_, hnode⟩
        obtain ⟨-, -, -, hfile, -⟩ := existing_ok_iff.mp hlog
        rintro rfl
        rw [hfile] at hmode
        cases hmode
      have hsame : SameBut place prepared files' := by
        have hopened := file.openRestricted_sameBut false prepared
        rw [placeOf_of_home hfurnished.home, ← hplace, hopen] at hopened
        exact hopened
      obtain ⟨target, hlocate, htarget, hnode, -⟩ := existing_ok_iff.mp hprepared
      exact existing_ok_iff.mpr ⟨target,
        locate_mono hretains.home (fun _ => hretains.directory) hlocate, htarget,
        (hsame.node hdirectory).trans hnode, fun _ => ⟨_, rfl⟩⟩
    · rw [hfurnished.contentAt?_eq] at hread
      rw [← hplace, ← hread]
      exact hlog

end Mounting

end SealedLog.LogFile
