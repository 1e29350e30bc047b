import SealedLog.Proofs.Files.Retained

/-!
# Directories that are made

Directories can be made where nothing was, and permission bits can change. Files stay what they are
through this. A path that led nowhere can begin to lead to a file, though, if it goes up again
behind a directory that was missing.

- `Furnished files files'`: the same files, with more directories and other permission bits.
- `Outfitted files files'`: the same, and files keep their permission bits.
- `Barren path files`: the path leads to no content, whichever directories are made.
- `barren_of_down`: a path without double dots is barren where nothing is.
- `Spares path files files'`: a change that leaves the log at the path alone.
-/

namespace SealedLog.Files

variable {files files' files'' : Files} {path : Path} {bytes : Bytes}

/-! ## Directories -/

/-- The same files, with any permission bits, and with any directories made where nothing was. -/
structure Furnished (files files' : Files) : Prop where
  home : files.home = files'.home
  file : ∀ {place content mode}, files.node? place = some (.file content mode) →
    ∃ bits, files'.node? place = some (.file content bits)
  directory : ∀ {place}, files.IsDirectory place → files'.IsDirectory place
  nothing : ∀ {place}, files.node? place = none →
    files'.node? place = none ∨ files'.IsDirectory place

@[refl] theorem Furnished.refl (files : Files) : Furnished files files :=
  ⟨rfl, fun h => ⟨_, h⟩, id, .inl⟩

theorem Furnished.trans (h : Furnished files files') (h' : Furnished files' files'') :
    Furnished files files'' where
  home := h.home.trans h'.home
  file hfile := by
    obtain ⟨bits, hbits⟩ := h.file hfile
    exact h'.file hbits
  directory hdirectory := h'.directory (h.directory hdirectory)
  nothing hnone := by
    rcases h.nothing hnone with hnone' | hdirectory
    · exact h'.nothing hnone'
    · exact .inr (h'.directory hdirectory)

theorem Alike.furnished (h : Alike files files') : Furnished files files' where
  home := h.home_eq.symm
  file hfile := ⟨_, (h.node?_eq _).trans hfile⟩
  directory hdirectory := h.grows.isDirectory hdirectory
  nothing hnone := .inl ((h.node?_eq _).trans hnone)

theorem Furnished.retains (h : Furnished files files') : Retains files files' :=
  ⟨h.home, h.file, h.directory⟩

/-- A file that is there is found as before. -/
theorem Furnished.read? (h : Furnished files files') (hread : files.read? path = some bytes) :
    files'.read? path = some bytes :=
  h.retains.read? hread

/-- No other content comes to any place. -/
theorem Furnished.contentAt?_eq (h : Furnished files files') (place : Place) :
    files'.contentAt? place = files.contentAt? place := by
  cases hnode : files.node? place with
  | none =>
    rw [contentAt?, contentAt?, hnode]
    rcases h.nothing hnode with hnone | ⟨mode, hmode⟩
    · rw [hnone]
    · rw [hmode]
  | some node =>
    cases node with
    | file content mode =>
      obtain ⟨bits, hbits⟩ := h.file hnode
      rw [contentAt?, contentAt?, hnode, hbits]
    | directory mode =>
      obtain ⟨bits, hbits⟩ := h.directory ⟨mode, hnode⟩
      rw [contentAt?, contentAt?, hnode, hbits]

/-- The same files, with the same permission bits. Directories may have been made, or have got other
bits. -/
structure Outfitted (files files' : Files) : Prop where
  home : files.home = files'.home
  file : ∀ {place content mode}, files.node? place = some (.file content mode) ↔
    files'.node? place = some (.file content mode)
  directory : ∀ {place}, files.IsDirectory place → files'.IsDirectory place

theorem Outfitted.trans (h : Outfitted files files') (h' : Outfitted files' files'') :
    Outfitted files files'' :=
  ⟨h.home.trans h'.home, h.file.trans h'.file,
    fun hdirectory => h'.directory (h.directory hdirectory)⟩

theorem Alike.outfitted (h : Alike files files') : Outfitted files files' where
  home := h.home_eq.symm
  file {place content mode} := by rw [h.node?_eq]
  directory hdirectory := h.grows.isDirectory hdirectory

theorem Outfitted.furnished (h : Outfitted files files') : Furnished files files' where
  home := h.home
  file hfile := ⟨_, h.file.mp hfile⟩
  directory hdirectory := h.directory hdirectory
  nothing {place} hnone := by
    cases hnode : files'.node? place with
    | none => exact .inl rfl
    | some node =>
      cases node with
      | directory mode => exact .inr ⟨mode, hnode⟩
      | file content mode =>
        rw [h.file.mpr hnode] at hnone
        cases hnone

/-- A directory is put where no file is. -/
theorem outfitted_put_directory {place : Place}
    (h : ∀ content mode, files.node? place ≠ some (.file content mode)) (mode : Nat) :
    Outfitted files (files.put place (.directory mode)) where
  home := rfl
  file {other content bits} := by
    by_cases hother : other = place
    · subst hother
      rw [node?_put_self]
      exact ⟨fun hfile => absurd hfile (h content bits), nofun⟩
    · rw [node?_put_ne hother]
  directory {other} hdirectory := by
    by_cases hother : other = place
    · exact ⟨mode, by rw [hother, node?_put_self]⟩
    · obtain ⟨bits, hbits⟩ := hdirectory
      exact ⟨bits, (node?_put_ne hother files _).trans hbits⟩

theorem makeDirectory_outfitted (path : Path) (files : Files) :
    Outfitted files (makeDirectory path files).2 := by
  rcases makeDirectory_cases path files with ⟨error, h⟩ | ⟨target, mode, -, hnone, h⟩ <;> rw [h]
  · exact (alike_later files).outfitted
  · refine (alike_later files).outfitted.trans (outfitted_put_directory (fun content bits => ?_) mode)
    rw [show files.later.node? target.place = none from hnone]
    exact nofun

theorem makeDirectories_outfitted (path : Path) (files : Files) :
    Outfitted files (makeDirectories path files).2 :=
  @makeNested_keeps (Outfitted files) path.ancestors
    (fun path _ _ made hmade => hmade.trans (makeDirectory_outfitted path made)) files
    (Alike.refl files).outfitted

/-- A directory that was made is there. -/
theorem makeDirectory_existing {path : Path} (h : makeDirectory path files = (.ok (), files')) :
    ∃ place mode, files'.existing path = .ok (place, .directory mode) := by
  rcases makeDirectory_cases path files with ⟨error, herror⟩ | ⟨target, mode, hlocate, hnone, hput⟩
  · rw [herror] at h
    cases h
  · rw [hput] at h
    obtain ⟨-, rfl⟩ := Prod.mk.inj h
    have hmade : Outfitted files (files.later.put target.place (.directory mode)) := by
      have houtfitted := makeDirectory_outfitted path files
      rwa [hput] at houtfitted
    exact ⟨target.place, mode, existing_ok_iff.mpr ⟨target,
      locate_mono hmade.home (fun _ => hmade.directory) hlocate, rfl, node?_put_self _ _ _,
      fun _ => ⟨mode, rfl⟩⟩⟩

theorem existing_of_isDirectory {path : Path}
    (h : Files.isDirectory path files = (.ok true, files')) :
    ∃ place mode, files'.existing path = .ok (place, .directory mode) := by
  rw [Files.isDirectory] at h
  split at h
  · rename_i place mode hthere
    obtain ⟨-, rfl⟩ := Prod.mk.inj h
    exact ⟨place, mode, hthere⟩
  · cases h

/-- So is one that is made with those above it, or was there before. -/
theorem makeDirectories_existing {path : Path} (hne : path.text.toList ≠ [])
    (h : makeDirectories path files = (.ok (), files')) :
    ∃ place mode, files'.existing path = .ok (place, .directory mode) := by
  have hempty : ¬ path.text.isEmpty = true := by
    rw [String.isEmpty_iff]
    exact fun h => hne (by rw [h]; rfl)
  obtain ⟨outer, houter⟩ : ∃ outer, path.ancestors = path :: outer := by
    rw [Path.ancestors, Path.above]
    split <;> exact ⟨_, rfl⟩
  rw [makeDirectories, houter, makeNested, if_neg hempty] at h
  split at h
  · rename_i made hmake
    obtain ⟨-, rfl⟩ := Prod.mk.inj h
    exact makeDirectory_existing hmake
  · split at h
    · cases h
    · rw [makeNested.settle] at h
      split at h
      · rename_i made hmake
        obtain ⟨-, rfl⟩ := Prod.mk.inj h
        exact makeDirectory_existing hmake
      · split at h
        · rename_i looked hlook
          obtain ⟨-, rfl⟩ := Prod.mk.inj h
          exact existing_of_isDirectory hlook
        · cases h
  · split at h
    · rename_i looked hlook
      obtain ⟨-, rfl⟩ := Prod.mk.inj h
      exact existing_of_isDirectory hlook
    · cases h

/-- The path that nothing is written in leads nowhere. -/
theorem ne_nil_of_existing {path : Path} {found : Place × Node}
    (h : files.existing path = .ok found) : path.text.toList ≠ [] := by
  obtain ⟨target, hlocate, -⟩ := existing_ok_iff.mp h
  rw [locate] at hlocate
  split at hlocate
  · cases hlocate
  · rename_i happroach
    exact (approach_ok happroach).2.1
  · rename_i happroach
    exact (approach_ok happroach).2.1

/-- What a path leads to after directories were made for it is a directory. -/
theorem directory_of_makeDirectories {path : Path}
    (h : makeDirectories path files = (.ok (), files')) {place : Place} {node : Node}
    (hthere : files'.existing path = .ok (place, node)) : ∃ bits, node = .directory bits := by
  obtain ⟨_, bits, hmade⟩ := makeDirectories_existing (ne_nil_of_existing hthere) h
  cases hthere.symm.trans hmade
  exact ⟨bits, rfl⟩

/-- Permission bits that were set are there. -/
theorem existing_of_setMode {path : Path} {mode : Nat}
    (h : setMode path mode files = (.ok (), files')) :
    ∃ place node, files.existing path = .ok (place, node) ∧
      files' = files.later.put place (Node.withMode mode node) := by
  rw [setMode] at h
  rcases attempt_cases _ files with ⟨error, hstep⟩ | ⟨a, changed, hact, hstep⟩
  · rw [hstep] at h
    cases h
  · rw [hstep] at h
    obtain ⟨-, rfl⟩ := Prod.mk.inj h
    obtain ⟨⟨place, node⟩, hexisting, hput⟩ := bind_eq_ok.mp hact
    obtain ⟨-, rfl⟩ := Prod.mk.inj (Except.ok.inj hput)
    rw [(alike_later files).existing_eq] at hexisting
    exact ⟨place, node, hexisting, rfl⟩

/-- A node with other permission bits. -/
theorem furnished_withMode {place : Place} {node : Node} (h : files.node? place = some node)
    (mode : Nat) : Furnished files (files.put place (Node.withMode mode node)) where
  home := rfl
  file {other content bits} hfile := by
    by_cases hother : other = place
    · rw [hother, h] at hfile
      rw [hother, node?_put_self, Option.some.inj hfile]
      exact ⟨mode, rfl⟩
    · exact ⟨bits, (node?_put_ne hother files _).trans hfile⟩
  directory {other} hdirectory := by
    obtain ⟨bits, hbits⟩ := hdirectory
    by_cases hother : other = place
    · rw [hother, h] at hbits
      refine ⟨mode, ?_⟩
      rw [hother, node?_put_self, Option.some.inj hbits]
      rfl
    · exact ⟨bits, (node?_put_ne hother files _).trans hbits⟩
  nothing {other} hnone := by
    by_cases hother : other = place
    · rw [hother, h] at hnone
      cases hnone
    · exact .inl ((node?_put_ne hother files _).trans hnone)

/-- Permission bits of a directory are set. -/
theorem setMode_outfitted {path : Path}
    (hdirectory : ∀ {place node}, files.existing path = .ok (place, node) →
      ∃ bits, node = .directory bits) (mode : Nat) :
    Outfitted files (setMode path mode files).2 := by
  rcases hstep : setMode path mode files with ⟨error | _, changed⟩
  · rw [setMode] at hstep
    rcases attempt_cases _ files with ⟨_, h⟩ | ⟨_, _, _, h⟩ <;> rw [h] at hstep <;> cases hstep
    exact (alike_later files).outfitted
  · obtain ⟨place, node, hthere, rfl⟩ := existing_of_setMode hstep
    obtain ⟨bits, rfl⟩ := hdirectory hthere
    obtain ⟨-, -, -, hnode, -⟩ := existing_ok_iff.mp hthere
    refine (alike_later files).outfitted.trans (outfitted_put_directory (fun content mode => ?_) mode)
    rw [show files.later.node? place = _ from hnode]
    exact nofun

theorem setMode_furnished (path : Path) (mode : Nat) (files : Files) :
    Furnished files (setMode path mode files).2 := by
  rw [setMode]
  rcases attempt_cases _ files with ⟨error, h⟩ | ⟨a, files', hact, h⟩ <;> rw [h]
  · exact (alike_later files).furnished
  · obtain ⟨⟨place, node⟩, hexisting, hput⟩ := bind_eq_ok.mp hact
    obtain ⟨-, rfl⟩ := Prod.mk.inj (Except.ok.inj hput)
    obtain ⟨-, -, -, hnode, -⟩ := existing_ok_iff.mp hexisting
    exact (alike_later files).furnished.trans (furnished_withMode hnode mode)

/-! ## Paths without content -/

/-- The path leads to no content, whichever directories are made. -/
def Barren (path : Path) (files : Files) : Prop :=
  ∀ files', Furnished files files' → (files'.read? path).getD [] = []

theorem Barren.furnished (h : Barren path files) (hfurnished : Furnished files files') :
    Barren path files' :=
  fun files'' hmore => h files'' (hfurnished.trans hmore)

theorem barren_of_read? (h : files.read? path = some []) : Barren path files := by
  intro files' hfurnished
  rw [hfurnished.read? h]
  rfl

/-- A path without double dots leads to one place only. If nothing is there, or a directory, no file
comes there when directories are made. -/
theorem barren_of_down (hup : ['.', '.'] ∉ Path.filled path.text.toList)
    (hfree : ∀ content mode, files.node? (files.down path) ≠ some (.file content mode)) :
    Barren path files := by
  intro files' hfurnished
  cases hread : files'.read? path with
  | none => rfl
  | some content =>
    obtain ⟨place, mode, hfound⟩ := read?_eq_some_iff.mp hread
    obtain ⟨target, hlocate, hplace, hnode, -⟩ := existing_ok_iff.mp hfound
    have hdown : files'.down path = files.down path := by
      rw [down, down, start, start, hfurnished.home]
    rw [← hplace, locate_down hup hlocate, hdown] at hnode
    have hdirectory : ¬ files'.IsDirectory (files.down path) := by
      rintro ⟨bits, hbits⟩
      rw [hnode] at hbits
      cases hbits
    cases hold : files.node? (files.down path) with
    | none =>
      rcases hfurnished.nothing hold with hnone | hmade
      · rw [hnode] at hnone
        cases hnone
      · exact absurd hmade hdirectory
    | some node =>
      cases node with
      | directory bits => exact absurd (hfurnished.directory ⟨bits, hold⟩) hdirectory
      | file content bits => exact absurd hold (hfree content bits)

/-! ## Logs that are left alone -/

/-- A log that is there keeps its bytes, and a path without content stays so. -/
structure Spares (path : Path) (files files' : Files) : Prop where
  kept : ∀ {bytes}, files.read? path = some bytes → files'.read? path = some bytes
  barren : Barren path files → Barren path files'

@[refl] theorem Spares.refl (path : Path) (files : Files) : Spares path files files := ⟨id, id⟩

theorem Spares.trans (h : Spares path files files') (h' : Spares path files' files'') :
    Spares path files files'' :=
  ⟨fun hread => h'.kept (h.kept hread), fun hbarren => h'.barren (h.barren hbarren)⟩

theorem Furnished.spares (h : Furnished files files') : Spares path files files' :=
  ⟨h.read?, fun hbarren => hbarren.furnished h⟩

end SealedLog.Files
