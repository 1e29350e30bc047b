import SealedLog.Proofs.Files.Steps

/-!
# What a change leaves

Two ways to bound a change of the file system: by what is still there after it, and by the one place
that it has to do with.

- `Retains files files'`: all directories are still there, and all files with what was in them.
- `SameBut place files files'`: nothing has changed but at one place.
- `existing_put_file`: a file that takes the place of another is found like it.
-/

namespace SealedLog.Files

variable {files files' files'' : Files} {path : Path} {place : Place} {bytes content : Bytes}
  {bits : Nat}

theorem contentAt?_eq_some_iff :
    files.contentAt? place = some bytes ↔ ∃ bits, files.node? place = some (.file bytes bits) := by
  rw [contentAt?]
  cases files.node? place with
  | none => simp
  | some node => cases node <;> simp

/-! ## What is still there -/

/-- Directories are still there, and files have what was in them. Permission bits may be others. -/
structure Retains (files files' : Files) : Prop where
  home : files.home = files'.home
  file : ∀ {place content mode}, files.node? place = some (.file content mode) →
    ∃ bits, files'.node? place = some (.file content bits)
  directory : ∀ {place}, files.IsDirectory place → files'.IsDirectory place

@[refl] theorem Retains.refl (files : Files) : Retains files files := ⟨rfl, fun h => ⟨_, h⟩, id⟩

theorem Retains.trans (h : Retains files files') (h' : Retains files' files'') :
    Retains files files'' where
  home := h.home.trans h'.home
  file hfile := by
    obtain ⟨bits, hbits⟩ := h.file hfile
    exact h'.file hbits
  directory hdirectory := h'.directory (h.directory hdirectory)

theorem Alike.retains (h : Alike files files') : Retains files files' where
  home := h.home_eq.symm
  file hfile := ⟨_, (h.node?_eq _).trans hfile⟩
  directory hdirectory := h.grows.isDirectory hdirectory

theorem Retains.contentAt? (h : Retains files files')
    (hcontent : files.contentAt? place = some bytes) : files'.contentAt? place = some bytes := by
  obtain ⟨bits, hbits⟩ := contentAt?_eq_some_iff.mp hcontent
  exact contentAt?_eq_some_iff.mpr (h.file hbits)

/-- A file that is there is found as before. -/
theorem Retains.read? (h : Retains files files') (hread : files.read? path = some bytes) :
    files'.read? path = some bytes := by
  obtain ⟨place, mode, hfound⟩ := read?_eq_some_iff.mp hread
  obtain ⟨target, hlocate, hplace, hnode, hslash⟩ := existing_ok_iff.mp hfound
  obtain ⟨bits, hbits⟩ := h.file hnode
  refine read?_eq_some_iff.mpr ⟨place, bits, existing_ok_iff.mpr ⟨target, ?_, hplace, hbits, ?_⟩⟩
  · exact locate_mono h.home (fun _ => h.directory) hlocate
  · rw [slash_of_file hslash]
    exact fun hslash => absurd hslash Bool.false_ne_true

/-- A file is put where it was, with other permission bits, or where nothing was. -/
theorem retains_put (hfree : ¬ files.IsDirectory place) (mode : Nat) :
    Retains files (files.put place (.file ((files.contentAt? place).getD []) mode)) where
  home := rfl
  file {other content bits} hfile := by
    by_cases hother : other = place
    · subst hother
      have hcontent : files.contentAt? other = some content :=
        contentAt?_eq_some_iff.mpr ⟨bits, hfile⟩
      rw [hcontent]
      exact ⟨mode, node?_put_self _ _ _⟩
    · exact ⟨bits, (node?_put_ne hother files _).trans hfile⟩
  directory hdirectory := (isDirectory_put_file hfree _ mode).mpr hdirectory

/-! ## What has changed -/

/-- Nothing has changed but at the place. -/
structure SameBut (place : Place) (files files' : Files) : Prop where
  home : files.home = files'.home
  node : ∀ {other}, other ≠ place → files'.node? other = files.node? other

@[refl] theorem SameBut.refl (place : Place) (files : Files) : SameBut place files files :=
  ⟨rfl, fun _ => rfl⟩

theorem SameBut.trans (h : SameBut place files files') (h' : SameBut place files' files'') :
    SameBut place files files'' :=
  ⟨h.home.trans h'.home, fun hother => (h'.node hother).trans (h.node hother)⟩

theorem Alike.sameBut (h : Alike files files') (place : Place) : SameBut place files files' :=
  ⟨h.home_eq.symm, fun _ => h.node?_eq _⟩

theorem sameBut_put (place : Place) (files : Files) (node : Node) :
    SameBut place files (files.put place node) :=
  ⟨rfl, fun hother => node?_put_ne hother files node⟩

/-! ## Files in place of others -/

theorem not_isDirectory_of_file (h : files.node? place = some (.file content bits)) :
    ¬ files.IsDirectory place := by
  rintro ⟨mode, hmode⟩
  rw [h] at hmode
  cases hmode

/-- A file that takes the place of another is found like it. -/
theorem existing_put_file (h : files.existing path = .ok (place, .file content bits))
    (content' : Bytes) (bits' : Nat) :
    (files.put place (.file content' bits')).existing path
      = .ok (place, .file content' bits') := by
  obtain ⟨target, hlocate, rfl, hnode, hslash⟩ := existing_ok_iff.mp h
  refine existing_ok_iff.mpr ⟨target, ?_, rfl, node?_put_self _ _ _, ?_⟩
  · refine locate_mono ?_ (fun other => ?_) hlocate
    · rfl
    · exact (isDirectory_put_file (not_isDirectory_of_file hnode) content' bits').mpr
  · rw [slash_of_file hslash]
    exact fun hslash => absurd hslash Bool.false_ne_true

end SealedLog.Files
