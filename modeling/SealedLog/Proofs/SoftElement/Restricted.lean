import SealedLog.Proofs.Files.Calm
import SealedLog.Proofs.SoftElement.Run
import SealedLog.Proofs.SoftElement.Saving

/-!
# Who can read the keys

A state file holds keys. Its successor is created for its owner alone, but it is created only where
there is no file of its name. A file that was left there keeps its permission bits, and takes them
along when it becomes the state file. So it matters who puts a file there: the element itself leaves
none behind that others can read.

- `OwnerOnly mode`: the permission bits of a file for its owner alone.
- `mode_of_save`: the permission bits of a state file that was saved.
- `not_ownerOnly_of_leftover`: a file that was left beside it opens it to others.
- `Guarded path files`: no file that others can read is at the path or in the place of its
  successor.
- `guarded_of_replace`: replacing the state file leaves it so, wherever it stops.
- `confined_of_run`: so do all runs of an element.
-/

namespace SealedLog.StateFile

open Files

variable {files files' : Files} {path : Path}

/-! ## Permission bits -/

/-- The owner, and nobody else, may read and write. -/
def OwnerOnly (mode : Nat) : Prop := mode % 0o1000 = 0o600

theorem ownerOnly_fileMode : OwnerOnly fileMode := rfl

/-- No bit of a new state file is masked unless the owner's bits are. -/
theorem masked_fileMode {umask : Nat} (h : umask &&& 0o700 = 0) :
    masked umask fileMode = fileMode := by
  have hnone : fileMode &&& umask = 0 := by
    calc fileMode &&& umask = 0o600 &&& 0o700 &&& umask := rfl
      _ = 0o600 &&& (umask &&& 0o700) := by rw [Nat.and_assoc, Nat.and_comm 0o700]
      _ = 0 := by rw [h, Nat.and_zero]
  rw [masked, hnone, Nat.sub_zero]

/-- Slots are saved, and the owner's bits are not masked. Then the state file has the permission
bits of the file that was found in the place of its successor, or those it is created with if none
was. They are the owner's alone if they were. -/
theorem mode_of_save {hash : Bytes → Bytes} {slots : Slots} (hmask : files.umask &&& 0o700 = 0)
    (hsave : save hash path slots files = (.ok (), files')) :
    let found := (prepare path files).2.mode? (successor path)
    ∃ mode, files'.mode? path = some mode ∧ mode = found.getD fileMode ∧
      (OwnerOnly mode ↔ ∀ left, found = some left → OwnerOnly left) := by
  intro found
  obtain ⟨place, hthere⟩ := existing_of_replace hsave
  refine ⟨successorMode path files, ?_, ?_, ?_⟩
  · rw [mode?, hthere]
  · rw [successorMode, masked_fileMode hmask]
  · rw [successorMode, masked_fileMode hmask, show (prepare path files).2.mode? _ = found from rfl]
    cases found with
    | none => simp [ownerOnly_fileMode]
    | some left => simp

/-- Where nothing is in the way, a state file is created for its owner alone. -/
theorem mode_of_first_save :
    ({} : Files).umask &&& 0o700 = 0 ∧
      ∃ files', save id ⟨"/keys/slots.json"⟩ (Slots.empty.insert 7 ⟨[1, 255], some [0, 128]⟩) {}
          = (.ok (), files') ∧
        ∃ mode, files'.mode? ⟨"/keys/slots.json"⟩ = some mode ∧ OwnerOnly mode := by
  have hmask : ({} : Files).umask &&& 0o700 = 0 := by decide
  have hsave : (save id ⟨"/keys/slots.json"⟩
      (Slots.empty.insert 7 ⟨[1, 255], some [0, 128]⟩) {}).1 = .ok () := by
    decide +kernel
  refine ⟨hmask, _, Prod.ext hsave rfl, ?_⟩
  obtain ⟨mode, hmode, -, howner⟩ := mode_of_save hmask (Prod.ext hsave rfl)
  refine ⟨mode, hmode, howner.mpr ?_⟩
  intro left hleft
  have hnone : (prepare ⟨"/keys/slots.json"⟩ {}).2.mode? (successor ⟨"/keys/slots.json"⟩)
      = none := by
    decide +kernel
  rw [hnone] at hleft
  cases hleft

/-- An empty file that everyone can read was left beside the state file. It becomes the state file,
and everyone can read the key in it. -/
theorem not_ownerOnly_of_leftover :
    ¬ ∀ (path : Path) (slots : Slots) (files files' : Files), files.umask &&& 0o700 = 0 →
      save Sha256.digest path slots files = (.ok (), files') →
      ∃ mode, files'.mode? path = some mode ∧ OwnerOnly mode := by
  intro hrestricted
  let slots : Slots := Slots.empty.insert 0xE200 ⟨[32], some [0, 128]⟩
  let files : Files := { nodes := [(["slots.tmp".toList], .file [] 0o644)] }
  have hsave : (save Sha256.digest ⟨"/slots.json"⟩ slots files).1 = .ok () := by decide +kernel
  have hopen : (save Sha256.digest ⟨"/slots.json"⟩ slots files).2.mode? ⟨"/slots.json"⟩
      = some 0o644 := by
    decide +kernel
  obtain ⟨mode, hmode, howner⟩ :=
    hrestricted ⟨"/slots.json"⟩ slots files _ (by decide) (Prod.ext hsave rfl)
  obtain rfl := Option.some.inj (hopen.symm.trans hmode)
  cases howner

/-! ## Files for their owner alone -/

/-- If the path leads to a file, that is for its owner alone. -/
def Confined (path : Path) (files : Files) : Prop :=
  ∀ place content mode, files.existing path = .ok (place, .file content mode) → OwnerOnly mode

namespace Confined

theorem alike (h : Confined path files) (halike : Alike files files') : Confined path files' := by
  intro place content mode hthere
  rw [halike.existing_eq] at hthere
  exact h place content mode hthere

/-- Another file for its owner alone is no matter. -/
theorem put (h : Confined path files) {place : Place} (hfree : ¬ files.IsDirectory place)
    (content : Bytes) {bits : Nat} (hbits : OwnerOnly bits) :
    Confined path (files.put place (.file content bits)) := by
  intro found stored mode hthere
  obtain ⟨target, hlocate, rfl, hnode, hslash⟩ := existing_ok_iff.mp hthere
  by_cases hplace : target.place = place
  · rw [hplace, node?_put_self] at hnode
    cases hnode
    exact hbits
  · rw [node?_put_ne hplace] at hnode
    have hbefore : files.locate path = .ok target := by
      refine locate_mono ?_ (fun other => ?_) hlocate
      · rfl
      · exact (isDirectory_put_file hfree content bits).mp
    exact h _ stored mode (existing_ok_iff.mpr ⟨target, hbefore, rfl, hnode, hslash⟩)

/-- So is one that is taken away. -/
theorem remove (h : Confined path files) {place : Place} (hne : place ≠ []) :
    Confined path (files.remove place) := by
  intro found content mode hthere
  exact h found content mode ((grows_remove hne files).existing hthere)

end Confined

/-! ## Replacing without loosening -/

/-- The owner's bits are not masked; and neither the path nor its successor leads to a file for
others, whichever directories are made. -/
structure Guarded (path : Path) (files : Files) : Prop where
  mask : files.umask &&& 0o700 = 0
  confined : ∀ made, Prepared path files made →
    Confined path made ∧ Confined (successor path) made

namespace Guarded

theorem prepared (h : Guarded path files) (hprepared : Prepared path files files') :
    Guarded path files' := by
  constructor
  · rw [hprepared.umask_eq]
    exact h.mask
  · intro made hmade
    exact h.confined made (hprepared.trans hmade)

/-- Where the successor leads somewhere, no more directories are made. -/
theorem of_leads {directory : Place} (hleads : Leads files (successor path) directory)
    (hmask : files.umask &&& 0o700 = 0) (hpath : Confined path files)
    (hsuccessor : Confined (successor path) files) : Guarded path files := by
  constructor
  · exact hmask
  · intro made hmade
    have halike := hmade.alike_of_leads hleads
    exact ⟨hpath.alike halike, hsuccessor.alike halike⟩

/-- The successor is for its owner alone. -/
theorem ownerOnly_successorMode (h : Guarded path files) {directory : Place}
    (hleads : Leads (prepare path files).2 (successor path) directory)
    (hfree : ¬ (prepare path files).2.IsDirectory (directory ++ [(successor path).lastPiece])) :
    OwnerOnly (successorMode path files) := by
  obtain ⟨-, hconfined⟩ := h.confined _ (.again (.done (.refl files)) (.refl _))
  rw [successorMode, masked_fileMode h.mask, hleads.mode?_eq, modeAt?]
  cases hnode : (prepare path files).2.node? (directory ++ [(successor path).lastPiece]) with
  | none => exact ownerOnly_fileMode
  | some node =>
    cases node with
    | file content mode => exact hconfined _ content mode (hleads.existing_eq hnode)
    | directory mode => exact absurd ⟨mode, hnode⟩ hfree

/-- The successor is put in its place. -/
theorem put (h : Guarded path files) {directory : Place}
    (hleads : Leads files (successor path) directory)
    (hfree : ¬ files.IsDirectory (directory ++ [(successor path).lastPiece])) (content : Bytes)
    {bits : Nat} (hbits : OwnerOnly bits) :
    Guarded path (files.put (directory ++ [(successor path).lastPiece]) (.file content bits)) := by
  obtain ⟨hpath, hsuccessor⟩ := h.confined files (.done (.refl files))
  exact of_leads (hleads.put_file hfree content bits) h.mask (hpath.put hfree content hbits)
    (hsuccessor.put hfree content hbits)

/-- The successor is moved to the path. -/
theorem rename (h : Guarded path files) {directory : Place} {content : Bytes} {bits : Nat}
    (hleads : Leads files (successor path) directory)
    (hnode : files.node? (directory ++ [(successor path).lastPiece])
      = some (.file content bits))
    (hrename : Files.rename (successor path) path files = (.ok (), files')) :
    Guarded path files' := by
  obtain ⟨hpath, hsuccessor⟩ := h.confined files (.done (.refl files))
  rcases rename_cases (successor path) path files with
    ⟨error, herror⟩ | ⟨place, moved, mode, target, hthere, -, hmoved⟩
  · rw [herror] at hrename
    cases hrename
  · have hmode := hsuccessor place moved mode hthere
    rw [hleads.existing_eq hnode] at hthere
    obtain ⟨rfl, -⟩ := Prod.mk.inj (Except.ok.inj hthere)
    rcases hmoved with ⟨-, hmoved⟩ | ⟨-, htarget, hmoved⟩
    · rw [hmoved] at hrename
      obtain ⟨-, rfl⟩ := Prod.mk.inj hrename
      exact h.prepared (.done (alike_later files))
    · rw [hmoved] at hrename
      obtain ⟨-, rfl⟩ := Prod.mk.inj hrename
      have hfile : ¬ files.IsDirectory (directory ++ [(successor path).lastPiece]) := by
        rintro ⟨bits', hdirectory⟩
        rw [hnode] at hdirectory
        cases hdirectory
      have hne : directory ++ [(successor path).lastPiece] ≠ [] :=
        List.append_ne_nil_of_right_ne_nil directory (List.cons_ne_nil _ _)
      have hgone : ¬ (files.remove (directory ++ [(successor path).lastPiece])).IsDirectory
          target := by
        intro hdirectory
        exact htarget ((grows_remove hne files).isDirectory hdirectory)
      have hleft := of_leads ((hleads.vanish hfile).put_file hgone moved mode) h.mask
        ((hpath.remove hne).put hgone moved hmode) ((hsuccessor.remove hne).put hgone moved hmode)
      exact hleft.prepared (.done (((alike_later files).remove _).put _ _))

end Guarded

/-- Replacing a state file opens it to nobody, wherever it stops. -/
theorem guarded_of_replace {content : Bytes} {result : Except SystemError Unit}
    (hguarded : Guarded path files) (h : replace path content files = (result, files')) :
    Guarded path files' := by
  have hmade : Guarded path (prepare path files).2 :=
    hguarded.prepared (.again (.done (.refl files)) (.refl _))
  rcases replace_cases h with
    ⟨-, hbegun⟩ | ⟨-, directory, written, hleads, hfree, hwritten, hrename⟩
  · cases hbegun with
    | prepared halike => exact hmade.prepared (.done halike)
    | @beside directory part _ hleads hfree halike =>
      have hbits := hguarded.ownerOnly_successorMode hleads hfree
      exact (hmade.put hleads hfree part hbits).prepared (.done halike)
  · have hbits := hguarded.ownerOnly_successorMode hleads hfree
    have hput := (hmade.put hleads hfree content hbits).prepared (.done hwritten)
    have hnode : written.node? (directory ++ [(successor path).lastPiece])
        = some (.file content (successorMode path files)) := by
      rw [hwritten.node?_eq, node?_put_self]
    exact hput.rename (hwritten.grows.leads (hleads.put_file hfree content _)) hnode hrename

end SealedLog.StateFile

namespace SealedLog.SoftElement

open Files StateFile

variable {path : Path}

theorem guarded_commit :
    KeptByCommit fun _ stateFile files => stateFile = some path ∧ Guarded path files := by
  intro element id entry files _ h
  obtain ⟨hstateFile, hguarded⟩ := h
  rw [commit, hstateFile]
  dsimp only
  split
  · rename_i made heq
    exact ⟨rfl, guarded_of_replace hguarded heq⟩
  · rename_i error made heq
    exact ⟨hstateFile, guarded_of_replace hguarded heq⟩

/-- While nobody else puts files for others there, the state file of an element is for its owner
alone, whatever commands and faults come, and whatever goes wrong when the slots are stored. -/
theorem confined_of_run {first last : Situation} (hpath : first.element.stateFile = some path)
    (hguarded : Guarded path first.files)
    (hrun : Run (fun files files' => Guarded path files → Guarded path files') first last) :
    Confined path last.files := by
  have hlast := run_keeps guarded_commit
    (fun {_ _ files files'} houtside h => ⟨h.1, houtside h.2⟩) hrun ⟨hpath, hguarded⟩
  exact (hlast.2.confined last.files (.done (.refl _))).1

end SealedLog.SoftElement
