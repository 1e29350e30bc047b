import SealedLog.Proofs.SoftElement.Saving
import SealedLog.Sha256

/-!
# Saves that are cut short

A save goes through stages: the directory of the state file is made, the successor is opened, the
content is written into it byte by byte and stored for good. Only then the successor takes its
place. Wherever a save ends before this last step, the path still leads to the slots that were
there, or to nothing if nothing was there.

- `Stage.steps`: what a save has done when it has come to a stage.
- `Cut stage path content files files'`: what is there when it goes no further.
- `Loads hash path slots files`: the slots that are loaded from a path.
- `load_of_cut_save`: a save that is cut short leaves the old slots, a whole one the new ones.
- `lost_of_own_successor`, `not_kept_of_own_successor`: why this is not said of a path that is its
  own successor, such as `keys.tmp`, from the time it is opened.
- `not_absent_of_climbing`: a path with double dots can begin to lead somewhere.
-/

namespace SealedLog.StateFile

open Files

variable {files files' files'' : Files} {path : Path} {content : Bytes}

/-! ## Stages -/

/-- How far a replacement has come. -/
inductive Stage
  /-- The directory is made. -/
  | prepared
  /-- The successor is there and is empty. -/
  | opened
  /-- The first `count` bytes of the content are in the successor. -/
  | written (count : Nat)
  /-- The content is in the successor and stored for good. -/
  | synced
deriving Repr, DecidableEq

/-- The steps of a replacement up to a stage. -/
def Stage.steps (path : Path) (content : Bytes) : Stage → FileStep Unit
  | .prepared => prepare path
  | .opened => do
    prepare path
    let _ ← openForWriting (successor path) fileMode true
    pure ()
  | .written count => do
    prepare path
    let place ← openForWriting (successor path) fileMode true
    writeAll place (content.take count)
  | .synced => do
    prepare path
    let place ← openForWriting (successor path) fileMode true
    writeAll place content
    sync place

/-- Between the last stage and the end there is one step. -/
theorem replace_eq (path : Path) (content : Bytes) :
    replace path content
      = (Stage.synced.steps path content >>= fun _ => rename (successor path) path) := by
  simp only [replace, Stage.steps, bind_assoc]

/-- What is there when a replacement is cut short at a stage. Any of its steps may have met a
mishap, so this includes what is left when only some of the directories were made, or when the
step after the stage failed. -/
def Cut (stage : Stage) (path : Path) (content : Bytes) (files files' : Files) : Prop :=
  ∃ mishaps, Alike (stage.steps path content { files with mishaps }).2 files'

theorem Begun.alike (hbegun : Begun path files files') (halike : Alike files' files'') :
    Begun path files files'' := by
  cases hbegun with
  | prepared hmade => exact .prepared (hmade.trans halike)
  | beside hleads hfree hput => exact .beside hleads hfree (hput.trans halike)

/-- What is done with the successor alone does not end a replacement. -/
theorem begun_of_opening (rest : Place → FileStep Unit) {result : Except SystemError Unit}
    (h : (do prepare path; let place ← openForWriting (successor path) fileMode true; rest place
      : FileStep Unit) files = (result, files'))
    (hrest : ∀ {made opened : Files} {place : Place} {bits : Nat},
      Alike (made.put place (.file [] bits)) opened →
        ∃ part, Alike (made.put place (.file part bits)) (rest place opened).2) :
    Begun path files files' := by
  rcases opening_cases rest h with
    ⟨-, halike⟩ | ⟨directory, opened, hleads, hfree, hopened, hresult⟩
  · exact .prepared halike
  · obtain ⟨part, hpart⟩ := hrest hopened
    rw [hresult] at hpart
    exact .beside hleads hfree hpart

/-- No stage is the end of a replacement. -/
theorem begun_steps (stage : Stage) (path : Path) (content : Bytes) (files : Files) :
    Begun path files (stage.steps path content files).2 := by
  cases stage with
  | prepared => exact .prepared (.refl _)
  | opened => exact begun_of_opening (fun _ => pure ()) rfl fun hopened => ⟨[], hopened⟩
  | written count =>
    refine begun_of_opening (fun place => writeAll place (content.take count)) rfl
      fun hopened => ?_
    obtain ⟨part, hwritten, -⟩ := writeAll_alike hopened (content.take count)
    exact ⟨part, hwritten⟩
  | synced =>
    refine begun_of_opening (fun place => do writeAll place content; sync place) rfl
      fun {made opened place bits} hopened => ?_
    obtain ⟨part, hwritten, -⟩ := writeAll_alike hopened content
    refine ⟨part, hwritten.trans ?_⟩
    cases hwrite : writeAll place content opened with
    | mk answer written =>
      cases answer with
      | error error => rw [bind_of_error _ hwrite]
      | ok _ =>
        rw [bind_of_ok _ hwrite]
        exact sync_alike place written

/-- A replacement that fails is cut short. -/
theorem cut_of_failed_replace {error : SystemError}
    (h : replace path content files = (.error error, files')) :
    ∃ stage, Cut stage path content files files' := by
  rw [replace_eq] at h
  refine ⟨.synced, files.mishaps, ?_⟩
  cases hsteps : Stage.synced.steps path content files with
  | mk answer made =>
    cases answer with
    | error =>
      rw [bind_of_error _ hsteps] at h
      obtain ⟨-, rfl⟩ := Prod.mk.inj h
      exact .refl made
    | ok _ =>
      rw [bind_of_ok _ hsteps] at h
      rcases rename_cases (successor path) path made with
        ⟨_, hrename⟩ | ⟨_, _, _, _, -, -, ⟨-, hrename⟩ | ⟨-, -, hrename⟩⟩
      · rw [hrename] at h
        obtain ⟨-, rfl⟩ := Prod.mk.inj h
        exact alike_later made
      all_goals
        rw [hrename] at h
        obtain ⟨herror, -⟩ := Prod.mk.inj h
        cases herror

/-! ## What is still there -/

/-- A replacement that is cut short leaves the file that was there, unless the successor is that
file and was opened. -/
theorem Cut.read? {stage : Stage} (hcut : Cut stage path content files files')
    (hne : successor path ≠ path ∨ stage = .prepared) {old : Bytes}
    (hread : files.read? path = some old) : files'.read? path = some old := by
  obtain ⟨mishaps, halike⟩ := hcut
  have hread' : ({ files with mishaps } : Files).read? path = some old :=
    (Alike.read?_eq ⟨mishaps, rfl⟩ path).trans hread
  rcases hne with hne | rfl
  · exact ((begun_steps stage path content _).alike halike).read? hne hread'
  · exact (halike.read?_eq path).trans ((prepare_grows path _).read? hread')

/-- A replacement that is cut short leaves a vacant path vacant, unless the successor is the path
and was opened. -/
theorem Cut.vacant {stage : Stage} (hcut : Cut stage path content files files')
    (hne : successor path ≠ path ∨ stage = .prepared) (hvacant : Vacant path files) :
    Vacant path files' := by
  obtain ⟨mishaps, halike⟩ := hcut
  have hvacant' : Vacant path { files with mishaps } := hvacant.prepared (.done ⟨mishaps, rfl⟩)
  rcases hne with hne | rfl
  · exact ((begun_steps stage path content _).alike halike).vacant hne hvacant'
  · exact hvacant'.prepared (.again (.done (.refl _)) halike)

/-- The slots that are loaded from a path if nothing goes wrong then. -/
def Loads (hash : Bytes → Bytes) (path : Path) (slots : Slots) (files : Files) : Prop :=
  (load hash path { files with mishaps := [] }).1 = .ok slots

theorem loads_iff {hash : Bytes → Bytes} {slots : Slots} :
    Loads hash path slots files ↔
      ∃ content, files.read? path = some content ∧ decode hash path content = .ok slots := by
  have hread_eq : ({ files with mishaps := [] } : Files).read? path = files.read? path :=
    Alike.read?_eq ⟨[], rfl⟩ path
  constructor
  · intro h
    obtain ⟨content, hread, hdecode, -⟩ := read?_of_load (Prod.ext h rfl)
    exact ⟨content, hread_eq.symm.trans hread, hdecode⟩
  · rintro ⟨content, hread, hdecode⟩
    rw [Loads, load_of_read? (hread_eq.trans hread) rfl]
    exact hdecode

/-- A save that fails is cut short. One that is cut short, at whatever stage, leaves the slots
that were loaded before, or nothing where nothing was, whichever directories it has made. One that
is not leaves the new slots. Only a path that is its own successor has its slots at risk, from the
time it is opened. -/
theorem load_of_cut_save (hash : Bytes → Bytes) (path : Path) (slots : Slots)
    (files files' : Files) :
    (∀ error, save hash path slots files = (.error error, files') →
      ∃ stage, Cut stage path (encode hash slots) files files') ∧
    (∀ stage, Cut stage path (encode hash slots) files files' →
      successor path ≠ path ∨ stage = .prepared →
      (∀ old, Loads hash path old files → Loads hash path old files') ∧
      (Vacant path files → ∀ found, files'.existing path ≠ .ok found)) ∧
    (save hash path slots files = (.ok (), files') →
      ∃ found, Loads hash path found files' ∧ found.Same slots) := by
  refine ⟨fun error h => cut_of_failed_replace h, fun stage hcut hne => ⟨fun old hold => ?_, ?_⟩,
    fun h => ?_⟩
  · obtain ⟨content, hread, hdecode⟩ := loads_iff.mp hold
    exact loads_iff.mpr ⟨content, hcut.read? hne hread, hdecode⟩
  · exact fun hvacant => hcut.vacant hne hvacant _ (.done (.refl files'))
  · obtain ⟨found, hdecode, hsame⟩ := decode_encode hash path slots
    exact ⟨found, loads_iff.mpr ⟨_, read?_of_replace h, hdecode⟩, hsame⟩

/-- The third byte of the new content is the last that can be written: the old slots are there,
and the three bytes beside them. -/
theorem load_of_save_without_space :
    ∃ old files', save id ⟨"/slots.json"⟩ (Slots.empty.insert 7 ⟨[1, 255], some [0, 128]⟩)
        { nodes := [(["slots.json".toList],
            .file (encode id (Slots.empty.insert 7 ⟨[9], none⟩)) 0o600)]
          mishaps := [none, none, some ⟨3, .reported "no space"⟩] }
          = (.error (.reported "no space"), files') ∧
      (files'.read? ⟨"/slots.tmp"⟩).map List.length = some 3 ∧
      Loads id ⟨"/slots.json"⟩ old files' ∧ old.Same (Slots.empty.insert 7 ⟨[9], none⟩) := by
  obtain ⟨old, hdecode, hsame⟩ :=
    decode_encode id ⟨"/slots.json"⟩ (Slots.empty.insert 7 ⟨[9], none⟩)
  have hsave : (save id ⟨"/slots.json"⟩ (Slots.empty.insert 7 ⟨[1, 255], some [0, 128]⟩)
      { nodes := [(["slots.json".toList],
          .file (encode id (Slots.empty.insert 7 ⟨[9], none⟩)) 0o600)]
        mishaps := [none, none, some ⟨3, .reported "no space"⟩] }).1
        = .error (.reported "no space") := by
    decide +kernel
  refine ⟨old, _, Prod.ext hsave rfl, by decide +kernel, ?_, hsame⟩
  have hold := load_of_cut_save id ⟨"/slots.json"⟩
    (Slots.empty.insert 7 ⟨[1, 255], some [0, 128]⟩)
  obtain ⟨stage, hcut⟩ := (hold _ _).1 _ (Prod.ext hsave rfl)
  exact ((hold _ _).2.1 stage hcut (.inl (by decide +kernel))).1 old
    (loads_iff.mpr ⟨_, by decide +kernel, hdecode⟩)

/-- A path that is its own successor loses its slots as soon as it is opened: what is opened to be
written is the state file itself, and it is emptied. -/
theorem lost_of_own_successor (hash : Bytes → Bytes) (hown : successor path = path)
    (h : Stage.opened.steps path content files = (.ok (), files')) (slots : Slots) :
    ¬ Loads hash path slots files' := by
  rcases opening_cases (fun _ => pure ()) h with
    ⟨⟨error, herror⟩, -⟩ | ⟨directory, opened, hleads, hfree, hopened, hrest⟩
  · cases herror
  · obtain ⟨-, rfl⟩ := Prod.mk.inj hrest
    rw [hown] at hleads hfree hopened
    have hread : opened.read? path = some [] := by
      rw [hopened.read?_eq]
      exact (hleads.put_file hfree [] _).read?_eq (node?_put_self _ _ _)
    intro hloads
    obtain ⟨content, hcontent, hdecode⟩ := loads_iff.mp hloads
    obtain rfl := Option.some.inj (hread.symm.trans hcontent)
    cases hdecode

/-- So a save that is cut short at that stage does not leave the slots of `/keys.tmp`. -/
theorem not_kept_of_own_successor :
    ¬ ∀ (path : Path) (content : Bytes) (old : Slots) (files files' : Files),
      Loads Sha256.digest path old files → Cut .opened path content files files' →
      Loads Sha256.digest path old files' := by
  intro hkept
  let slots : Slots := Slots.empty.insert 0xE200 ⟨[32], some (.replicate 32 7)⟩
  let files : Files :=
    { nodes := [(["keys.tmp".toList], .file (encode Sha256.digest slots) 0o600)] }
  obtain ⟨old, hdecode, -⟩ := decode_encode Sha256.digest ⟨"/keys.tmp"⟩ slots
  have hloads : Loads Sha256.digest ⟨"/keys.tmp"⟩ old files :=
    loads_iff.mpr ⟨_, by decide +kernel, hdecode⟩
  have hopened : (Stage.opened.steps ⟨"/keys.tmp"⟩ [] files).1 = .ok () := by decide +kernel
  have hlost := lost_of_own_successor Sha256.digest (by decide +kernel) (Prod.ext hopened rfl) old
  exact hlost (hkept ⟨"/keys.tmp"⟩ [] old files _ hloads ⟨[], .refl _⟩)

/-- A path that leads to nothing need not be vacant. Making the directory of `/d/../state.json`
makes `/d`, and from then on the path leads to `/state.json`: the slots in it are loaded after a
save that failed, though nothing was there before. -/
theorem not_absent_of_climbing :
    ¬ ∀ (path : Path) (slots : Slots) (files files' : Files) (error : SystemError),
      successor path ≠ path → (∀ found, files.existing path ≠ .ok found) →
      save Sha256.digest path slots files = (.error error, files') →
      ∀ found, ¬ Loads Sha256.digest path found files' := by
  intro habsent
  let slots : Slots := Slots.empty.insert 0xE200 ⟨[32], none⟩
  let other : Slots := Slots.empty.insert 0xE200 ⟨[7], none⟩
  let files : Files :=
    { nodes := [(["state.json".toList], .file (encode Sha256.digest other) 0o600),
        (["state.tmp".toList], .directory 0o755)] }
  obtain ⟨found, hdecode, -⟩ := decode_encode Sha256.digest ⟨"/d/../state.json"⟩ other
  have hnone : files.existing ⟨"/d/../state.json"⟩ = .error .notFound := by decide +kernel
  -- A directory is in the way of the successor.
  have hsave : (save Sha256.digest ⟨"/d/../state.json"⟩ slots files).1 = .error .isADirectory := by
    decide +kernel
  refine habsent ⟨"/d/../state.json"⟩ slots files _ .isADirectory (by decide +kernel)
    (fun found h => by rw [hnone] at h; cases h) (Prod.ext hsave rfl) found
    (loads_iff.mpr ⟨_, ?_, hdecode⟩)
  decide +kernel

end SealedLog.StateFile
