import SealedLog.Proofs.SoftElement.Run
import SealedLog.Proofs.SoftElement.Saving

/-!
# Opening a state file again

The slots of an element and its state file stay in step: every change is stored before it counts.
So an element that is opened on the same path later has the same slots, whatever commands and
faults came in between, and whatever went wrong when the slots were stored.

- `Kept path slots files`: the path leads to a file with these slots, or there are none and it is
  vacant.
- `kept_commit`: a change of a slot is stored, or it is not made.
- `reopened_of_run`: the slots of an element are those of one opened on its path after a run.
-/

namespace SealedLog.SoftElement

open Files StateFile

variable {path : Path} {slots slots' : Slots} {files files' : Files}

/-- The path leads to a file with these slots; or no slot was written, and the path stays vacant
whichever directories above it are made. -/
def Kept (path : Path) (slots : Slots) (files : Files) : Prop :=
  (∃ content found, files.read? path = some content ∧
    decode Sha256.digest path content = .ok found ∧ found.Same slots) ∨
  slots.Same .empty ∧ Vacant path files

theorem Kept.alike (h : Kept path slots files) (halike : Alike files files') :
    Kept path slots files' := by
  rcases h with ⟨content, found, hread, hdecode, hsame⟩ | ⟨hempty, hvacant⟩
  · exact .inl ⟨content, found, (halike.read?_eq path).trans hread, hdecode, hsame⟩
  · exact .inr ⟨hempty, hvacant.prepared (.done halike)⟩

/-- Slots that were saved are kept. -/
theorem kept_of_save (h : save Sha256.digest path slots files = (.ok (), files')) :
    Kept path slots files' := by
  obtain ⟨found, hdecode, hsame⟩ := decode_encode Sha256.digest path slots
  exact .inl ⟨encode Sha256.digest slots, found, read?_of_replace h, hdecode, hsame⟩

/-- Slots that could not be saved leave those that are kept as they are. -/
theorem Kept.failed_save (hne : successor path ≠ path) {error : SystemError}
    (h : save Sha256.digest path slots' files = (.error error, files'))
    (hkept : Kept path slots files) : Kept path slots files' := by
  rcases hkept with ⟨content, found, hread, hdecode, hsame⟩ | ⟨hempty, hvacant⟩
  · exact .inl ⟨content, found, read?_of_failed_replace hne h hread, hdecode, hsame⟩
  · exact .inr ⟨hempty, vacant_of_failed_replace hne h hvacant⟩

/-- A change of a slot is stored, or it is not made. -/
theorem kept_commit (hne : successor path ≠ path) :
    KeptByCommit fun slots stateFile files => stateFile = some path ∧ Kept path slots files := by
  intro element id entry files _ h
  obtain ⟨hstateFile, hkept⟩ := h
  rw [commit, hstateFile]
  dsimp only
  split
  · rename_i made heq
    exact ⟨rfl, kept_of_save heq⟩
  · rename_i error made heq
    exact ⟨hstateFile, hkept.failed_save hne heq⟩

/-! ## Opening -/

/-- What opening an element on a path comes to. -/
theorem start_eq (generator : Generator) (latency : Span) (path : Path) (world : World) :
    start generator latency (some path) world =
      match world.files.existing path with
      | .error _ =>
        .ok (.ok { generator, latency, handover := world.handover, stateFile := some path }, world)
      | .ok _ =>
        match load Sha256.digest path world.files with
        | (.error error, files) => .ok (.error error, { world with files })
        | (.ok slots, files) =>
          .ok (.ok
              { generator, latency, handover := world.handover, stateFile := some path, slots },
            { world with
              files
              notices := ⟨.info, "secure element state loaded",
                [("path", path.text), ("slots", toString slots.size)], .element⟩
                :: world.notices }) := by
  cases hexisting : world.files.existing path with
  | error error =>
    have hpresent : present path world.files = (.ok false, world.files) := by
      rw [present, hexisting]
    simp only [start, Scene.world, bind, StateT.bind, get, getThe, MonadStateOf.get, StateT.get,
      pure, Except.pure, Except.bind, hpresent]
    rfl
  | ok found =>
    have hpresent : present path world.files = (.ok true, world.files) := by
      rw [present, hexisting]
    simp only [start, Scene.world, bind, StateT.bind, get, getThe, MonadStateOf.get, StateT.get,
      pure, Except.pure, Except.bind, hpresent]
    cases load Sha256.digest path world.files with
    | mk loaded files =>
      cases loaded <;> rfl

/-- An element that was opened has the slots that are kept. -/
theorem kept_of_start {generator : Generator} {latency : Span} {world after : World}
    {element : SoftElement}
    (hstart : start generator latency (some path) world = .ok (.ok element, after))
    (hpath : (∃ found, world.files.existing path = .ok found) ∨ Vacant path world.files) :
    element.stateFile = some path ∧ Kept path element.slots after.files := by
  rw [start_eq] at hstart
  split at hstart
  · rename_i error hnone
    obtain ⟨helement, rfl⟩ := Prod.mk.inj (Except.ok.inj hstart)
    obtain rfl := Except.ok.inj helement
    rcases hpath with ⟨found, hfound⟩ | hvacant
    · rw [hnone] at hfound
      cases hfound
    · exact ⟨rfl, .inr ⟨.refl _, hvacant⟩⟩
  · split at hstart
    · obtain ⟨helement, -⟩ := Prod.mk.inj (Except.ok.inj hstart)
      cases helement
    · rename_i slots made hload
      obtain ⟨helement, rfl⟩ := Prod.mk.inj (Except.ok.inj hstart)
      obtain rfl := Except.ok.inj helement
      obtain ⟨content, hread, hdecode, halike⟩ := read?_of_load hload
      exact ⟨rfl, .inl ⟨content, slots, (halike.read?_eq path).trans hread, hdecode, .refl slots⟩⟩

/-- An element is opened with the slots that are kept, unless a mishap is due. -/
theorem start_of_kept (generator : Generator) (latency : Span) {world : World}
    (hkept : Kept path slots world.files) (hdue : world.files.mishaps.head?.join = none) :
    ∃ element after, start generator latency (some path) world = .ok (.ok element, after) ∧
      element.slots.Same slots := by
  rw [start_eq]
  rcases hkept with ⟨content, found, hread, hdecode, hsame⟩ | ⟨hempty, hvacant⟩
  · obtain ⟨place, mode, hexisting⟩ := read?_eq_some_iff.mp hread
    rw [hexisting, load_of_read? hread hdue, hdecode]
    exact ⟨_, _, rfl, hsame⟩
  · cases hexisting : world.files.existing path with
    | error error => exact ⟨_, _, rfl, hempty.symm⟩
    | ok found => exact absurd hexisting (hvacant _ (.done (.refl _)) found)

/-! ## Answers -/

/-- The commands that only look at the slots. -/
def Looks : Command → Prop
  | .readMetadata _ | .encrypt _ _ _ _ => True
  | _ => False

/-- Elements with the same slots answer such commands alike, and stay as they are. -/
theorem execute_looks {element element' : SoftElement} (h : element.slots.Same element'.slots)
    {command : Command} (hlooks : Looks command) :
    ∃ outcome, (∀ files, element.execute command files = ⟨outcome, element, files, []⟩) ∧
      ∀ files, element'.execute command files = ⟨outcome, element', files, []⟩ := by
  cases command with
  | readMetadata slot =>
    refine ⟨.ok (.metadata (element'.slots.metadata slot)), fun files => ?_, fun files => rfl⟩
    rw [execute, h.metadata_eq]
  | encrypt slot mode plaintext iv =>
    cases mode
    simp only [execute, h.key?_eq]
    cases element'.slots.key? slot with
    | none => exact ⟨_, fun _ => rfl, fun _ => rfl⟩
    | some key =>
      by_cases hempty : plaintext = []
      · simp only [hempty, if_true]
        exact ⟨_, fun _ => rfl, fun _ => rfl⟩
      · simp only [if_neg hempty]
        cases Cbc.encryptAes key iv plaintext with
        | none => exact ⟨_, fun _ => rfl, fun _ => rfl⟩
        | some ciphertext => exact ⟨_, fun _ => rfl, fun _ => rfl⟩
  | generateRandom | writeMetadata | generateSymmetricKey => cases hlooks

/-- After any run of an element that was opened on a path, opening the path again succeeds and
gives the slots that the element has, so that both give the same answers. The path is not its own
successor; it leads to something when it is opened first, or it is vacant. -/
theorem reopened_of_run (generator generator' : Generator) (latency latency' : Span) (path : Path)
    (world opened now : World) (first element : SoftElement) (files : Files) (issued : Nat)
    (hne : successor path ≠ path)
    (hpath : (∃ found, world.files.existing path = .ok found) ∨ Vacant path world.files)
    (hstart : start generator latency (some path) world = .ok (.ok first, opened))
    (hrun : Run Alike ⟨first, opened.files, 0⟩ ⟨element, files, issued⟩)
    (hnow : Alike files now.files) (hdue : now.files.mishaps.head?.join = none) :
    ∃ reopened after, start generator' latency' (some path) now = .ok (.ok reopened, after) ∧
      reopened.slots.Same element.slots ∧
      ∀ command, Looks command → ∃ outcome,
        (∀ files, reopened.execute command files = ⟨outcome, reopened, files, []⟩) ∧
        ∀ files, element.execute command files = ⟨outcome, element, files, []⟩ := by
  have hlast := run_keeps (kept_commit hne)
    (fun halike h => ⟨h.1, h.2.alike halike⟩) hrun (kept_of_start hstart hpath)
  obtain ⟨reopened, after, hreopened, hsame⟩ :=
    start_of_kept generator' latency' (hlast.2.alike hnow) hdue
  exact ⟨reopened, after, hreopened, hsame, fun command => execute_looks hsame⟩

/-- A slot is written and stored, then a key is made for it and cannot be stored: the element that
is opened afterwards has the slot without the key, as the first one has. -/
theorem reopened_after_failed_save :
    ∃ first opened last, start (.stepping 0 1) ⟨0⟩ (some ⟨"/keys/slots.json"⟩) {}
        = .ok (.ok first, opened) ∧
      Run Alike ⟨first, opened.files, 0⟩ last ∧
      last.element.slots.metadata 5 = [32] ∧ last.element.slots.hasKey 5 = false ∧
      ∃ reopened after, start (.stepping 7 1) ⟨0⟩ (some ⟨"/keys/slots.json"⟩)
          { files := { last.files with mishaps := [] } } = .ok (.ok reopened, after) ∧
        reopened.slots.Same last.element.slots ∧
        ∀ command, Looks command → ∃ outcome,
          (∀ files, reopened.execute command files = ⟨outcome, reopened, files, []⟩) ∧
          ∀ files, last.element.execute command files = ⟨outcome, last.element, files, []⟩ := by
  let first : SoftElement :=
    { generator := .stepping 0 1
      stateFile := some ⟨"/keys/slots.json"⟩ }
  have hstart : start (.stepping 0 1) ⟨0⟩ (some ⟨"/keys/slots.json"⟩) {} = .ok (.ok first, {}) := by
    have hnone : ({} : Files).existing ⟨"/keys/slots.json"⟩ = .error .notFound := by
      decide +kernel
    rw [start_eq, hnone]
  have hvacant : Vacant ⟨"/keys/slots.json"⟩ {} :=
    vacant_of_down (show Path.fileName _ = some "slots.json".toList by decide +kernel)
      (by decide +kernel) (by decide +kernel)
  -- The mishap meets the opening of the successor.
  have hrun : Run Alike ⟨first, {}, 0⟩ _ := .tail (.tail (.tail (.tail (.tail .refl
    (.submit (.writeMetadata 5 [32])))
    (.work none))
    (.submit (.generateSymmetricKey 5 .aes128 .encryption)))
    (.outside ⟨[none, some ⟨0, .reported "no space"⟩], rfl⟩))
    (.work none)
  refine ⟨_, _, _, hstart, hrun, by decide +kernel, by decide +kernel, ?_⟩
  exact reopened_of_run (.stepping 0 1) (.stepping 7 1) ⟨0⟩ ⟨0⟩ ⟨"/keys/slots.json"⟩ {} {} _ _ _ _ _
    (by decide +kernel) (.inr hvacant) hstart hrun ⟨[], rfl⟩ rfl

/-- A path that leads to nothing need not be vacant: making the directory of `/a/../a` makes the
directory `/a`. From then on no file can take its place, and it cannot be opened again. -/
theorem not_reopened_of_climbing :
    ¬ ∀ (path : Path) (world opened : World) (first : SoftElement) (last : Situation),
      successor path ≠ path → (∀ found, world.files.existing path ≠ .ok found) →
      start (.stepping 0 1) ⟨0⟩ (some path) world = .ok (.ok first, opened) →
      Run Alike ⟨first, opened.files, 0⟩ last →
      ∃ reopened after, start (.stepping 0 1) ⟨0⟩ (some path) { files := last.files }
        = .ok (.ok reopened, after) := by
  intro hreopens
  let first : SoftElement :=
    { generator := .stepping 0 1
      stateFile := some ⟨"/a/../a"⟩ }
  have hnone : ({} : Files).existing ⟨"/a/../a"⟩ = .error .notFound := by decide +kernel
  have hstart : start (.stepping 0 1) ⟨0⟩ (some ⟨"/a/../a"⟩) {} = .ok (.ok first, {}) := by
    rw [start_eq, hnone]
  have hrun : Run Alike ⟨first, {}, 0⟩ _ := .tail (.tail .refl
    (.submit (.writeMetadata 0 [32])))
    (.work none)
  obtain ⟨reopened, after, hreopened⟩ := hreopens ⟨"/a/../a"⟩ {} {} first _ (by decide +kernel)
    (fun found h => by rw [hnone] at h; cases h) hstart hrun
  -- The save makes `/a` and fails; from now on the path leads there.
  have hdirectory : (await none (first.react 0 (.writeMetadata 0 [32])).element {}).files.existing
      ⟨"/a/../a"⟩ = .ok ([['a']], .directory 0o755) := by
    decide +kernel
  rw [start_eq, hdirectory] at hreopened
  dsimp only at hreopened
  split at hreopened
  · cases hreopened
  · rename_i slots made hload
    obtain ⟨content, hread, -⟩ := read?_of_load hload
    rw [read?, hdirectory] at hread
    cases hread

end SealedLog.SoftElement
