import SealedLog.Error
import SealedLog.Medium
import SealedLog.Act

/-!
# The log in a file

A log kept in a file below a mount point. Only the owner has access: the directory is restricted
when it is mounted, and the file whenever it is opened for writing.

- `LogFile.mount`: prepares the directory and the file.
-/

namespace SealedLog

/-- A log kept in the file at a path. -/
structure LogFile where
  path : Path
deriving Repr, DecidableEq

namespace LogFile

/-- Permission bits of the directory. -/
def directoryMode : Nat := 0o700

/-- Permission bits of the file. -/
def fileMode : Nat := 0o600

/-- Opens the file for writing and takes away all access but the owner's. -/
def openRestricted (file : LogFile) (empty : Bool) : FileStep Place := do
  let place ← Files.openForWriting file.path fileMode empty
  Files.tighten place fileMode
  return place

/-- What a reader of a file has left; a directory can be opened, but not read. -/
structure Reader where
  rest : Bytes
  broken : Option SystemError := none
deriving Repr, DecidableEq

/-- Opens what the path leads to for reading. -/
def openReader (file : LogFile) : FileStep Reader := Files.attempt fun files =>
  match files.existing file.path with
  | .error error => .error error
  | .ok (_, .file content _) => .ok (⟨content, none⟩, files)
  | .ok (_, .directory _) => .ok (⟨[], some .isADirectory⟩, files)

/-- A missing file is no failure when it is asked about. -/
def ifPresent {α : Type} : Except SystemError α → Except SystemError (Option α)
  | .ok a => .ok (some a)
  | .error .notFound => .ok none
  | .error error => .error error

/-- One write to the file. -/
def write (place : Place) (bytes : Bytes) (site : Site LogFile) :
    (Reply Nat × Place) × Site LogFile :=
  match Files.writeSome place bytes site.files with
  | (.ok count, files) => ((.moved count, place), ⟨site.medium, files⟩)
  | (.error error, files) => ((.failed error, place), ⟨site.medium, files⟩)

/-- One read from the file. -/
def read (reader : Reader) (limit : Nat) (site : Site LogFile) :
    (Reply Bytes × Reader) × Site LogFile :=
  match reader.broken with
  | some error => ((.failed error, reader), site)
  | none =>
    ((.moved (reader.rest.take limit), { reader with rest := reader.rest.drop limit }), site)

instance : Medium LogFile where
  Reader := Reader
  Writer := Place
  describe file := file.path.text
  openAppend site :=
    let (result, files) := site.medium.openRestricted false site.files
    (result, ⟨site.medium, files⟩)
  write := write
  flush _ site := (.ok (), site)
  truncate site :=
    let (result, files) := site.medium.openRestricted true site.files
    match result with
    | .error error => (.error error, ⟨site.medium, files⟩)
    | .ok place =>
      let (result, files) := Files.sync place files
      (result, ⟨site.medium, files⟩)
  openRead site :=
    let (result, files) := site.medium.openReader site.files
    (ifPresent result, ⟨site.medium, files⟩)
  read := read
  size site :=
    let (result, files) := Files.size site.medium.path site.files
    (ifPresent result, ⟨site.medium, files⟩)
  patience _ _ := 0
  remaining reader _ := reader.rest.length
  patience_lt := by
    intro writer bytes site h
    unfold write at h
    split at h <;> simp at h
  remaining_le := by
    intro reader limit site
    unfold read
    split <;> simp
  remaining_lt := by
    intro reader limit site h
    unfold read at h ⊢
    split at h
    · simp [Reply.advances] at h
    · simp [Reply.advances] at h
      have := List.length_pos_iff.mpr h.2
      have : limit ≠ 0 := h.1
      simp only [List.length_drop]
      omega

/-- Prepares a mount point and the file in it, which is created if it is missing. -/
def mount (mountPoint : Path) (fileName : String) : Scene (Except StoreError LogFile) := do
  let file : LogFile := ⟨mountPoint.join fileName⟩
  match ← Scene.onFiles (Files.makeDirectories mountPoint) with
  | .error error => return .error (.openFailed mountPoint.text error)
  | .ok () =>
    match ← Scene.onFiles (Files.setMode mountPoint directoryMode) with
    | .error error => return .error (.openFailed mountPoint.text error)
    | .ok () =>
      match ← Scene.onFiles (file.openRestricted false) with
      | .error error => return .error (.openFailed file.path.text error)
      | .ok _ =>
        Scene.note ⟨.info, "log storage mounted", [("path", file.path.text)], .medium⟩
        return .ok file

end LogFile

end SealedLog
