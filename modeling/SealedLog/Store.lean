import SealedLog.Act
import SealedLog.HexDump
import SealedLog.Record

/-!
# The record store

A log is a row of records of one length on a medium, without header or index. The store adds
whole records at the end, empties the log, and reads it back. Nothing is remembered between
operations: each of them looks at the medium anew.

- `Store.append`, `Store.clear`: the two ways to change a log.
- `Store.records`, `Store.recordCount`: the log as records.
- `Store.dump`: the log as bytes.
-/

namespace SealedLog

/-- A log on a medium, as records of one length. -/
structure Store (μ : Type) where
  medium : μ
  recordLen : Nat := defaultRecordLen

namespace Store

variable {μ α : Type}

/-- A step on the medium and the file system. -/
def onSite (step : Site μ → α × Site μ) : Act (Store μ) α := fun store world =>
  let (a, site) := step ⟨store.medium, world.files⟩
  .ok ((a, { store with medium := site.medium }), { world with files := site.files })

variable [Medium μ]

/-- Where the log is. -/
def location (store : Store μ) : String := Medium.describe store.medium

/-- A step on the medium whose failure is put into the store's terms. -/
def trying (step : Site μ → Except SystemError α × Site μ)
    (error : String → SystemError → StoreError) : Attempt (Store μ) StoreError α :=
  ExceptT.mk do
    let store ← get
    match ← onSite step with
    | .ok a => return .ok a
    | .error source => return .error (error store.location source)

/-- Adds a record at the end of the log. A failure can leave a part of it there. -/
def append (record : Record) : Attempt (Store μ) StoreError Unit := do
  let bytes := record.toBytes
  let store ← get
  if bytes.length ≠ store.recordLen then
    throw (.recordSizeMismatch store.recordLen bytes.length)
  -- From here on a failure leaves on the medium what it has taken so far.
  let writer ← trying Medium.openAppend .openFailed
  trying (fun site =>
      match Medium.writeAll writer bytes site with
      | ((.ok (), writer), site) => Medium.flush writer site
      | ((.error error, _), site) => (.error error, site))
    .writeFailed

/-- Makes the log empty, also if there was none. -/
def clear : Attempt (Store μ) StoreError Unit := do
  trying Medium.truncate .openFailed
  let store : Store μ ← get
  Scene.note ⟨.info, "log cleared", [("location", store.location)], .store⟩

/-- A dump of the log from its start. -/
def dump : Attempt (Store μ) StoreError (HexDump (Medium.Reader μ)) := do
  let store : Store μ ← get
  match ← trying Medium.openRead .openFailed with
  | some reader => return { reader := some reader, target := store.location }
  | none => return { reader := none, target := store.location, missing := true }

/-- The length of the log in bytes. A log that is not there has none. -/
def lenBytes : Attempt (Store μ) StoreError Nat := do
  return (← trying Medium.size .readFailed).getD 0

/-- How many whole records the log has room for. -/
def recordCount : Attempt (Store μ) StoreError Nat := do
  let len ← lenBytes
  let store : Store μ ← get
  if store.recordLen = 0 then Scene.halt .emptyRecords else return len / store.recordLen

/-- The first `count` pieces of so many bytes each. -/
def pieces (recordLen : Nat) : Nat → Bytes → List Bytes
  | 0, _ => []
  | count + 1, bytes =>
    bytes.take recordLen :: pieces recordLen count (bytes.drop recordLen)

/-- The records in a byte string. Bytes after the last whole record are an error; a piece that
is no record says nothing. -/
def split (target : String) (recordLen : Nat) (bytes : Bytes) :
    Except StoreError (List Record) :=
  if bytes.length % recordLen ≠ 0 then
    .error (.readFailed target (.trailingBytes (bytes.length % recordLen)))
  else
    .ok ((pieces recordLen (bytes.length / recordLen) bytes).filterMap Record.ofBytes?)

/-- The records of the log in order. -/
def records : Attempt (Store μ) StoreError (List Record) := do
  let store : Store μ ← get
  match ← trying Medium.openRead .openFailed with
  | none => return []
  | some reader =>
    let bytes ← trying (Medium.readToEnd reader) .readFailed
    if store.recordLen = 0 then Scene.halt .emptyRecords
    else split store.location store.recordLen bytes

/-- The pieces of a dump, at most so many, or all of them. -/
def dumpItems (limit : Option Nat) (dump : HexDump (Medium.Reader μ)) :
    Act (Store μ) (List (Except StoreError HexChunk)) :=
  onSite fun site =>
    match limit with
    | none => dump.all site
    | some limit => HexDump.items limit dump site

end Store

end SealedLog
