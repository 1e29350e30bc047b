import SealedLog.Error
import SealedLog.Files
import SealedLog.Json.Reader
import SealedLog.SoftElement.Slots

/-!
# State files

The slots of a software element are kept in a file, so that keys survive a restart. The file is
a JSON document: the slots in the order of their numbers, and a digest of them. The digest is
taken over the slots written in one line, whatever the layout of the file.

A file is replaced as a whole: its successor is written beside it, under the extension `tmp`, and
then takes its place in one step.

- `StateFile.encode`: the bytes of a state file.
- `StateFile.decode`: the slots in such bytes, if their digest is right.
- `StateFile.save`, `StateFile.load`: the two as steps on the file system.

The digest function is a parameter throughout.
-/

namespace SealedLog.StateFile

/-- A slot as it is written: byte strings in hexadecimal. -/
structure Entry where
  id : ObjectId
  metadata : Bytes
  key : Option Bytes
deriving Repr, DecidableEq

namespace Entry

/-- The written form of a slot. -/
def ofSlot (slot : ObjectId × SlotEntry) : Entry where
  id := slot.1
  metadata := utf8 (Hex.encode slot.2.metadata)
  key := slot.2.key.map fun key => utf8 (Hex.encode key)

/-- A written slot as a document. -/
def document (entry : Entry) : Json :=
  .object [(utf8 "id", .ofNat entry.id.toNat),
    (utf8 "metadata", .string entry.metadata),
    (utf8 "key", match entry.key with | none => .null | some key => .string key)]

/-- A string that is text. -/
def textBytes? (document : Json) : Option Bytes := document.text?.map utf8

/-- The written slot in a document. Only the key may be missing from an object. -/
def ofDocument? (document : Json) : Option Entry := do
  let fields ← document.fields ["id", "metadata", "key"]
  match fields.values with
  | [some id, some metadata, key] =>
    let id ← id.natural? UInt16.size
    let metadata ← textBytes? metadata
    match key with
    | none => if fields.positional then none else return ⟨id.toUInt16, metadata, none⟩
    | some .null => return ⟨id.toUInt16, metadata, none⟩
    | some key => return ⟨id.toUInt16, metadata, some (← textBytes? key)⟩
  | _ => none

/-- The slot that a written slot stands for. -/
def toSlot (entry : Entry) : Except Hex.Error (ObjectId × SlotEntry) := do
  let metadata ← Hex.decode entry.metadata
  match entry.key with
  | none => return (entry.id, ⟨metadata, none⟩)
  | some key => return (entry.id, ⟨metadata, some (← Hex.decode key)⟩)

end Entry

/-- What the digest is taken over. -/
def payload (entries : List Entry) : Bytes :=
  (Json.array (entries.map Entry.document)).compact

/-- The digest of written slots, in hexadecimal. -/
def digestOf (hash : Bytes → Bytes) (entries : List Entry) : Bytes :=
  utf8 (Hex.encode (hash (payload entries)))

/-- The slots of an element as they are written. -/
def entriesOf (slots : Slots) : List Entry := slots.sorted.map Entry.ofSlot

/-- The bytes of a state file. -/
def encode (hash : Bytes → Bytes) (slots : Slots) : Bytes :=
  let entries := entriesOf slots
  (Json.object [(utf8 "slots", .array (entries.map Entry.document)),
    (utf8 "digest", .string (digestOf hash entries))]).pretty

/-- The written slots and the digest in a document. -/
def ofDocument? (document : Json) : Option (List Entry × Bytes) := do
  let fields ← document.fields ["slots", "digest"]
  match fields.values with
  | [some (.array items), some digest] =>
    let entries ← items.mapM Entry.ofDocument?
    let digest ← Entry.textBytes? digest
    return (entries, digest)
  | _ => none

/-- The slots in the bytes of a state file. -/
def decode (hash : Bytes → Bytes) (path : Path) (bytes : Bytes) : Except ElementError Slots :=
  match (Json.read bytes).bind ofDocument? with
  | none => .error .malformed
  | some (entries, digest) =>
    -- The digest is checked before any byte string is read.
    if digestOf hash entries ≠ digest then .error (.integrity path)
    else
      match entries.mapM Entry.toSlot with
      | .error error => .error (.notHex error)
      | .ok slots => .ok (Slots.ofList slots)

/-- Permission bits of a state file when it is created. -/
def fileMode : Nat := 0o600

/-- Where the successor of a state file is written. -/
def successor (path : Path) : Path := path.withExtension "tmp"

/-- Makes the directory of a state file, if its path names one. -/
def prepare (path : Path) : FileStep Unit :=
  match path.parent with
  | none => pure ()
  | some directory =>
    if directory.text.isEmpty then pure () else Files.makeDirectories directory

/-- Replaces the file at a path by one with the content given. -/
def replace (path : Path) (content : Bytes) : FileStep Unit := do
  prepare path
  let place ← Files.openForWriting (successor path) fileMode true
  Files.writeAll place content
  Files.sync place
  -- Up to here the file at the path is as it was.
  Files.rename (successor path) path

/-- Stores slots in a state file. -/
def save (hash : Bytes → Bytes) (path : Path) (slots : Slots) : FileStep Unit :=
  replace path (encode hash slots)

/-- The slots in the state file at a path. -/
def load (hash : Bytes → Bytes) (path : Path) (files : Files) :
    Except ElementError Slots × Files :=
  match Files.readAll path files with
  | (.error error, files) => (.error (.storage error), files)
  | (.ok bytes, files) => (decode hash path bytes, files)

end SealedLog.StateFile
