import SealedLog.Config
import SealedLog.Json.Reader

/-!
# Configurations in JSON

A configuration is a record of named parts, two of which are records again. What is left out has
its usual value. A record can also be written as an array of its parts in order.

- `Config.ofJson?`: the configuration in a document.
-/

namespace SealedLog

/-- A part that may be left out. -/
def Json.orDefault {α : Type} (part : Option Json) (usual : α) (read : Json → Option α) :
    Option α :=
  match part with
  | none => some usual
  | some document => read document

/-- A part for which `null` says that there is none. -/
def Json.orNull {α : Type} (read : Json → Option α) : Json → Option (Option α)
  | .null => some none
  | document => (read document).map some

/-- A path in a document. -/
def Json.path? (document : Json) : Option Path := document.text?.map Path.mk

/-- A number of 64 bits in a document. -/
def Json.word? (document : Json) : Option UInt64 :=
  (document.natural? UInt64.size).map Nat.toUInt64

/-- The medium a document names: by its name, or by an object that gives the name nothing. -/
def BackendKind.ofJson? : Json → Option BackendKind
  | .object [(name, .null)] => (ofUtf8? name).bind ofName?
  | document => document.text?.bind ofName?

/-- The storage in a document. -/
def StorageConfig.ofJson? (document : Json) : Option StorageConfig := do
  let usual : StorageConfig := {}
  let fields ← document.fields ["backend", "mount_point", "file_name"]
  match fields.values with
  | [backend, mountPoint, fileName] =>
    return {
      backend := ← Json.orDefault backend usual.backend BackendKind.ofJson?
      mountPoint := ← Json.orDefault mountPoint usual.mountPoint (Json.orNull Json.path?)
      fileName := ← Json.orDefault fileName usual.fileName Json.text? }
  | _ => none

/-- The element in a document. -/
def ElementConfig.ofJson? (document : Json) : Option ElementConfig := do
  let usual : ElementConfig := {}
  let fields ← document.fields ["completion_timeout_ms", "state_file", "latency_ms"]
  match fields.values with
  | [timeout, stateFile, latency] =>
    return {
      completionTimeoutMs :=
        ← Json.orDefault timeout usual.completionTimeoutMs (Json.orNull Json.word?)
      stateFile := ← Json.orDefault stateFile usual.stateFile (Json.orNull Json.path?)
      latencyMs := ← Json.orDefault latency usual.latencyMs Json.word? }
  | _ => none

/-- The configuration in a document. -/
def Config.ofJson? (document : Json) : Option Config := do
  let usual : Config := {}
  let fields ← document.fields
    ["key_slot", "force_regenerate", "plaintext_max_len", "record_size", "storage", "hsm"]
  match fields.values with
  | [keySlot, force, plaintextMaxLen, recordSize, storage, element] =>
    return {
      keySlot := ← Json.orDefault keySlot usual.keySlot fun document =>
        (document.natural? UInt16.size).map Nat.toUInt16
      forceRegenerate := ← Json.orDefault force usual.forceRegenerate Json.bool?
      plaintextMaxLen := ← Json.orDefault plaintextMaxLen usual.plaintextMaxLen Json.word?
      recordSize := ← Json.orDefault recordSize usual.recordSize Json.word?
      storage := ← Json.orDefault storage usual.storage StorageConfig.ofJson?
      element := ← Json.orDefault element usual.element ElementConfig.ofJson? }
  | _ => none

end SealedLog
