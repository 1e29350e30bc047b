import SealedLog.Config
import SealedLog.Custody
import SealedLog.Medium.LogFile
import SealedLog.Medium.Memory
import SealedLog.Sealer
import SealedLog.Status
import SealedLog.Store

/-!
# The encrypted journal

A journal joins a store, a connection to an element and a key slot. Every entry is sealed by the
element and then added to the store as one record.

- `Journal.boot`: a journal by its configuration, with its storage mounted and its key ready.
- `Journal.appendStatus`, `Journal.appendMessage`: the two ways to add an entry.
- `Journal.onStore`: everything else a store can do.
-/

namespace SealedLog

/-- A booted journal. -/
structure Journal (ε μ : Type) where
  custody : Custody ε
  /-- How the key slot was made ready at boot. -/
  provisioning : Provisioning
  sealer : Sealer
  store : Store μ
  sequence : Sequence := {}
  /-- The clock at boot. -/
  started : Nat

/-- What came of a status entry. -/
structure AppendReport where
  seq : UInt32
  message : StatusMessage
  record : Record

/-- A medium that a configuration can name. -/
abbrev Mounted := Memory ⊕ LogFile

/-- Mounts the medium a configuration names. -/
def StorageConfig.mount (config : StorageConfig) : Scene (Except StoreError Mounted) := do
  match config.backend with
  | .memory => return .ok (.inl {})
  | kind =>
    let mountPoint := (config.mountPoint <|> kind.defaultMountPoint).getD ⟨"."⟩
    return (← LogFile.mount mountPoint config.fileName).map .inr

namespace Journal

variable {ε μ α error : Type}

/-- The connection to the element. -/
def gateway (journal : Journal ε μ) : Gateway ε := journal.custody.gateway

/-- An attempt on the custody of the key. -/
def onCustody (attempt : Attempt (Custody ε) error α) : Attempt (Journal ε μ) error α :=
  attempt.within Journal.custody fun custody journal => { journal with custody }

/-- An attempt on the connection to the element. -/
def onGateway (attempt : Attempt (Gateway ε) error α) : Attempt (Journal ε μ) error α :=
  onCustody (Custody.onGateway attempt)

/-- An attempt on the store. -/
def onStore (attempt : Attempt (Store μ) StoreError α) : Attempt (Journal ε μ) LogError α :=
  (attempt.within Journal.store fun store journal => { journal with store }).orElseAs .store

variable [Element ε] [Medium μ]

/-- Boots a journal over a medium that is mounted already. The element stays with the caller,
also when the boot fails. -/
def bootOver (config : Config) (medium : μ) :
    Attempt (Gateway ε) LogError (Journal ε μ) := ExceptT.mk do
  let started := (← (Scene.world : Scene World)).now
  match config.validate with
  | .error error => return .error (.config error)
  | .ok () =>
    modify fun gateway =>
      { gateway with timeout := config.element.completionTimeout, issued := 0, status := none }
    let store : Store μ := ⟨medium, config.recordLen⟩
    let custody : Custody ε := ⟨← get, config.slot, .unknown⟩
    let (ready, custody) ← ((Custody.ensureKeyReady config.forceRegenerate).run.run custody :
      Scene (Except KeyError Provisioning × Custody ε))
    set custody.gateway
    match ready with
    | .error error => return .error (.key error)
    | .ok provisioning =>
      Scene.note ⟨.info, "encrypted log ready",
        [("element", Notice.quoted (Element.name custody.gateway.element)),
          ("slot", config.slot.text), ("location", store.location),
          ("provisioning", provisioning.name)], .journal⟩
      return .ok
        { custody, provisioning, sealer := ⟨config.slot, config.blockLen⟩, store, started }

/-- Boots a journal by its configuration alone. -/
def boot (config : Config) : Attempt (Gateway ε) LogError (Journal ε Mounted) := ExceptT.mk do
  match config.validate with
  | .error error => return .error (.config error)
  | .ok () =>
    match ← config.storage.mount with
    | .error error => return .error (.store error)
    | .ok medium => (bootOver config medium).run

/-- Adds an entry with arbitrary bytes, if they are not too many. -/
def appendMessage (plaintext : Bytes) : Attempt (Journal ε μ) LogError Record := do
  let sealer := (← get).sealer
  let record ← (onGateway (sealer.encryptMessage plaintext)).orElseAs .cipher
  onStore (Store.append record)
  return record

/-- Takes the next sequence number. -/
def nextSeq : Act (Journal ε μ) UInt32 :=
  modifyGet fun journal =>
    let (seq, sequence) := journal.sequence.next
    (seq, { journal with sequence })

/-- Adds a status entry with a number. -/
def appendNumbered (seq : UInt32) : Attempt (Journal ε μ) LogError AppendReport := do
  let started := (← get).started
  let uptime := min ((← (Scene.world : Scene World)).now - started) (UInt64.size - 1)
  let message : StatusMessage := ⟨seq, uptime.toUInt64⟩
  let record ← appendMessage message.encode
  Scene.note ⟨.info, "status record appended", [("seq", toString seq)], .journal⟩
  return ⟨seq, message, record⟩

/-- Adds the next status entry. Its number is used up even if it cannot be added. -/
def appendStatus : Attempt (Journal ε μ) LogError AppendReport := do
  -- The number is taken first, so that a failure does not give it back.
  appendNumbered (← (nextSeq : Act (Journal ε μ) UInt32))

/-- Empties the log. -/
def clear : Attempt (Journal ε μ) LogError Unit := onStore Store.clear

/-- A dump of the log from its start. -/
def dump : Attempt (Journal ε μ) LogError (HexDump (Medium.Reader μ)) := onStore Store.dump

/-- The records of the log in order. -/
def records : Attempt (Journal ε μ) LogError (List Record) := onStore Store.records

/-- How many whole records the log has room for. -/
def recordCount : Attempt (Journal ε μ) LogError Nat := onStore Store.recordCount

end Journal

end SealedLog
