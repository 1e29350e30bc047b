import SealedLog.Gateway

/-!
# Custody of the key

Before a log can encrypt, its key slot has to hold a key. Metadata in the slot is taken for a
sign that a key is there; otherwise the slot is provisioned: its metadata is written, and then a
key is made inside the element.

- `Custody.ensureKeyReady`: makes the slot ready, by the key it has or by a new one.
- `Readiness`: how far the slot has come, as seen from outside.
-/

namespace SealedLog

/-- How far a slot has come, as far as is known. -/
inductive Readiness
  | unknown
  | notProvisioned
  | metadataWritten
  | keyGenerated
  | ready
deriving Repr, DecidableEq

/-- The readiness as reports show it. -/
def Readiness.name : Readiness → String
  | unknown => "Unknown"
  | notProvisioned => "NotProvisioned"
  | metadataWritten => "MetadataWritten"
  | keyGenerated => "KeyGenerated"
  | ready => "Ready"

/-- How a slot was made ready. -/
inductive Provisioning
  /-- The key in the slot is used as it is. -/
  | reused
  /-- A new key was made. -/
  | generated
deriving Repr, DecidableEq

/-- The provisioning as reports show it. -/
def Provisioning.name : Provisioning → String
  | reused => "Reused"
  | generated => "Generated"

/-- A key slot, the connection to its element and what is known about the slot. -/
structure Custody (ε : Type) where
  gateway : Gateway ε
  slot : KeySlot
  readiness : Readiness := .unknown

namespace Custody

variable {ε α : Type}

/-- An attempt on the gateway. -/
def onGateway {error : Type} (attempt : Attempt (Gateway ε) error α) :
    Attempt (Custody ε) error α :=
  attempt.within Custody.gateway fun gateway custody => { custody with gateway }

/-- Notes how far the slot has come. -/
def transition (readiness : Readiness) : Act (Custody ε) Unit :=
  modify fun custody => { custody with readiness }

variable [Element ε]

/-- Whether the slot has metadata. A slot that cannot be read counts as one without. -/
def slotHasMetadata : Act (Custody ε) Bool := do
  let slot := (← get).slot
  match ← (onGateway (Gateway.readMetadata slot.id)).run with
  | .ok [] => return false
  | .ok metadata =>
    Scene.note ⟨.info, "key metadata present",
      [("slot", slot.text), ("len", toString metadata.length)], .custody⟩
    return true
  | .error error =>
    Scene.note ⟨.warn, "key metadata unreadable",
      [("slot", slot.text), ("error", error.message)], .custody⟩
    return false

/-- Writes the slot's metadata and makes a key in it. -/
def provision : Attempt (Custody ε) KeyError Unit := do
  let slot := (← get).slot
  Scene.note ⟨.info, "writing key slot metadata", [("slot", slot.text)], .custody⟩
  (onGateway (Gateway.writeMetadata slot.id KeySlot.descriptor)).orElseAs
    (KeyError.mk slot .metadataWrite)
  (transition .metadataWritten : Act (Custody ε) Unit)
  Scene.note ⟨.info, "generating key in secure element",
    [("slot", slot.text), ("algorithm", slot.algorithm.name)], .custody⟩
  (onGateway (Gateway.generateSymmetricKey slot)).orElseAs (KeyError.mk slot .keyGeneration)
  (transition .keyGenerated : Act (Custody ε) Unit)
  Scene.note ⟨.info, "key generated", [("slot", slot.text)], .custody⟩
  (transition .ready : Act (Custody ε) Unit)

/-- Makes the slot ready. With `force` a new key is made whatever the slot holds. -/
def ensureKeyReady (force : Bool) : Attempt (Custody ε) KeyError Provisioning := do
  let slot := (← get).slot
  if force then
    Scene.note ⟨.warn, "forced key regeneration; existing key will be overwritten",
      [("slot", slot.text)], .custody⟩
  -- Whether there is a key behind the metadata is not asked.
  else if ← (slotHasMetadata : Act (Custody ε) Bool) then
    Scene.note ⟨.info, "using existing key", [("slot", slot.text)], .custody⟩
    (transition .ready : Act (Custody ε) Unit)
    return .reused
  else
    Scene.note ⟨.info, "key slot not provisioned; initializing", [("slot", slot.text)], .custody⟩
  (transition .notProvisioned : Act (Custody ε) Unit)
  provision
  return .generated

end Custody

end SealedLog
