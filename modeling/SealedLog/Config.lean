import SealedLog.Error
import SealedLog.Record

/-!
# Configuration

What a log can be told: which key slot it uses, how long its records are, where they are stored
and how its element is reached.

- `Config.blockLen`, `Config.recordLen`: the lengths of blocks and records.
- `Config.validate`: the conditions under which a log can be booted.
- `BackendKind.defaultMountPoint`: where a medium is mounted if nothing else is said.
-/

namespace SealedLog

/-- The media a log can be on. -/
inductive BackendKind
  | flash
  | sdCard
  | memory
deriving Repr, DecidableEq

namespace BackendKind

/-- The name of a medium in a configuration. -/
def name : BackendKind → String
  | flash => "flash"
  | sdCard => "sdcard"
  | memory => "memory"

/-- The medium with a name. -/
def ofName? (name : String) : Option BackendKind :=
  [flash, sdCard, memory].find? fun kind => kind.name = name

/-- Where a medium is mounted if nothing else is said; memory is not mounted. -/
def defaultMountPoint : BackendKind → Option Path
  | flash => some ⟨"/spiflash"⟩
  | sdCard => some ⟨"/sdcard"⟩
  | memory => none

end BackendKind

/-- Where the log is stored. -/
structure StorageConfig where
  backend : BackendKind := .flash
  /-- Instead of the medium's own mount point. -/
  mountPoint : Option Path := none
  fileName : String := "enc_log.bin"
deriving Repr, DecidableEq

/-- How the element is reached. -/
structure ElementConfig where
  /-- Without a limit a command may take as long as it takes. -/
  completionTimeoutMs : Option UInt64 := some 5000
  /-- Where a software element stores its slots, if it does. -/
  stateFile : Option Path := none
  latencyMs : UInt64 := 0
deriving Repr, DecidableEq

namespace ElementConfig

/-- How long a command may take. -/
def completionTimeout (config : ElementConfig) : Option Span :=
  config.completionTimeoutMs.map fun ms => .ofMillis ms.toNat

/-- How long a software element takes for a command. -/
def latency (config : ElementConfig) : Span := .ofMillis config.latencyMs.toNat

end ElementConfig

/-- A whole configuration. -/
structure Config where
  keySlot : ObjectId := defaultKeySlot
  /-- Make a new key even if the slot has one. -/
  forceRegenerate : Bool := false
  plaintextMaxLen : UInt64 := defaultBlockLen.toUInt64
  recordSize : UInt64 := defaultRecordLen.toUInt64
  storage : StorageConfig := {}
  element : ElementConfig := {}
deriving Repr, DecidableEq

namespace Config

/-- Bytes in a block of the cipher. -/
def cipherBlock : Nat := 16

/-- The key slot with its class. -/
def slot (config : Config) : KeySlot := { id := config.keySlot }

/-- The length of the blocks that messages are sealed in. -/
def blockLen (config : Config) : Nat := config.plaintextMaxLen.toNat

/-- The length of the records in the log. -/
def recordLen (config : Config) : Nat := config.recordSize.toNat

/-- The record size that goes with the blocks. The sum has 64 bits and wraps around, which is how it
is where overflow is not checked. It does so for one block length that is otherwise accepted, the
largest multiple of sixteen. -/
def sealedSize (config : Config) : UInt64 := nonceLen.toUInt64 + config.plaintextMaxLen

/-- Whether a log can be booted with a configuration, and what is wrong first if not. -/
def validate (config : Config) : Except ConfigError Unit :=
  if config.blockLen = 0 ∨ config.blockLen % cipherBlock ≠ 0 then
    .error (.plaintextMaxLen config.blockLen)
  else if config.recordSize ≠ config.sealedSize then
    .error (.recordSize config.sealedSize.toNat config.recordLen)
  else if config.storage.fileName = "" then .error .fileNameEmpty
  else if config.element.completionTimeoutMs = some 0 then .error .timeoutZero
  else .ok ()

end Config

end SealedLog
