import SealedLog.Command
import SealedLog.Path
import SealedLog.SystemError
import SealedLog.Text.Escape
import SealedLog.Text.Span

/-!
# Errors

What can go wrong at each level, with the words for it and with the chain of causes behind it.
An error of a lower level becomes an error of the log by `LogError`'s constructors, which add no
words of their own.

- `message`: the words for an error; those of its cause are part of them.
- `causes`: the words of the causes behind it, nearest first.
-/

namespace SealedLog

/-- Failures on the element's command channel. -/
inductive CommandError
  | refused (command : String) (code : StatusCode)
  | failed (command : String) (code : StatusCode)
  | timedOut (command : String) (timeout : Span)
  | unexpectedResponse (command : String)
deriving Repr, DecidableEq

namespace CommandError

/-- The words for a failed command. -/
def message : CommandError → String
  | refused command code => command ++ " rejected at submission (status " ++ code.text ++ ")"
  | failed command code =>
    command ++ " failed inside the secure element (status " ++ code.text ++ ")"
  | timedOut command timeout => command ++ " did not complete within " ++ timeout.text
  | unexpectedResponse command => command ++ " resolved with an unexpected response"

/-- A failed command has no cause behind it. -/
def causes (_ : CommandError) : List String := []

end CommandError

/-- The two commands by which a key slot is made ready. -/
inductive ProvisioningStage
  | metadataWrite
  | keyGeneration
  /-- A stage that a report names in its own words. -/
  | named (text : String)
deriving Repr, DecidableEq

/-- The stage as reports show it. -/
def ProvisioningStage.text : ProvisioningStage → String
  | metadataWrite => "metadata write"
  | keyGeneration => "key generation"
  | named text => text

/-- A key slot that could not be made ready. -/
structure KeyError where
  slot : KeySlot
  stage : ProvisioningStage
  source : CommandError
deriving Repr, DecidableEq

namespace KeyError

/-- The words for a slot that is not ready. -/
def message (error : KeyError) : String :=
  "provisioning key slot " ++ error.slot.text ++ " failed during " ++ error.stage.text ++ ": "
    ++ error.source.message

/-- The failed command is the cause. -/
def causes (error : KeyError) : List String := error.source.message :: error.source.causes

end KeyError

/-- What an element gives back in the wrong length. -/
inductive OutputPart
  | nonce
  | ciphertext
  /-- A part that a report names in its own words. -/
  | named (text : String)
deriving Repr, DecidableEq

/-- The part as reports show it. -/
def OutputPart.text : OutputPart → String
  | nonce => "nonce"
  | ciphertext => "ciphertext"
  | named text => text

/-- A message that could not be turned into a record. -/
inductive CipherError
  | plaintextTooLong (len max : Nat)
  | nonceGenerationFailed (source : CommandError)
  | encryptionFailed (source : CommandError)
  | unexpectedLength (part : OutputPart) (expected actual : Nat)
deriving Repr, DecidableEq

namespace CipherError

/-- The words for a message that is no record. -/
def message : CipherError → String
  | plaintextTooLong len max =>
    "plaintext of " ++ toString len ++ " bytes exceeds block capacity of " ++ toString max
      ++ " bytes"
  | nonceGenerationFailed source => "nonce generation failed: " ++ source.message
  | encryptionFailed source => "encryption failed: " ++ source.message
  | unexpectedLength part expected actual =>
    "unexpected " ++ part.text ++ " length: expected " ++ toString expected ++ ", got "
      ++ toString actual

/-- The failed command, if there was one, is the cause. -/
def causes : CipherError → List String
  | nonceGenerationFailed source | encryptionFailed source => source.message :: source.causes
  | _ => []

end CipherError

/-- A log that could not be opened, written or read. -/
inductive StoreError
  | openFailed (target : String) (source : SystemError)
  | writeFailed (target : String) (source : SystemError)
  | readFailed (target : String) (source : SystemError)
  | recordSizeMismatch (expected actual : Nat)
deriving Repr, DecidableEq

namespace StoreError

/-- The words for a failure of the log's storage. -/
def message : StoreError → String
  | openFailed target source => "failed to open " ++ target ++ ": " ++ source.message
  | writeFailed target source => "failed to write " ++ target ++ ": " ++ source.message
  | readFailed target source => "failed to read " ++ target ++ ": " ++ source.message
  | recordSizeMismatch expected actual =>
    "record of " ++ toString actual ++ " bytes does not match record size " ++ toString expected

/-- The failed step, if there was one, is the cause. -/
def causes : StoreError → List String
  | openFailed _ source | writeFailed _ source | readFailed _ source => [source.message]
  | recordSizeMismatch _ _ => []

end StoreError

/-- A configuration that cannot be used. -/
inductive ConfigError
  /-- The file cannot be read as text. -/
  | unreadable (path : Path) (source : SystemError)
  /-- The text is no configuration. -/
  | malformed
  | plaintextMaxLen (actual : Nat)
  | recordSize (expected actual : Nat)
  | fileNameEmpty
  | timeoutZero
  /-- A complaint in other words. -/
  | stated (text : String)
deriving Repr, DecidableEq

namespace ConfigError

/-- What is wrong with a configuration. -/
def complaint : ConfigError → String
  | unreadable path source => path.text ++ ": " ++ source.message
  | malformed => "malformed document"
  | plaintextMaxLen actual =>
    "plaintext_max_len must be a non-zero multiple of 16, got " ++ toString actual
  | recordSize expected actual =>
    "record_size must equal 16 + plaintext_max_len (" ++ toString expected ++ "), got "
      ++ toString actual
  | fileNameEmpty => "storage.file_name must not be empty"
  | timeoutZero =>
    "hsm.completion_timeout_ms must be positive; omit it to wait indefinitely"
  | stated text => text

end ConfigError

/-- An element that cannot be started or cannot keep its state. -/
inductive ElementError
  /-- A step on the state file failed. -/
  | storage (source : SystemError)
  /-- The state file is not the expected document. -/
  | malformed
  /-- The slots in the state file are not those it was written with. -/
  | integrity (path : Path)
  /-- A byte string in the state file is not written in hexadecimal. -/
  | notHex (error : Hex.Error)
  /-- A complaint in other words. -/
  | stated (text : String)
deriving Repr, DecidableEq

namespace ElementError

/-- What is wrong with an element. -/
def complaint : ElementError → String
  | storage source => source.message
  | malformed => "malformed document"
  | integrity path => "state file " ++ path.text ++ " failed integrity check"
  | notHex .oddLength => "Odd number of digits"
  | notHex (.badDigit byte position) =>
    "Invalid character " ++ Escape.quoted byte ++ " at position " ++ toString position
  | stated text => text

end ElementError

/-- Any error of the log. -/
inductive LogError
  | command (source : CommandError)
  | key (source : KeyError)
  | cipher (source : CipherError)
  | store (source : StoreError)
  | config (source : ConfigError)
  | element (source : ElementError)
deriving Repr, DecidableEq

namespace LogError

/-- The words for an error of the log. -/
def message : LogError → String
  | command source => source.message
  | key source => source.message
  | cipher source => source.message
  | store source => source.message
  | config source => "configuration error: " ++ source.complaint
  | element source => "secure element error: " ++ source.complaint

/-- The causes behind an error of the log; the wrapped error itself is none. -/
def causes : LogError → List String
  | command source => source.causes
  | key source => source.causes
  | cipher source => source.causes
  | store source => source.causes
  | config _ | element _ => []

end LogError

end SealedLog
