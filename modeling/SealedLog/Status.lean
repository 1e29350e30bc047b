import SealedLog.Json.Reader

/-!
# Status messages

The application's own entry: a sequence number and the time since the start. It is encrypted as
a JSON object in one line.

- `StatusMessage.encode`: the bytes that are encrypted.
- `StatusMessage.decode?`: the message in such bytes.
- `Sequence.next`: sequence numbers, from one on, starting over after the largest.
-/

namespace SealedLog

/-- One status line. -/
structure StatusMessage where
  seq : UInt32
  uptimeMs : UInt64
deriving Repr, DecidableEq

namespace StatusMessage

/-- The message as a document. -/
def document (message : StatusMessage) : Json :=
  .object [(utf8 "seq", .ofNat message.seq.toNat),
    (utf8 "uptime_ms", .ofNat message.uptimeMs.toNat)]

/-- The bytes that are encrypted. -/
def encode (message : StatusMessage) : Bytes := message.document.compact

/-- The message that a document holds. Both parts must be there. -/
def ofDocument? (document : Json) : Option StatusMessage := do
  let fields ← document.fields ["seq", "uptime_ms"]
  match fields.values with
  | [some seq, some uptime] =>
    let seq ← seq.natural? UInt32.size
    let uptime ← uptime.natural? UInt64.size
    return ⟨seq.toUInt32, uptime.toUInt64⟩
  | _ => none

/-- The message in a byte string. -/
def decode? (bytes : Bytes) : Option StatusMessage := (Json.read bytes).bind ofDocument?

end StatusMessage

/-- A counter for status messages. It numbers attempts, not records. -/
structure Sequence where
  current : UInt32 := 0
deriving Repr, DecidableEq

namespace Sequence

/-- The next number. -/
def next (sequence : Sequence) : UInt32 × Sequence :=
  (sequence.current + 1, ⟨sequence.current + 1⟩)

end Sequence

end SealedLog
