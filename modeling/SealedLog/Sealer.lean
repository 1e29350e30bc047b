import SealedLog.Gateway
import SealedLog.Record

/-!
# Sealing messages

A sealer turns a message into a record. The message is filled up with zeros to the block length,
a fresh nonce is drawn from the element, and the element enciphers the block from that nonce on.

- `Sealer.pad`: the block for a message; its length is not kept.
- `Sealer.capacityMax`: blocks longer than this cannot be made.
- `Sealer.encryptMessage`: the record for a message.
-/

namespace SealedLog

/-- The slot and the block length that messages are sealed with. -/
structure Sealer where
  slot : KeySlot
  blockLen : Nat := defaultBlockLen
deriving Repr, DecidableEq

namespace Sealer

/-- The length of the records made. -/
def recordLen (sealer : Sealer) : Nat := nonceLen + sealer.blockLen

/-- The most bytes that can be allocated at once: offsets into them are signed numbers of 64
bits. -/
def capacityMax : Nat := 0x7fffffffffffffff

/-- A message filled up with zeros, unless it is too long. A block that cannot be allocated is asked
for all the same, and that is the end. -/
def pad (message : Bytes) (blockLen : Nat) : Except Halt (Except CipherError Bytes) :=
  if blockLen < message.length then .ok (.error (.plaintextTooLong message.length blockLen))
  else if capacityMax < blockLen then .error .capacityOverflow
  else .ok (.ok (message ++ List.replicate (blockLen - message.length) 0))

/-- The record for a message. -/
def encryptMessage {ε : Type} [Element ε] (sealer : Sealer) (message : Bytes) :
    Attempt (Gateway ε) CipherError Record := do
  let block ← Attempt.ended (pad message sealer.blockLen)
  let nonce ← (Gateway.generateRandom nonceLen).orElseAs .nonceGenerationFailed
  if h : nonce.length = nonceLen then
    let ciphertext ← (Gateway.encrypt sealer.slot .cbc block nonce).orElseAs .encryptionFailed
    if ciphertext.length ≠ sealer.blockLen then
      throw (.unexpectedLength .ciphertext sealer.blockLen ciphertext.length)
    return ⟨nonce, ciphertext, h⟩
  else throw (.unexpectedLength .nonce nonceLen nonce.length)

end Sealer

end SealedLog
