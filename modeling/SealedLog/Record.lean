import SealedLog.Bytes

/-!
# Records

A record is one encrypted entry of the log: a nonce of sixteen bytes, and a ciphertext after it.

- `Record.toBytes`: the record as it is stored.
- `Record.ofBytes?`: the record that stored bytes spell; there must be some ciphertext.
-/

namespace SealedLog

/-- Bytes of nonce in front of every record. The nonce is also the block that chaining starts
from. -/
def nonceLen : Nat := 16

/-- Bytes of plaintext in a record unless configured otherwise. -/
def defaultBlockLen : Nat := 64

/-- Bytes in a record unless configured otherwise. -/
def defaultRecordLen : Nat := nonceLen + defaultBlockLen

/-- One encrypted entry. -/
structure Record where
  nonce : Bytes
  ciphertext : Bytes
  nonce_length : nonce.length = nonceLen
deriving DecidableEq

namespace Record

/-- A record from its two parts, if the nonce has the right length. -/
def ofParts? (nonce ciphertext : Bytes) : Option Record :=
  if h : nonce.length = nonceLen then some ⟨nonce, ciphertext, h⟩ else none

/-- The stored form of a record. -/
def toBytes (record : Record) : Bytes := record.nonce ++ record.ciphertext

/-- The length of the stored form. -/
def encodedLen (record : Record) : Nat := nonceLen + record.ciphertext.length

/-- The record whose stored form is given. There is none without ciphertext. -/
def ofBytes? (bytes : Bytes) : Option Record :=
  if bytes.length ≤ nonceLen then none
  else ofParts? (bytes.take nonceLen) (bytes.drop nonceLen)

/-- The record as reports show it. -/
def text (record : Record) : String :=
  "Record \x7b nonce: \"" ++ Hex.encode record.nonce ++ "\", ciphertext: \""
    ++ Hex.encode record.ciphertext ++ "\" \x7d"

theorem length_toBytes (record : Record) : record.toBytes.length = record.encodedLen := by
  simp [toBytes, encodedLen, record.nonce_length]

end Record

end SealedLog
