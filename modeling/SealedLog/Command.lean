import SealedLog.Bytes

/-!
# Commands to a secure element

What can be asked of an element, what it answers, and the sixteen-bit codes by which it reports
how a command went.
-/

namespace SealedLog

/-- The number of a key object inside an element. -/
abbrev ObjectId := UInt16

/-- The key object used unless another is configured. -/
def defaultKeySlot : ObjectId := 0xE200

/-- The kinds of symmetric key an element makes. -/
inductive Algorithm
  | aes128
deriving Repr, DecidableEq

namespace Algorithm

/-- Bytes in a key. -/
def keyLen : Algorithm → Nat
  | aes128 => 16

/-- The name of a kind of key in notices. -/
def name : Algorithm → String
  | aes128 => "Aes128"

end Algorithm

/-- What a key may be used for. -/
inductive KeyUsage
  | encryption
deriving Repr, DecidableEq

/-- How a cipher goes from block to block. -/
inductive CipherMode
  | cbc
deriving Repr, DecidableEq

/-- A key object with its declared class. -/
structure KeySlot where
  id : ObjectId
  algorithm : Algorithm := .aes128
  usage : KeyUsage := .encryption
deriving Repr, DecidableEq

/-- The slot's number as reports show it. -/
def KeySlot.text (slot : KeySlot) : String := Hex.tag slot.id

/-- What a slot's metadata says when its key is made inside the element for encryption. -/
def KeySlot.descriptor : Bytes := [0x20, 0x06, 0xD0, 0x01, 0x00, 0xD3, 0x01, 0x00]

/-- A status as the element reports it. -/
structure StatusCode where
  code : UInt16
deriving Repr, DecidableEq

namespace StatusCode

def success : StatusCode := ⟨0x0000⟩
def busy : StatusCode := ⟨0x0001⟩
def deviceError : StatusCode := ⟨0x8001⟩
def invalidInput : StatusCode := ⟨0x8002⟩
def accessCondition : StatusCode := ⟨0x8003⟩
def keyNotFound : StatusCode := ⟨0x8004⟩

/-- A completion handle was given up without an answer. -/
def abandoned : StatusCode := ⟨0x80FF⟩

/-- The code as reports show it. -/
def text (status : StatusCode) : String := Hex.tag status.code

/-- Only one code means success. -/
def isSuccess (status : StatusCode) : Bool := status = success

end StatusCode

/-- One command on the element's command channel. -/
inductive Command
  | generateRandom (len : Nat)
  | readMetadata (slot : ObjectId)
  | writeMetadata (slot : ObjectId) (metadata : Bytes)
  | generateSymmetricKey (slot : ObjectId) (algorithm : Algorithm) (usage : KeyUsage)
  | encrypt (slot : ObjectId) (mode : CipherMode) (plaintext iv : Bytes)
deriving Repr, DecidableEq

/-- The name of a command in reports. -/
def Command.name : Command → String
  | .generateRandom _ => "generate_random"
  | .readMetadata _ => "read_metadata"
  | .writeMetadata _ _ => "write_metadata"
  | .generateSymmetricKey _ _ _ => "generate_symmetric_key"
  | .encrypt _ _ _ _ => "encrypt"

/-- What a command that went well gives back. -/
inductive Output
  | random (bytes : Bytes)
  | metadata (bytes : Bytes)
  | ciphertext (bytes : Bytes)
  | done
deriving Repr, DecidableEq

/-- How a command ended inside the element. -/
abbrev Outcome := Except StatusCode Output

end SealedLog
