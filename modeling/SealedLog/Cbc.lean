import SealedLog.Aes

/-!
# Block chaining

A message of whole blocks is enciphered by combining every block with the one enciphered before
it, the first with an initial block. Nothing is padded. The block cipher is a parameter.

- `Cbc.encrypt`, `Cbc.decrypt`: the two directions, for any pair of block functions.
- `Cbc.encryptAes`: with AES-128, for keys and initial blocks of the right length only.
-/

namespace SealedLog.Cbc

/-- The first `count` blocks of a message. -/
def blocks : Nat → Bytes → List Bytes
  | 0, _ => []
  | count + 1, message =>
    message.take Aes.blockLen :: blocks count (message.drop Aes.blockLen)

/-- Enciphers blocks one after the other, each combined with the one before. -/
def chain (cipher : Bytes → Bytes) (previous : Bytes) : List Bytes → List Bytes
  | [] => []
  | block :: rest =>
    let sealed := cipher (Aes.xor block previous)
    sealed :: chain cipher sealed rest

/-- Deciphers blocks one after the other, each combined with the enciphered one before. -/
def unchain (decipher : Bytes → Bytes) (previous : Bytes) : List Bytes → List Bytes
  | [] => []
  | block :: rest => Aes.xor (decipher block) previous :: unchain decipher block rest

/-- A message of whole blocks, enciphered. -/
def encrypt (cipher : Bytes → Bytes) (initial message : Bytes) : Bytes :=
  (chain cipher initial (blocks (message.length / Aes.blockLen) message)).flatten

/-- A message of whole blocks, deciphered. -/
def decrypt (decipher : Bytes → Bytes) (initial message : Bytes) : Bytes :=
  (unchain decipher initial (blocks (message.length / Aes.blockLen) message)).flatten

/-- A message under AES-128, if key and initial block have sixteen bytes and the message is of
whole blocks. -/
def encryptAes (key initial message : Bytes) : Option Bytes :=
  if key.length = Aes.blockLen ∧ initial.length = Aes.blockLen
      ∧ message.length % Aes.blockLen = 0 then
    some (encrypt (Aes.encryptBlock key) initial message)
  else none

end SealedLog.Cbc
