import SealedLog.Cbc

/-!
# Lengths under the cipher

A block stays a block, and a message of whole blocks keeps its length.

- `Aes.length_encryptBlock`: a block under AES-128.
- `Cbc.length_encrypt`: a message, for any cipher that keeps the length of blocks.
- `Cbc.exists_encryptAes`: a message of whole blocks can be enciphered.
-/

namespace SealedLog

/-! ## Blocks -/

namespace Aes

theorem length_xor {a b : Bytes} (ha : a.length = blockLen) (hb : b.length = blockLen) :
    (xor a b).length = blockLen := by
  rw [xor, List.length_zipWith, ha, hb, Nat.min_self]

theorem length_shiftRows (state : Bytes) : (shiftRows state).length = blockLen := by
  rw [shiftRows, List.length_map, List.length_range, blockLen]

/-- Whole columns are mixed; the state consists of four. -/
theorem length_mixColumns {state : Bytes} (h : state.length % 4 = 0) :
    (mixColumns state).length = state.length := by
  fun_induction mixColumns state with
  | case1 a b c d rest ih =>
    simp only [List.length_cons] at h ⊢
    rw [ih (by omega)]
  | case2 state hshort =>
    rcases state with _ | ⟨a, _ | ⟨b, _ | ⟨c, _ | ⟨d, rest⟩⟩⟩⟩
    · rfl
    · simp at h
    · simp at h
    · simp at h
    · exact (hshort a b c d rest rfl).elim

/-- A round key has the length of the one before. -/
theorem length_nextKey {constant : UInt8} {key : Bytes} (h : key.length = blockLen) :
    (nextKey constant key).length = blockLen := by
  simp only [nextKey, xor, blockLen] at h ⊢
  simp [h]

theorem length_of_mem_expand {count : Nat} {constant : UInt8} {key round : Bytes}
    (h : key.length = blockLen) (hround : round ∈ expand count constant key) :
    round.length = blockLen := by
  induction count generalizing constant key with
  | zero =>
    rw [List.mem_singleton.mp hround]
    exact h
  | succ count ih =>
    rcases List.mem_cons.mp hround with rfl | hlater
    · exact h
    · exact ih (length_nextKey h) hlater

theorem length_rounds {keys : List Bytes} {state : Bytes}
    (hkeys : ∀ key ∈ keys, key.length = blockLen) (h : state.length = blockLen) :
    (rounds keys state).length = blockLen := by
  fun_induction rounds keys state with
  | case1 state => exact h
  | case2 key state => exact length_xor (length_shiftRows _) (hkeys key (by simp))
  | case3 key more state hmore ih =>
    refine ih (fun other hother => hkeys other (List.mem_cons_of_mem key hother)) ?_
    refine length_xor ?_ (hkeys key (by simp))
    rw [length_mixColumns] <;> rw [length_shiftRows, blockLen]

/-- A block stays a block. -/
theorem length_encryptBlock {key block : Bytes} (hkey : key.length = blockLen)
    (h : block.length = blockLen) : (encryptBlock key block).length = blockLen := by
  rw [encryptBlock]
  cases hexpand : expand 10 1 key with
  | nil => exact h
  | cons first more =>
    have hlen : ∀ round ∈ first :: more, round.length = blockLen := by
      intro round hround
      exact length_of_mem_expand hkey (hexpand ▸ hround)
    exact length_rounds (fun round hround => hlen round (List.mem_cons_of_mem first hround))
      (length_xor h (hlen first List.mem_cons_self))

end Aes

/-! ## Messages -/

namespace Cbc

theorem blocks_whole {count : Nat} {message : Bytes} (h : message.length = count * Aes.blockLen) :
    (blocks count message).length = count ∧
      ∀ block ∈ blocks count message, block.length = Aes.blockLen := by
  induction count generalizing message with
  | zero => exact ⟨rfl, fun _ hmem => absurd hmem List.not_mem_nil⟩
  | succ count ih =>
    rw [Nat.succ_mul] at h
    obtain ⟨hlen, hblocks⟩ := ih (show (message.drop Aes.blockLen).length = _ by
      rw [List.length_drop]; omega)
    refine ⟨by rw [blocks, List.length_cons, hlen], ?_⟩
    intro block hblock
    rcases List.mem_cons.mp hblock with rfl | hlater
    · rw [List.length_take]
      omega
    · exact hblocks block hlater

/-- As much is enciphered as there is in the blocks. -/
theorem length_chain {cipher : Bytes → Bytes}
    (hcipher : ∀ block : Bytes, block.length = Aes.blockLen →
      (cipher block).length = Aes.blockLen)
    {previous : Bytes} {parts : List Bytes} (hprevious : previous.length = Aes.blockLen)
    (hparts : ∀ part ∈ parts, part.length = Aes.blockLen) :
    (chain cipher previous parts).flatten.length = parts.length * Aes.blockLen := by
  induction parts generalizing previous with
  | nil => simp [chain]
  | cons part rest ih =>
    have hsealed := hcipher _ (Aes.length_xor (hparts part List.mem_cons_self) hprevious)
    rw [chain, List.flatten_cons, List.length_append, hsealed,
      ih hsealed fun other hother => hparts other (List.mem_cons_of_mem part hother),
      List.length_cons, Nat.succ_mul, Nat.add_comm]

/-- A message of whole blocks keeps its length. -/
theorem length_encrypt {cipher : Bytes → Bytes}
    (hcipher : ∀ block : Bytes, block.length = Aes.blockLen →
      (cipher block).length = Aes.blockLen)
    {initial message : Bytes} (hinitial : initial.length = Aes.blockLen)
    (h : message.length % Aes.blockLen = 0) :
    (encrypt cipher initial message).length = message.length := by
  have hwhole : message.length = message.length / Aes.blockLen * Aes.blockLen :=
    (Nat.div_mul_cancel (Nat.dvd_of_mod_eq_zero h)).symm
  obtain ⟨hlen, hblocks⟩ := blocks_whole hwhole
  rw [encrypt, length_chain hcipher hinitial hblocks, hlen, ← hwhole]

/-- A message of whole blocks can be enciphered. -/
theorem exists_encryptAes {key initial message : Bytes} (hkey : key.length = Aes.blockLen)
    (hinitial : initial.length = Aes.blockLen) (h : message.length % Aes.blockLen = 0) :
    ∃ ciphertext, encryptAes key initial message = some ciphertext ∧
      ciphertext.length = message.length := by
  refine ⟨encrypt (Aes.encryptBlock key) initial message, ?_, ?_⟩
  · rw [encryptAes, if_pos ⟨hkey, hinitial, h⟩]
  · exact length_encrypt (fun block hblock => Aes.length_encryptBlock hkey hblock) hinitial h

end Cbc

end SealedLog
