import SealedLog.Proofs.Cbc

/-!
# Deciphering

What was enciphered can be deciphered by who has the key and the initial block. No part of the log
does so; this is what its records are good for.

- `Aes.decryptBlock`: the inverse of AES-128, round by round.
- `Aes.decryptBlock_encryptBlock`: under one key, a block comes back.
- `Cbc.decrypt_encrypt`: a message of whole blocks comes back, for any cipher with an inverse.
- `Cbc.decrypt_of_encryptAes`: what was enciphered under AES-128 comes back under the same key.
-/

namespace SealedLog

/-! ## Bits -/

namespace Aes

theorem xor_left_comm (a b c : UInt8) : a ^^^ (b ^^^ c) = b ^^^ (a ^^^ c) := by
  rw [← UInt8.xor_assoc, UInt8.xor_comm a b, UInt8.xor_assoc]

theorem xor_cancel_left (a b : UInt8) : a ^^^ (a ^^^ b) = b := by
  rw [← UInt8.xor_assoc, UInt8.xor_self, UInt8.zero_xor]

theorem xor_cancel_right (a b : UInt8) : a ^^^ b ^^^ b = a := by
  rw [UInt8.xor_assoc, UInt8.xor_self, UInt8.xor_zero]

/-- What is combined twice with the same bytes is as it was. -/
theorem xor_xor {a b : Bytes} (h : a.length = b.length) : xor (xor a b) b = a := by
  induction a generalizing b with
  | nil => rfl
  | cons byte rest ih =>
    cases b with
    | nil => cases h
    | cons other more =>
      show (byte ^^^ other ^^^ other) :: xor (xor rest more) more = byte :: rest
      rw [xor_cancel_right, ih (Nat.succ.inj h)]

/-- Doubling is linear: the top bit of a sum is lost if it was set in one of the two. -/
theorem double_xor (a b : UInt8) : double (a ^^^ b) = double a ^^^ double b := by
  have htop : ∀ n < 256, 128 ≤ n ↔ n.testBit 7 = true := by
    intro n hn
    rw [Nat.testBit_eq_decide_div_mod_eq, decide_eq_true_eq]
    omega
  have hlt := (a ^^^ b).toNat_lt
  rw [UInt8.toNat_xor] at hlt
  rw [double, double, double, UInt8.shiftLeft_xor, UInt8.toNat_xor]
  simp only [htop _ a.toNat_lt, htop _ b.toNat_lt, htop _ hlt, Nat.testBit_xor]
  cases a.toNat.testBit 7 <;> cases b.toNat.testBit 7 <;>
    simp [UInt8.xor_assoc, xor_left_comm, UInt8.xor_comm]

/-! ## Rounds -/

/-- The substitution table, read backwards. -/
def resubstitution : List UInt8 :=
  [0x52, 0x09, 0x6a, 0xd5, 0x30, 0x36, 0xa5, 0x38, 0xbf, 0x40, 0xa3, 0x9e, 0x81, 0xf3, 0xd7, 0xfb,
   0x7c, 0xe3, 0x39, 0x82, 0x9b, 0x2f, 0xff, 0x87, 0x34, 0x8e, 0x43, 0x44, 0xc4, 0xde, 0xe9, 0xcb,
   0x54, 0x7b, 0x94, 0x32, 0xa6, 0xc2, 0x23, 0x3d, 0xee, 0x4c, 0x95, 0x0b, 0x42, 0xfa, 0xc3, 0x4e,
   0x08, 0x2e, 0xa1, 0x66, 0x28, 0xd9, 0x24, 0xb2, 0x76, 0x5b, 0xa2, 0x49, 0x6d, 0x8b, 0xd1, 0x25,
   0x72, 0xf8, 0xf6, 0x64, 0x86, 0x68, 0x98, 0x16, 0xd4, 0xa4, 0x5c, 0xcc, 0x5d, 0x65, 0xb6, 0x92,
   0x6c, 0x70, 0x48, 0x50, 0xfd, 0xed, 0xb9, 0xda, 0x5e, 0x15, 0x46, 0x57, 0xa7, 0x8d, 0x9d, 0x84,
   0x90, 0xd8, 0xab, 0x00, 0x8c, 0xbc, 0xd3, 0x0a, 0xf7, 0xe4, 0x58, 0x05, 0xb8, 0xb3, 0x45, 0x06,
   0xd0, 0x2c, 0x1e, 0x8f, 0xca, 0x3f, 0x0f, 0x02, 0xc1, 0xaf, 0xbd, 0x03, 0x01, 0x13, 0x8a, 0x6b,
   0x3a, 0x91, 0x11, 0x41, 0x4f, 0x67, 0xdc, 0xea, 0x97, 0xf2, 0xcf, 0xce, 0xf0, 0xb4, 0xe6, 0x73,
   0x96, 0xac, 0x74, 0x22, 0xe7, 0xad, 0x35, 0x85, 0xe2, 0xf9, 0x37, 0xe8, 0x1c, 0x75, 0xdf, 0x6e,
   0x47, 0xf1, 0x1a, 0x71, 0x1d, 0x29, 0xc5, 0x89, 0x6f, 0xb7, 0x62, 0x0e, 0xaa, 0x18, 0xbe, 0x1b,
   0xfc, 0x56, 0x3e, 0x4b, 0xc6, 0xd2, 0x79, 0x20, 0x9a, 0xdb, 0xc0, 0xfe, 0x78, 0xcd, 0x5a, 0xf4,
   0x1f, 0xdd, 0xa8, 0x33, 0x88, 0x07, 0xc7, 0x31, 0xb1, 0x12, 0x10, 0x59, 0x27, 0x80, 0xec, 0x5f,
   0x60, 0x51, 0x7f, 0xa9, 0x19, 0xb5, 0x4a, 0x0d, 0x2d, 0xe5, 0x7a, 0x9f, 0x93, 0xc9, 0x9c, 0xef,
   0xa0, 0xe0, 0x3b, 0x4d, 0xae, 0x2a, 0xf5, 0xb0, 0xc8, 0xeb, 0xbb, 0x3c, 0x83, 0x53, 0x99, 0x61,
   0x17, 0x2b, 0x04, 0x7e, 0xba, 0x77, 0xd6, 0x26, 0xe1, 0x69, 0x14, 0x63, 0x55, 0x21, 0x0c, 0x7d]

/-- The byte with the substitute given. -/
def resubstitute (byte : UInt8) : UInt8 := resubstitution.getD byte.toNat 0

theorem map_resubstitute :
    substitution.toList.map resubstitute = (List.range 256).map UInt8.ofNat := by
  decide +kernel

theorem size_substitution : substitution.size = 256 := by
  have hlength := congrArg List.length map_resubstitute
  rwa [List.length_map, Array.length_toList, List.length_map, List.length_range] at hlength

theorem resubstitute_substitute (byte : UInt8) : resubstitute (substitute byte) = byte := by
  have hlt : byte.toNat < 256 := byte.toNat_lt
  have hsize : byte.toNat < substitution.size := by
    rw [size_substitution]
    exact hlt
  have hrow : (substitution.toList.map resubstitute)[byte.toNat]? = some byte := by
    rw [map_resubstitute, List.getElem?_map, List.getElem?_range hlt, Option.map_some,
      UInt8.ofNat_toNat]
  rw [List.getElem?_map, Array.getElem?_toList, Array.getElem?_eq_getElem hsize,
    Option.map_some] at hrow
  rw [substitute, Array.getD, dif_pos hsize]
  exact Option.some.inj hrow

/-- Row `r` of the state moves `r` columns to the right. -/
def unshiftRows (state : Bytes) : Bytes :=
  (List.range 16).map fun i => state.getD ((13 * i) % 16) 0

theorem unshiftRows_shiftRows {state : Bytes} (h : state.length = blockLen) :
    unshiftRows (shiftRows state) = state := by
  refine List.ext_getElem (by rw [unshiftRows, List.length_map, List.length_range, h, blockLen]) ?_
  intro i hi hi'
  have hlt : i < 16 := by rw [h] at hi'; exact hi'
  have hback : 5 * (13 * i % 16) % 16 = i := by omega
  have hrow : 13 * i % 16 < 16 := Nat.mod_lt _ (by decide)
  simp [unshiftRows, shiftRows, hrow, hback, hi']

/-- Columns that are mixed four times are as they were, so three times undo one. -/
def unmixColumns (state : Bytes) : Bytes := mixColumns (mixColumns (mixColumns state))

/-- What two mixings add to a byte depends on its row's parity only. -/
theorem mixColumns_mixColumns (a b c d : UInt8) (rest : Bytes) :
    mixColumns (mixColumns (a :: b :: c :: d :: rest)) =
      (a ^^^ double (double (a ^^^ c))) :: (b ^^^ double (double (b ^^^ d))) ::
      (c ^^^ double (double (a ^^^ c))) :: (d ^^^ double (double (b ^^^ d))) ::
        mixColumns (mixColumns rest) := by
  rw [mixColumns, mixColumns]
  simp only [double_xor, UInt8.xor_assoc, UInt8.xor_comm, xor_left_comm, UInt8.xor_self,
    xor_cancel_left, UInt8.zero_xor]

theorem unmixColumns_mixColumns {state : Bytes} (h : state.length % 4 = 0) :
    unmixColumns (mixColumns state) = state := by
  -- The sum two mixings depend on is not changed by them, so four add everything twice.
  have hsum : ∀ a c u : UInt8, a ^^^ u ^^^ (c ^^^ u) = a ^^^ c := by
    intro a c u
    rw [UInt8.xor_comm c, ← UInt8.xor_assoc, xor_cancel_right]
  rw [unmixColumns]
  fun_induction mixColumns state with
  | case1 a b c d rest ih =>
    simp only [List.length_cons] at h
    have hrest := ih (by omega)
    rw [← mixColumns, mixColumns_mixColumns, mixColumns_mixColumns, hrest]
    simp only [hsum, xor_cancel_right]
  | case2 state hshort =>
    rcases state with _ | ⟨a, _ | ⟨b, _ | ⟨c, _ | ⟨d, rest⟩⟩⟩⟩
    · rfl
    · simp at h
    · simp at h
    · simp at h
    · exact (hshort a b c d rest rfl).elim

/-- The rounds under the keys given, undone from the last one on. -/
def unrounds : List Bytes → Bytes → Bytes
  | [], state => state
  | [key], state => (unshiftRows (xor state key)).map resubstitute
  | key :: more, state =>
    (unshiftRows (unmixColumns (xor (unrounds more state) key))).map resubstitute

/-- A block deciphered under a key. -/
def decryptBlock (key block : Bytes) : Bytes :=
  match expand 10 1 key with
  | [] => block
  | first :: more => xor (unrounds more block) first

theorem map_resubstitute_substitute (state : Bytes) :
    (state.map substitute).map resubstitute = state := by
  induction state with
  | nil => rfl
  | cons byte rest ih => rw [List.map_cons, List.map_cons, resubstitute_substitute, ih]

theorem unrounds_rounds {keys : List Bytes} {state : Bytes}
    (hkeys : ∀ key ∈ keys, key.length = blockLen) (h : state.length = blockLen) :
    unrounds keys (rounds keys state) = state := by
  induction keys generalizing state with
  | nil => rfl
  | cons key more ih =>
    have hkey := hkeys key List.mem_cons_self
    have hshift : (shiftRows (state.map substitute)).length = blockLen := length_shiftRows _
    have hrow : unshiftRows (shiftRows (state.map substitute)) = state.map substitute :=
      unshiftRows_shiftRows (by rw [List.length_map, h])
    cases more with
    | nil =>
      rw [rounds, unrounds, xor_xor (by rw [hshift, hkey]), hrow, map_resubstitute_substitute]
    | cons next more =>
      have hmix : (mixColumns (shiftRows (state.map substitute))).length = blockLen := by
        rw [length_mixColumns] <;> rw [hshift, blockLen]
      show (unshiftRows (unmixColumns
        (xor (unrounds (next :: more) (rounds (next :: more) _)) key))).map resubstitute = state
      rw [ih (fun other hother => hkeys other (List.mem_cons_of_mem key hother))
        (length_xor hmix hkey), xor_xor (by rw [hmix, hkey]),
        unmixColumns_mixColumns (by rw [hshift, blockLen]), hrow, map_resubstitute_substitute]

/-- What is deciphered under the key it was enciphered under is as it was. -/
theorem decryptBlock_encryptBlock {key block : Bytes} (hkey : key.length = blockLen)
    (h : block.length = blockLen) : decryptBlock key (encryptBlock key block) = block := by
  rw [decryptBlock, encryptBlock]
  cases hexpand : expand 10 1 key with
  | nil => rfl
  | cons first more =>
    have hlen : ∀ round ∈ first :: more, round.length = blockLen := by
      intro round hround
      exact length_of_mem_expand hkey (hexpand ▸ hround)
    have hfirst := hlen first List.mem_cons_self
    show xor (unrounds more (rounds more (xor block first))) first = block
    rw [unrounds_rounds (fun round hround => hlen round (List.mem_cons_of_mem first hround))
      (length_xor h hfirst), xor_xor (by rw [h, hfirst])]

end Aes

/-! ## Messages -/

namespace Cbc

theorem flatten_blocks {count : Nat} {message : Bytes}
    (h : message.length = count * Aes.blockLen) : (blocks count message).flatten = message := by
  induction count generalizing message with
  | zero =>
    rw [Nat.zero_mul] at h
    rw [List.length_eq_zero_iff.mp h]
    rfl
  | succ count ih =>
    rw [Nat.succ_mul] at h
    have hrest : (message.drop Aes.blockLen).length = count * Aes.blockLen := by
      rw [List.length_drop]
      omega
    rw [blocks, List.flatten_cons, ih hrest, List.take_append_drop]

/-- Blocks put together are the blocks of the whole. -/
theorem blocks_flatten {parts : List Bytes} (h : ∀ part ∈ parts, part.length = Aes.blockLen) :
    blocks parts.length parts.flatten = parts := by
  induction parts with
  | nil => rfl
  | cons part rest ih =>
    have hpart := h part List.mem_cons_self
    rw [List.length_cons, List.flatten_cons, blocks, List.take_left' hpart, List.drop_left' hpart,
      ih fun other hother => h other (List.mem_cons_of_mem part hother)]

section Inverse

variable {cipher decipher : Bytes → Bytes}
  (hcipher : ∀ block : Bytes, block.length = Aes.blockLen →
    (cipher block).length = Aes.blockLen)
  (hinverse : ∀ block : Bytes, block.length = Aes.blockLen → decipher (cipher block) = block)
include hcipher

theorem chain_whole {previous : Bytes} {parts : List Bytes}
    (hprevious : previous.length = Aes.blockLen)
    (hparts : ∀ part ∈ parts, part.length = Aes.blockLen) :
    (chain cipher previous parts).length = parts.length ∧
      ∀ block ∈ chain cipher previous parts, block.length = Aes.blockLen := by
  induction parts generalizing previous with
  | nil => exact ⟨rfl, fun _ hmem => absurd hmem List.not_mem_nil⟩
  | cons part rest ih =>
    have hsealed := hcipher _ (Aes.length_xor (hparts part List.mem_cons_self) hprevious)
    obtain ⟨hlen, hblocks⟩ :=
      ih hsealed fun other hother => hparts other (List.mem_cons_of_mem part hother)
    refine ⟨by rw [chain, List.length_cons, List.length_cons, hlen], ?_⟩
    intro block hblock
    rcases List.mem_cons.mp hblock with rfl | hlater
    · exact hsealed
    · exact hblocks block hlater

include hinverse

/-- Every block is combined with the same one in both directions. -/
theorem unchain_chain {previous : Bytes} {parts : List Bytes}
    (hprevious : previous.length = Aes.blockLen)
    (hparts : ∀ part ∈ parts, part.length = Aes.blockLen) :
    unchain decipher previous (chain cipher previous parts) = parts := by
  induction parts generalizing previous with
  | nil => rfl
  | cons part rest ih =>
    have hpart := hparts part List.mem_cons_self
    have hmixed := Aes.length_xor hpart hprevious
    rw [chain, unchain, hinverse _ hmixed, Aes.xor_xor (by rw [hpart, hprevious]),
      ih (hcipher _ hmixed) fun other hother => hparts other (List.mem_cons_of_mem part hother)]

/-- A message of whole blocks comes back, whatever cipher it went through. -/
theorem decrypt_encrypt {initial message : Bytes} (hinitial : initial.length = Aes.blockLen)
    (h : message.length % Aes.blockLen = 0) :
    decrypt decipher initial (encrypt cipher initial message) = message := by
  have hwhole : message.length = message.length / Aes.blockLen * Aes.blockLen :=
    (Nat.div_mul_cancel (Nat.dvd_of_mod_eq_zero h)).symm
  obtain ⟨hcount, hparts⟩ := blocks_whole hwhole
  obtain ⟨hsealed, hblocks⟩ := chain_whole hcipher hinitial hparts
  have hback := blocks_flatten hblocks
  rw [hsealed, hcount] at hback
  rw [decrypt, length_encrypt hcipher hinitial h, encrypt, hback,
    unchain_chain hcipher hinverse hinitial hparts, flatten_blocks hwhole]

end Inverse

/-- What was enciphered under AES-128 comes back under the same key. -/
theorem decrypt_of_encryptAes {key initial message ciphertext : Bytes}
    (h : encryptAes key initial message = some ciphertext) :
    ciphertext.length = message.length ∧
      decrypt (Aes.decryptBlock key) initial ciphertext = message := by
  rw [encryptAes] at h
  split at h
  · next hfits =>
    obtain ⟨hkey, hinitial, hwhole⟩ := hfits
    obtain rfl := Option.some.inj h
    have hlength : ∀ block : Bytes, block.length = Aes.blockLen →
        (Aes.encryptBlock key block).length = Aes.blockLen :=
      fun _ hblock => Aes.length_encryptBlock hkey hblock
    exact ⟨length_encrypt hlength hinitial hwhole, decrypt_encrypt hlength
      (fun _ hblock => Aes.decryptBlock_encryptBlock hkey hblock) hinitial hwhole⟩
  · cases h

example :
    decrypt
      (Aes.decryptBlock
        [0x2b, 0x7e, 0x15, 0x16, 0x28, 0xae, 0xd2, 0xa6, 0xab, 0xf7, 0x15, 0x88,
         0x09, 0xcf, 0x4f, 0x3c])
      ((List.range 16).map Nat.toUInt8)
      [0xdd, 0x68, 0x57, 0x14, 0xca, 0x68, 0x40, 0x80, 0x0c, 0x8c, 0x7f, 0x8f,
       0xec, 0x0f, 0x28, 0x3b]
      = [0x7b, 0x22, 0x73, 0x65, 0x71, 0x22, 0x3a, 0x31, 0x2c, 0x22, 0x75, 0x70,
         0x74, 0x69, 0x6d, 0x65] := by
  decide +kernel

end Cbc

end SealedLog
