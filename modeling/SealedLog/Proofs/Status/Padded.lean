import Mathlib.Data.List.DropRight
import SealedLog.Proofs.Json.Fields
import SealedLog.Proofs.Json.Printing
import SealedLog.Sealer
import SealedLog.Status

/-!
# Status messages in their blocks

A block does not say how long the message in it is. The zeros at its end can be cut off, and what is
left is the message, unless the message ends in a zero itself. A status message ends in a brace. So
it is found again in its block, and both of its numbers are read from it.

- `Sealer.trimmed`: a block without the zeros at its end.
- `Sealer.trimmed_of_pad_iff`: the messages that are found again in their blocks.
- `StatusMessage.decode?_encode`: a status message is read from its bytes.
- `StatusMessage.read_of_pad`: it is read from its block, and from no other message's.
-/

namespace SealedLog

/-! ## Blocks -/

namespace Sealer

variable {message block : Bytes} {blockLen : Nat}

/-- A block without the zeros at its end. -/
def trimmed (block : Bytes) : Bytes := block.rdropWhile (· = 0)

theorem pad_eq_ok_iff : pad message blockLen = .ok (.ok block) ↔
    message.length ≤ blockLen ∧ blockLen ≤ capacityMax ∧
      block = message ++ List.replicate (blockLen - message.length) 0 := by
  rcases Nat.lt_or_ge blockLen message.length with hlong | hfits
  · rw [pad, if_pos hlong]
    exact ⟨nofun, fun h => absurd h.1 (Nat.not_le.mpr hlong)⟩
  rcases Nat.lt_or_ge capacityMax blockLen with hhuge | hroom
  · rw [pad, if_neg (Nat.not_lt.mpr hfits), if_pos hhuge]
    exact ⟨nofun, fun h => absurd h.2.1 (Nat.not_le.mpr hhuge)⟩
  · rw [pad, if_neg (Nat.not_lt.mpr hfits), if_neg (Nat.not_lt.mpr hroom), Except.ok.injEq,
      Except.ok.injEq, eq_comm]
    exact ⟨fun h => ⟨hfits, hroom, h⟩, fun h => h.2.2⟩

/-- More zeros at the end make no difference. -/
theorem trimmed_zeros (message : Bytes) (count : Nat) :
    trimmed (message ++ List.replicate count 0) = trimmed message := by
  induction count with
  | zero => rw [List.replicate_zero, List.append_nil]
  | succ count ih =>
    rw [List.replicate_succ', ← List.append_assoc, trimmed,
      List.rdropWhile_concat_pos _ _ _ (by decide)]
    exact ih

theorem trimmed_eq_self_iff : trimmed message = message ↔ message.getLast? ≠ some 0 := by
  rw [trimmed, List.rdropWhile_eq_self_iff]
  rcases List.eq_nil_or_concat' message with rfl | ⟨init, last, rfl⟩
  · simp
  · simp

/-- A message is found again in its block exactly if it does not end in a zero. -/
theorem trimmed_of_pad_iff (h : pad message blockLen = .ok (.ok block)) :
    trimmed block = message ↔ message.getLast? ≠ some 0 := by
  obtain ⟨-, -, rfl⟩ := pad_eq_ok_iff.mp h
  rw [trimmed_zeros, trimmed_eq_self_iff]

end Sealer

/-! ## Status messages -/

namespace StatusMessage

/-- The names of the two parts are different. -/
theorem nodup_names : ["seq", "uptime_ms"].Nodup := by decide

theorem plain_document (message : StatusMessage) : Json.Plain message.document := by
  refine .object fun member hmember => ?_
  simp only [List.mem_cons, List.not_mem_nil, or_false] at hmember
  rcases hmember with rfl | rfl
  · exact .natural _
  · exact .natural _

/-- A document holds the message it was made of: no number is too large for its part. -/
theorem ofDocument?_document (message : StatusMessage) :
    ofDocument? message.document = some message := by
  have hfields : message.document.fields ["seq", "uptime_ms"]
      = some ⟨false, [some (.ofNat message.seq.toNat), some (.ofNat message.uptimeMs.toNat)]⟩ :=
    Json.fields_record ["seq", "uptime_ms"]
      [.ofNat message.seq.toNat, .ofNat message.uptimeMs.toNat] rfl nodup_names
  have hseq : Json.natural? UInt32.size (.ofNat message.seq.toNat) = some message.seq.toNat :=
    Json.natural?_ofNat message.seq.toNat_lt_size
  have huptime : Json.natural? UInt64.size (.ofNat message.uptimeMs.toNat)
      = some message.uptimeMs.toNat :=
    Json.natural?_ofNat message.uptimeMs.toNat_lt_size
  simp only [ofDocument?, hfields, hseq, huptime, Option.bind_eq_bind, Option.bind_some,
    UInt32.ofNat_toNat, UInt64.ofNat_toNat]
  rfl

/-- A status message is read from its bytes. -/
theorem decode?_encode (message : StatusMessage) : decode? message.encode = some message := by
  rw [decode?, encode, message.plain_document.read_compact, Option.bind_some, ofDocument?_document]

/-- Its last byte is a brace. -/
theorem getLast?_encode (message : StatusMessage) : message.encode.getLast? = some 125 := by
  rw [encode, document, Json.compact, ← List.cons_append, List.getLast?_concat]

/-- A status message that fits into a block is found again when the zeros at the end of the block
are cut off, and its numbers are read from what is left. Other messages have other blocks. A block
that cannot be made is the end. -/
theorem read_of_pad (message : StatusMessage) (blockLen : Nat)
    (hfits : message.encode.length ≤ blockLen) :
    (blockLen ≤ Sealer.capacityMax →
      ∃ block, Sealer.pad message.encode blockLen = .ok (.ok block) ∧ block.length = blockLen ∧
        Sealer.trimmed block = message.encode ∧ decode? (Sealer.trimmed block) = some message ∧
        ∀ (other : StatusMessage) (otherLen : Nat),
          Sealer.pad other.encode otherLen = .ok (.ok block) → other = message) ∧
    (Sealer.capacityMax < blockLen →
      Sealer.pad message.encode blockLen = .error .capacityOverflow) := by
  have hfound : ∀ (other : StatusMessage) (otherLen : Nat) (block : Bytes),
      Sealer.pad other.encode otherLen = .ok (.ok block) →
      Sealer.trimmed block = other.encode := by
    intro other otherLen block hpad
    rw [Sealer.trimmed_of_pad_iff hpad, getLast?_encode]
    decide
  refine ⟨fun hroom => ?_, fun hhuge => ?_⟩
  · have hpad := Sealer.pad_eq_ok_iff.mpr ⟨hfits, hroom, rfl⟩
    refine ⟨_, hpad, ?_, hfound message blockLen _ hpad, ?_, ?_⟩
    · rw [List.length_append, List.length_replicate]
      omega
    · rw [hfound message blockLen _ hpad, decode?_encode]
    · intro other otherLen hother
      have hsame := (hfound other otherLen _ hother).symm.trans (hfound message blockLen _ hpad)
      have hread := (decode?_encode other).symm.trans ((congrArg decode? hsame).trans
        (decode?_encode message))
      exact Option.some.inj hread
  · rw [Sealer.pad, if_neg (Nat.not_lt.mpr hfits), if_pos hhuge]

/-- The first message of a process that has just started is read from a block of sixty-four. -/
theorem read_of_pad_first : (⟨1, 57196⟩ : StatusMessage).encode.length ≤ defaultBlockLen ∧
    ∃ block, Sealer.pad (⟨1, 57196⟩ : StatusMessage).encode defaultBlockLen = .ok (.ok block) ∧
      decode? (Sealer.trimmed block) = some ⟨1, 57196⟩ := by
  have hfits : (⟨1, 57196⟩ : StatusMessage).encode.length ≤ defaultBlockLen := by decide +kernel
  obtain ⟨block, hpad, -, -, hread, -⟩ :=
    (read_of_pad ⟨1, 57196⟩ defaultBlockLen hfits).1 (by decide)
  exact ⟨hfits, block, hpad, hread⟩

end StatusMessage

end SealedLog
