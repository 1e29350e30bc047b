import SealedLog.Proofs.Text
import SealedLog.Status

/-!
# The length of status messages

A status message is as long as its two numbers are. It grows with the clock and with the counter,
up to fifty-one bytes.

- `StatusMessage.length_encode`: the length of a message.
- `StatusMessage.le_length_encode`, `StatusMessage.length_encode_le`: the shortest and the longest.
-/

namespace SealedLog.StatusMessage

/-- A number takes as many bytes as it has digits. -/
theorem length_compact_ofNat (n : Nat) :
    (Json.ofNat n).compact.length = (Decimal.digits n).length := by
  rw [Json.ofNat, Json.compact, Decimal.utf8_write, List.length_map]

/-- Twenty-one bytes stand around the two numbers: the two names between quotes, and five marks. -/
theorem length_encode (message : StatusMessage) :
    message.encode.length = 21 + (Decimal.digits message.seq.toNat).length
      + (Decimal.digits message.uptimeMs.toNat).length := by
  have hseq : (Json.quoted (utf8 "seq")).length = 5 := by decide +kernel
  have huptime : (Json.quoted (utf8 "uptime_ms")).length = 11 := by decide +kernel
  rw [encode, document, Json.compact]
  simp only [Json.compactMembers, List.length_cons, List.length_append, List.length_nil, hseq,
    huptime, length_compact_ofNat]
  omega

/-- The shortest message has two single digits. -/
theorem le_length_encode (message : StatusMessage) : 23 ≤ message.encode.length := by
  have hseq := Decimal.length_digits_pos message.seq.toNat
  have huptime := Decimal.length_digits_pos message.uptimeMs.toNat
  rw [length_encode]
  omega

/-- The longest has ten digits of a counter, and twenty of a clock. -/
theorem length_encode_le (message : StatusMessage) : message.encode.length ≤ 51 := by
  have hseq : (Decimal.digits message.seq.toNat).length ≤ 10 :=
    (Decimal.length_digits_le_iff (by decide)).mpr
      (Nat.lt_of_lt_of_le message.seq.toNat_lt (by decide))
  have huptime : (Decimal.digits message.uptimeMs.toNat).length ≤ 20 :=
    (Decimal.length_digits_le_iff (by decide)).mpr
      (Nat.lt_of_lt_of_le message.uptimeMs.toNat_lt (by decide))
  rw [length_encode]
  omega

end SealedLog.StatusMessage
