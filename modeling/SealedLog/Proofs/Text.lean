import Mathlib.Algebra.Group.Nat.Defs
import Mathlib.Data.List.Basic
import SealedLog.Bytes
import SealedLog.Text.Decimal

/-!
# Texts as bytes, and back

The spellings that stored texts are made of read back as what was spelled.

- `ofUtf8?_utf8`: a text is spelled by its bytes.
- `Hex.decode_encode`: two digits per byte stand for that byte.
- `Decimal.value_digits`: the digits of a number stand for that number; `Decimal.digits_shape`
  says that none of them is superfluous, and `Decimal.length_digits_le_iff` how many there are.
-/

namespace SealedLog

/-! ## Text -/

/-- The loop behind `ByteArray.toList`, from the middle on. -/
theorem toList_loop (bytes : ByteArray) (i : Nat) (found : List UInt8) :
    ByteArray.toList.loop bytes i found = found.reverse ++ bytes.data.toList.drop i := by
  fun_induction ByteArray.toList.loop bytes i found with
  | case1 i found h ih =>
    have hi : i < bytes.data.toList.length := by simpa using h
    have hget : bytes.get! i = bytes.data.toList[i] := by
      show bytes.data[i]! = _
      rw [getElem!_pos bytes.data i h, Array.getElem_toList]
    rw [ih, List.drop_eq_getElem_cons hi, hget, List.reverse_cons, List.append_assoc]
    rfl
  | case2 i found h =>
    have hi : bytes.data.toList.length ≤ i := by
      rw [Array.length_toList]
      exact Nat.le_of_not_lt h
    rw [List.drop_eq_nil_of_le hi, List.append_nil]

theorem toList_eq (bytes : ByteArray) : bytes.toList = bytes.data.toList :=
  toList_loop bytes 0 []

/-- The bytes of a text are those of its characters in turn. -/
theorem utf8_ofList (chars : List Char) :
    utf8 (String.ofList chars) = chars.flatMap String.utf8EncodeChar := by
  show (String.ofList chars).toUTF8.toList = _
  rw [toList_eq, String.toUTF8_eq_toByteArray, String.toByteArray_ofList, List.utf8Encode,
    List.toList_data_toByteArray]

/-- Bytes that spell a text spell that text only. -/
@[simp] theorem ofUtf8?_utf8 (text : String) : ofUtf8? (utf8 text) = some text := by
  have hbytes : (⟨(utf8 text).toArray⟩ : ByteArray) = text.toByteArray := by
    show (⟨text.toUTF8.toList.toArray⟩ : ByteArray) = _
    rw [toList_eq, Array.toArray_toList, String.toUTF8_eq_toByteArray]
  show String.fromUTF8? _ = _
  rw [hbytes, String.fromUTF8?, dif_pos text.isValidUTF8]
  rfl

theorem utf8_injective {text text' : String} (h : utf8 text = utf8 text') : text = text' := by
  have := congrArg ofUtf8? h
  simpa using this

/-- A character that is a single byte. -/
def IsAscii (c : Char) : Prop := c.toNat < 128

/-- The byte of such a character. -/
def asciiByte (c : Char) : UInt8 := c.toNat.toUInt8

theorem utf8EncodeChar_ascii {c : Char} (h : IsAscii c) :
    String.utf8EncodeChar c = [asciiByte c] := by
  have hval : c.val.toNat < 128 := h
  have hsize : c.utf8Size = 1 := by
    have : c.val ≤ 0x7f := UInt32.le_iff_toNat_le.mpr (Nat.le_of_lt_succ hval)
    simp [Char.utf8Size, this]
  rw [String.utf8EncodeChar_eq_singleton hsize]
  rfl

theorem utf8_ascii {chars : List Char} (h : ∀ c ∈ chars, IsAscii c) :
    utf8 (String.ofList chars) = chars.map asciiByte := by
  rw [utf8_ofList]
  induction chars with
  | nil => rfl
  | cons c rest ih =>
    rw [List.flatMap_cons, utf8EncodeChar_ascii (h c List.mem_cons_self),
      ih fun d hd => h d (List.mem_cons_of_mem c hd)]
    rfl

/-! ## Hexadecimal -/

namespace Hex

theorem isAscii_digit {value : Nat} (h : value < 16) : IsAscii (digit value) := by
  have all : ∀ value < 16, (digit value).toNat < 128 := by decide
  exact all value h

theorem value?_digit {value : Nat} (h : value < 16) :
    value? (asciiByte (digit value)) = some value := by
  have all : ∀ value < 16, value? (asciiByte (digit value)) = some value := by decide
  exact all value h

theorem high_lt (byte : UInt8) : byte.toNat / 16 < 16 := by
  have := byte.toNat_lt
  omega

theorem low_lt (byte : UInt8) : byte.toNat % 16 < 16 := Nat.mod_lt _ (by decide)

/-- The two digits of a byte as bytes. -/
def pairBytes (byte : UInt8) : Bytes :=
  [asciiByte (digit (byte.toNat / 16)), asciiByte (digit (byte.toNat % 16))]

theorem utf8_encode (bytes : Bytes) : utf8 (encode bytes) = bytes.flatMap pairBytes := by
  have hascii : ∀ c ∈ chars bytes, IsAscii c := by
    intro c hc
    obtain ⟨byte, -, hc⟩ := List.mem_flatMap.mp hc
    simp only [pair, List.mem_cons, List.not_mem_nil, or_false] at hc
    rcases hc with rfl | rfl
    · exact isAscii_digit (high_lt byte)
    · exact isAscii_digit (low_lt byte)
  rw [encode, utf8_ascii hascii, chars, List.map_flatMap]
  rfl

theorem length_utf8_encode (bytes : Bytes) : (utf8 (encode bytes)).length = 2 * bytes.length := by
  rw [utf8_encode]
  induction bytes with
  | nil => rfl
  | cons byte rest ih =>
    rw [List.flatMap_cons, List.length_append, ih, List.length_cons]
    show 2 + 2 * rest.length = _
    omega

/-- Digit pairs are read one after the other, wherever they stand. -/
theorem decodePairs_pairBytes (position : Nat) (bytes : Bytes) :
    decodePairs position (bytes.flatMap pairBytes) = .ok bytes := by
  induction bytes generalizing position with
  | nil => rfl
  | cons byte rest ih =>
    have hbyte : UInt8.ofNat (16 * (byte.toNat / 16) + byte.toNat % 16) = byte := by
      rw [Nat.div_add_mod, UInt8.ofNat_toNat]
    rw [List.flatMap_cons]
    show decodePairs position (_ :: _ :: rest.flatMap pairBytes) = _
    rw [decodePairs]
    simp only [value?_digit (high_lt byte), value?_digit (low_lt byte), hbyte, ih]
    rfl

/-- The hexadecimal spelling of a byte string stands for that byte string. -/
@[simp] theorem decode_encode (bytes : Bytes) : decode (utf8 (encode bytes)) = .ok bytes := by
  have heven : ¬ (utf8 (encode bytes)).length % 2 = 1 := by
    rw [length_utf8_encode]
    omega
  rw [decode, if_neg heven, utf8_encode, decodePairs_pairBytes]

end Hex

/-! ## Decimal numerals -/

namespace Decimal

theorem asciiByte_digit {value : Nat} (h : value < 10) :
    (asciiByte (digit value)).toNat = 48 + value := by
  have all : ∀ value < 10, (asciiByte (digit value)).toNat = 48 + value := by decide
  exact all value h

theorem value?_digit {value : Nat} (h : value < 10) : value? (digit value) = some value := by
  have all : ∀ value < 10, value? (digit value) = some value := by decide
  exact all value h

theorem isAscii_digit {value : Nat} (h : value < 10) : IsAscii (digit value) := by
  have all : ∀ value < 10, (digit value).toNat < 128 := by decide
  exact all value h

/-- The digits of a number: a single one, or those of its tens and one more. -/
theorem digits_lt {n : Nat} (h : n < 10) : digits n = [digit n] := by
  rw [digits, if_pos h]

theorem digits_ge {n : Nat} (h : 10 ≤ n) : digits n = digits (n / 10) ++ [digit (n % 10)] := by
  rw [digits, if_neg (Nat.not_lt.mpr h)]

/-- Every character of a numeral is a digit. -/
theorem mem_digits {n : Nat} {c : Char} (h : c ∈ digits n) : ∃ value < 10, c = digit value := by
  induction n using digits.induct with
  | case1 n hn =>
    rw [digits_lt hn, List.mem_singleton] at h
    exact ⟨n, hn, h⟩
  | case2 n hn ih =>
    rw [digits_ge (Nat.not_lt.mp hn), List.mem_append, List.mem_singleton] at h
    rcases h with h | h
    · exact ih h
    · exact ⟨n % 10, Nat.mod_lt _ (by decide), h⟩

/-- A numeral has a first digit, which is zero only if the numeral is that zero alone. -/
theorem digits_shape (n : Nat) :
    (n = 0 ∧ digits n = [digit 0]) ∨
      ∃ value rest, 0 < value ∧ value < 10 ∧ digits n = digit value :: rest := by
  induction n using digits.induct with
  | case1 n hn =>
    rw [digits_lt hn]
    rcases Nat.eq_zero_or_pos n with rfl | hpos
    · exact .inl ⟨rfl, rfl⟩
    · exact .inr ⟨n, [], hpos, hn, rfl⟩
  | case2 n hn ih =>
    rw [digits_ge (Nat.not_lt.mp hn)]
    rcases ih with ⟨hzero, -⟩ | ⟨value, rest, hpos, hlt, hrest⟩
    · omega
    · exact .inr ⟨value, rest ++ [digit (n % 10)], hpos, hlt, by rw [hrest]; rfl⟩

theorem digits_ne_nil (n : Nat) : digits n ≠ [] := by
  rcases digits_shape n with ⟨-, h⟩ | ⟨_, _, -, -, h⟩ <;> rw [h] <;> exact List.cons_ne_nil _ _

theorem length_digits_pos (n : Nat) : 0 < (digits n).length :=
  List.length_pos_iff.mpr (digits_ne_nil n)

/-- So many digits are enough for the numbers below that power of ten, and for no others. -/
theorem length_digits_le_iff {n count : Nat} (hcount : 0 < count) :
    (digits n).length ≤ count ↔ n < 10 ^ count := by
  induction count generalizing n with
  | zero => exact absurd hcount (Nat.lt_irrefl 0)
  | succ count ih =>
    have hpow : 10 ≤ 10 ^ (count + 1) := Nat.le_self_pow (Nat.succ_ne_zero count) 10
    rcases Nat.lt_or_ge n 10 with hlt | hge
    · rw [digits_lt hlt, List.length_singleton]
      exact iff_of_true (Nat.succ_pos count) (Nat.lt_of_lt_of_le hlt hpow)
    · rw [digits_ge hge, List.length_append, List.length_singleton, Nat.add_le_add_iff_right,
        Nat.pow_succ]
      rcases Nat.eq_zero_or_pos count with rfl | hpos
      · have := length_digits_pos (n / 10)
        omega
      · rw [ih hpos, Nat.div_lt_iff_lt_mul (by decide)]

/-- What was read of a first part is the start for the rest. -/
theorem readWith_append {base : Nat} {digitValue : Char → Option Nat} (start : Nat)
    (text more : List Char) :
    readWith base digitValue start (text ++ more)
      = (readWith base digitValue start text).bind fun n => readWith base digitValue n more := by
  induction text generalizing start with
  | nil => rfl
  | cons c rest ih =>
    rw [List.cons_append, readWith, readWith]
    cases digitValue c with
    | none => rfl
    | some d => exact ih _

/-- The decimal digits of a number are read by whatever reads each of them. -/
theorem readWith_digits {digitValue : Char → Option Nat}
    (hdigit : ∀ value < 10, digitValue (digit value) = some value) (n : Nat) :
    readWith 10 digitValue 0 (digits n) = some n := by
  induction n using digits.induct with
  | case1 n hn =>
    rw [digits_lt hn, readWith, hdigit n hn]
    show some (10 * 0 + n) = some n
    rw [Nat.mul_zero, Nat.zero_add]
  | case2 n hn ih =>
    rw [digits_ge (Nat.not_lt.mp hn), readWith_append, ih, Option.bind_some, readWith,
      hdigit _ (Nat.mod_lt _ (by decide))]
    show some (10 * (n / 10) + n % 10) = some n
    rw [Nat.div_add_mod]

/-- The decimal spelling of a number stands for that number. -/
@[simp] theorem value_digits (n : Nat) : value (digits n) = some n := by
  have hne : (digits n).isEmpty = false := by
    rw [List.isEmpty_eq_false_iff]
    exact digits_ne_nil n
  rw [value, hne]
  exact readWith_digits (fun _ hlt => value?_digit hlt) n

theorem utf8_write (n : Nat) : utf8 (write n) = (digits n).map asciiByte := by
  refine utf8_ascii fun c hc => ?_
  obtain ⟨value, hlt, rfl⟩ := mem_digits hc
  exact isAscii_digit hlt

end Decimal

end SealedLog
