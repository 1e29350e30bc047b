import Mathlib.Data.List.DropRight
import SealedLog.Json.Reader
import SealedLog.Proofs.Text

/-!
# Spellings of JSON documents

A document can be spelled in many ways, with blanks between its parts. This module says which
texts spell a document, and that the reader takes every one of them for that document.

- `Spells text document`: the text spells the document. Only documents whose numbers are
  naturals in plain decimal have a spelling here; these are the ones that get written.
- `read_spells`: the reader takes a spelling off the front of its input.
- `read_of_spells`: a text that is a spelling, with blanks behind it, reads as that document.
-/

namespace SealedLog.Json

/-! ## Blanks -/

/-- Nothing but blanks. -/
def Blanks (gap : Bytes) : Prop := ∀ byte ∈ gap, isBlank byte = true

theorem blanks_nil : Blanks [] := fun _ h => nomatch h

theorem skipBlanks_append {gap : Bytes} (h : Blanks gap) (rest : Bytes) :
    skipBlanks (gap ++ rest) = skipBlanks rest :=
  List.dropWhile_append_of_pos h

theorem skipBlanks_cons {byte : UInt8} (h : isBlank byte = false) (rest : Bytes) :
    skipBlanks (byte :: rest) = byte :: rest := by
  rw [skipBlanks, List.dropWhile_cons, if_neg (by rw [h]; decide)]

/-- Blanks are skipped at once, so there is nothing left to skip. -/
theorem skipBlanks_skipBlanks (input : Bytes) : skipBlanks (skipBlanks input) = skipBlanks input :=
  List.dropWhile_idempotent isBlank input

/-- A gap with one of the marks behind it is skipped up to the mark. -/
theorem skipBlanks_gap {gap : Bytes} (h : Blanks gap) (mark : UInt8)
    (hmark : isBlank mark = false) (rest : Bytes) :
    skipBlanks (gap ++ mark :: rest) = mark :: rest := by
  rw [skipBlanks_append h, skipBlanks_cons hmark]

/-- Values are read from behind the blanks, so blanks may be skipped before. -/
theorem readValue_skipBlanks (fuel : Nat) (input : Bytes) :
    readValue fuel (skipBlanks input) = readValue fuel input := by
  cases fuel with
  | zero => rfl
  | succ fuel => rw [readValue, readValue, skipBlanks_skipBlanks]

theorem readItems_skipBlanks (fuel : Nat) (input : Bytes) :
    readItems fuel (skipBlanks input) = readItems fuel input := by
  cases fuel with
  | zero => rfl
  | succ fuel => rw [readItems, readItems, readValue_skipBlanks]

theorem readMembers_skipBlanks (fuel : Nat) (input : Bytes) :
    readMembers fuel (skipBlanks input) = readMembers fuel input := by
  cases fuel with
  | zero => rfl
  | succ fuel => rw [readMembers, readMembers, skipBlanks_skipBlanks]

/-! ## Strings -/

/-- A byte between quotes stands for itself, or an escape stands for it. -/
theorem escaped_shape (byte : UInt8) :
    (escaped byte = [byte] ∧ byte ≠ 34 ∧ byte ≠ 92 ∧ ¬ byte < 32) ∨
      ∃ mark, escaped byte = 92 :: mark ∧
        ∀ rest, readEscape (mark ++ rest) = some ([byte], rest) := by
  -- The seven escapes of one letter.
  have short : ∀ (value mark : UInt8), escaped value = 92 :: [mark] →
      (∀ rest, readEscape (mark :: rest) = some ([value], rest)) → byte.toNat = value.toNat →
      ∃ mark, escaped byte = 92 :: mark ∧
        ∀ rest, readEscape (mark ++ rest) = some ([byte], rest) := by
    intro value mark hmark hread hbyte
    obtain rfl := UInt8.toNat_inj.mp hbyte
    exact ⟨[mark], hmark, hread⟩
  by_cases h34 : byte.toNat = 34
  · exact .inr (short 34 34 (by decide +kernel) (fun _ => rfl) h34)
  by_cases h92 : byte.toNat = 92
  · exact .inr (short 92 92 (by decide +kernel) (fun _ => rfl) h92)
  by_cases h8 : byte.toNat = 8
  · exact .inr (short 8 98 (by decide +kernel) (fun _ => rfl) h8)
  by_cases h9 : byte.toNat = 9
  · exact .inr (short 9 116 (by decide +kernel) (fun _ => rfl) h9)
  by_cases h10 : byte.toNat = 10
  · exact .inr (short 10 110 (by decide +kernel) (fun _ => rfl) h10)
  by_cases h12 : byte.toNat = 12
  · exact .inr (short 12 102 (by decide +kernel) (fun _ => rfl) h12)
  by_cases h13 : byte.toNat = 13
  · exact .inr (short 13 114 (by decide +kernel) (fun _ => rfl) h13)
  by_cases h32 : byte.toNat < 32
  · -- The other control characters go by their number.
    refine .inr ⟨117 :: 48 :: 48 :: Hex.pairBytes byte, ?_, fun rest => ?_⟩
    · have htext : utf8 ("\\u00" ++ Hex.encode [byte])
          = utf8 "\\u00" ++ utf8 (Hex.encode [byte]) := by
        have hsplit : "\\u00" ++ Hex.encode [byte]
            = String.ofList ("\\u00".toList ++ (Hex.encode [byte]).toList) := by
          rw [String.ofList_append, String.ofList_toList, String.ofList_toList]
        rw [hsplit, utf8_ofList, List.flatMap_append, ← utf8_ofList, ← utf8_ofList,
          String.ofList_toList, String.ofList_toList]
      have hu : utf8 "\\u00" = [92, 117, 48, 48] := by decide +kernel
      simp only [escaped, h34, h92, h8, h9, h10, h12, h13, h32, if_false, if_true]
      rw [htext, hu, Hex.utf8_encode]
      rfl
    · have hunit : readUnit (48 :: 48 :: (Hex.pairBytes byte ++ rest))
          = some (byte.toNat, rest) := by
        have hzero : Hex.value? 48 = some 0 := by decide
        show (readUnit (48 :: 48 :: _ :: _ :: rest)) = _
        simp only [readUnit, hzero, Hex.value?_digit (Hex.high_lt byte),
          Hex.value?_digit (Hex.low_lt byte)]
        show some (((16 * 0 + 0) * 16 + byte.toNat / 16) * 16 + byte.toNat % 16, rest) = _
        congr 2
        omega
      show (readUnit (48 :: 48 :: (Hex.pairBytes byte ++ rest))).bind _ = _
      rw [hunit, Option.bind_some]
      have hplain : ¬ (0xD800 ≤ byte.toNat ∧ byte.toNat < 0xDC00) := by omega
      have hsmall : byte.toNat < 0x80 := by omega
      simp only [readPair, if_neg hplain, codePointBytes, if_pos hsmall, UInt8.ofNat_toNat]
  · refine .inl ⟨?_, ?_, ?_, ?_⟩
    · simp only [escaped, h34, h92, h8, h9, h10, h12, h13, h32, if_false]
    · rintro rfl
      exact h34 rfl
    · rintro rfl
      exact h92 rfl
    · exact fun h => h32 (UInt8.lt_iff_toNat_lt.mp h)

/-- One byte of a string is read back, however it is spelled. -/
theorem readString_escaped (byte : UInt8) (fuel : Nat) (input : Bytes) :
    readString (fuel + 1) (escaped byte ++ input)
      = (readString fuel input).map fun (more, rest) => (byte :: more, rest) := by
  rcases escaped_shape byte with ⟨hplain, h34, h92, h32⟩ | ⟨mark, hmark, hread⟩
  · rw [hplain]
    show readString (fuel + 1) (byte :: input) = _
    rw [readString]
    simp only [if_neg h34, if_neg h92, if_neg h32]
    cases readString fuel input <;> rfl
  · rw [hmark]
    show readString (fuel + 1) (92 :: (mark ++ input)) = _
    have hquote : ¬ (92 : UInt8) = 34 := by decide
    rw [readString]
    simp only [if_neg hquote, if_true, hread, Option.bind_eq_bind, Option.bind_some]
    cases readString fuel input <;> rfl

/-- A string up to its closing quote is read back. -/
theorem readString_quoted (bytes rest : Bytes) {fuel : Nat} (h : bytes.length < fuel) :
    readString fuel (bytes.flatMap escaped ++ 34 :: rest) = some (bytes, rest) := by
  induction bytes generalizing fuel with
  | nil =>
    obtain ⟨fuel, rfl⟩ := Nat.exists_eq_add_of_lt h
    rw [readString.eq_def]
    rfl
  | cons byte more ih =>
    cases fuel with
    | zero => exact absurd h (Nat.not_lt_zero _)
    | succ fuel =>
      rw [List.flatMap_cons, List.append_assoc, readString_escaped,
        ih (Nat.lt_of_succ_lt_succ h)]
      rfl

theorem length_le_flatMap_escaped (bytes : Bytes) :
    bytes.length ≤ (bytes.flatMap escaped).length := by
  induction bytes with
  | nil => exact Nat.le_refl _
  | cons byte more ih =>
    have hpos : 1 ≤ (escaped byte).length := by
      rcases escaped_shape byte with ⟨h, -⟩ | ⟨mark, h, -⟩ <;> rw [h] <;> simp
    rw [List.flatMap_cons, List.length_append, List.length_cons]
    omega

/-- A quoted string is read back with the fuel that the reader gives it. -/
theorem readString_of_quoted (bytes rest : Bytes) :
    readString ((bytes.flatMap escaped ++ 34 :: rest).length + 1)
        (bytes.flatMap escaped ++ 34 :: rest) = some (bytes, rest) := by
  refine readString_quoted bytes rest ?_
  have := length_le_flatMap_escaped bytes
  rw [List.length_append]
  omega

/-! ## Numbers -/

/-- What stands here does not go on with a number before it. -/
def Stops (rest : Bytes) : Prop :=
  ∀ byte ∈ rest.head?, isDigit byte = false ∧ byte ≠ 46 ∧ byte ≠ 101 ∧ byte ≠ 69

/-- Neither blanks nor the marks between values go on with a number. -/
theorem stops_gap {gap : Bytes} (h : Blanks gap) {mark : UInt8}
    (hmark : mark = 44 ∨ mark = 93 ∨ mark = 125) (rest : Bytes) : Stops (gap ++ mark :: rest) := by
  intro byte hbyte
  cases gap with
  | nil =>
    obtain rfl : mark = byte := Option.some.inj hbyte
    rcases hmark with rfl | rfl | rfl <;> decide
  | cons first gap =>
    obtain rfl : first = byte := Option.some.inj hbyte
    have hblank : isBlank first = true := h first List.mem_cons_self
    simp only [isBlank, Bool.or_eq_true, beq_iff_eq] at hblank
    rcases hblank with ((rfl | rfl) | rfl) | rfl <;> decide

/-- Only blanks. -/
theorem stops_blanks {gap : Bytes} (h : Blanks gap) : Stops gap := by
  intro byte hbyte
  cases gap with
  | nil => cases hbyte
  | cons first gap =>
    exact stops_gap h (.inl rfl) [] byte (by simpa using hbyte)

theorem isDigit_asciiByte {value : Nat} (h : value < 10) :
    isDigit (asciiByte (Decimal.digit value)) = true := by
  have all : ∀ value < 10, isDigit (asciiByte (Decimal.digit value)) = true := by decide
  exact all value h

theorem readDigits_append {digits rest : Bytes} (hne : digits ≠ [])
    (hdigits : ∀ byte ∈ digits, isDigit byte = true) (hstop : Stops rest) :
    readDigits (digits ++ rest) = some (digits, rest) := by
  have htake : rest.takeWhile isDigit = [] := by
    cases rest with
    | nil => rfl
    | cons byte rest =>
      rw [List.takeWhile_cons, if_neg]
      simp [(hstop byte rfl).1]
  have hdrop : rest.dropWhile isDigit = rest := by
    cases rest with
    | nil => rfl
    | cons byte rest =>
      rw [List.dropWhile_cons, if_neg]
      simp [(hstop byte rfl).1]
  rw [readDigits, List.takeWhile_append_of_pos hdigits, List.dropWhile_append_of_pos hdigits,
    htake, hdrop, List.append_nil]
  cases digits with
  | nil => exact absurd rfl hne
  | cons byte digits => rfl

theorem readFraction_stops {rest : Bytes} (h : Stops rest) :
    readFraction rest = some ([], rest) := by
  rw [readFraction.eq_def]
  split
  · exact absurd rfl (h 46 rfl).2.1
  · rfl

theorem readExponent_stops {rest : Bytes} (h : Stops rest) :
    readExponent rest = some ([], rest) := by
  cases rest with
  | nil => rfl
  | cons byte rest =>
    obtain ⟨-, -, h101, h69⟩ := h byte rfl
    rw [readExponent.eq_def]
    exact if_neg (not_or.mpr ⟨h101, h69⟩)

/-- A natural number in plain decimal is read as it is written. -/
theorem readNumber_write (n : Nat) {rest : Bytes} (hstop : Stops rest) :
    readNumber (utf8 (Decimal.write n) ++ rest) = some (utf8 (Decimal.write n), rest) := by
  have hall : ∀ byte ∈ (Decimal.digits n).map asciiByte, isDigit byte = true := by
    intro byte hbyte
    obtain ⟨c, hc, rfl⟩ := List.mem_map.mp hbyte
    obtain ⟨value, hlt, rfl⟩ := Decimal.mem_digits hc
    exact isDigit_asciiByte hlt
  have hwhole : readWhole ((Decimal.digits n).map asciiByte ++ rest)
      = some ((Decimal.digits n).map asciiByte, rest) := by
    rcases Decimal.digits_shape n with ⟨-, hzero⟩ | ⟨value, more, hpos, hlt, hmore⟩
    · rw [hzero]
      rfl
    · rw [hmore] at hall ⊢
      have hne : asciiByte (Decimal.digit value) ≠ 48 := by
        intro h
        have := congrArg UInt8.toNat h
        rw [Decimal.asciiByte_digit hlt] at this
        simp at this
        omega
      rw [List.map_cons, List.cons_append, readWhole]
      · exact readDigits_append (List.cons_ne_nil _ _) hall hstop
      · intro tail h
        exact hne (List.cons.inj h).1
  -- A natural number has no sign in front.
  have hsign : ∀ tail, (Decimal.digits n).map asciiByte ++ rest ≠ 45 :: tail := by
    intro tail h
    cases hdigits : (Decimal.digits n).map asciiByte with
    | nil =>
      exact absurd (List.map_eq_nil_iff.mp hdigits) (Decimal.digits_ne_nil n)
    | cons byte digits =>
      rw [hdigits] at h hall
      have : isDigit byte = true := hall byte List.mem_cons_self
      rw [(List.cons.inj h).1] at this
      exact absurd this (by decide)
  rw [Decimal.utf8_write, readNumber.eq_def]
  split
  rename_i sign input heq
  split at heq
  · exact absurd ‹_› (hsign _)
  · cases heq
    simp only [hwhole, readFraction_stops hstop, readExponent_stops hstop, Option.bind_eq_bind,
      Option.bind_some, List.nil_append, List.append_nil]
    rfl

/-! ## Documents -/

mutual

/-- A text that spells a document, with no blanks in front. -/
inductive Spells : Bytes → Json → Prop
  | null : Spells (utf8 "null") .null
  | yes : Spells (utf8 "true") (.bool true)
  | no : Spells (utf8 "false") (.bool false)
  | natural (n : Nat) : Spells (utf8 (Decimal.write n)) (.ofNat n)
  | string (bytes : Bytes) : Spells (quoted bytes) (.string bytes)
  | noItems : Spells [91, 93] (.array [])
  | array {text : Bytes} {items : List Json} :
      SpellsItems text items → Spells (91 :: text) (.array items)
  | noMembers : Spells [123, 125] (.object [])
  | object {text : Bytes} {members : List (Bytes × Json)} :
      SpellsMembers text members → Spells (123 :: text) (.object members)

/-- The items of an array up to its closing bracket. -/
inductive SpellsItems : Bytes → List Json → Prop
  | last {front text gap : Bytes} {item : Json} :
      Blanks front → Spells text item → Blanks gap →
      SpellsItems (front ++ (text ++ (gap ++ [93]))) [item]
  | more {front text gap rest : Bytes} {item : Json} {items : List Json} :
      Blanks front → Spells text item → Blanks gap → SpellsItems rest items →
      SpellsItems (front ++ (text ++ (gap ++ 44 :: rest))) (item :: items)

/-- The members of an object up to its closing brace. -/
inductive SpellsMembers : Bytes → List (Bytes × Json) → Prop
  | last {front name middle text gap : Bytes} {value : Json} :
      Blanks front → Blanks middle → Spells text value → Blanks gap →
      SpellsMembers (front ++ (quoted name ++ 58 :: (middle ++ (text ++ (gap ++ [125])))))
        [(name, value)]
  | more {front name middle text gap rest : Bytes} {value : Json}
      {members : List (Bytes × Json)} :
      Blanks front → Blanks middle → Spells text value → Blanks gap →
      SpellsMembers rest members →
      SpellsMembers (front ++ (quoted name ++ 58 :: (middle ++ (text ++ (gap ++ 44 :: rest)))))
        ((name, value) :: members)

end

/-- The letters of a word that a value can be. -/
theorem expect_append (word rest : Bytes) : expect word (word ++ rest) = some rest := by
  rw [expect, if_pos (List.isPrefixOf_iff_prefix.mpr (List.prefix_append word rest)),
    List.drop_left]

/-- No value starts with a closing bracket. -/
theorem readItems_bracket (fuel : Nat) (rest : Bytes) : readItems fuel (93 :: rest) = none := by
  cases fuel with
  | zero => rfl
  | succ fuel =>
    have hvalue : readValue fuel (93 :: rest) = none := by
      cases fuel with
      | zero => rfl
      | succ fuel =>
        rw [readValue, skipBlanks_cons (by decide)]
        rfl
    rw [readItems, hvalue]
    rfl

theorem readMembers_brace (fuel : Nat) (rest : Bytes) :
    readMembers fuel (125 :: rest) = none := by
  cases fuel with
  | zero => rfl
  | succ fuel =>
    rw [readMembers, skipBlanks_cons (by decide)]
    rfl

/-- Behind an opening bracket stands the closing one, or the first item. -/
theorem readValue_bracket (fuel : Nat) (input : Bytes) :
    readValue (fuel + 1) (91 :: input) =
      match skipBlanks input with
      | 93 :: rest => some (.array [], rest)
      | rest => (readItems fuel rest).map fun (items, rest) => (.array items, rest) := by
  rw [readValue, skipBlanks_cons (by decide)]
  rfl

theorem readValue_brace (fuel : Nat) (input : Bytes) :
    readValue (fuel + 1) (123 :: input) =
      match skipBlanks input with
      | 125 :: rest => some (.object [], rest)
      | rest => (readMembers fuel rest).map fun (members, rest) => (.object members, rest) := by
  rw [readValue, skipBlanks_cons (by decide)]
  rfl

/-- Items that can be read are read as an array, as there is no bracket in front of them. -/
theorem readValue_array {fuel : Nat} {input rest : Bytes} {items : List Json}
    (h : readItems fuel input = some (items, rest)) :
    readValue (fuel + 1) (91 :: input) = some (.array items, rest) := by
  rw [← readItems_skipBlanks] at h
  rw [readValue_bracket]
  split
  · rename_i hbracket
    rw [hbracket, readItems_bracket] at h
    cases h
  · rw [h]
    rfl

theorem readValue_object {fuel : Nat} {input rest : Bytes} {members : List (Bytes × Json)}
    (h : readMembers fuel input = some (members, rest)) :
    readValue (fuel + 1) (123 :: input) = some (.object members, rest) := by
  rw [← readMembers_skipBlanks] at h
  rw [readValue_brace]
  split
  · rename_i hbrace
    rw [hbrace, readMembers_brace] at h
    cases h
  · rw [h]
    rfl

/-- A natural number is read as a value: no other value starts with a digit. -/
theorem readValue_natural (n fuel : Nat) {rest : Bytes} (hstop : Stops rest) :
    readValue (fuel + 1) (utf8 (Decimal.write n) ++ rest) = some (.ofNat n, rest) := by
  have hread := readNumber_write n hstop
  obtain ⟨first, more, hfirst⟩ :
      ∃ first more, utf8 (Decimal.write n) = asciiByte (Decimal.digit first) :: more
        ∧ first < 10 := by
    rw [Decimal.utf8_write]
    rcases Decimal.digits_shape n with ⟨-, h⟩ | ⟨first, more, -, hlt, h⟩ <;> rw [h]
    · exact ⟨0, [], rfl, by decide⟩
    · exact ⟨first, more.map asciiByte, rfl, hlt⟩
  obtain ⟨hfirst, hlt⟩ := hfirst
  have hplain : ∀ first < 10, isBlank (asciiByte (Decimal.digit first)) = false ∧
      asciiByte (Decimal.digit first) ∉ ([110, 116, 102, 34, 91, 123] : Bytes) := by
    decide
  obtain ⟨hblank, hmarks⟩ := hplain first hlt
  simp only [List.mem_cons, List.not_mem_nil, or_false, not_or] at hmarks
  obtain ⟨h110, h116, h102, h34, h91, h123⟩ := hmarks
  rw [hfirst, List.cons_append] at hread ⊢
  rw [readValue, skipBlanks_cons hblank]
  simp only [if_neg h110, if_neg h116, if_neg h102, if_neg h34, if_neg h91, if_neg h123, hread]
  rw [Option.map_some, ← hfirst]
  rfl

theorem readValue_quoted (bytes : Bytes) (fuel : Nat) (rest : Bytes) :
    readValue (fuel + 1) (quoted bytes ++ rest) = some (.string bytes, rest) := by
  have hquoted : quoted bytes ++ rest = 34 :: (bytes.flatMap escaped ++ 34 :: rest) := by
    rw [quoted, List.cons_append, List.append_assoc]
    rfl
  rw [hquoted, readValue, skipBlanks_cons (by decide)]
  show (readString _ _).map _ = _
  rw [readString_of_quoted, Option.map_some]

/-- A value is read from behind the blanks in front of it. -/
theorem readValue_front {front : Bytes} (hfront : Blanks front) (fuel : Nat) (input : Bytes) :
    readValue fuel (front ++ input) = readValue fuel input := by
  rw [← readValue_skipBlanks, skipBlanks_append hfront, readValue_skipBlanks]

theorem readItems_last {fuel : Nat} {front text gap rest : Bytes} {item : Json}
    (hfront : Blanks front) (hgap : Blanks gap)
    (h : readValue fuel (text ++ (gap ++ 93 :: rest)) = some (item, gap ++ 93 :: rest)) :
    readItems (fuel + 1) (front ++ (text ++ (gap ++ 93 :: rest))) = some ([item], rest) := by
  rw [readItems, readValue_front hfront, h]
  simp only [Option.bind_eq_bind, Option.bind_some, skipBlanks_gap hgap 93 (by decide)]
  rfl

theorem readItems_more {fuel : Nat} {front text gap input rest : Bytes} {item : Json}
    {items : List Json} (hfront : Blanks front) (hgap : Blanks gap)
    (h : readValue fuel (text ++ (gap ++ 44 :: input)) = some (item, gap ++ 44 :: input))
    (hmore : readItems fuel input = some (items, rest)) :
    readItems (fuel + 1) (front ++ (text ++ (gap ++ 44 :: input)))
      = some (item :: items, rest) := by
  rw [readItems, readValue_front hfront, h]
  simp only [Option.bind_eq_bind, Option.bind_some, skipBlanks_gap hgap 44 (by decide)]
  show (readItems fuel input).bind _ = _
  rw [hmore]
  rfl

/-- The name of a member and the colon behind it are read before its value. -/
theorem readMembers_name {fuel : Nat} {front name middle input : Bytes} {value : Json}
    {rest : Bytes} (hfront : Blanks front) (hmiddle : Blanks middle)
    (h : readValue fuel input = some (value, rest)) :
    readMembers (fuel + 1) (front ++ (quoted name ++ 58 :: (middle ++ input))) =
      match skipBlanks rest with
      | 44 :: rest => do
        let (more, rest) ← readMembers fuel rest
        return ((name, value) :: more, rest)
      | 125 :: rest => some ([(name, value)], rest)
      | _ => none := by
  have hquote : skipBlanks (front ++ (quoted name ++ 58 :: (middle ++ input)))
      = 34 :: (name.flatMap escaped ++ 34 :: 58 :: (middle ++ input)) := by
    rw [skipBlanks_append hfront, quoted, List.cons_append, skipBlanks_cons (by decide),
      List.append_assoc]
    rfl
  have hcolon : skipBlanks (58 :: (middle ++ input)) = 58 :: (middle ++ input) :=
    skipBlanks_cons (by decide) _
  rw [readMembers, hquote]
  simp only [readString_of_quoted, Option.bind_eq_bind, Option.bind_some, hcolon,
    readValue_front hmiddle, h]
  rfl

theorem readMembers_last {fuel : Nat} {front name middle text gap rest : Bytes} {value : Json}
    (hfront : Blanks front) (hmiddle : Blanks middle) (hgap : Blanks gap)
    (h : readValue fuel (text ++ (gap ++ 125 :: rest)) = some (value, gap ++ 125 :: rest)) :
    readMembers (fuel + 1)
        (front ++ (quoted name ++ 58 :: (middle ++ (text ++ (gap ++ 125 :: rest)))))
      = some ([(name, value)], rest) := by
  rw [readMembers_name hfront hmiddle h, skipBlanks_gap hgap 125 (by decide)]
  rfl

theorem readMembers_more {fuel : Nat} {front name middle text gap input rest : Bytes}
    {value : Json} {members : List (Bytes × Json)} (hfront : Blanks front)
    (hmiddle : Blanks middle) (hgap : Blanks gap)
    (h : readValue fuel (text ++ (gap ++ 44 :: input)) = some (value, gap ++ 44 :: input))
    (hmore : readMembers fuel input = some (members, rest)) :
    readMembers (fuel + 1)
        (front ++ (quoted name ++ 58 :: (middle ++ (text ++ (gap ++ 44 :: input)))))
      = some ((name, value) :: members, rest) := by
  rw [readMembers_name hfront hmiddle h, skipBlanks_gap hgap 44 (by decide)]
  show (readMembers fuel input).bind _ = _
  rw [hmore]
  rfl

theorem Spells.length_pos {text : Bytes} {document : Json} (h : Spells text document) :
    0 < text.length := by
  cases h with
  | null | yes | no => decide +kernel
  | natural n =>
    rw [Decimal.utf8_write, List.length_map]
    exact List.length_pos_iff.mpr (Decimal.digits_ne_nil n)
  | string | noItems | array | noMembers | object => exact Nat.succ_pos _

/-- The reader takes a spelling off the front of its input, if no number goes on behind it. The
fuel is twice the length: one for each byte and one for each level. The induction is on the fuel,
for values, items and members at once. -/
theorem read_spells (fuel : Nat) :
    (∀ {text : Bytes} {document : Json}, Spells text document → 2 * text.length ≤ fuel →
      ∀ {rest : Bytes}, Stops rest → readValue fuel (text ++ rest) = some (document, rest)) ∧
    (∀ {text : Bytes} {items : List Json}, SpellsItems text items → 2 * text.length ≤ fuel →
      ∀ rest : Bytes, readItems fuel (text ++ rest) = some (items, rest)) ∧
    (∀ {text : Bytes} {members : List (Bytes × Json)}, SpellsMembers text members →
      2 * text.length ≤ fuel →
      ∀ rest : Bytes, readMembers fuel (text ++ rest) = some (members, rest)) := by
  induction fuel with
  | zero =>
    refine ⟨?_, ?_, ?_⟩
    · intro text document h hfuel
      have := h.length_pos
      omega
    · intro text items h hfuel
      cases h <;> simp at hfuel
    · intro text members h hfuel
      cases h <;> simp at hfuel
  | succ fuel ih =>
    obtain ⟨ihValue, ihItems, ihMembers⟩ := ih
    refine ⟨?_, ?_, ?_⟩
    -- The first byte tells what a value is; items and members are one level down.
    · intro text document h hfuel rest hstop
      cases h with
      | null =>
        have hword : utf8 "null" = 110 :: utf8 "ull" := by decide +kernel
        rw [hword, List.cons_append, readValue, skipBlanks_cons (by decide)]
        simp only [if_true, expect_append, Option.map_some]
      | yes =>
        have hword : utf8 "true" = 116 :: utf8 "rue" := by decide +kernel
        rw [hword, List.cons_append, readValue, skipBlanks_cons (by decide)]
        show (expect (utf8 "rue") (utf8 "rue" ++ rest)).map _ = _
        rw [expect_append, Option.map_some]
      | no =>
        have hword : utf8 "false" = 102 :: utf8 "alse" := by decide +kernel
        rw [hword, List.cons_append, readValue, skipBlanks_cons (by decide)]
        show (expect (utf8 "alse") (utf8 "alse" ++ rest)).map _ = _
        rw [expect_append, Option.map_some]
      | natural n => exact readValue_natural n fuel hstop
      | string bytes => exact readValue_quoted bytes fuel rest
      | noItems =>
        show readValue (fuel + 1) (91 :: 93 :: rest) = _
        rw [readValue_bracket, skipBlanks_cons (by decide)]
        rfl
      | array hitems =>
        rw [List.length_cons] at hfuel
        exact readValue_array (ihItems hitems (by omega) rest)
      | noMembers =>
        show readValue (fuel + 1) (123 :: 125 :: rest) = _
        rw [readValue_brace, skipBlanks_cons (by decide)]
        rfl
      | object hmembers =>
        rw [List.length_cons] at hfuel
        exact readValue_object (ihMembers hmembers (by omega) rest)
    · intro text items h hfuel rest
      cases h with
      | last hfront hitem hgap =>
        simp only [List.length_append, List.length_cons, List.length_nil] at hfuel
        simp only [List.append_assoc, List.cons_append, List.nil_append]
        refine readItems_last hfront hgap (ihValue hitem (by omega) ?_)
        exact stops_gap hgap (.inr (.inl rfl)) rest
      | more hfront hitem hgap hitems =>
        simp only [List.length_append, List.length_cons] at hfuel
        simp only [List.append_assoc, List.cons_append]
        refine readItems_more hfront hgap (ihValue hitem (by omega) ?_)
          (ihItems hitems (by omega) rest)
        exact stops_gap hgap (.inl rfl) _
    · intro text members h hfuel rest
      cases h with
      | last hfront hmiddle hvalue hgap =>
        simp only [List.length_append, List.length_cons, List.length_nil] at hfuel
        simp only [List.append_assoc, List.cons_append, List.nil_append]
        refine readMembers_last hfront hmiddle hgap (ihValue hvalue (by omega) ?_)
        exact stops_gap hgap (.inr (.inr rfl)) rest
      | more hfront hmiddle hvalue hgap hmembers =>
        simp only [List.length_append, List.length_cons] at hfuel
        simp only [List.append_assoc, List.cons_append]
        refine readMembers_more hfront hmiddle hgap (ihValue hvalue (by omega) ?_)
          (ihMembers hmembers (by omega) rest)
        exact stops_gap hgap (.inl rfl) _

/-- A text that spells a document reads as that document, with blanks around it or without. -/
theorem read_of_spells {text front gap : Bytes} {document : Json} (hfront : Blanks front)
    (h : Spells text document) (hgap : Blanks gap) :
    read (front ++ (text ++ gap)) = some document := by
  have hfuel : 2 * text.length ≤ 2 * (front ++ (text ++ gap)).length + 2 := by
    simp only [List.length_append]
    omega
  have hrest : skipBlanks gap = [] := by
    have := skipBlanks_append hgap []
    rwa [List.append_nil] at this
  rw [read, readValue_front hfront, (read_spells _).1 h hfuel (stops_blanks hgap)]
  exact if_pos hrest

end SealedLog.Json
