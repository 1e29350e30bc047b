import SealedLog.HexDump
import SealedLog.Proofs.Medium.Faultless
import SealedLog.Proofs.Text

/-!
# Reading a dump back

The lines of a dump have a grammar of their own: an offset of at least eight hexadecimal digits, a
colon, and two digits behind a blank for every byte. A reader that knows only this grammar finds the
pieces again that were printed. So a printed dump tells the bytes of the log, however long it is.

- `HexDump.readLine`, `HexDump.readText`: the reader.
- `HexChunk.readLine_line`, `HexDump.readText_lines`: what was printed is read.
- `HexDump.Tells`: what a text says of a log; `HexDump.tells_chunks` is about the pieces of one.
-/

namespace SealedLog

/-! ## Digits -/

namespace Hex

/-- The value of a lower-case digit, if the character is one. -/
def digitValue? (c : Char) : Option Nat :=
  if '0' ≤ c ∧ c ≤ '9' then some (c.toNat - 48)
  else if 'a' ≤ c ∧ c ≤ 'f' then some (c.toNat - 87)
  else none

theorem digitValue?_digit {value : Nat} (h : value < 16) :
    digitValue? (digit value) = some value := by
  have all : ∀ value < 16, digitValue? (digit value) = some value := by decide
  exact all value h

theorem digitChar_eq {value : Nat} (h : value < 16) : value.digitChar = digit value := by
  have all : ∀ value < 16, Nat.digitChar value = digit value := by decide
  exact all value h

/-- No digit ends an offset or a line. -/
theorem digit_ne {value : Nat} (h : value < 16) : digit value ≠ ':' ∧ digit value ≠ '\n' := by
  have all : ∀ value < 16, digit value ≠ ':' ∧ digit value ≠ '\n' := by decide
  exact all value h

/-- The digits of a number are those of its sixteenth part and one more. -/
theorem toDigits_cases (n : Nat) :
    (n < 16 ∧ Nat.toDigits 16 n = [digit n]) ∨
      (16 ≤ n ∧ Nat.toDigits 16 n = Nat.toDigits 16 (n / 16) ++ [digit (n % 16)]) := by
  rcases Nat.lt_or_ge n 16 with hlt | hge
  · exact .inl ⟨hlt, by rw [Nat.toDigits_of_lt_base hlt, digitChar_eq hlt]⟩
  · refine .inr ⟨hge, ?_⟩
    rw [Nat.toDigits_of_base_le (by decide) hge, digitChar_eq (Nat.mod_lt n (by decide))]

theorem mem_toDigits {n : Nat} {c : Char} (h : c ∈ Nat.toDigits 16 n) :
    ∃ value < 16, c = digit value := by
  induction n using Nat.strongRecOn with
  | ind n ih =>
    rcases toDigits_cases n with ⟨hlt, hdigits⟩ | ⟨hge, hdigits⟩ <;> rw [hdigits] at h
    · exact ⟨n, hlt, List.mem_singleton.mp h⟩
    · rcases List.mem_append.mp h with hmore | hlast
      · exact ih (n / 16) (Nat.div_lt_self (by omega) (by decide)) hmore
      · exact ⟨n % 16, Nat.mod_lt n (by decide), List.mem_singleton.mp hlast⟩

/-- The digits of a number stand for that number. -/
theorem readWith_toDigits (n : Nat) :
    Decimal.readWith 16 digitValue? 0 (Nat.toDigits 16 n) = some n := by
  induction n using Nat.strongRecOn with
  | ind n ih =>
    rcases toDigits_cases n with ⟨hlt, hdigits⟩ | ⟨hge, hdigits⟩ <;> rw [hdigits]
    · rw [Decimal.readWith, digitValue?_digit hlt]
      show some (16 * 0 + n) = some n
      rw [Nat.mul_zero, Nat.zero_add]
    · rw [Decimal.readWith_append, ih (n / 16) (Nat.div_lt_self (by omega) (by decide)),
        Option.bind_some, Decimal.readWith, digitValue?_digit (Nat.mod_lt n (by decide))]
      show some (16 * (n / 16) + n % 16) = some n
      rw [Nat.div_add_mod]

/-- Zeros in front say nothing. -/
theorem readWith_zeros (count : Nat) :
    Decimal.readWith 16 digitValue? 0 (List.replicate count '0') = some 0 := by
  induction count with
  | zero => rfl
  | succ count ih => exact ih

theorem readWith_padded (width n : Nat) :
    Decimal.readWith 16 digitValue? 0 (padded width n).toList = some n := by
  rw [padded, String.toList_ofList, Decimal.readWith_append, readWith_zeros, Option.bind_some,
    readWith_toDigits]

theorem le_length_padded (width n : Nat) : width ≤ (padded width n).toList.length := by
  rw [padded, String.toList_ofList, List.length_append, List.length_replicate]
  omega

theorem mem_padded {width n : Nat} {c : Char} (h : c ∈ (padded width n).toList) :
    ∃ value < 16, c = digit value := by
  rw [padded, String.toList_ofList, List.mem_append] at h
  rcases h with hzero | hdigit
  · exact ⟨0, by decide, List.eq_of_mem_replicate hzero⟩
  · exact mem_toDigits hdigit

end Hex

/-! ## The reader -/

namespace HexDump

/-- The bytes on a line, each of which has two digits behind a blank. -/
def readBytes : List Char → Option Bytes
  | [] => some []
  | ' ' :: high :: low :: more => do
    let byte := UInt8.ofNat (16 * (← Hex.digitValue? high) + (← Hex.digitValue? low))
    return byte :: (← readBytes more)
  | _ => none

/-- The piece on a line: its offset, of at least eight digits, and its bytes behind a colon. -/
def readLine (line : List Char) : Option HexChunk := do
  let offset := line.takeWhile (· ≠ ':')
  let ':' :: bytes := line.dropWhile (· ≠ ':') | none
  if offset.length < 8 then none
  else return ⟨← Decimal.readWith 16 Hex.digitValue? 0 offset, ← readBytes bytes⟩

/-- The lines of a text, if each of them is ended. -/
def endedLines (text : String) : Option (List (List Char)) :=
  let pieces := text.toList.splitOn '\n'
  if pieces.getLast? = some [] then some pieces.dropLast else none

/-- The pieces on the lines of a text. -/
def readText (text : String) : Option (List HexChunk) := do (← endedLines text).mapM readLine

/-! ## What was printed -/

/-- The digits of a byte behind a blank stand for that byte. -/
theorem readBytes_pairs (bytes : Bytes) :
    readBytes (bytes.flatMap fun byte => ' ' :: Hex.pair byte) = some bytes := by
  induction bytes with
  | nil => rfl
  | cons byte more ih =>
    have hbyte : UInt8.ofNat (16 * (byte.toNat / 16) + byte.toNat % 16) = byte := by
      rw [Nat.div_add_mod, UInt8.ofNat_toNat]
    rw [List.flatMap_cons, Hex.pair]
    simp only [List.cons_append, List.nil_append, readBytes,
      Hex.digitValue?_digit (Hex.high_lt byte), Hex.digitValue?_digit (Hex.low_lt byte), ih,
      Option.bind_eq_bind, Option.bind_some, hbyte]
    rfl

end HexDump

namespace HexChunk

theorem toList_line (chunk : HexChunk) :
    chunk.line.toList = (Hex.padded 8 chunk.offset).toList
      ++ ':' :: chunk.bytes.flatMap fun byte => ' ' :: Hex.pair byte := by
  rw [line, String.toList_append, String.toList_append, String.toList_ofList, String.toList_ofList,
    List.append_assoc, List.singleton_append]

/-- A line does not end before it is printed. -/
theorem newline_not_mem_line (chunk : HexChunk) : '\n' ∉ chunk.line.toList := by
  rw [toList_line]
  intro hmem
  rcases List.mem_append.mp hmem with hoffset | hbytes
  · obtain ⟨value, hlt, heq⟩ := Hex.mem_padded hoffset
    exact (Hex.digit_ne hlt).2 heq.symm
  · rcases List.mem_cons.mp hbytes with hcolon | hbytes
    · exact absurd hcolon (by decide)
    · obtain ⟨byte, -, hbyte⟩ := List.mem_flatMap.mp hbytes
      simp only [Hex.pair, List.mem_cons, List.not_mem_nil, or_false] at hbyte
      rcases hbyte with hblank | hhigh | hlow
      · exact absurd hblank (by decide)
      · exact (Hex.digit_ne (Hex.high_lt byte)).2 hhigh.symm
      · exact (Hex.digit_ne (Hex.low_lt byte)).2 hlow.symm

/-- The line for a piece is read as that piece: the colon behind the offset is the first. -/
@[simp] theorem readLine_line (chunk : HexChunk) :
    HexDump.readLine chunk.line.toList = some chunk := by
  have hoffset : ∀ c ∈ (Hex.padded 8 chunk.offset).toList, decide (c ≠ ':') = true := by
    intro c hc
    obtain ⟨value, hlt, rfl⟩ := Hex.mem_padded hc
    exact decide_eq_true (Hex.digit_ne hlt).1
  have hlen : ¬(Hex.padded 8 chunk.offset).toList.length < 8 :=
    Nat.not_lt.mpr (Hex.le_length_padded 8 chunk.offset)
  rw [HexDump.readLine, toList_line, List.takeWhile_append_of_pos hoffset,
    List.dropWhile_append_of_pos hoffset, List.takeWhile_cons_of_neg (by decide),
    List.dropWhile_cons_of_neg (by decide), List.append_nil]
  simp only [if_neg hlen, Hex.readWith_padded, HexDump.readBytes_pairs, Option.bind_eq_bind,
    Option.bind_some]
  rfl

end HexChunk

namespace HexDump

/-- Lines that are ended one after the other are found again. -/
theorem endedLines_join {lines : List String} (h : ∀ line ∈ lines, '\n' ∉ line.toList) :
    endedLines (String.join (lines.map (· ++ "\n"))) = some (lines.map String.toList) := by
  have hjoin : (String.join (lines.map (· ++ "\n"))).toList
      = ['\n'].intercalate (lines.map String.toList ++ [[]]) := by
    rw [String.toList_join]
    clear h
    induction lines with
    | nil => rfl
    | cons line later ih =>
      have hlater : later.map String.toList ++ [[]] ≠ [] :=
        List.append_ne_nil_of_right_ne_nil _ (List.cons_ne_nil _ _)
      rw [List.map_cons, List.flatMap_cons, ih, String.toList_append, List.map_cons,
        List.cons_append, List.intercalate_cons_of_ne_nil hlater]
      rfl
  have hends : ∀ piece ∈ lines.map String.toList ++ [[]], '\n' ∉ piece := by
    intro piece hpiece
    rcases List.mem_append.mp hpiece with hline | hlast
    · obtain ⟨line, hmem, rfl⟩ := List.mem_map.mp hline
      exact h line hmem
    · rw [List.mem_singleton.mp hlast]
      exact List.not_mem_nil
  have hne : lines.map String.toList ++ [[]] ≠ [] :=
    List.append_ne_nil_of_right_ne_nil _ (List.cons_ne_nil _ _)
  rw [endedLines, hjoin, List.splitOn_intercalate _ hends hne, List.getLast?_concat, if_pos rfl,
    List.dropLast_concat]

/-- Pieces that were printed, a line for each, are read as those pieces. -/
theorem readText_lines (chunks : List HexChunk) :
    readText (String.join (chunks.map fun chunk => chunk.line ++ "\n")) = some chunks := by
  have hlines : ∀ line ∈ chunks.map HexChunk.line, '\n' ∉ line.toList := by
    intro line hline
    obtain ⟨chunk, -, rfl⟩ := List.mem_map.mp hline
    exact chunk.newline_not_mem_line
  have hended : endedLines (String.join (chunks.map fun chunk => chunk.line ++ "\n"))
      = some (chunks.map fun chunk => chunk.line.toList) := by
    simpa only [List.map_map, Function.comp_def] using endedLines_join hlines
  have hread : (chunks.map fun chunk => chunk.line.toList).mapM readLine = some chunks := by
    rw [List.mapM_map]
    simp only [Function.comp_def, HexChunk.readLine_line]
    exact List.mapM_pure.trans (congrArg some (List.map_id' chunks))
  rw [readText, hended]
  exact hread

/-! ## What a text tells -/

/-- The text is a dump of these bytes: its lines show them one after the other, and the offset of
each line is the number of bytes on the lines before it. -/
def Tells (text : String) (content : Bytes) : Prop :=
  ∃ chunks, readText text = some chunks ∧ chunks.flatMap HexChunk.bytes = content ∧
    ∀ before chunk later, chunks = before ++ chunk :: later →
      chunk.offset = (before.flatMap HexChunk.bytes).length

/-- A text is a dump of the bytes of one log at most. -/
theorem Tells.unique {text : String} {content content' : Bytes} (h : Tells text content)
    (h' : Tells text content') : content = content' := by
  obtain ⟨chunks, hread, rfl, -⟩ := h
  obtain ⟨chunks', hread', rfl, -⟩ := h'
  rw [hread] at hread'
  rw [Option.some.inj hread']

/-- The pieces of a log show all its bytes. -/
theorem flatMap_chunks (offset : Nat) (bytes : Bytes) :
    (chunks offset bytes).flatMap HexChunk.bytes = bytes := by
  fun_induction chunks offset bytes with
  | case1 => rfl
  | case2 offset bytes hne ih => rw [List.flatMap_cons, ih, List.take_append_drop]

/-- Each of them has the number of bytes before it for its offset. -/
theorem offset_of_chunks {offset : Nat} {bytes : Bytes} {before later : List HexChunk}
    {chunk : HexChunk} (h : chunks offset bytes = before ++ chunk :: later) :
    chunk.offset = offset + (before.flatMap HexChunk.bytes).length := by
  induction before generalizing offset bytes with
  | nil =>
    rw [List.nil_append, chunks] at h
    split at h
    · cases h
    · rw [← (List.cons.inj h).1]
      rfl
  | cons first before ih =>
    rw [List.cons_append, chunks] at h
    split at h
    · cases h
    · obtain ⟨rfl, hlater⟩ := List.cons.inj h
      rw [ih hlater, List.flatMap_cons, List.length_append, Nat.add_assoc]

/-- The lines for the pieces of a log tell its bytes. -/
theorem tells_chunks (content : Bytes) :
    Tells (String.join ((chunks 0 content).map fun chunk => chunk.line ++ "\n")) content := by
  refine ⟨chunks 0 content, readText_lines _, flatMap_chunks 0 content, ?_⟩
  intro before chunk later hchunks
  rw [offset_of_chunks hchunks, Nat.zero_add]

end HexDump

end SealedLog
