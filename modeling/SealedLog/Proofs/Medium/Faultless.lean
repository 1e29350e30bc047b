import SealedLog.HexDump
import SealedLog.Medium
import SealedLog.Proofs.Files.Steps

/-!
# Media without faults

While nothing goes wrong, a medium is no more than the bytes of its log: what is written stands at
the end, and a reader brings what is there, whatever pieces it is asked for.

- `Medium.View`: what can be seen of a log from outside.
- `Medium.Faultless`: what can be relied on while nothing goes wrong.
- `Faultless.writeAll`: all bytes are written.
- `Faultless.readToEnd`, `Faultless.readUpTo`: what a reader brings in several calls.
- `Faultless.all_bring`: a dump shows the log in pieces.
-/

namespace SealedLog

namespace Medium

/-- What can be seen of a log from outside, and how it is taken away from there. -/
structure View (μ : Type) where
  /-- The bytes of the log, if there is a log. -/
  content : Site μ → Option Bytes
  /-- The site without its log. -/
  removed : Site μ → Site μ

/-- The site is as it was, but for the mishaps that are over. -/
structure Untouched {μ : Type} (site after : Site μ) : Prop where
  medium : after.medium = site.medium
  files : Files.Alike site.files after.files

@[refl] theorem Untouched.refl {μ : Type} (site : Site μ) : Untouched site site :=
  ⟨rfl, .refl _⟩

/-- What can be relied on while nothing goes wrong. -/
structure Faultless (μ : Type) [Medium μ] extends View μ where
  /-- Nothing goes wrong from here on. -/
  Calm : Site μ → Prop
  /-- The writer was opened on the log that is there. -/
  Opened : Writer μ → Site μ → Prop
  /-- A reader with these bytes left. -/
  bring : Bytes → Reader μ
  openAppend_calm : ∀ {site}, Calm site → ∃ writer after,
    openAppend site = (.ok writer, after) ∧ Calm after ∧ Opened writer after ∧
      content after = some ((content site).getD [])
  write_calm : ∀ {writer site old} (bytes), Calm site → Opened writer site →
    content site = some old → ∃ after,
      write writer bytes site = ((.moved bytes.length, writer), after) ∧
      Calm after ∧ Opened writer after ∧ content after = some (old ++ bytes)
  flush_calm : ∀ {writer site}, Calm site → Opened writer site → ∃ after,
    flush writer site = (.ok (), after) ∧ Calm after ∧ content after = content site
  truncate_calm : ∀ {site}, Calm site → ∃ after,
    truncate site = (.ok (), after) ∧ Calm after ∧ content after = some []
  openRead_calm : ∀ {site}, Calm site → ∃ after,
    openRead site = (.ok ((content site).map bring), after) ∧ Calm after ∧ Untouched site after
  size_calm : ∀ {site}, Calm site → ∃ after,
    size site = (.ok ((content site).map List.length), after) ∧ Calm after ∧ Untouched site after
  removed_calm : ∀ {site}, Calm site → Calm (removed site) ∧ content (removed site) = none
  read_bring : ∀ {site} (rest limit), Calm site →
    read (bring rest) limit site = ((.moved (rest.take limit), bring (rest.drop limit)), site)
  remaining_bring : ∀ {site} (rest), Calm site → remaining (bring rest) site = rest.length
  content_untouched : ∀ {site after}, Untouched site after → content after = content site

variable {μ : Type} [Medium μ] {site after : Site μ}

/-! ## One call -/

/-- Bytes that were taken need not be written again. -/
theorem writeAll_of_moved {writer writer' : Writer μ} {bytes : Bytes} {count : Nat}
    (hne : bytes ≠ []) (hcount : count ≠ 0)
    (h : write writer bytes site = ((.moved count, writer'), after)) :
    writeAll writer bytes site = writeAll writer' (bytes.drop count) after := by
  rw [writeAll, if_neg hne]
  dsimp only
  split <;> rename_i heq <;> simp only [h] at heq ⊢
  · cases heq
  · cases heq
  · obtain rfl := Reply.moved.inj heq
    rw [if_neg hcount]

/-- Bytes that were brought stand in front of those that are brought later. -/
theorem readToEnd_of_moved {reader reader' : Reader μ} {bytes : Bytes}
    (h : read reader 32 site = ((.moved bytes, reader'), after)) :
    readToEnd reader site =
      if bytes = [] then (.ok [], after)
      else ((readToEnd reader' after).1.map (bytes ++ ·), (readToEnd reader' after).2) := by
  rw [readToEnd]
  split <;> rename_i heq <;> simp only [h] at heq ⊢
  · cases heq
  · cases heq
  · obtain rfl := Reply.moved.inj heq
    split <;> rfl

theorem readUpTo_of_moved {want : Nat} {reader reader' : Reader μ} {bytes : Bytes}
    (hwant : want ≠ 0) (h : read reader want site = ((.moved bytes, reader'), after)) :
    readUpTo want reader site =
      if bytes = [] then ((.ok [], reader'), after)
      else
        (((readUpTo (want - bytes.length) reader' after).1.1.map (bytes ++ ·),
          (readUpTo (want - bytes.length) reader' after).1.2),
          (readUpTo (want - bytes.length) reader' after).2) := by
  rw [readUpTo, if_neg hwant]
  dsimp only
  generalize hlater : (if bytes = [] then _ else _) = later
  split <;> rename_i heq <;> simp only [h] at heq ⊢
  · cases heq
  · cases heq
  · obtain rfl := Reply.moved.inj heq
    rw [← hlater]
    split <;> rfl

namespace Faultless

variable (laws : Faultless μ)

/-! ## Writing -/

/-- All bytes are written at the end of the log. -/
theorem writeAll {writer : Writer μ} {old : Bytes} (bytes : Bytes) (hcalm : laws.Calm site)
    (hopened : laws.Opened writer site) (hcontent : laws.content site = some old) :
    ∃ writer' after, Medium.writeAll writer bytes site = ((.ok (), writer'), after) ∧
      laws.Calm after ∧ laws.Opened writer' after ∧ laws.content after = some (old ++ bytes) := by
  by_cases hempty : bytes = []
  · refine ⟨writer, site, ?_, hcalm, hopened, by rw [hcontent, hempty, List.append_nil]⟩
    rw [Medium.writeAll, if_pos hempty]
  · obtain ⟨after, hwrite, hafter⟩ := laws.write_calm bytes hcalm hopened hcontent
    have hpos : bytes.length ≠ 0 := fun hzero => hempty (List.length_eq_zero_iff.mp hzero)
    refine ⟨writer, after, ?_, hafter⟩
    rw [writeAll_of_moved hempty hpos hwrite, List.drop_length, Medium.writeAll, if_pos rfl]

/-! ## Reading -/

/-- A reader brings what it has left, 32 bytes at a time. -/
theorem readToEnd (rest : Bytes) (hcalm : laws.Calm site) :
    Medium.readToEnd (laws.bring rest) site = (.ok rest, site) := by
  induction hlen : rest.length using Nat.strongRecOn generalizing rest with
  | ind len ih =>
    rw [readToEnd_of_moved (laws.read_bring rest 32 hcalm)]
    by_cases h : rest = []
    · rw [if_pos (by simp [h]), h]
    · have hlater : (rest.drop 32).length < len := by
        have := List.length_pos_iff.mpr h
        rw [List.length_drop]
        omega
      rw [if_neg (by simp [h]), ih _ hlater (rest.drop 32) rfl, Except.map, List.take_append_drop]

/-- A reader brings as much as is asked for, or what is left. -/
theorem readUpTo (want : Nat) (rest : Bytes) (hcalm : laws.Calm site) :
    Medium.readUpTo want (laws.bring rest) site
      = ((.ok (rest.take want), laws.bring (rest.drop want)), site) := by
  induction want using Nat.strongRecOn generalizing rest with
  | ind want ih =>
    by_cases hwant : want = 0
    · rw [Medium.readUpTo, if_pos hwant, hwant]
      rfl
    rw [readUpTo_of_moved hwant (laws.read_bring rest want hcalm)]
    by_cases h : rest.take want = []
    · rw [if_pos h, h]
    have hless : want - (rest.take want).length < want := by
      have := List.length_pos_iff.mpr h
      omega
    -- Nothing is wanted any more after the first call, or nothing is left.
    have hdone : want - (rest.take want).length = 0 ∨ rest.drop want = [] := by
      rw [List.length_take, List.drop_eq_nil_iff]
      omega
    rw [if_neg h, ih _ hless, Except.map]
    rcases hdone with hdone | hdone
    · rw [hdone, List.take_zero, List.append_nil, List.drop_zero]
    · rw [hdone, List.take_nil, List.append_nil, List.drop_nil]

end Faultless

end Medium

/-! ## Dumping -/

/-- A log in pieces of thirty-two bytes, each with its offset. -/
def HexDump.chunks (offset : Nat) (bytes : Bytes) : List HexChunk :=
  if _h : bytes = [] then []
  else
    ⟨offset, bytes.take dumpChunkLen⟩
      :: chunks (offset + (bytes.take dumpChunkLen).length) (bytes.drop dumpChunkLen)
termination_by bytes.length
decreasing_by
  have := List.length_pos_iff.mpr _h
  rw [List.length_drop, dumpChunkLen]
  omega

@[simp] theorem HexDump.chunks_nil (offset : Nat) : HexDump.chunks offset [] = [] := by
  rw [chunks, dif_pos rfl]

namespace Medium.Faultless

variable {μ : Type} [Medium μ] (laws : Faultless μ) {site : Site μ}

/-- The pieces of a dump are those of the bytes that its reader has left. -/
theorem items_bring (hcalm : laws.Calm site) {limit : Nat} {rest : Bytes}
    (hlimit : rest.length < limit) (target : String) (offset : Nat) (missing : Bool) :
    HexDump.items limit ⟨some (laws.bring rest), target, offset, missing⟩ site
      = ((HexDump.chunks offset rest).map .ok, site) := by
  induction limit generalizing rest offset with
  | zero => exact absurd hlimit (Nat.not_lt_zero _)
  | succ limit ih =>
    rw [HexDump.items, HexDump.next, HexDump.chunks]
    simp only [laws.readUpTo _ _ hcalm]
    by_cases h : rest = []
    · rw [dif_pos h, h]
      rfl
    · have hpos := List.length_pos_iff.mpr h
      have htake : rest.take dumpChunkLen ≠ [] := by
        simp [h, dumpChunkLen]
      have hlater : (rest.drop dumpChunkLen).length < limit := by
        rw [List.length_drop, dumpChunkLen]
        omega
      rw [if_neg htake, dif_neg h]
      simp only [ih hlater]
      rfl

/-- A whole dump shows all that its reader has left. -/
theorem all_bring (hcalm : laws.Calm site) (rest : Bytes) (target : String) (offset : Nat)
    (missing : Bool) :
    HexDump.all ⟨some (laws.bring rest), target, offset, missing⟩ site
      = ((HexDump.chunks offset rest).map .ok, site) := by
  rw [HexDump.all]
  refine laws.items_bring hcalm ?_ target offset missing
  show rest.length < remaining (laws.bring rest) site + 1
  rw [laws.remaining_bring rest hcalm]
  exact Nat.lt_succ_self _

end Medium.Faultless

end SealedLog
