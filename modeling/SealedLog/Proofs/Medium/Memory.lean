import SealedLog.Medium.Memory
import SealedLog.Proofs.Medium.Faultless

/-!
# The log in memory

Memory takes all it is given in one call and brings all it is asked for, and a reader has its own
copy of the log.

- `Memory.writeAll_eq`: what is written is added at the end.
- `Memory.faultless`: a log in memory can always be relied on.
- `Memory.readToEnd_eq`, `Memory.readUpTo_eq`: what is read, with the log as it was.
- `Memory.items_site`: dumping leaves the log alone.
-/

namespace SealedLog.Memory

@[simp] theorem append_nil_append (memory : Memory) (more : Bytes) :
    (memory.append []).append more = memory.append more := by
  simp [append, bytes]

/-- What is written is added at the end. -/
theorem writeAll_eq (writer : Medium.Writer Memory) (bytes : Bytes) (site : Site Memory) :
    Medium.writeAll writer bytes site
      = ((.ok (), writer),
        if bytes = [] then site else { site with medium := site.medium.append bytes }) := by
  rw [Medium.writeAll]
  by_cases h : bytes = []
  · rw [if_pos h, if_pos h]
  · have hpos : bytes.length ≠ 0 := fun hzero => h (List.length_eq_zero_iff.mp hzero)
    rw [if_neg h, if_neg h]
    simp only [Medium.write, if_neg hpos, List.drop_length]
    rw [Medium.writeAll, if_pos rfl]
    cases writer
    rfl

/-- What can be seen of a log in memory. -/
def view : Medium.View Memory where
  content site := site.medium.content
  removed site := { site with medium := ⟨none⟩ }

/-- Nothing goes wrong in memory. -/
def faultless : Medium.Faultless Memory where
  toView := view
  Calm _ := True
  Opened _ _ := True
  bring rest := rest
  openAppend_calm {site} _ := by
    refine ⟨(), { site with medium := site.medium.append [] }, rfl, trivial, trivial, ?_⟩
    exact congrArg some (List.append_nil _)
  write_calm {writer site old} bytes _ _ hcontent := by
    refine ⟨{ site with medium := site.medium.append bytes }, rfl, trivial, trivial, ?_⟩
    show some (site.medium.content.getD [] ++ bytes) = some (old ++ bytes)
    rw [show site.medium.content = some old from hcontent, Option.getD_some]
  flush_calm {_ site} _ _ := ⟨site, rfl, trivial, rfl⟩
  truncate_calm {site} _ := ⟨{ site with medium := ⟨some []⟩ }, rfl, trivial, rfl⟩
  openRead_calm {site} _ := by
    refine ⟨site, ?_, trivial, .refl site⟩
    show (Except.ok site.medium.content, site) = (.ok (site.medium.content.map id), site)
    rw [Option.map_id]
    rfl
  size_calm {site} _ := ⟨site, rfl, trivial, .refl site⟩
  removed_calm _ := ⟨trivial, rfl⟩
  read_bring _ _ _ := rfl
  remaining_bring _ _ := rfl
  content_untouched h := congrArg Memory.content h.medium

/-- A reader brings its copy of the log. -/
theorem readToEnd_eq (rest : Bytes) (site : Site Memory) :
    Medium.readToEnd (μ := Memory) rest site = (.ok rest, site) :=
  faultless.readToEnd rest trivial

/-- A reader brings as much as is asked for, or what is left. -/
theorem readUpTo_eq (want : Nat) (rest : Bytes) (site : Site Memory) :
    Medium.readUpTo (μ := Memory) want rest site
      = ((.ok (rest.take want), rest.drop want), site) :=
  faultless.readUpTo want rest trivial

/-- Dumping leaves the log alone. -/
theorem items_site (limit : Nat) (dump : HexDump (Medium.Reader Memory)) (site : Site Memory) :
    (HexDump.items limit dump site).2 = site := by
  induction limit generalizing dump with
  | zero => rfl
  | succ limit ih =>
    have hnext : (HexDump.next dump site).2 = site := by
      rw [HexDump.next]
      cases dump.reader with
      | none => rfl
      | some rest =>
        simp only [readUpTo_eq]
        split <;> rfl
    rw [HexDump.items]
    rcases hfound : HexDump.next dump site with ⟨⟨_ | item, later⟩, around⟩
    · rw [hfound] at hnext
      exact hnext
    · rw [hfound] at hnext
      obtain rfl : around = site := hnext
      exact ih later

end SealedLog.Memory
