import SealedLog.Medium

/-!
# The log in memory

A log kept as a byte string. There may be no log, which is not the same as an empty one.
-/

namespace SealedLog

/-- A log kept in memory. -/
structure Memory where
  content : Option Bytes := some []
deriving Repr, DecidableEq

namespace Memory

/-- The bytes of the log, or none if there is no log. -/
def bytes (memory : Memory) : Bytes := memory.content.getD []

/-- The log with more bytes at its end. -/
def append (memory : Memory) (more : Bytes) : Memory := ⟨some (memory.bytes ++ more)⟩

end Memory

instance : Medium Memory where
  Reader := Bytes
  Writer := Unit
  describe _ := "memory"
  openAppend site := (.ok (), { site with medium := site.medium.append [] })
  write _ bytes site :=
    ((.moved bytes.length, ()), { site with medium := site.medium.append bytes })
  flush _ site := (.ok (), site)
  truncate site := (.ok (), { site with medium := ⟨some []⟩ })
  openRead site := (.ok site.medium.content, site)
  read rest limit site := ((.moved (rest.take limit), rest.drop limit), site)
  size site := (.ok (site.medium.content.map List.length), site)
  patience _ _ := 0
  remaining rest _ := rest.length
  patience_lt := by simp
  remaining_le := by simp
  remaining_lt := by
    intro rest limit site h
    simp [Reply.advances] at h
    have := List.length_pos_iff.mpr h.2
    have : limit ≠ 0 := h.1
    simp only [List.length_drop]
    omega

end SealedLog
