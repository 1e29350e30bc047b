import SealedLog.Proofs.Medium.LogFile
import SealedLog.Proofs.Medium.Memory

/-!
# Logs that can be read

A log can be read if a dump of it comes to its end, and nothing has changed then.

- `Medium.Legible`: the log can be read, with the pieces that a dump shows.
- `Memory.legible`: a log in memory always can.
- `LogFile.legible`: a log in a file can if no mishap is to come.
-/

namespace SealedLog

namespace Medium

variable {μ : Type} [Medium μ] {site : Site μ}

/-- A dump of the log shows these pieces, or there is no log. Everything is as it was then. -/
def Legible (site : Site μ) (chunks : List HexChunk) : Prop :=
  ∃ reader, openRead site = (.ok reader, site) ∧
    ∀ target missing, HexDump.all ⟨reader, target, 0, missing⟩ site = (chunks.map .ok, site)

/-- While nothing goes wrong, a log can be read if opening it leaves everything as it was. -/
theorem Faultless.legible (laws : Faultless μ) (hcalm : laws.Calm site)
    (hopen : (openRead site).2 = site) :
    Legible site (HexDump.chunks 0 ((laws.content site).getD [])) := by
  obtain ⟨after, hopened, -, -⟩ := laws.openRead_calm hcalm
  rw [hopened] at hopen
  obtain rfl : after = site := hopen
  refine ⟨_, hopened, fun target missing => ?_⟩
  cases laws.content after with
  | none =>
    rw [Option.getD_none, HexDump.chunks_nil]
    rfl
  | some content => exact laws.all_bring hcalm content target 0 missing

end Medium

/-- A log in memory can always be read. -/
theorem Memory.legible (site : Site Memory) :
    Medium.Legible site (HexDump.chunks 0 site.medium.bytes) :=
  Memory.faultless.legible trivial rfl

/-- A log in a file can be read if no mishap is to come. -/
theorem LogFile.legible {site : Site LogFile} (hcalm : Calm site)
    (hmishaps : site.files.mishaps = []) :
    Medium.Legible site (HexDump.chunks 0 ((site.files.read? site.medium.path).getD [])) := by
  refine LogFile.faultless.legible hcalm ?_
  rw [hcalm.openRead]
  rcases site with ⟨medium, nodes, home, umask, mishaps⟩
  obtain rfl : mishaps = [] := hmishaps
  rfl

end SealedLog
