import SealedLog.Proofs.Console.Endings
import SealedLog.Proofs.HexDump.Reading

/-!
# What a printed log tells

A log that is there can be brought in pieces of any size, by a reader that has to be called again
now and then. What is printed of it does not depend on that: the text tells the bytes of the log,
and so two logs are printed alike only if they have the same bytes.

- `Console.Holds`, `Console.Prints`: a log that is there, and the text that is printed of it.
- `Console.printLog_delivered`: the text that is printed.
- `Console.printed_tells_content`: what the text tells.
-/

namespace SealedLog

namespace Console

variable {ε μ : Type} [Medium μ] {console : Console ε μ Page} {world : World} {content : Bytes}

/-! ## Logs that are there -/

/-- The log of the console is there, with these bytes for everyone who reads it. -/
def Holds (console : Console ε μ Page) (world : World) (content : Bytes) : Prop :=
  Medium.Discloses ⟨console.journal.store.medium, world.files⟩ (some content)

/-- The log is printed without an error, and this text is what is printed. -/
def Prints (console : Console ε μ Page) (world : World) (text : String) : Prop :=
  ∃ last around, printLog.run console world = .ok ((.ok (), last), around) ∧
    last.screen.shown = console.screen.shown ++ text

/-! ## Printing -/

/-- The lines of a log are printed, unless the page is full or records have no length. -/
theorem printLog_delivered {reader : Medium.Reader μ} {site : Site μ}
    (hopen : Medium.openRead ⟨console.journal.store.medium, world.files⟩
      = (.ok (some reader), site)) (hdelivers : Medium.Delivers .exhausted content reader site) :
    printLog.Ensures console world (fun _ => console.journal.store.recordLen = 0)
      (fun _ _ _ => console.screen.capacity ≠ none)
      fun _ last _ =>
        last.screen.shown = console.screen.shown ++ linesOf (HexDump.chunks 0 content) := by
  obtain ⟨site', hall⟩ := HexDump.all_of_delivery hdelivers console.journal.store.location 0 false
  have hprints := (printLog_prints hopen hall).mono (fun _ _ _ hfull => hfull)
    fun _ last _ hlast => congrArg (fun last => last.screen.shown) hlast.1
  exact Act.Ensures.allowing hprints fun _ hwhy => hwhy.2

/-- So this text is what is printed of a log. -/
theorem Holds.text_eq (h : console.Holds world content) {text : String}
    (hprints : console.Prints world text) : text = linesOf (HexDump.chunks 0 content) := by
  obtain ⟨reader, site, hopen, hdelivers⟩ := h
  obtain ⟨last, around, hrun, hshown⟩ := hprints
  have hlines : last.screen.shown = console.screen.shown ++ linesOf (HexDump.chunks 0 content) :=
    (printLog_delivered hopen hdelivers).ends _ _ _ hrun
  exact (String.append_right_inj _).mp (hshown.symm.trans hlines)

theorem Holds.tells (h : console.Holds world content) {text : String}
    (hprints : console.Prints world text) : HexDump.Tells text content := by
  rw [h.text_eq hprints]
  exact HexDump.tells_chunks content

/-- It is printed if there is room for it and records have a length. -/
theorem Holds.prints (h : console.Holds world content) (hendless : console.screen.capacity = none)
    (hpos : 0 < console.journal.store.recordLen) : ∃ text, console.Prints world text := by
  obtain ⟨reader, site, hopen, hdelivers⟩ := h
  have hshows := printLog_delivered hopen hdelivers
  cases hrun : printLog.run console world with
  | error why => exact absurd (hshows.halts why hrun) (Nat.ne_of_gt hpos)
  | ok ended =>
    obtain ⟨⟨result, last⟩, around⟩ := ended
    have hlast := hshows.ends _ _ _ hrun
    cases result with
    | error error => exact absurd hendless hlast
    | ok _ => exact ⟨_, last, around, hrun, hlast⟩

/-- What is printed of a log that is there can be read back, line by line: the bytes on the lines
are those of the log, and the offset of every line is the number of bytes on the lines before it. So
of two logs the same is printed only if they have the same bytes, whatever media they are on. A log
is printed whenever there is room for it and its records have a length. -/
theorem printed_tells_content (h : console.Holds world content) :
    (console.screen.capacity = none → 0 < console.journal.store.recordLen →
      ∃ text, console.Prints world text) ∧
    (∀ text, console.Prints world text → HexDump.Tells text content) ∧
    ∀ {ε' μ' : Type} [Medium μ'] (console' : Console ε' μ' Page) (world' : World) (content' : Bytes)
      (text text' : String), console'.Holds world' content' → console.Prints world text →
      console'.Prints world' text' → (text = text' ↔ content = content') := by
  refine ⟨h.prints, fun _ => h.tells, ?_⟩
  intro ε' μ' _ console' world' content' text text' h' hprints hprints'
  constructor
  · rintro rfl
    exact (h.tells hprints).unique (h'.tells hprints')
  · rintro rfl
    rw [h.text_eq hprints, h'.text_eq hprints']

/-- A console of a log, with an element that is not asked for anything. -/
def beside (medium : μ) : Console ScriptedElement μ Page where
  journal :=
    { custody := ⟨{ element := {}, timeout := none }, { id := 0 }, .ready⟩
      provisioning := .reused
      sealer := { slot := { id := 0 } }
      store := { medium }
      started := 0 }
  screen := {}

/-- A log of seventy bytes is read in pieces of at most five, with an interruption; in memory, the
same bytes are read at once. The same is printed of both. -/
theorem choppy_printed_like_memory :
    ∃ (medium : Flaky) (text : String),
      (beside medium).Holds {} (.replicate 70 7) ∧
      (beside (⟨some (.replicate 70 7)⟩ : Memory)).Holds {} (.replicate 70 7) ∧
      (beside medium).Prints {} text ∧ HexDump.Tells text (.replicate 70 7) ∧
      (beside (⟨some (.replicate 70 7)⟩ : Memory)).Prints {} text := by
  let medium : Flaky :=
    (Store.choppy { call := .read, after := 7, failure := .interruption "again" }).medium
  have hpatient : medium.Patient := Flaky.patient_of_interruption _ 7 "again" (by decide)
  have hchoppy : (beside medium).Holds {} (.replicate 70 7) := hpatient.discloses rfl {}
  have hmemory : (beside (⟨some (.replicate 70 7)⟩ : Memory)).Holds {} (.replicate 70 7) :=
    Memory.faultless.discloses trivial
  obtain ⟨hprints, htells, halike⟩ := printed_tells_content hchoppy
  obtain ⟨text, htext⟩ := hprints rfl (by decide)
  obtain ⟨text', htext'⟩ := (printed_tells_content hmemory).1 rfl (by decide)
  obtain rfl : text = text' := (halike _ _ _ _ _ hmemory htext htext').mpr rfl
  exact ⟨medium, text, hchoppy, hmemory, htext, htells text htext, htext'⟩

end Console

end SealedLog
