import SealedLog.Journal
import SealedLog.Proofs.Medium.Either
import SealedLog.Proofs.Medium.Mounting
import SealedLog.Proofs.Store.Refinement
import SealedLog.Proofs.Store.Torn

/-!
# Stores on a mounted file

What the operations of a store come to when its log is in a file that was mounted. The medium may
fail; then nothing is said of the log here, but nothing else has changed.

- `StoreError.OfMedium`: the log could not be opened, written or read.
- `Store.append_opened`: what is so after an addition, from what the calls of the medium keep.
- `Store.append_ensures`: nothing but the log has changed, and it is for its owner alone.
- `Store.append_mounted`, `Store.clear_mounted`: the two ways to change a log.
- `Store.records_mounted`: the log is read back.
-/

namespace SealedLog

/-- The log could not be opened, written or read. -/
def StoreError.OfMedium : StoreError → Prop
  | .openFailed _ _ | .writeFailed _ _ | .readFailed _ _ => True
  | .recordSizeMismatch _ _ => False

namespace Store

open Files

/-- A store whose log is in the file at a path. -/
def mounted (path : Path) (recordLen : Nat) : Store Mounted := ⟨.inr ⟨path⟩, recordLen⟩

/-! ## What is kept -/

section

variable {μ : Type} [Medium μ]

theorem writeOut_opened {Opened : Medium.Writer μ → Site μ → Prop}
    (hwrite : ∀ {writer site} bytes, Opened writer site →
      Opened (Medium.write writer bytes site).1.2 (Medium.write writer bytes site).2)
    (hflush : ∀ {writer site}, Opened writer site → Opened writer (Medium.flush writer site).2)
    {writer : Medium.Writer μ} {site : Site μ} (h : Opened writer site) (bytes : Bytes) :
    ∃ writer', Opened writer' (writeOut writer bytes site).2 := by
  have hall := Medium.writeAll_opened hwrite writer bytes site h
  rw [writeOut]
  rcases hwriteAll : Medium.writeAll writer bytes site with ⟨⟨_ | _, writer'⟩, site'⟩
  · rw [hwriteAll] at hall
    exact ⟨writer', hall⟩
  · rw [hwriteAll] at hall
    exact ⟨writer', hflush hall⟩

/-- What is so when the medium was opened, and what writing and flushing keep, is so after an addition.
If the medium cannot be opened, what is said of that is so. -/
theorem append_opened (store : Store μ) (world : World)
    (Opened : Medium.Writer μ → Site μ → Prop) (Failed : Site μ → Prop)
    (hopened : ∀ writer site, Medium.openAppend ⟨store.medium, world.files⟩ = (.ok writer, site) →
      Opened writer site)
    (hfailed : ∀ error site, Medium.openAppend ⟨store.medium, world.files⟩ = (.error error, site) →
      Failed site)
    (hwrite : ∀ {writer site} bytes, Opened writer site →
      Opened (Medium.write writer bytes site).1.2 (Medium.write writer bytes site).2)
    (hflush : ∀ {writer site}, Opened writer site → Opened writer (Medium.flush writer site).2)
    (record : Record) (h : Failed ⟨store.medium, world.files⟩) :
    (append record).Ensures store world (fun _ => True)
      (fun _ store' world' => Failed ⟨store'.medium, world'.files⟩ ∨
        ∃ writer, Opened writer ⟨store'.medium, world'.files⟩)
      fun _ store' world' => ∃ writer, Opened writer ⟨store'.medium, world'.files⟩ := by
  refine Attempt.Ensures.step rfl ?_
  split
  · exact Attempt.Ensures.of_eq rfl (.inl h)
  · have hopen : (trying Medium.openAppend .openFailed).Ensures store world (fun _ => True)
        (fun _ store' world' => Failed ⟨store'.medium, world'.files⟩ ∨
          ∃ writer, Opened writer ⟨store'.medium, world'.files⟩)
        fun writer store' world' => Opened writer ⟨store'.medium, world'.files⟩ := by
      refine Attempt.Ensures.of_eq (trying_eq Medium.openAppend .openFailed store world) ?_
      rcases hopen : Medium.openAppend ⟨store.medium, world.files⟩ with ⟨error | writer, site⟩
      · exact .inl (hfailed error site hopen)
      · exact hopened writer site hopen
    refine Attempt.Ensures.bind hopen fun writer store' world' hwriter => ?_
    refine Attempt.Ensures.of_eq
      (trying_eq (writeOut writer record.toBytes) .writeFailed store' world') ?_
    have hout := writeOut_opened hwrite hflush hwriter record.toBytes
    cases (writeOut writer record.toBytes ⟨store'.medium, world'.files⟩).1 with
    | error error => exact .inr hout
    | ok _ => exact hout

end

/-! ## Operations -/

variable {path : Path} {recordLen : Nat}

/-- The writer was opened on the log at the path. Since then nothing has changed but the log, which is
for its owner alone. -/
structure Opened (path : Path) (first : Files) (writer : Medium.Writer Mounted)
    (site : Site Mounted) : Prop where
  medium : site.medium = .inr ⟨path⟩
  writer : writer = .inr (first.placeOf path)
  read : first.read? path = first.contentAt? (first.placeOf path)
  sameBut : SameBut (first.placeOf path) first site.files
  log : ∃ content bits, bits % 0o1000 = LogFile.fileMode ∧
    site.files.existing path = .ok (first.placeOf path, .file content bits)

namespace Opened

variable {first : Files} {writer : Medium.Writer Mounted} {site : Site Mounted}

theorem openAppend {files : Files}
    (h : Medium.openAppend (⟨.inr ⟨path⟩, files⟩ : Site Mounted) = (.ok writer, site)) :
    Opened path files writer site := by
  have hsame := LogFile.openRestricted_sameBut ⟨path⟩ false files
  rcases hopen : LogFile.openRestricted ⟨path⟩ false files with ⟨error | place, opened⟩
  · simp only [Medium.openAppend, hopen] at h
    cases h
  · simp only [Medium.openAppend, hopen] at h
    cases h
    rw [hopen] at hsame
    obtain ⟨bits, hbits, hthere⟩ := LogFile.existing_of_openRestricted hopen
    obtain ⟨rfl, hread⟩ := LogFile.place_of_openRestricted hopen
    exact ⟨rfl, rfl, hread, hsame, _, bits, hbits, hthere⟩

theorem write (bytes : Bytes) (h : Opened path first writer site) :
    Opened path first (Medium.write writer bytes site).1.2 (Medium.write writer bytes site).2 := by
  obtain ⟨medium, files⟩ := site
  obtain ⟨rfl, rfl, hread, hsame, content, bits, hbits, hthere⟩ := h
  obtain ⟨content', hwritten, hsame'⟩ := writeSome_existing hthere bytes
  show Opened path first (.inr (LogFile.write _ bytes ⟨⟨path⟩, files⟩).1.2)
    (Medium.Site.second (LogFile.write _ bytes ⟨⟨path⟩, files⟩).2)
  rw [LogFile.write]
  rcases hwrite : Files.writeSome (first.placeOf path) bytes files with ⟨error | count, written⟩ <;>
    rw [hwrite] at hwritten hsame' <;>
    exact ⟨rfl, rfl, hread, hsame.trans hsame', content', bits, hbits, hwritten⟩

theorem flush (h : Opened path first writer site) :
    Opened path first writer (Medium.flush writer site).2 := by
  obtain ⟨medium, files⟩ := site
  obtain ⟨rfl, rfl, hread, hsame, hlog⟩ := h
  exact ⟨rfl, rfl, hread, hsame, hlog⟩

end Opened

/-- Adding to a mounted log changes nothing but the log, however it ends. A log that was added to is
for its owner alone. -/
theorem append_ensures (path : Path) (recordLen : Nat) (record : Record) (world : World) :
    (append record).Ensures (mounted path recordLen) world (fun _ => True)
      (fun _ store' world' => store'.medium = .inr ⟨path⟩ ∧
        SameBut (world.files.placeOf path) world.files world'.files)
      fun _ store' world' =>
        ∃ writer, Opened path world.files writer ⟨store'.medium, world'.files⟩ := by
  have hopened := append_opened (mounted path recordLen) world (Opened path world.files)
    (fun site => site.medium = .inr ⟨path⟩ ∧
      SameBut (world.files.placeOf path) world.files site.files)
    (fun _ _ h => .openAppend h) (fun error site h => ?_) (fun bytes h => h.write bytes)
    (fun h => h.flush) record ⟨rfl, .refl _ _⟩
  · refine hopened.mono ?_ fun _ _ _ h => h
    rintro error store' world' (hfailed | ⟨writer, hopened⟩)
    · exact hfailed
    · exact ⟨hopened.medium, hopened.sameBut⟩
  · have hsame := LogFile.openRestricted_sameBut ⟨path⟩ false world.files
    obtain rfl := congrArg Prod.snd h
    exact ⟨rfl, hsame⟩

/-- Adding to a mounted log leaves it mounted, however it ends. -/
theorem medium_of_append {record : Record} {result : Except StoreError Unit} {store : Store Mounted}
    {world world' : World}
    (h : (append record).run (mounted path recordLen) world = .ok ((result, store), world')) :
    store.medium = .inr ⟨path⟩ := by
  have hended := (append_ensures path recordLen record world).ends result store world' h
  cases result with
  | error error => exact hended.1
  | ok _ => exact hended.elim fun _ hopened => hopened.medium

/-- A record is added at the end of the log, or the medium fails. -/
theorem append_mounted {record : Record} (hlen : record.toBytes.length = recordLen)
    (world : World) :
    ∃ result world', (append record).run (mounted path recordLen) world
        = .ok ((result, mounted path recordLen), world') ∧
      ((∃ error, result = .error error ∧ error.OfMedium) ∨
        result = .ok () ∧ (world'.files.read? path).getD []
          = (world.files.read? path).getD [] ++ record.toBytes) := by
  obtain ⟨result, ⟨medium, _⟩, world', part, hrun, hleaves, rfl, hcontent⟩ :=
    append_leaves (Memory.appending.either LogFile.appending) (mounted path recordLen) world hlen
  obtain rfl : medium = .inr ⟨path⟩ := medium_of_append hrun
  refine ⟨result, world', hrun, ?_⟩
  cases hleaves with
  | whole => exact .inr ⟨rfl, hcontent⟩
  | unopened => exact .inl ⟨_, rfl, trivial⟩
  | torn _ => exact .inl ⟨_, rfl, trivial⟩

/-- The log is emptied, and is for its owner alone, or the medium fails. Nothing else changes. -/
theorem clear_mounted (path : Path) (recordLen : Nat) (world : World) :
    ∃ result world', clear.run (mounted path recordLen) world
        = .ok ((result, mounted path recordLen), world') ∧
      SameBut (world.files.placeOf path) world.files world'.files ∧
      ((∃ error, result = .error error ∧ error.OfMedium) ∨
        result = .ok () ∧ ∃ place bits, bits % 0o1000 = LogFile.fileMode ∧
          world'.files.existing path = .ok (place, .file [] bits)) := by
  have hsame := LogFile.truncate_sameBut ⟨path⟩ world.files
  obtain ⟨result, files, htruncate, hresult⟩ := LogFile.truncate_cases ⟨path⟩ world.files
  have hmounted : Medium.truncate (⟨.inr ⟨path⟩, world.files⟩ : Site Mounted)
      = (result, ⟨.inr ⟨path⟩, files⟩) := by
    show ((Medium.truncate (⟨⟨path⟩, world.files⟩ : Site LogFile)).1,
      Medium.Site.second (Medium.truncate (⟨⟨path⟩, world.files⟩ : Site LogFile)).2) = _
    rw [htruncate]
    rfl
  have htrying := trying_eq Medium.truncate .openFailed (mounted path recordLen) world
  rw [show Medium.truncate ⟨(mounted path recordLen).medium, world.files⟩ = _ from hmounted]
    at htrying
  rw [htruncate] at hsame
  cases result with
  | error error => exact ⟨_, _, Act.bind_of_ok htrying, hsame, .inl ⟨_, rfl, trivial⟩⟩
  | ok _ =>
    rcases hresult with ⟨error, herror⟩ | ⟨-, hempty⟩
    · cases herror
    · exact ⟨_, _, Attempt.bind_of_ok htrying, hsame, .inr ⟨rfl, hempty⟩⟩

/-- The log is read back as the records in its bytes. -/
theorem records_mounted {name : List Char} (hname : path.fileName = some name)
    (hpos : 0 < recordLen) {world : World} {bytes : Bytes}
    (hread : world.files.read? path = some bytes) (huntroubled : Untroubled world.files) :
    ∃ world', records.run (mounted path recordLen) world
      = .ok ((split path.text recordLen bytes, mounted path recordLen), world') := by
  obtain ⟨place, hholds⟩ := holds_of_read? hname hread
  have hcalm : LogFile.faultless.second.Calm
      ⟨(mounted path recordLen).medium, world.files⟩ := ⟨huntroubled, hholds.leads⟩
  obtain ⟨files, -, -, hrecords⟩ := records_of_calm hcalm hread
  have hne : (mounted path recordLen).recordLen ≠ 0 := Nat.ne_of_gt hpos
  rw [if_neg hne] at hrecords
  exact ⟨_, hrecords⟩

end Store

end SealedLog
