import SealedLog.Proofs.Journal.Log
import SealedLog.Proofs.Lasting
import SealedLog.Proofs.Medium.Mounting
import SealedLog.Proofs.Store.Mounted

/-!
# A journal over a mounted log

A boot mounts the log, and then it makes the key ready. Neither changes what is in the log. From
then on the journal changes it by whole records, or empties it.

- `Element.Sparing path Quiet`: elements that leave the log at a path alone.
- `Journal.boot_spares`: a boot leaves the log alone, however it ends.
- `Journal.Change`: what can change a log; `Bound.perform` says what becomes of it.
-/

namespace SealedLog

open Files

/-- The path of the log that a configuration names, if it is in a file. -/
def StorageConfig.logPath? (config : StorageConfig) : Option Path :=
  match config.backend with
  | .memory => none
  | kind =>
    some (((config.mountPoint <|> kind.defaultMountPoint).getD ⟨"."⟩).join config.fileName)

variable {path : Path} {recordSize : Nat}

/-- Where a configuration mounts its log, if that is in a file. -/
def StorageConfig.outer? (config : StorageConfig) : Option Path :=
  match config.backend with
  | .memory => none
  | kind => some ((config.mountPoint <|> kind.defaultMountPoint).getD ⟨"."⟩)

theorem StorageConfig.logPath?_eq (config : StorageConfig) :
    config.logPath? = config.outer?.map (·.join config.fileName) := by
  rcases config with ⟨_ | _ | _, _, _⟩ <;> rfl

/-- A log in a file is mounted below the mount point. -/
theorem StorageConfig.mount_of_outer {config : StorageConfig} {outer : Path}
    (h : config.outer? = some outer) (world : World) :
    ∃ result world', config.mount world = .ok (result.map .inr, world') ∧
      LogFile.Mounting outer ⟨outer.join config.fileName⟩ world.files result world'.files := by
  obtain ⟨result, world', hmount, hmounting⟩ :=
    LogFile.mount_mounting outer config.fileName world
  refine ⟨result, world', ?_, hmounting⟩
  rcases config with ⟨_ | _ | _, mountPoint, fileName⟩ <;> cases h
  · exact Scene.bind_of_ok hmount
  · exact Scene.bind_of_ok hmount

/-- A log that is mounted by its configuration, or cannot be mounted, is left alone. -/
theorem StorageConfig.mount_spares {config : StorageConfig} (h : config.logPath? = some path)
    (world : World) :
    ∃ result world', config.mount world = .ok (result, world') ∧
      Spares path world.files world'.files ∧
      ∀ medium, result = .ok medium → medium = .inr ⟨path⟩ ∧
        ∃ place content, Holds world'.files path place content := by
  rw [config.logPath?_eq] at h
  obtain ⟨outer, houter, rfl⟩ := Option.map_eq_some_iff.mp h
  obtain ⟨result, world', hmount, hmounting⟩ := config.mount_of_outer houter world
  refine ⟨_, world', hmount, hmounting.spares, fun medium hmedium => ?_⟩
  cases result with
  | error error => cases hmedium
  | ok file =>
    obtain ⟨rfl, hholds⟩ := hmounting.holds
    exact ⟨(Except.ok.inj hmedium).symm, hholds⟩

/-- The log could not be opened, written or read. -/
def LogError.OfMedium : LogError → Prop
  | .store source => source.OfMedium
  | _ => False

/-! ## Elements -/

variable {ε : Type} [Element ε] {Quiet : ε → Prop}

/-- Elements of which this is said leave the log at the path alone, and it can always be said of
them again. -/
structure Element.Sparing (path : Path) (Quiet : ε → Prop) : Prop where
  submit : ∀ {element} (ticket : Ticket) (command : Command), Quiet element →
    Quiet (Element.submit ticket command element).element
  await : ∀ {element} (limit : Option Span) (files : Files), Quiet element →
    Quiet (Element.await limit element files).element ∧
      Spares path files (Element.await limit element files).files

theorem Element.Sparing.lasting (h : Element.Sparing path Quiet) (first : Files) :
    Element.Lasting fun element _ files => Quiet element ∧ Spares path first files where
  submit command hlasts := ⟨h.submit _ command hlasts.1, hlasts.2⟩
  await limit hlasts :=
    ⟨(h.await limit _ hlasts.1).1, hlasts.2.trans (h.await limit _ hlasts.1).2⟩

/-- A scripted element does nothing while a caller waits. -/
theorem ScriptedElement.sparing (path : Path) :
    Element.Sparing path fun _ : ScriptedElement => True where
  submit _ _ _ := trivial
  await _ files _ := ⟨trivial, .refl path files⟩

namespace Journal

/-! ## Boots -/

/-- What is known of a journal that was booted over the log at the path. -/
structure Bound (path : Path) (recordSize : Nat) (Quiet : ε → Prop) (journal : Journal ε Mounted) :
    Prop where
  store : journal.store = .mounted path recordSize
  /-- Whatever is sealed can be stored. -/
  fits : ∀ record : Record, record.ciphertext.length = journal.sealer.blockLen →
    journal.sealer.blockLen ≤ Sealer.capacityMax → Store.Fits recordSize record
  quiet : Quiet journal.gateway.element
  named : path.fileName = some path.lastPiece

/-- A boot leaves the log alone, however it ends. If it succeeds, there is a log. -/
theorem boot_spares (hsparing : Element.Sparing path Quiet) {config : Config}
    (hpath : config.storage.logPath? = some path) {gateway : Gateway ε}
    (hquiet : Quiet gateway.element) (world : World) :
    (boot config).Ensures gateway world (fun _ => True)
      (fun _ _ world' => Spares path world.files world'.files)
      fun journal _ world' => Spares path world.files world'.files ∧
        Bound path config.recordLen Quiet journal ∧
        ∃ bytes, world'.files.read? path = some bytes := by
  unfold Attempt.Ensures
  rw [boot]
  cases hvalidate : config.validate with
  | error error => exact Act.Ensures.of_eq rfl (.refl path world.files)
  | ok _ =>
    obtain ⟨result, mounted, hmount, hspares, hmounted⟩ :=
      StorageConfig.mount_spares hpath world
    refine Act.Ensures.step (Act.lift_of_ok hmount) ?_
    cases result with
    | error error => exact Act.Ensures.of_eq rfl hspares
    | ok medium =>
      obtain ⟨rfl, place, content, hholds⟩ := hmounted medium rfl
      have hbooted := bootOver_lasting ((hsparing.lasting mounted.files).under _)
        (show gateway.Has _ mounted from ⟨hquiet, .refl path mounted.files⟩) config
        (.inr ⟨path⟩ : Mounted)
      refine Act.Ensures.mono hbooted fun result gateway' world' hended => ?_
      cases result with
      | error error => exact hspares.trans hended.2
      | ok journal =>
        obtain ⟨⟨hquiet', hkept⟩, rfl, -, hsealer, hstore⟩ := hended
        refine ⟨hspares.trans hkept, ⟨hstore, fun record hlen hroom => ?_, hquiet',
          hholds.fileName⟩, content, hkept.kept hholds.read?_eq⟩
        rw [hsealer] at hlen hroom
        exact config.fits_of_validate hvalidate hroom hlen

/-! ## Changes -/

/-- What can change a log. -/
inductive Change
  | appendStatus
  | appendMessage (plaintext : Bytes)
  | clear
deriving DecidableEq

/-- A change and its answer. -/
def Change.perform {μ : Type} [Medium μ] : Change → Attempt (Journal ε μ) LogError Response
  | .appendStatus => do return .reported (← Journal.appendStatus)
  | .appendMessage plaintext => do return .added (← Journal.appendMessage plaintext)
  | .clear => do
    Journal.clear
    return .cleared

/-- The log at the path holds these records, each of the right length. -/
structure Logged (path : Path) (recordSize : Nat) (records : List Record) (files : Files) :
    Prop where
  read : files.read? path = some (records.flatMap Record.toBytes)
  fits : ∀ record ∈ records, Store.Fits recordSize record

variable {records : List Record} {files files' : Files} {journal : Journal ε Mounted}
  {world : World}

theorem Logged.spares (h : Logged path recordSize records files)
    (hspares : Spares path files files') : Logged path recordSize records files' :=
  ⟨hspares.kept h.read, h.fits⟩

theorem Logged.nil (h : files.read? path = some []) : Logged path recordSize [] files :=
  ⟨h, fun _ hmem => absurd hmem List.not_mem_nil⟩

/-- A record that was added stands behind the others. -/
theorem Logged.concat (h : Logged path recordSize records files) {record : Record}
    (hfits : Store.Fits recordSize record)
    (hread : (files'.read? path).getD [] = (files.read? path).getD [] ++ record.toBytes) :
    Logged path recordSize (records ++ [record]) files' := by
  constructor
  · rw [h.read, Option.getD_some] at hread
    cases hfound : files'.read? path with
    | none =>
      -- The record has some bytes, so a log that is missing has not got them.
      rw [hfound, Option.getD_none] at hread
      have hempty := (List.append_eq_nil_iff.mp hread.symm).2
      exact absurd (List.append_eq_nil_iff.mp hempty).2 hfits.nonempty
    | some bytes =>
      rw [hfound, Option.getD_some] at hread
      rw [hread, List.flatMap_append, List.flatMap_singleton]
  · intro other hother
    rcases List.mem_append.mp hother with hold | hnew
    · exact h.fits other hold
    · rw [List.mem_singleton.mp hnew]
      exact hfits

namespace Bound

omit [Element ε] in
theorem withGateway (h : Bound path recordSize Quiet journal) {gateway : Gateway ε}
    (hquiet : Quiet gateway.element) : Bound path recordSize Quiet (journal.withGateway gateway) :=
  ⟨h.store, h.fits, hquiet, h.named⟩

omit [Element ε] in
/-- A sealed record is added to the log, or the medium fails. -/
theorem store_ensures (h : Bound path recordSize Quiet journal)
    (hlogged : Logged path recordSize records world.files) {record : Record}
    (hfits : Store.Fits recordSize record) :
    (onStore (Store.append record)).Ensures journal world (fun _ => True)
      (fun error journal' _ => Bound path recordSize Quiet journal' ∧ error.OfMedium)
      fun _ journal' world' => Bound path recordSize Quiet journal' ∧
        Logged path recordSize (records ++ [record]) world'.files := by
  obtain ⟨result, world', happend, hresult⟩ := Store.append_mounted hfits.length world
  rw [← h.store] at happend
  refine Attempt.Ensures.of_eq (onStore_eq happend) ?_
  rcases hresult with ⟨error, rfl, herror⟩ | ⟨rfl, hread⟩
  · exact ⟨h, herror⟩
  · exact ⟨h, hlogged.concat hfits hread⟩

variable (hsparing : Element.Sparing path Quiet)
include hsparing

/-- A message is added as one record, or the log stays as it was. Of a log whose medium has failed
nothing is said. -/
theorem appendMessage_ensures (h : Bound path recordSize Quiet journal)
    (hlogged : Logged path recordSize records world.files) (plaintext : Bytes) :
    (appendMessage plaintext).Ensures journal world (fun _ => True)
      (fun error journal' world' => Bound path recordSize Quiet journal' ∧
        (¬ error.OfMedium → Logged path recordSize records world'.files))
      fun record journal' world' => Bound path recordSize Quiet journal' ∧
        Logged path recordSize (records ++ [record]) world'.files := by
  have hsealed := Sealer.encryptMessage_lasting ((hsparing.lasting world.files).under _)
    (show journal.gateway.Has _ world from ⟨h.quiet, .refl path world.files⟩) journal.sealer
    plaintext
  refine appendMessage_stores (hsealed.mono ?_ ?_)
  · rintro source gateway world' ⟨hquiet, hspares⟩
    exact ⟨h.withGateway hquiet, fun _ => hlogged.spares hspares⟩
  · rintro record gateway world' ⟨⟨hquiet, hspares⟩, hlen, hroom⟩
    have hfits := h.fits record hlen hroom
    refine ((h.withGateway hquiet).store_ensures (hlogged.spares hspares) hfits).mono ?_ ?_
    · exact fun error _ _ hfailed => ⟨hfailed.1, fun hnot => absurd hfailed.2 hnot⟩
    · exact fun _ _ _ hadded => hadded

/-- A status entry is added like any other. -/
theorem appendStatus_ensures (h : Bound path recordSize Quiet journal)
    (hlogged : Logged path recordSize records world.files) :
    appendStatus.Ensures journal world (fun _ => True)
      (fun error journal' world' => Bound path recordSize Quiet journal' ∧
        (¬ error.OfMedium → Logged path recordSize records world'.files))
      fun report journal' world' => Bound path recordSize Quiet journal' ∧
        Logged path recordSize (records ++ [report.record]) world'.files := by
  have hnext : Bound path recordSize Quiet
      { journal with sequence := ⟨journal.sequence.current + 1⟩ } :=
    ⟨h.store, h.fits, h.quiet, h.named⟩
  refine Journal.appendStatus_ensures (appendNumbered_ensures fun plaintext => ?_)
  refine (hnext.appendMessage_ensures hsparing hlogged plaintext).mono
    (fun _ _ _ hfailed => hfailed) ?_
  exact fun record journal' added hadded message notices _ => hadded

omit [Element ε] hsparing in
/-- The log is emptied, or the medium fails. -/
theorem clear_ensures (h : Bound path recordSize Quiet journal) :
    Journal.clear.Ensures journal world (fun _ => True)
      (fun error journal' _ => Bound path recordSize Quiet journal' ∧ error.OfMedium)
      fun _ journal' world' => Bound path recordSize Quiet journal' ∧
        Logged path recordSize [] world'.files := by
  obtain ⟨result, world', hclear, -, hresult⟩ :=
    Store.clear_mounted path recordSize world
  rw [← h.store] at hclear
  refine Attempt.Ensures.of_eq (onStore_eq hclear) ?_
  rcases hresult with ⟨error, rfl, herror⟩ | ⟨rfl, place, bits, -, hempty⟩
  · exact ⟨h, herror⟩
  · exact ⟨h, .nil (read?_eq_some_iff.mpr ⟨place, bits, hempty⟩)⟩

/-- A change makes of the log what its answer says, or it leaves the log as it was. Of a log whose
medium has failed nothing is said. -/
theorem perform_ensures (h : Bound path recordSize Quiet journal)
    (hlogged : Logged path recordSize records world.files) (change : Change) :
    change.perform.Ensures journal world (fun _ => True)
      (fun error journal' world' => Bound path recordSize Quiet journal' ∧
        (¬ error.OfMedium → Logged path recordSize records world'.files))
      fun answer journal' world' => Bound path recordSize Quiet journal' ∧
        Logged path recordSize (recordsAfter records (.ok answer)) world'.files := by
  cases change with
  | appendStatus =>
    refine (h.appendStatus_ensures hsparing hlogged).bind fun report journal' world' hadded => ?_
    exact Attempt.Ensures.pure hadded
  | appendMessage plaintext =>
    refine (h.appendMessage_ensures hsparing hlogged plaintext).bind
      fun record journal' world' hadded => ?_
    exact Attempt.Ensures.pure hadded
  | clear =>
    refine (h.clear_ensures.mono ?_ fun _ _ _ hcleared => hcleared).bind
      fun _ journal' world' hcleared => ?_
    · exact fun _ _ _ hfailed => ⟨hfailed.1, fun hnot => absurd hfailed.2 hnot⟩
    · exact Attempt.Ensures.pure hcleared

omit [Element ε] hsparing in
/-- The log is read back as the records it holds. -/
theorem records_eq (h : Bound path recordSize Quiet journal)
    (hpos : 0 < recordSize) (hlogged : Logged path recordSize records world.files)
    (huntroubled : Untroubled world.files) :
    ∃ world', Journal.records.run journal world = .ok ((.ok records, journal), world') := by
  obtain ⟨world', hrecords⟩ := Store.records_mounted h.named hpos hlogged.read huntroubled
  rw [Store.split_flatMap _ hpos hlogged.fits, ← h.store] at hrecords
  exact ⟨world', onStore_eq hrecords⟩

end Bound

end Journal

end SealedLog
