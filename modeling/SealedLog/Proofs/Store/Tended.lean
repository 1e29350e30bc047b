import SealedLog.Proofs.Store.Mounted

/-!
# A log that is tended

A log in a file is mounted, added to and cleared in any order, and in between others change the
permission bits of the file and of anything else. Whatever bits are found, the log is for its owner
alone after each of these operations. Nothing but the operations has to do with what is in it.

- `LogFile.stored`: the bytes at the place that the path of a log means.
- `Store.Handling`: what can be done with a log; `Handling.leaves` says what it leaves in it.
- `Store.Handles`: one such step, if it succeeds.
- `Store.Kept`: what can be relied on after a step; `kept_of_handles` is its proof.
- `Store.Tended`: any number of steps.
- `Store.tended_log`: what can be relied on throughout.
-/

namespace SealedLog

open Files

/-- The bytes at the place that the path of a log means; none if there is no file. -/
def LogFile.stored (file : LogFile) (files : Files) : Bytes :=
  (files.contentAt? (files.placeOf file.path)).getD []

/-- A log that is read by its path is stored there. -/
theorem LogFile.stored_of_read? {file : LogFile} {files : Files} {bytes : Bytes}
    (h : files.read? file.path = some bytes) : file.stored files = bytes := by
  obtain ⟨place, bits, hthere⟩ := read?_eq_some_iff.mp h
  obtain ⟨-, -, -, hnode, -⟩ := existing_ok_iff.mp hthere
  rw [existing_place hthere] at hnode
  rw [stored, contentAt?, hnode]
  rfl

namespace Store

/-- What can be done with a log. -/
inductive Handling
  | mount
  | append (record : Record)
  | clear
  /-- Others do something else. -/
  | outside

/-- What is in a log after it was handled. -/
def Handling.leaves (content : Bytes) : Handling → Bytes
  | .append record => content ++ record.toBytes
  | .clear => []
  | .mount | .outside => content

variable {mountPoint : Path} {fileName : String} {recordLen : Nat} {handling : Handling}
  {handlings : List Handling} {first world world' : World}

/-- A log below a mount point is mounted, added to or cleared, and that succeeds; or others set any
permission bits, or make directories. -/
inductive Handles (mountPoint : Path) (fileName : String) (recordLen : Nat) :
    Handling → World → World → Prop
  | mount {file : LogFile} {world world' : World} :
      LogFile.mount mountPoint fileName world = .ok (.ok file, world') →
      Handles mountPoint fileName recordLen .mount world world'
  | append {record : Record} {store : Store Mounted} {world world' : World} :
      (Store.append record).run (mounted (mountPoint.join fileName) recordLen) world
        = .ok ((.ok (), store), world') →
      Handles mountPoint fileName recordLen (.append record) world world'
  | clear {store : Store Mounted} {world world' : World} :
      Store.clear.run (mounted (mountPoint.join fileName) recordLen) world
        = .ok ((.ok (), store), world') →
      Handles mountPoint fileName recordLen .clear world world'
  | outside {world world' : World} :
      Furnished world.files world'.files →
      Handles mountPoint fileName recordLen .outside world world'

/-! ## One step -/

/-- What can be relied on after a log was handled. -/
structure Kept (mountPoint : Path) (fileName : String) (handling : Handling)
    (before after : Files) : Prop where
  /-- The file is for its owner alone. -/
  file : handling ≠ .outside →
    ∃ mode, after.mode? (mountPoint.join fileName) = some mode ∧ mode % 0o1000 = 0o600
  /-- So is the directory, when the log was mounted. -/
  directory : handling = .mount →
    ∃ mode, after.mode? mountPoint = some mode ∧ mode % 0o1000 = 0o700
  /-- The log is found, with what it was left with. -/
  content : handling ≠ .outside →
    after.read? (mountPoint.join fileName)
      = some (handling.leaves (LogFile.stored ⟨mountPoint.join fileName⟩ before))
  /-- A log that was found before is found, whoever handled it. -/
  found : ∀ {bytes}, before.read? (mountPoint.join fileName) = some bytes →
    after.read? (mountPoint.join fileName) = some (handling.leaves bytes)

theorem kept_of_existing {files files' : Files} {content : Bytes} {bits : Nat} {place : Place}
    (hdirectory : handling = .mount →
      ∃ mode, files'.mode? mountPoint = some mode ∧ mode % 0o1000 = 0o700)
    (hbits : bits % 0o1000 = LogFile.fileMode)
    (hthere : files'.existing (mountPoint.join fileName) = .ok (place, .file content bits))
    (hcontent : content = handling.leaves (LogFile.stored ⟨mountPoint.join fileName⟩ files)) :
    Kept mountPoint fileName handling files files' := by
  have hread := read?_eq_some_iff.mpr ⟨place, bits, hthere⟩
  refine ⟨fun _ => ⟨bits, ?_, hbits⟩, hdirectory, fun _ => hread.trans (congrArg some hcontent), ?_⟩
  · rw [mode?, hthere]
  · intro bytes hbytes
    have hstored : LogFile.stored ⟨mountPoint.join fileName⟩ files = bytes :=
      LogFile.stored_of_read? hbytes
    rw [hread, hcontent, hstored]

/-- A record that was added has the length of the records. -/
theorem length_of_append {μ : Type} [Medium μ] {record : Record} {store store' : Store μ}
    (h : (append record).run store world = .ok ((.ok (), store'), world')) :
    record.toBytes.length = store.recordLen := by
  by_contra hlen
  cases h.symm.trans (append_refused hlen world)

/-- Whatever permission bits are found, a step leaves the log so. -/
theorem kept_of_handles (h : Handles mountPoint fileName recordLen handling world world') :
    Kept mountPoint fileName handling world.files world'.files := by
  cases h with
  | mount hmount =>
    obtain ⟨result, _, hmounted, hmounting⟩ := LogFile.mount_mounting mountPoint fileName world
    cases hmount.symm.trans hmounted
    obtain ⟨-, houter, bits, hbits, hthere⟩ := hmounting.ready
    exact kept_of_existing (fun _ => ⟨_, by rw [mode?, houter], rfl⟩) hbits hthere rfl
  | @append record store _ _ happend =>
    obtain ⟨writer, hopened⟩ :=
      (append_ensures (mountPoint.join fileName) recordLen record world).ends _ _ _ happend
    obtain ⟨content, bits, hbits, hthere⟩ := hopened.log
    refine kept_of_existing (by rintro ⟨⟩) hbits hthere ?_
    -- The path leads to the log already when it is opened, so what is read then is what is stored.
    obtain ⟨result, _, hadded, hresult⟩ := append_mounted (length_of_append happend) world
    cases happend.symm.trans hadded
    rcases hresult with ⟨error, herror, -⟩ | ⟨-, hread⟩
    · cases herror
    · rw [read?_eq_some_iff.mpr ⟨_, bits, hthere⟩, hopened.read] at hread
      exact hread
  | clear hclear =>
    obtain ⟨result, _, hcleared, -, hresult⟩ :=
      clear_mounted (mountPoint.join fileName) recordLen world
    cases hclear.symm.trans hcleared
    rcases hresult with ⟨error, herror, -⟩ | ⟨-, place, bits, hbits, hthere⟩
    · cases herror
    · exact kept_of_existing (by rintro ⟨⟩) hbits hthere rfl
  | outside hfurnished =>
    exact ⟨fun h => absurd rfl h, by rintro ⟨⟩, fun h => absurd rfl h, hfurnished.read?⟩

/-- What is stored changes as the steps say, also while the path does not lead there yet. -/
theorem stored_of_handles (h : Handles mountPoint fileName recordLen handling world world') :
    LogFile.stored ⟨mountPoint.join fileName⟩ world'.files
      = handling.leaves (LogFile.stored ⟨mountPoint.join fileName⟩ world.files) := by
  by_cases houtside : handling = .outside
  · subst houtside
    cases h with
    | outside hfurnished =>
      rw [LogFile.stored, LogFile.stored, placeOf_of_home hfurnished.home,
        hfurnished.contentAt?_eq]
      rfl
  · exact LogFile.stored_of_read? ((kept_of_handles h).content houtside)

/-! ## Any number of steps -/

/-- A log is handled any number of times. -/
inductive Tended (mountPoint : Path) (fileName : String) (recordLen : Nat) (first : World) :
    List Handling → World → Prop
  | start : Tended mountPoint fileName recordLen first [] first
  | step {handlings : List Handling} {handling : Handling} {world world' : World} :
      Tended mountPoint fileName recordLen first handlings world →
      Handles mountPoint fileName recordLen handling world world' →
      Tended mountPoint fileName recordLen first (handlings ++ [handling]) world'

/-- By induction on the steps, what is stored is what all of them leave. -/
theorem stored_of_tended (h : Tended mountPoint fileName recordLen first handlings world) :
    LogFile.stored ⟨mountPoint.join fileName⟩ world.files
      = handlings.foldl Handling.leaves (LogFile.stored ⟨mountPoint.join fileName⟩ first.files) := by
  induction h with
  | start => rfl
  | step _ hhandles ih => rw [stored_of_handles hhandles, ih, List.foldl_concat]

/-- However a log is handled, and whatever permission bits others give it meanwhile: after every
operation it is for its owner alone, and so is its directory when it was mounted. Mounting leaves
what is in it, a record is added behind that, clearing leaves nothing, and throughout there is in it
what all steps so far have left. -/
theorem tended_log (htended : Tended mountPoint fileName recordLen first handlings world)
    (hhandles : Handles mountPoint fileName recordLen handling world world') :
    Kept mountPoint fileName handling world.files world'.files ∧
      LogFile.stored ⟨mountPoint.join fileName⟩ world'.files
        = (handlings ++ [handling]).foldl Handling.leaves
            (LogFile.stored ⟨mountPoint.join fileName⟩ first.files) :=
  ⟨kept_of_handles hhandles, stored_of_tended (.step htended hhandles)⟩

/-- A log that others can read is mounted, opened to all of them by others, and cleared. -/
theorem tended_log_opened_to_all :
    let first : World :=
      { files :=
          { nodes :=
              [(["logs".toList], .directory 0o755),
                (["logs".toList, "log".toList], .file [7] 0o644)] } }
    ∃ world world' : World,
      Tended ⟨"/logs"⟩ "log" 17 first [.mount, .outside] world ∧
        world.files.mode? ⟨"/logs/log"⟩ = some 0o666 ∧
        Handles ⟨"/logs"⟩ "log" 17 .clear world world' ∧
        Kept ⟨"/logs"⟩ "log" .clear world.files world'.files ∧
        LogFile.stored ⟨⟨"/logs/log"⟩⟩ world'.files = [] := by
  intro first
  let opened (world : World) : World :=
    { world with files := (setMode ⟨"/logs/log"⟩ 0o666 world.files).2 }
  have heval : (LogFile.mount ⟨"/logs"⟩ "log" first).toOption.any (fun mounted =>
      mounted.1.toOption.any fun _ =>
        decide ((opened mounted.2).files.mode? ⟨"/logs/log"⟩ = some 0o666) &&
          ((Store.clear.run (Store.mounted ⟨"/logs/log"⟩ 17) (opened mounted.2)).toOption.any
            fun cleared => cleared.1.1.toOption.any fun _ => true)) = true := by
    decide +kernel
  simp only [any_toOption, Prod.exists, Bool.and_eq_true, decide_eq_true_eq] at heval
  obtain ⟨_, mounted, hmount, file, rfl, hmode, _, store, world', hclear, _, rfl, -⟩ := heval
  have htended : Tended ⟨"/logs"⟩ "log" 17 first [.mount, .outside] (opened mounted) :=
    .step (.step .start (.mount hmount)) (.outside (setMode_furnished _ _ _))
  have hhandles : Handles ⟨"/logs"⟩ "log" 17 .clear (opened mounted) world' := .clear hclear
  obtain ⟨hkept, hstored⟩ := tended_log htended hhandles
  exact ⟨_, _, htended, hmode, hhandles, hkept, hstored⟩

end Store

end SealedLog
