import SealedLog.Proofs.Journal.Boot
import SealedLog.Proofs.Journal.Calls
import SealedLog.ScriptedElement

/-!
# What a journal logs

The bytes of a journal in memory are those of the records it answered with since it was last
cleared, whatever its element does, and whatever else is asked of it. A journal whose blocks cannot
be made is accepted all the same; its log stays empty, and the first entry is the end of it.

- `Journal.logged`, `Journal.statusCalls`: what calls come to for the log and for the numbers.
- `Journal.Call.Stops`: why a call may not come back.
- `Journal.Holds`: the invariant; `perform_ensures` keeps it through a call, `holds_of_run` through
  any number of them.
- `Journal.Faithful`: what can be relied on after such calls.
- `Journal.not_ending_of_huge_blocks`: an accepted configuration with blocks that cannot be made.
-/

namespace SealedLog.Journal

/-- The records of a log after a call that had the result given. -/
def recordsAfter (records : List Record) : Except LogError Response → List Record
  | .ok (.reported report) => records ++ [report.record]
  | .ok (.added record) => records ++ [record]
  | .ok .cleared => []
  | _ => records

/-- The records that were added since the log was last cleared, in order. -/
def logged (calls : List (Call × Except LogError Response)) : List Record :=
  (calls.map (·.2)).foldl recordsAfter []

/-- How often a status entry was to be added. -/
def statusCalls (calls : List (Call × Except LogError Response)) : Nat :=
  (calls.map (·.1)).count .appendStatus

variable {ε : Type} {config : Config} {journal journal' : Journal ε Memory} {records : List Record}
  {count : Nat}

/-- Whether the log is taken apart into records for a call. -/
def Call.Divides : Call → Prop
  | .records | .recordCount => True
  | _ => False

/-- Why a call may not come back: an entry is not sealed, or the log is to be taken apart into
records of no length. -/
def Call.Stops (config : Config) (call : Call) (why : Halt) : Prop :=
  call.Appends ∧ Sealer.Stops config.blockLen why ∨
    call.Divides ∧ why = .emptyRecords ∧ config.recordLen = 0

/-- The log of a journal with a configuration holds the records, and so many numbers were used
up. -/
structure Holds (config : Config) (journal : Journal ε Memory) (records : List Record)
    (count : Nat) : Prop where
  blockLen : journal.sealer.blockLen = config.blockLen
  recordLen : journal.store.recordLen = config.recordLen
  bytes : journal.store.medium.bytes = records.flatMap Record.toBytes
  fits : ∀ record ∈ records, Store.Fits config.recordLen record
  /-- There is none whose block cannot be made. -/
  barren : Sealer.capacityMax < config.blockLen → records = []
  sequence : journal.sequence.current = .ofNat count

namespace Holds

theorem withGateway (h : Holds config journal records count) (gateway : Gateway ε) :
    Holds config (journal.withGateway gateway) records count :=
  ⟨h.blockLen, h.recordLen, h.bytes, h.fits, h.barren, h.sequence⟩

/-- The log with one more record at its end. -/
theorem withRecord (h : Holds config journal records count) {record : Record}
    (hfits : Store.Fits config.recordLen record) (hroom : config.blockLen ≤ Sealer.capacityMax) :
    Holds config (journal.withRecord record) (records ++ [record]) count := by
  refine ⟨h.blockLen, h.recordLen, ?_, ?_, ?_, h.sequence⟩
  · show journal.store.medium.bytes ++ record.toBytes = _
    rw [h.bytes, List.flatMap_append, List.flatMap_singleton]
  · intro other hother
    rcases List.mem_append.mp hother with hold | hnew
    · exact h.fits other hold
    · rw [List.mem_singleton.mp hnew]
      exact hfits
  · exact fun hhuge => absurd hroom (Nat.not_le.mpr hhuge)

/-- The log without its records. -/
theorem clear (h : Holds config journal records count) :
    Holds config { journal with store := { journal.store with medium := ⟨some []⟩ } } [] count :=
  ⟨h.blockLen, h.recordLen, rfl, fun _ hmem => absurd hmem List.not_mem_nil, fun _ => rfl,
    h.sequence⟩

/-- The next number is used up. -/
theorem next (h : Holds config journal records count) :
    Holds config { journal with sequence := ⟨.ofNat (count + 1)⟩ } records (count + 1) :=
  ⟨h.blockLen, h.recordLen, h.bytes, h.fits, h.barren, rfl⟩

/-- The log is read back as the records it holds. -/
theorem records_eq (h : Holds config journal records count) (hpos : 0 < config.recordLen)
    (world : World) :
    Journal.records.run journal world = .ok ((.ok records, journal), world) := by
  rw [← h.recordLen] at hpos
  have hrecords := Store.records_eq hpos world
  rw [h.bytes, Store.split_flatMap _ hpos (h.recordLen ▸ h.fits)] at hrecords
  exact onStore_eq hrecords

theorem recordCount_eq (h : Holds config journal records count) (hpos : 0 < config.recordLen)
    (world : World) :
    Journal.recordCount.run journal world = .ok ((.ok records.length, journal), world) := by
  rw [← h.recordLen] at hpos
  have hcount := Store.recordCount_eq hpos world
  have hlen : ∀ record ∈ records, record.toBytes.length = journal.store.recordLen :=
    fun record hrecord => (h.fits record hrecord).length.trans h.recordLen.symm
  rw [h.bytes, Store.length_flatMap hlen, Nat.mul_div_cancel _ hpos] at hcount
  exact onStore_eq hcount

/-- Records of no length cannot be counted. -/
theorem recordCount_of_zero (h : Holds config journal records count)
    (hzero : config.recordLen = 0) (world : World) :
    Journal.recordCount.run journal world = .error .emptyRecords :=
  onStore_of_halt (Store.recordCount_of_zero (h.recordLen.trans hzero) world)

/-- Nor can they be read, unless there is no log. -/
theorem records_of_zero (h : Holds config journal records count) (hzero : config.recordLen = 0)
    (world : World) :
    Journal.records.run journal world
      = if journal.store.medium.content = none then .ok ((.ok [], journal), world)
        else .error .emptyRecords := by
  cases hcontent : journal.store.medium.content with
  | none => exact onStore_eq (Store.records_of_none hcontent world)
  | some bytes =>
    have hrecords := Store.records_of_some hcontent world
    rw [if_pos (h.recordLen.trans hzero)] at hrecords
    exact onStore_of_halt hrecords

end Holds

/-! ## Adding an entry -/

variable [Element ε]

/-- A message is added as one record, or the log stays as it was. Only sealing can fail. -/
theorem Holds.appendMessage_ensures (h : Holds config journal records count)
    (hvalid : config.validate = .ok ()) (plaintext : Bytes) (world : World) :
    (appendMessage plaintext).Ensures journal world (Sealer.Stops config.blockLen)
      (fun error journal' _ => (∃ source, error = .cipher source) ∧
        journal'.store = journal.store ∧ Holds config journal' records count)
      fun record journal' _ => Holds config journal' (records ++ [record]) count := by
  have hsealed := Sealer.encryptMessage_fits journal.sealer plaintext journal.gateway world
  rw [h.blockLen] at hsealed
  refine Journal.appendMessage_ensures (hsealed.mono ?_ ?_)
  · intro source gateway _ _
    exact ⟨⟨source, rfl⟩, rfl, h.withGateway gateway⟩
  · rintro record gateway _ ⟨hlen, hroom⟩
    have hfits := config.fits_of_validate hvalid hroom hlen
    exact ⟨hfits.length.trans h.recordLen.symm, (h.withGateway gateway).withRecord hfits hroom⟩

/-- A status entry is added like any other; it has the number given. -/
theorem Holds.appendNumbered_ensures (h : Holds config journal records count)
    (hvalid : config.validate = .ok ()) (seq : UInt32) (world : World) :
    (appendNumbered seq).Ensures journal world (Sealer.Stops config.blockLen)
      (fun error journal' _ => (∃ source, error = .cipher source) ∧
        journal'.store = journal.store ∧ Holds config journal' records count)
      fun report journal' _ => report.seq = seq ∧ report.message.seq = seq ∧
        Holds config journal' (records ++ [report.record]) count := by
  refine Journal.appendNumbered_ensures fun plaintext => ?_
  refine (h.appendMessage_ensures hvalid plaintext world).mono (fun _ _ _ hbad => hbad) ?_
  exact fun record journal' added hadded message notices hseq => ⟨rfl, hseq, hadded⟩

/-- The number is taken first. -/
theorem Holds.appendStatus_eq (h : Holds config journal records count) (world : World) :
    appendStatus.run journal world
      = (appendNumbered (.ofNat (count + 1))).run
          { journal with sequence := ⟨.ofNat (count + 1)⟩ } world := by
  have hnext : journal.sequence.current + 1 = .ofNat (count + 1) := by
    rw [h.sequence, UInt32.ofNat_add]
    rfl
  rw [Journal.appendStatus_eq, hnext]

/-! ## Calls -/

/-- Every call keeps the invariant. Only what is to be added can fail, and then the log stays as it
was. -/
theorem Holds.perform_ensures (h : Holds config journal records count)
    (hvalid : config.validate = .ok ()) (call : Call) (world : World) :
    call.perform.Ensures journal world (call.Stops config)
      (fun error journal' _ => (∃ source, error = .cipher source) ∧
        journal'.store = journal.store ∧
        Holds config journal' records (count + [call].count .appendStatus))
      fun answer journal' _ => Holds config journal' (recordsAfter records (.ok answer))
        (count + [call].count .appendStatus) := by
  cases call with
  | appendStatus =>
    -- The number is used up whether or not the entry is added.
    have hstatus := Act.Ensures.congr (h.appendStatus_eq world)
      (h.next.appendNumbered_ensures hvalid (.ofNat (count + 1)) world)
    refine Attempt.Ensures.bind (Act.Ensures.allowing hstatus fun _ hwhy => .inl ⟨trivial, hwhy⟩)
      fun report journal' world' hadded => ?_
    exact Attempt.Ensures.pure hadded.2.2
  | appendMessage plaintext =>
    have hadded := h.appendMessage_ensures hvalid plaintext world
    refine Attempt.Ensures.bind (Act.Ensures.allowing hadded fun _ hwhy => .inl ⟨trivial, hwhy⟩)
      fun record journal' world' hadded => ?_
    exact Attempt.Ensures.pure hadded
  | clear =>
    obtain ⟨world', hclear⟩ := Store.clear_eq journal.store world
    refine Attempt.Ensures.step (onStore_eq hclear) ?_
    exact Attempt.Ensures.pure h.clear
  | dump limit =>
    obtain ⟨dump, hdump⟩ := Store.dump_eq journal.store world
    refine Attempt.Ensures.step (onStore_eq hdump) ?_
    obtain ⟨pieces, hpieces⟩ := Store.dumpItems_eq journal.store limit dump world
    refine Attempt.Ensures.step (Attempt.lift_of_ok (Act.within_of_ok hpieces)) ?_
    exact Attempt.Ensures.pure h
  | records =>
    rcases Nat.eq_zero_or_pos config.recordLen with hzero | hpos
    · have hrecords := h.records_of_zero hzero world
      split at hrecords
      · exact Attempt.Ensures.step hrecords (Attempt.Ensures.pure h)
      · exact Act.Ensures.of_halt (Act.bind_of_error hrecords) (.inr ⟨trivial, rfl, hzero⟩)
    · exact Attempt.Ensures.step (h.records_eq hpos world) (Attempt.Ensures.pure h)
  | recordCount =>
    rcases Nat.eq_zero_or_pos config.recordLen with hzero | hpos
    · have hcount := h.recordCount_of_zero hzero world
      exact Act.Ensures.of_halt (Act.bind_of_error hcount) (.inr ⟨trivial, rfl, hzero⟩)
    · exact Attempt.Ensures.step (h.recordCount_eq hpos world) (Attempt.Ensures.pure h)

/-- Nothing that would fit is added in blocks that cannot be made. -/
theorem Holds.perform_of_huge (h : Holds config journal records count)
    (hhuge : Sealer.capacityMax < config.blockLen) (call : Call) (happends : call.Appends)
    (hfits : ∀ plaintext, call = .appendMessage plaintext → plaintext.length ≤ config.blockLen)
    (world : World) : call.perform.run journal world = .error .capacityOverflow := by
  rw [← h.blockLen] at hhuge hfits
  cases call with
  | appendStatus => exact Act.bind_of_error (appendStatus_of_huge hhuge)
  | appendMessage plaintext =>
    exact Act.bind_of_error (appendMessage_of_huge (hfits plaintext rfl) hhuge)
  | clear => exact happends.elim
  | dump limit => exact happends.elim
  | records => exact happends.elim
  | recordCount => exact happends.elim

/-! ## Runs -/

variable {first last : Journal ε Memory} {calls : List (Call × Except LogError Response)}

/-- The invariant holds throughout a run, by induction on the calls. -/
theorem holds_of_run {between : Gateway ε → Gateway ε → Prop} (hvalid : config.validate = .ok ())
    (h : Holds config first [] 0) (hrun : Run between first calls last) :
    Holds config last (logged calls) (statusCalls calls) := by
  induction hrun with
  | refl => exact h
  | @call calls middle last call world world' result _ hcall ih =>
    have hperform := (ih.perform_ensures hvalid call world).ends result last world' hcall
    have hlogged : logged (calls ++ [(call, result)]) = recordsAfter (logged calls) result := by
      rw [logged, List.map_append, List.foldl_append]
      rfl
    have hcount : statusCalls (calls ++ [(call, result)])
        = statusCalls calls + [call].count .appendStatus := by
      rw [statusCalls, List.map_append, List.count_append]
      rfl
    rw [hlogged, hcount]
    cases result with
    | error error => exact hperform.2.2
    | ok answer => exact hperform
  | between _ _ ih => exact ih.withGateway _

/-- A journal that was just booted over an empty log holds no record, and its configuration was
accepted. -/
theorem holds_of_boot {medium : Memory} {gateway gateway' : Gateway ε} {world world' : World}
    (hempty : medium.bytes = [])
    (hboot : (bootOver config medium).run gateway world = .ok ((.ok first, gateway'), world')) :
    config.validate = .ok () ∧ Holds config first [] 0 := by
  have hends : (bootOver config medium).Ensures gateway world (fun _ => True) (fun _ _ _ => True)
      fun journal _ _ => config.validate = .ok () ∧ Holds config journal [] 0 := by
    refine bootOver_ensures (fun _ _ => trivial) fun hvalidate => ⟨fun _ _ => trivial, ?_⟩
    intro result custody world' _
    cases result with
    | error error => exact trivial
    | ok provisioning =>
      exact fun _ => ⟨hvalidate, rfl, rfl, hempty, fun _ hmem => absurd hmem List.not_mem_nil,
        fun _ => rfl, rfl⟩
  exact hends.ends (.ok first) gateway' world' hboot

/-- What can be relied on after the calls that were made. The number of a status entry starts over
after the largest. -/
structure Faithful (config : Config) (calls : List (Call × Except LogError Response))
    (last : Journal ε Memory) : Prop where
  bytes : last.store.medium.bytes = (logged calls).flatMap Record.toBytes
  records : 0 < config.recordLen →
    ∀ world, Journal.records.run last world = .ok ((.ok (logged calls), last), world)
  recordCount : 0 < config.recordLen → ∀ world,
    Journal.recordCount.run last world = .ok ((.ok (logged calls).length, last), world)
  /-- Records have no length only if their blocks cannot be made, and then they are not counted. -/
  uncounted : config.recordLen = 0 → Sealer.capacityMax < config.blockLen ∧
    ∀ world, Journal.recordCount.run last world = .error .emptyRecords
  /-- What cannot be added leaves the log as it is. -/
  unchanged : ∀ (call : Call) world error after world', call.Appends →
    call.perform.run last world = .ok ((.error error, after), world') →
    after.store.medium = last.store.medium
  /-- A record is never of the wrong length. -/
  fitting : ∀ (call : Call) world error after world' expected actual,
    call.perform.run last world = .ok ((.error error, after), world') →
    error ≠ .store (.recordSizeMismatch expected actual)
  /-- With blocks that can be made, only an answer that never comes keeps a call from ending. -/
  ending : config.blockLen ≤ Sealer.capacityMax → ∀ (call : Call) world why,
    call.perform.run last world = .error why → call.Appends ∧ why = .waitsForever
  /-- With others the log stays empty, and whatever is to be added is the end. -/
  barren : Sealer.capacityMax < config.blockLen → logged calls = [] ∧
    ∀ (call : Call) world, call.Appends →
      (∀ plaintext, call = .appendMessage plaintext → plaintext.length ≤ config.blockLen) →
      call.perform.run last world = .error .capacityOverflow
  /-- A status entry takes the number of the call. -/
  numbered : ∀ world, appendStatus.run last world
    = (appendNumbered (.ofNat (statusCalls calls + 1))).run
        { last with sequence := ⟨.ofNat (statusCalls calls + 1)⟩ } world
  /-- The number is in the message and in the report. -/
  reported : ∀ world report after world',
    appendStatus.run last world = .ok ((.ok report, after), world') →
    report.seq = .ofNat (statusCalls calls + 1) ∧
      report.message.seq = .ofNat (statusCalls calls + 1)

theorem Holds.faithful (hvalid : config.validate = .ok ())
    (h : Holds config last (logged calls) (statusCalls calls)) : Faithful config calls last where
  bytes := h.bytes
  records hpos world := h.records_eq hpos world
  recordCount hpos world := h.recordCount_eq hpos world
  uncounted hzero := by
    refine ⟨Nat.not_le.mp fun hroom => ?_, h.recordCount_of_zero hzero⟩
    have hsize := config.recordLen_of_room hvalid hroom
    rw [hzero, nonceLen] at hsize
    omega
  unchanged call world error after world' _ hcall := by
    obtain ⟨-, hstore, -⟩ :=
      (h.perform_ensures hvalid call world).ends (.error error) after world' hcall
    rw [hstore]
  fitting call world error after world' expected actual hcall := by
    obtain ⟨source, hsource⟩ :=
      ((h.perform_ensures hvalid call world).ends (.error error) after world' hcall).1
    rw [hsource]
    intro heq
    cases heq
  ending hroom call world why hcall := by
    rcases (h.perform_ensures hvalid call world).halts why hcall with hsealing | ⟨-, -, hzero⟩
    · exact hsealing.imp_right fun hstops => hstops.waits_of_room hroom
    · have hsize := config.recordLen_of_room hvalid hroom
      rw [hzero, nonceLen] at hsize
      omega
  barren hhuge := ⟨h.barren hhuge, fun call world happends hfits =>
    h.perform_of_huge hhuge call happends hfits world⟩
  numbered world := h.appendStatus_eq world
  reported world report after world' hcall := by
    have hstatus := Act.Ensures.congr (h.appendStatus_eq world)
      (h.next.appendNumbered_ensures hvalid (.ofNat (statusCalls calls + 1)) world)
    have hends := hstatus.ends (.ok report) after world' hcall
    exact ⟨hends.1, hends.2.1⟩

/-- After any calls of a journal that was booted over an empty log in memory, the log is exactly the
records that were answered since it was last cleared, whatever the element did in the meantime. No
call is the end, but for those that need a block that cannot be made. -/
theorem faithful_of_run (config : Config) (medium : Memory) (gateway gateway' : Gateway ε)
    (world world' : World) (first last : Journal ε Memory)
    (calls : List (Call × Except LogError Response)) (hempty : medium.bytes = [])
    (hboot : (bootOver config medium).run gateway world = .ok ((.ok first, gateway'), world'))
    (hrun : Run (fun _ _ => True) first calls last) : Faithful config calls last := by
  obtain ⟨hvalid, hholds⟩ := holds_of_boot hempty hboot
  exact (holds_of_run hvalid hholds hrun).faithful hvalid

/-- A gateway to an element that has a key, seals one message and is a byte short with the next. -/
def failing : Gateway ScriptedElement where
  element :=
    { steps :=
        [{ answer := .output (.metadata [1]) },
          { answer := .output (.random (.replicate 16 7)) },
          { answer := .output (.ciphertext (.replicate 64 9)) },
          { answer := .output (.random (.replicate 16 7)) },
          { answer := .output (.ciphertext (.replicate 63 9)) }] }
  timeout := none

/-- A message is added. The status entry after it is not; it has used up its number all the same. -/
theorem faithful_after_short_ciphertext :
    ∃ (first last : Journal ScriptedElement Memory) (gateway : Gateway ScriptedElement)
      (world : World) (calls : List (Call × Except LogError Response)),
      (bootOver {} (⟨none⟩ : Memory)).run failing {} = .ok ((.ok first, gateway), world) ∧
      Run (fun _ _ => True) first calls last ∧ (logged calls).length = 1 ∧
      last.sequence.current = 1 ∧ Faithful {} calls last := by
  -- The calls are evaluated up to what the store writes.
  have heval : ((bootOver {} (⟨none⟩ : Memory)).run failing {}).toOption.any (fun booted =>
      booted.1.1.toOption.any fun first =>
        ((first.sealer.encryptMessage [5]).run first.gateway {}).toOption.any fun sealed =>
          sealed.1.1.toOption.any fun record => record.toBytes.length = first.store.recordLen ∧
            ((Call.perform .appendStatus).run ((first.withGateway sealed.1.2).withRecord record)
              {}).toOption.any fun failed =>
                failed.1.1.toOption.isNone && failed.1.2.sequence.current = 1) = true := by
    decide +kernel
  simp only [any_toOption, Prod.exists, decide_eq_true_eq, Bool.and_eq_true] at heval
  obtain ⟨ready, gateway, world, hboot, first, rfl, outcome, sealed, world', hsealed, record, rfl,
    hlen, result, last, world'', hfailed, hnone, hsequence⟩ := heval
  have hadded : (Call.perform (.appendMessage [5])).run first {}
      = .ok ((.ok (.added record), (first.withGateway sealed).withRecord record), world') :=
    Attempt.bind_of_ok (appendMessage_of_ok hsealed hlen)
  have hrun : Run (fun _ _ => True) first _ last := .call (.call .refl hadded) hfailed
  refine ⟨first, last, gateway, world, _, hboot, hrun, ?_, hsequence, ?_⟩
  · cases result with
    | error error => rfl
    | ok response => cases hnone
  · exact faithful_of_run {} ⟨none⟩ failing gateway {} world first last _ rfl hboot hrun

/-- A configuration with blocks that cannot be made. -/
def huge : Config := { plaintextMaxLen := 0x8000000000000000, recordSize := 0x8000000000000010 }

/-- Blocks that cannot be made are accepted, and a first message of one byte is the end: the journal
had nothing to wait for. -/
theorem not_ending_of_huge_blocks :
    ¬ ∀ (config : Config) (gateway gateway' : Gateway ScriptedElement) (world world' : World)
      (first : Journal ScriptedElement Memory), config.validate = .ok () →
      (bootOver config (⟨some []⟩ : Memory)).run gateway world
        = .ok ((.ok first, gateway'), world') →
      ∀ (call : Call) world why, call.perform.run first world = .error why →
        why = .waitsForever := by
  intro hends
  have hboot : ((bootOver huge (⟨some []⟩ : Memory)).run failing {}).toOption.any (fun booted =>
      booted.1.1.toOption.isSome) = true := by
    decide +kernel
  simp only [any_toOption, Prod.exists] at hboot
  obtain ⟨ready, gateway, world, hboot, hready⟩ := hboot
  cases ready with
  | error error => cases hready
  | ok first =>
    have hholds := (holds_of_boot rfl hboot).2
    have hhalt : (Call.appendMessage [1]).perform.run first {} = .error .capacityOverflow := by
      refine hholds.perform_of_huge (by decide +kernel) (.appendMessage [1]) trivial ?_ {}
      rintro _ ⟨⟩
      decide +kernel
    cases hends huge failing gateway {} world first (by decide +kernel) hboot _ {} _ hhalt

end SealedLog.Journal
