import SealedLog.Proofs.Act
import SealedLog.Proofs.Medium.Memory
import SealedLog.Sealer
import SealedLog.Store

/-!
# A store in memory

What the operations of a store come to when its medium is memory, where nothing fails.

- `Store.Fits`: a record that a store of a record length takes, and can give back.
- `Store.split_flatMap`: stored records are found again, in order.
- `Store.append_eq`, `Store.clear_eq`, `Store.dump_eq`, `Store.records_eq`,
  `Store.recordCount_eq`: the operations.
-/

namespace SealedLog

variable {records : List Record} {recordLen : Nat}

theorem Record.ofBytes?_toBytes {record : Record} (h : record.ciphertext ≠ []) :
    Record.ofBytes? record.toBytes = some record := by
  have hlong : ¬record.toBytes.length ≤ nonceLen := by
    have := List.length_pos_iff.mpr h
    rw [Record.length_toBytes, Record.encodedLen]
    omega
  have htake : record.toBytes.take nonceLen = record.nonce := by
    rw [Record.toBytes, ← record.nonce_length, List.take_left']
    rfl
  have hdrop : record.toBytes.drop nonceLen = record.ciphertext := by
    rw [Record.toBytes, ← record.nonce_length, List.drop_left']
    rfl
  rw [Record.ofBytes?, if_neg hlong, htake, hdrop, Record.ofParts?, dif_pos record.nonce_length]

namespace Store

/-! ## Records in bytes -/

/-- The record has some ciphertext and is of the length given. -/
structure Fits (recordLen : Nat) (record : Record) : Prop where
  nonempty : record.ciphertext ≠ []
  length : record.toBytes.length = recordLen

/-- A record fits if it has as much ciphertext as a block has bytes. -/
theorem fits_of_length {sealer : Sealer} {record : Record}
    (hlen : record.ciphertext.length = sealer.blockLen) (hpos : 0 < sealer.blockLen) :
    Fits sealer.recordLen record := by
  constructor
  · intro hempty
    rw [← hlen, hempty] at hpos
    exact absurd hpos (Nat.lt_irrefl 0)
  · rw [Record.length_toBytes, Record.encodedLen, hlen, Sealer.recordLen]

theorem length_flatMap (h : ∀ record ∈ records, record.toBytes.length = recordLen) :
    (records.flatMap Record.toBytes).length = records.length * recordLen := by
  induction records with
  | nil => simp
  | cons record rest ih =>
    rw [List.flatMap_cons, List.length_append, h record (by simp),
      ih fun later hlater => h later (List.mem_cons_of_mem _ hlater), List.length_cons,
      Nat.succ_mul, Nat.add_comm]

theorem pieces_flatMap (h : ∀ record ∈ records, record.toBytes.length = recordLen) :
    pieces recordLen records.length (records.flatMap Record.toBytes)
      = records.map Record.toBytes := by
  induction records with
  | nil => rfl
  | cons record rest ih =>
    have hlen := h record (by simp)
    rw [List.flatMap_cons, List.length_cons, pieces, List.take_left' hlen, List.drop_left' hlen,
      ih fun later hlater => h later (List.mem_cons_of_mem _ hlater), List.map_cons]

theorem filterMap_toBytes (h : ∀ record ∈ records, Fits recordLen record) :
    (records.map Record.toBytes).filterMap Record.ofBytes? = records := by
  induction records with
  | nil => rfl
  | cons record rest ih =>
    rw [List.map_cons, List.filterMap_cons, Record.ofBytes?_toBytes (h record (by simp)).nonempty,
      ih fun later hlater => h later (List.mem_cons_of_mem _ hlater)]

/-- Records of one length are cut out again, and what is too short for one is left out. -/
theorem split_toBytes (target : String) (hpos : 0 < recordLen)
    (h : ∀ record ∈ records, record.toBytes.length = recordLen) :
    split target recordLen (records.flatMap Record.toBytes)
      = .ok ((records.map Record.toBytes).filterMap Record.ofBytes?) := by
  have hrest : (records.flatMap Record.toBytes).length % recordLen = 0 := by
    rw [length_flatMap h, Nat.mul_mod_left]
  have hcount : (records.flatMap Record.toBytes).length / recordLen = records.length := by
    rw [length_flatMap h, Nat.mul_div_cancel _ hpos]
  rw [split, hrest, if_neg (by simp), hcount, pieces_flatMap h]

/-- Stored records are found again, in order. -/
theorem split_flatMap (target : String) (hpos : 0 < recordLen)
    (h : ∀ record ∈ records, Fits recordLen record) :
    split target recordLen (records.flatMap Record.toBytes) = .ok records := by
  rw [split_toBytes target hpos fun record hrecord => (h record hrecord).length,
    filterMap_toBytes h]

/-! ## Operations -/

/-- A step on the medium, with a failure put into the store's terms. -/
theorem trying_eq {μ α : Type} [Medium μ] (step : Site μ → Except SystemError α × Site μ)
    (error : String → SystemError → StoreError) (store : Store μ) (world : World) :
    (trying step error).run store world
      = .ok (((step ⟨store.medium, world.files⟩).1.mapError (error store.location),
          { store with medium := (step ⟨store.medium, world.files⟩).2.medium }),
          { world with files := (step ⟨store.medium, world.files⟩).2.files }) := by
  cases hstep : step ⟨store.medium, world.files⟩ with
  | mk result site =>
    have hsite : onSite step store world
        = .ok ((result, { store with medium := site.medium }),
            { world with files := site.files }) := by
      rw [onSite, hstep]
    refine (Act.bind_of_ok rfl).trans ?_
    refine (Act.bind_of_ok hsite).trans ?_
    cases result <;> rfl

/-- A step on the medium that goes well. -/
theorem trying_of_ok {μ α : Type} [Medium μ] {store : Store μ} {world : World}
    {step : Site μ → Except SystemError α × Site μ} {error : String → SystemError → StoreError}
    (a : α) (site : Site μ) (h : step ⟨store.medium, world.files⟩ = (.ok a, site)) :
    (trying step error).run store world
      = .ok ((.ok a, { store with medium := site.medium }),
          { world with files := site.files }) := by
  rw [trying_eq, h]
  rfl

/-- When the medium was opened, a dump starts at the first byte, if there is a log. -/
theorem dump_of_opened {μ : Type} [Medium μ] {store : Store μ} {world : World}
    {found : Option (Medium.Reader μ)} {site : Site μ}
    (h : Medium.openRead ⟨store.medium, world.files⟩ = (.ok found, site)) :
    dump.run store world
      = .ok ((.ok ⟨found, store.location, 0, found.isNone⟩, { store with medium := site.medium }),
          { world with files := site.files }) := by
  refine (Attempt.bind_of_ok rfl).trans ((Attempt.bind_of_ok (trying_of_ok _ _ h)).trans ?_)
  cases found <;> rfl

/-- A record of another length is refused, and nothing changes. -/
theorem append_refused {μ : Type} [Medium μ] {store : Store μ} {record : Record}
    (h : record.toBytes.length ≠ store.recordLen) (world : World) :
    (append record).run store world
      = .ok ((.error (.recordSizeMismatch store.recordLen record.toBytes.length), store),
          world) := by
  refine (Attempt.bind_of_ok rfl).trans ?_
  rw [if_pos h]
  rfl

variable (store : Store Memory)

/-- A record of the right length is added at the end. -/
theorem append_eq {store : Store Memory} {record : Record}
    (h : record.toBytes.length = store.recordLen) (world : World) :
    (append record).run store world
      = .ok ((.ok (), { store with medium := store.medium.append record.toBytes }), world) := by
  refine (Attempt.bind_of_ok rfl).trans ?_
  rw [if_neg (by simpa using h)]
  refine (Attempt.bind_of_ok rfl).trans ?_
  refine (trying_of_ok () ⟨store.medium.append record.toBytes, world.files⟩ ?_).trans rfl
  simp only [Memory.writeAll_eq]
  by_cases hempty : record.toBytes = []
  · rw [if_pos hempty, hempty]
    rfl
  · rw [if_neg hempty, Memory.append_nil_append]
    rfl

/-- After clearing, the log is there and empty. -/
theorem clear_eq (world : World) :
    ∃ world', clear.run store world = .ok ((.ok (), { store with medium := ⟨some []⟩ }), world') :=
  ⟨_, rfl⟩

theorem dump_eq (world : World) :
    ∃ dump, Store.dump.run store world = .ok ((.ok dump, store), world) := by
  rcases store with ⟨⟨_ | bytes⟩, recordLen⟩
  · exact ⟨_, rfl⟩
  · exact ⟨_, rfl⟩

theorem dumpItems_eq (limit : Option Nat) (dump : HexDump (Medium.Reader Memory))
    (world : World) : ∃ items, dumpItems limit dump store world = .ok ((items, store), world) := by
  cases limit with
  | none =>
    refine ⟨(dump.all ⟨store.medium, world.files⟩).1, ?_⟩
    rw [dumpItems, onSite]
    simp only [HexDump.all, Memory.items_site]
  | some limit =>
    refine ⟨(HexDump.items limit dump ⟨store.medium, world.files⟩).1, ?_⟩
    rw [dumpItems, onSite]
    simp only [Memory.items_site]

/-- A log that is missing has no records. -/
theorem records_of_none {store : Store Memory} (hnone : store.medium.content = none)
    (world : World) : Store.records.run store world = .ok ((.ok [], store), world) := by
  have hopen : Medium.openRead ⟨store.medium, world.files⟩
      = (.ok none, ⟨store.medium, world.files⟩) := by
    simp only [Medium.openRead, hnone]
  refine (Attempt.bind_of_ok rfl).trans ?_
  exact (Attempt.bind_of_ok (trying_of_ok _ _ hopen)).trans rfl

/-- A log that is there is taken apart. That cannot be done into records of no length. -/
theorem records_of_some {store : Store Memory} {bytes : Bytes}
    (hsome : store.medium.content = some bytes) (world : World) :
    Store.records.run store world
      = if store.recordLen = 0 then .error .emptyRecords
        else .ok ((split store.location store.recordLen bytes, store), world) := by
  have hopen : Medium.openRead ⟨store.medium, world.files⟩
      = (.ok (some bytes), ⟨store.medium, world.files⟩) := by
    simp only [Medium.openRead, hsome]
  refine (Attempt.bind_of_ok rfl).trans ?_
  refine (Attempt.bind_of_ok (trying_of_ok _ _ hopen)).trans ?_
  refine (Attempt.bind_of_ok (trying_of_ok _ _ (Memory.readToEnd_eq bytes _))).trans ?_
  by_cases hzero : store.recordLen = 0
  · rw [if_pos hzero, if_pos hzero]
    rfl
  · rw [if_neg hzero, if_neg hzero]
    rfl

/-- The log is read back as the records in its bytes. -/
theorem records_eq {store : Store Memory} (hpos : 0 < store.recordLen) (world : World) :
    Store.records.run store world
      = .ok ((split store.location store.recordLen store.medium.bytes, store), world) := by
  cases hcontent : store.medium.content with
  | none =>
    -- A log that is missing has the bytes of no records.
    have hfits : ∀ record ∈ ([] : List Record), Fits store.recordLen record :=
      fun _ hmem => absurd hmem List.not_mem_nil
    have hnone : split store.location store.recordLen store.medium.bytes = .ok [] := by
      rw [Memory.bytes, hcontent]
      exact split_flatMap store.location hpos hfits
    rw [records_of_none hcontent, hnone]
  | some bytes =>
    rw [records_of_some hcontent, if_neg (Nat.ne_of_gt hpos), Memory.bytes, hcontent]
    rfl

theorem lenBytes_eq (world : World) :
    lenBytes.run store world = .ok ((.ok store.medium.bytes.length, store), world) := by
  rcases store with ⟨⟨_ | bytes⟩, recordLen⟩ <;> rfl

theorem recordCount_eq {store : Store Memory} (hpos : 0 < store.recordLen) (world : World) :
    recordCount.run store world
      = .ok ((.ok (store.medium.bytes.length / store.recordLen), store), world) := by
  refine (Attempt.bind_of_ok (lenBytes_eq store world)).trans ?_
  refine (Attempt.bind_of_ok rfl).trans ?_
  rw [if_neg (Nat.ne_of_gt hpos)]
  rfl

/-- Records of no length cannot be counted. -/
theorem recordCount_of_zero {store : Store Memory} (hzero : store.recordLen = 0) (world : World) :
    recordCount.run store world = .error .emptyRecords := by
  refine (Attempt.bind_of_ok (lenBytes_eq store world)).trans ?_
  refine (Attempt.bind_of_ok rfl).trans ?_
  rw [if_pos hzero]
  rfl

end Store

end SealedLog
