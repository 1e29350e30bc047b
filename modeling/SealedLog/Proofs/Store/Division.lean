import SealedLog.Medium.Flaky
import SealedLog.Proofs.Medium.Delivery
import SealedLog.Proofs.Store.Torn

/-!
# Logs divided into records

A log is read as records in two ways: they are counted from its length, and they are cut out of its
bytes, piece by piece, where a piece that is too short for a record says nothing. If records are
longer than a nonce, no piece is too short, and so both ways agree on every log.

- `Store.Divides`: records that are the bytes of a log, one after the other.
- `Store.split_eq_ok_iff`: bytes are divided in the only way there is, or not at all.
- `Store.records_of_disclosed`, `Store.recordCount_of_measured`: the two ways, on any medium.
- `Store.records_divide`: that they agree.
- `Store.records_of_accepted`: what is read back of records that were added, where nothing fails.
-/

namespace SealedLog.Store

variable {recordLen : Nat} {bytes : Bytes} {records : List Record}

/-! ## Pieces -/

/-- Pieces that the bytes are enough for are of their length. -/
theorem length_of_mem_pieces {count : Nat} {piece : Bytes} (hlen : count * recordLen ≤ bytes.length)
    (hpiece : piece ∈ pieces recordLen count bytes) : piece.length = recordLen := by
  induction count generalizing bytes with
  | zero => exact absurd hpiece List.not_mem_nil
  | succ count ih =>
    rw [Nat.succ_mul] at hlen
    rcases List.mem_cons.mp hpiece with rfl | hlater
    · rw [List.length_take]
      omega
    · refine ih ?_ hlater
      rw [List.length_drop]
      omega

/-- Pieces that use up the bytes are those bytes. -/
theorem flatten_pieces {count : Nat} (hlen : bytes.length = count * recordLen) :
    (pieces recordLen count bytes).flatten = bytes := by
  induction count generalizing bytes with
  | zero =>
    rw [Nat.zero_mul, List.length_eq_zero_iff] at hlen
    rw [hlen]
    rfl
  | succ count ih =>
    rw [Nat.succ_mul] at hlen
    rw [pieces, List.flatten_cons, ih (by rw [List.length_drop]; omega), List.take_append_drop]

/-- Bytes that are more than a nonce are a record. -/
theorem ofBytes?_of_long {piece : Bytes} (h : nonceLen < piece.length) :
    ∃ record, Record.ofBytes? piece = some record ∧ record.toBytes = piece := by
  have hnonce : (piece.take nonceLen).length = nonceLen := List.length_take_of_le (Nat.le_of_lt h)
  refine ⟨⟨piece.take nonceLen, piece.drop nonceLen, hnonce⟩, ?_, List.take_append_drop _ _⟩
  rw [Record.ofBytes?, if_neg (Nat.not_le.mpr h), Record.ofParts?, dif_pos hnonce]

/-- So no piece says nothing if all of them are that long. -/
theorem toBytes_filterMap {found : List Bytes} (h : ∀ piece ∈ found, nonceLen < piece.length) :
    (found.filterMap Record.ofBytes?).map Record.toBytes = found := by
  induction found with
  | nil => rfl
  | cons piece later ih =>
    obtain ⟨record, hrecord, hbytes⟩ := ofBytes?_of_long (h piece List.mem_cons_self)
    rw [List.filterMap_cons_some hrecord, List.map_cons, hbytes,
      ih fun other hother => h other (List.mem_cons_of_mem piece hother)]

/-! ## Records -/

/-- The records are these bytes, one after the other, and all of them are of that length. -/
structure Divides (recordLen : Nat) (bytes : Bytes) (records : List Record) : Prop where
  flatMap_toBytes : records.flatMap Record.toBytes = bytes
  encodedLen : ∀ record ∈ records, record.encodedLen = recordLen

/-- Records that are longer than a nonce have some ciphertext. -/
theorem Divides.fits (h : Divides recordLen bytes records) (hlong : nonceLen < recordLen) :
    ∀ record ∈ records, Fits recordLen record := by
  intro record hrecord
  have hlen := h.encodedLen record hrecord
  refine ⟨fun hempty => ?_, (record.length_toBytes).trans hlen⟩
  rw [Record.encodedLen, hempty] at hlen
  exact absurd hlen (Nat.ne_of_lt hlong)

theorem Divides.length_eq (h : Divides recordLen bytes records) (hlong : nonceLen < recordLen) :
    bytes.length = records.length * recordLen := by
  have hlen := fun record hrecord => (h.fits hlong record hrecord).length
  rw [← h.flatMap_toBytes, length_flatMap hlen]

/-- Bytes are divided in the only way there is. -/
theorem split_eq_ok_iff (target : String) (hlong : nonceLen < recordLen) :
    split target recordLen bytes = .ok records ↔ Divides recordLen bytes records := by
  have hpos : 0 < recordLen := Nat.zero_lt_of_lt hlong
  constructor
  · intro h
    rw [split] at h
    split at h
    · cases h
    · rename_i hwhole
      have hlen : bytes.length = bytes.length / recordLen * recordLen := by
        rw [Nat.div_mul_cancel (Nat.dvd_of_mod_eq_zero (not_not.mp hwhole))]
      have hpieces : ∀ piece ∈ pieces recordLen (bytes.length / recordLen) bytes,
          piece.length = recordLen := fun piece => length_of_mem_pieces (Nat.le_of_eq hlen.symm)
      have hbytes := toBytes_filterMap fun piece hpiece => (hpieces piece hpiece).symm ▸ hlong
      rw [Except.ok.inj h] at hbytes
      refine ⟨?_, fun record hrecord => ?_⟩
      · rw [List.flatMap_def, hbytes, flatten_pieces hlen]
      · rw [← record.length_toBytes]
        exact hpieces _ (hbytes ▸ List.mem_map_of_mem hrecord)
  · intro h
    rw [← h.flatMap_toBytes]
    exact split_flatMap target hpos (h.fits hlong)

/-! ## The log as records -/

variable {μ : Type} [Medium μ] {store : Store μ} {world : World} {content : Option Bytes}

/-- A log that can be read is cut into records, on whatever medium. Without a log there are none. -/
theorem records_of_disclosed (hreads : Medium.Discloses ⟨store.medium, world.files⟩ content)
    (hpos : 0 < store.recordLen) :
    ∃ store' world', Store.records.run store world
      = .ok ((split store.location store.recordLen (content.getD []), store'), world') := by
  cases content with
  | none =>
    obtain ⟨site, hopen⟩ := hreads
    have hnone : split store.location store.recordLen [] = .ok [] :=
      split_flatMap store.location hpos fun _ hmem => absurd hmem List.not_mem_nil
    refine ⟨{ store with medium := site.medium }, { world with files := site.files }, ?_⟩
    refine (Attempt.bind_of_ok rfl).trans ?_
    refine (Attempt.bind_of_ok (trying_of_ok _ _ hopen)).trans ?_
    rw [Option.getD_none, hnone]
    rfl
  | some bytes =>
    obtain ⟨reader, opened, hopen, hdelivers⟩ := hreads
    obtain ⟨last, hread⟩ := hdelivers.readToEnd
    have hall : (trying (Medium.readToEnd reader) .readFailed).run
        { store with medium := opened.medium } { world with files := opened.files }
        = .ok ((.ok bytes, { store with medium := last.medium }),
            { world with files := last.files }) :=
      trying_of_ok bytes last hread
    refine ⟨{ store with medium := last.medium }, { world with files := last.files }, ?_⟩
    refine (Attempt.bind_of_ok rfl).trans ?_
    refine (Attempt.bind_of_ok (trying_of_ok _ _ hopen)).trans ?_
    refine (Attempt.bind_of_ok hall).trans ?_
    rw [if_neg (Nat.ne_of_gt hpos)]
    rfl

/-- A log that is measured has so many records. Without a log there are none. -/
theorem recordCount_of_measured (hsize : Medium.Measures ⟨store.medium, world.files⟩ content)
    (hpos : 0 < store.recordLen) :
    ∃ store' world', recordCount.run store world
      = .ok ((.ok ((content.getD []).length / store.recordLen), store'), world') := by
  obtain ⟨site, hsize⟩ := hsize
  have hlen : lenBytes.run store world
      = .ok ((.ok (content.getD []).length, { store with medium := site.medium }),
          { world with files := site.files }) := by
    refine (Attempt.bind_of_ok (trying_of_ok _ _ hsize)).trans ?_
    cases content <;> rfl
  refine ⟨{ store with medium := site.medium }, { world with files := site.files }, ?_⟩
  refine (Attempt.bind_of_ok hlen).trans ?_
  refine (Attempt.bind_of_ok rfl).trans ?_
  rw [if_neg (Nat.ne_of_gt hpos)]
  rfl

/-- What is read of a log with such bytes, and how many records are counted: if records of that
length make up the bytes, they are read, and otherwise it is told how many bytes are left over. The
count is the number of whole records in any case. -/
structure Reckons (location : String) (recordLen : Nat) (bytes : Bytes)
    (found : Except StoreError (List Record)) (count : Nat) : Prop where
  isOk_iff : found.isOk = true ↔ recordLen ∣ bytes.length
  divides : ∀ records, found = .ok records → Divides recordLen bytes records ∧
    records.length = count
  trailing : ¬recordLen ∣ bytes.length →
    found = .error (.readFailed location (.trailingBytes (bytes.length % recordLen)))
  count_eq : count = bytes.length / recordLen

theorem split_reckons (target : String) (hlong : nonceLen < recordLen) (bytes : Bytes) :
    Reckons target recordLen bytes (split target recordLen bytes) (bytes.length / recordLen) where
  isOk_iff := by
    rw [split_isOk_iff, Nat.dvd_iff_mod_eq_zero]
  divides records hfound := by
    have hdivides := (split_eq_ok_iff target hlong).mp hfound
    refine ⟨hdivides, ?_⟩
    rw [hdivides.length_eq hlong, Nat.mul_div_cancel _ (Nat.zero_lt_of_lt hlong)]
  trailing hleft := by
    rw [split, if_pos fun hwhole => hleft (Nat.dvd_of_mod_eq_zero hwhole)]
  count_eq := rfl

/-- However a log is brought, it is read as records exactly if its length is a multiple of theirs:
then they are its bytes, and as many as are counted. Otherwise reading it fails with the number of
bytes that are left over, and the whole records are counted. A log that is missing has none. -/
theorem records_divide (store : Store μ) (world : World) (content : Option Bytes)
    (hreads : Medium.Discloses ⟨store.medium, world.files⟩ content)
    (hsize : Medium.Measures ⟨store.medium, world.files⟩ content)
    (hlong : nonceLen < store.recordLen) :
    ∃ found count storeRead storeCounted worldRead worldCounted,
      Store.records.run store world = .ok ((found, storeRead), worldRead) ∧
      recordCount.run store world = .ok ((.ok count, storeCounted), worldCounted) ∧
      Reckons store.location store.recordLen (content.getD []) found count ∧
      (content = none → found = .ok [] ∧ count = 0) := by
  have hpos : 0 < store.recordLen := Nat.zero_lt_of_lt hlong
  obtain ⟨storeRead, worldRead, hrecords⟩ := records_of_disclosed hreads hpos
  obtain ⟨storeCounted, worldCounted, hcount⟩ := recordCount_of_measured hsize hpos
  refine ⟨_, _, storeRead, storeCounted, worldRead, worldCounted, hrecords, hcount,
    split_reckons store.location hlong _, ?_⟩
  rintro rfl
  exact ⟨(split_eq_ok_iff store.location hlong).mpr ⟨rfl, fun _ hmem => absurd hmem
    List.not_mem_nil⟩, Nat.zero_div _⟩

/-- A log of forty bytes for records of such a length. It is read in pieces of at most five bytes,
and reading it is interrupted once. -/
def ragged (recordLen : Nat) : Store Flaky where
  medium :=
    { content := some (.replicate 40 7)
      faults := [{ call := .read, after := 7, failure := .interruption "again" }]
      readLimit := some 5 }
  recordLen := recordLen

/-- Six bytes are left over by records of seventeen bytes, and none by records of twenty. A log in
memory that is missing has no records. -/
theorem records_divide_ragged :
    (∃ store' world', Store.records.run (ragged 17) {}
      = .ok ((.error (.readFailed "flaky" (.trailingBytes 6)), store'), world')) ∧
    (∃ store' world', recordCount.run (ragged 17) {} = .ok ((.ok 2, store'), world')) ∧
    (∃ records store' world',
      Store.records.run (ragged 20) {} = .ok ((.ok records, store'), world') ∧
      Divides 20 (.replicate 40 7) records ∧ records.length = 2) ∧
    ∃ store' world', Store.records.run (⟨⟨none⟩, 17⟩ : Store Memory) {}
      = .ok ((.ok [], store'), world') := by
  have hreads : ∀ recordLen, Medium.Discloses (⟨(ragged recordLen).medium, {}⟩ : Site Flaky)
      (some (.replicate 40 7)) := by
    intro recordLen
    have hpatient : (ragged recordLen).medium.Patient :=
      Flaky.patient_of_interruption _ 7 "again" (by decide)
    exact hpatient.discloses rfl {}
  have hsize : ∀ recordLen, Medium.Measures (⟨(ragged recordLen).medium, {}⟩ : Site Flaky)
      (some (.replicate 40 7)) := fun _ => ⟨_, rfl⟩
  obtain ⟨found, count, _, _, _, _, hrecords, hcount, hreckons, -⟩ :=
    records_divide (ragged 17) {} _ (hreads 17) (hsize 17) (by decide)
  obtain ⟨found', count', _, _, _, _, hrecords', hcount', hreckons', -⟩ :=
    records_divide (ragged 20) {} _ (hreads 20) (hsize 20) (by decide)
  obtain ⟨missing, _, _, _, _, _, hmissing, -, -, hnone⟩ :=
    records_divide (⟨⟨none⟩, 17⟩ : Store Memory) {} none (Memory.faultless.discloses trivial)
      (Memory.faultless.measures trivial) (by decide)
  obtain rfl : missing = .ok [] := (hnone rfl).1
  obtain rfl : found = .error (.readFailed "flaky" (.trailingBytes 6)) :=
    hreckons.trailing (by decide)
  obtain rfl : count = 2 := hreckons.count_eq
  have hok : found'.isOk = true := hreckons'.isOk_iff.mpr (by decide)
  cases found' with
  | error error => cases hok
  | ok records =>
    obtain ⟨hdivides, hlen⟩ := hreckons'.divides records rfl
    obtain rfl : count' = 2 := hreckons'.count_eq
    exact ⟨⟨_, _, hrecords⟩, ⟨_, _, hcount⟩, ⟨records, _, _, hrecords', hdivides, hlen⟩,
      _, _, hmissing⟩

/-! ## Records that were added -/

/-- What the store answers to a record, where nothing fails. -/
def acceptance (recordLen : Nat) (record : Record) : Except StoreError Unit :=
  if record.encodedLen = recordLen then .ok ()
  else .error (.recordSizeMismatch recordLen record.encodedLen)

theorem isOk_acceptance (recordLen : Nat) (record : Record) :
    (acceptance recordLen record).isOk = true ↔ record.encodedLen = recordLen := by
  rw [acceptance]
  split
  · rename_i hlen
    exact iff_of_true rfl hlen
  · rename_i hlen
    exact iff_of_false Bool.false_ne_true hlen

/-- Each record is looked at for itself. Those of the right length are added in memory, in order,
and the others leave nothing. -/
theorem appendAll_memory (added : List Record) (store : Store Memory) (world : World) :
    ∃ store', appendAll added store world
        = .ok ((added.map (acceptance store.recordLen), store'), world) ∧
      store'.recordLen = store.recordLen ∧
      store'.medium.bytes = store.medium.bytes
        ++ (added.filter (·.encodedLen = store.recordLen)).flatMap Record.toBytes := by
  induction added generalizing store with
  | nil => exact ⟨store, rfl, rfl, (List.append_nil _).symm⟩
  | cons record later ih =>
    by_cases hlen : record.encodedLen = store.recordLen
    · have hrun := append_eq ((record.length_toBytes).trans hlen) world
      obtain ⟨store', hlater, hrecordLen, hbytes⟩ :=
        ih { store with medium := store.medium.append record.toBytes }
      refine ⟨store', ?_, hrecordLen, ?_⟩
      · rw [List.map_cons, acceptance, if_pos hlen]
        exact (Act.bind_of_ok hrun).trans (Act.map_of_ok hlater)
      · rw [hbytes, List.filter_cons_of_pos (by simpa using hlen), List.flatMap_cons,
          ← List.append_assoc]
        rfl
    · have hne : record.toBytes.length ≠ store.recordLen := record.length_toBytes.symm ▸ hlen
      have hrun := append_refused hne world
      obtain ⟨store', hlater, hrecordLen, hbytes⟩ := ih store
      refine ⟨store', ?_, hrecordLen, ?_⟩
      · rw [List.map_cons, acceptance, if_neg hlen, ← record.length_toBytes]
        exact (Act.bind_of_ok hrun).trans (Act.map_of_ok hlater)
      · rw [hbytes, List.filter_cons_of_neg (by simpa using hlen)]

/-- Records that were stored are read back in order, unless they are no longer than a nonce: a
record without ciphertext is left out. -/
theorem split_stored (target : String) (hpos : 0 < recordLen)
    (h : ∀ record ∈ records, record.encodedLen = recordLen) :
    split target recordLen (records.flatMap Record.toBytes)
      = .ok (if recordLen = nonceLen then [] else records) := by
  have hlen : ∀ record ∈ records, record.toBytes.length = recordLen :=
    fun record hrecord => (record.length_toBytes).trans (h record hrecord)
  split
  · rename_i hnonce
    have hshort : (records.map Record.toBytes).filterMap Record.ofBytes? = [] := by
      refine List.filterMap_eq_nil_iff.mpr fun bytes hbytes => ?_
      obtain ⟨record, hrecord, rfl⟩ := List.mem_map.mp hbytes
      rw [Record.ofBytes?, if_pos (Nat.le_of_eq ((hlen record hrecord).trans hnonce))]
    rw [split_toBytes target hpos hlen, hshort]
  · rename_i hlonger
    refine split_flatMap target hpos fun record hrecord => ⟨fun hempty => hlonger ?_,
      hlen record hrecord⟩
    rw [← h record hrecord, Record.encodedLen, hempty]
    rfl

/-- Records are added to an empty log in memory. Those are accepted that have the length of a
record. If all of them are, they are counted, and they are read back in order; only records that are
no longer than a nonce are not. -/
theorem records_of_accepted (store : Store Memory) (world : World) (added : List Record)
    (hpos : 0 < store.recordLen) (hempty : store.medium.bytes = []) :
    ∃ results store', appendAll added store world = .ok ((results, store'), world) ∧
      results.length = added.length ∧
      ((∀ result ∈ results, result.isOk = true) ↔
        ∀ record ∈ added, record.encodedLen = store.recordLen) ∧
      ((∀ result ∈ results, result.isOk = true) →
        recordCount.run store' world = .ok ((.ok added.length, store'), world) ∧
        Store.records.run store' world
          = .ok ((.ok (if store.recordLen = nonceLen then [] else added), store'), world)) := by
  obtain ⟨store', hrun, hrecordLen, hbytes⟩ := appendAll_memory added store world
  have haccepted : (∀ result ∈ added.map (acceptance store.recordLen), result.isOk = true) ↔
      ∀ record ∈ added, record.encodedLen = store.recordLen := by
    simp only [List.forall_mem_map, isOk_acceptance]
  refine ⟨_, store', hrun, List.length_map _, haccepted, fun hall => ?_⟩
  have hlen := haccepted.mp hall
  rw [hempty, List.nil_append, List.filter_eq_self.mpr (by simpa using hlen)] at hbytes
  have hpos' : 0 < store'.recordLen := hrecordLen ▸ hpos
  constructor
  · have hwhole : ∀ record ∈ added, record.toBytes.length = store.recordLen :=
      fun record hrecord => (record.length_toBytes).trans (hlen record hrecord)
    rw [recordCount_eq hpos', hbytes, length_flatMap hwhole, hrecordLen,
      Nat.mul_div_cancel _ hpos]
  · rw [records_eq hpos', hbytes, hrecordLen, split_stored _ hpos hlen]

/-- Two records with a byte of ciphertext each are accepted, counted and read back. -/
theorem records_of_accepted_short :
    ∃ (results : List (Except StoreError Unit)) (store' : Store Memory),
      appendAll [short 1, short 2] ⟨⟨none⟩, 17⟩ {} = .ok ((results, store'), {}) ∧
      (∀ result ∈ results, result.isOk = true) ∧
      recordCount.run store' {} = .ok ((.ok 2, store'), {}) ∧
      Store.records.run store' {} = .ok ((.ok [short 1, short 2], store'), {}) := by
  obtain ⟨results, store', hrun, -, haccepted, hread⟩ :=
    records_of_accepted ⟨⟨none⟩, 17⟩ {} [short 1, short 2] (by decide) rfl
  have hall := haccepted.mpr (by decide)
  obtain ⟨hcount, hrecords⟩ := hread hall
  exact ⟨results, store', hrun, hall, hcount, hrecords⟩

/-- A record without ciphertext. -/
def bare : Record := { short 0 with ciphertext := [] }

/-- A store for records of sixteen bytes accepts it, and does not give it back. -/
theorem not_read_back_of_bare :
    ¬ ∀ (store store' : Store Memory) (world world' : World) (added : List Record)
      (results : List (Except StoreError Unit)),
      0 < store.recordLen → store.medium.bytes = [] →
      appendAll added store world = .ok ((results, store'), world') →
      (∀ result ∈ results, result.isOk = true) →
      ∃ last around, Store.records.run store' world' = .ok ((.ok added, last), around) := by
  intro hreadBack
  obtain ⟨store', hrun, hrecordLen, hbytes⟩ := appendAll_memory [bare] ⟨⟨none⟩, nonceLen⟩ {}
  obtain ⟨last, around, hrecords⟩ :=
    hreadBack _ _ _ _ _ _ (by decide) rfl hrun (by decide)
  have hpos : 0 < store'.recordLen := hrecordLen ▸ (by decide : 0 < nonceLen)
  have hlost : split store'.location nonceLen ([bare].flatMap Record.toBytes) = .ok [] :=
    split_stored store'.location (by decide) (by decide)
  have hbare : store'.medium.bytes = [bare].flatMap Record.toBytes := hbytes
  rw [records_eq hpos, hrecordLen, hbare, hlost] at hrecords
  cases hrecords

end SealedLog.Store
