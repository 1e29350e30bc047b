import SealedLog.Proofs.Medium.LogFile
import SealedLog.Proofs.Store

/-!
# Torn records

An addition that fails can leave a first part of its record on the medium. Nothing takes it away
again, so every record behind it is displaced.

- `Store.Leaves`: what an addition leaves on the medium, by its result.
- `Store.append_leaves`: one addition.
- `Store.content_of_appends`: any number of additions, and what becomes of the log by them.
- `Store.not_unchanged_of_failed_append`: a failed addition changes the log.
-/

namespace SealedLog.Store

variable {μ : Type} [Medium μ]

/-! ## One addition -/

/-- What an addition leaves on the medium: the whole record, nothing, or a first part of the
record. -/
inductive Leaves (record : Record) : Except StoreError Unit → Bytes → Prop
  | whole : Leaves record (.ok ()) record.toBytes
  | unopened {target : String} {error : SystemError} :
      Leaves record (.error (.openFailed target error)) []
  | torn {target : String} {error : SystemError} {part : Bytes} : part <+: record.toBytes →
      Leaves record (.error (.writeFailed target error)) part

/-- The bytes of a log, as its medium has them. -/
def content (laws : Medium.Appending μ) (store : Store μ) (world : World) : Bytes :=
  laws.content ⟨store.medium, world.files⟩

/-- A writer takes all bytes and flushes them, or it fails on the way. -/
def writeOut (writer : Medium.Writer μ) (bytes : Bytes) (site : Site μ) :
    Except SystemError Unit × Site μ :=
  match Medium.writeAll writer bytes site with
  | ((.ok (), writer), site) => Medium.flush writer site
  | ((.error error, _), site) => (.error error, site)

/-- What is written out is added to the log, or a first part of it. -/
theorem writeOut_leaves (laws : Medium.Appending μ) {writer : Medium.Writer μ} {site : Site μ}
    (h : laws.Opened writer site) (bytes : Bytes) :
    ∃ part, part <+: bytes ∧
      laws.content (writeOut writer bytes site).2 = laws.content site ++ part ∧
      ((writeOut writer bytes site).1 = .ok () → part = bytes) := by
  obtain ⟨hopened, part, hpart, hcontent, hall⟩ := laws.writeAll writer bytes site h
  refine ⟨part, hpart, ?_⟩
  rw [writeOut]
  rcases hwritten : Medium.writeAll writer bytes site with ⟨⟨result, writer'⟩, site'⟩
  rw [hwritten] at hopened hcontent hall
  cases result with
  | error error => exact ⟨hcontent, nofun⟩
  | ok _ => exact ⟨(laws.content_flush hopened).trans hcontent, fun _ => hall rfl⟩

/-- However a medium fails, an addition ends. It leaves the whole record if it goes well, and a first
part of it if it does not. -/
theorem append_leaves (laws : Medium.Appending μ) (store : Store μ) (world : World)
    {record : Record} (hlen : record.toBytes.length = store.recordLen) :
    ∃ result store' world' part, (append record).run store world = .ok ((result, store'), world') ∧
      Leaves record result part ∧ store'.recordLen = store.recordLen ∧
      store'.content laws world' = store.content laws world ++ part := by
  have hopen := trying_eq Medium.openAppend .openFailed store world
  have hkept := laws.content_openAppend ⟨store.medium, world.files⟩
  cases hopened : Medium.openAppend (⟨store.medium, world.files⟩ : Site μ) with
  | mk result site =>
    rw [hopened] at hopen hkept
    cases result with
    | error error =>
      have hrun : (append record).run store world
          = .ok ((.error (.openFailed store.location error), { store with medium := site.medium }),
              { world with files := site.files }) := by
        refine (Attempt.bind_of_ok rfl).trans ?_
        rw [if_neg (not_not_intro hlen)]
        exact (Act.bind_of_ok hopen).trans rfl
      exact ⟨_, _, _, [], hrun, .unopened, rfl, hkept.trans (List.append_nil _).symm⟩
    | ok writer =>
      have hwriter := laws.opened_openAppend (congrArg Prod.fst hopened)
      rw [hopened] at hwriter
      obtain ⟨part, hpart, hcontent, hall⟩ := writeOut_leaves laws hwriter record.toBytes
      have hwrite := trying_eq (writeOut writer record.toBytes) .writeFailed
        { store with medium := site.medium } { world with files := site.files }
      have hrun : (append record).run store world
          = (trying (writeOut writer record.toBytes) .writeFailed).run
              { store with medium := site.medium } { world with files := site.files } := by
        refine (Attempt.bind_of_ok rfl).trans ?_
        rw [if_neg (not_not_intro hlen)]
        exact Attempt.bind_of_ok hopen
      refine ⟨_, _, _, part, hrun.trans hwrite, ?_, rfl, hcontent.trans (congrArg (· ++ part) hkept)⟩
      cases hresult : (writeOut writer record.toBytes site).1 with
      | error error => exact .torn hpart
      | ok _ => exact hall hresult ▸ .whole

/-! ## Many additions -/

/-- Records added one after the other, with the results. -/
def appendAll : List Record → Act (Store μ) (List (Except StoreError Unit))
  | [] => return []
  | record :: later => do
    let result ← (append record).run
    return result :: (← appendAll later)

/-- One of several additions, with what it left on the medium. -/
structure Addition where
  record : Record
  result : Except StoreError Unit
  left : Bytes
  leaves : Leaves record result left

/-- The records that were added. -/
def successes (additions : List Addition) : List Record :=
  (additions.filter fun addition => addition.result.isOk).map (·.record)

/-- What the additions that failed left behind. -/
def debris (additions : List Addition) : Bytes :=
  (additions.filter fun addition => !addition.result.isOk).flatMap (·.left)

/-- Additions come one behind the other, whatever becomes of each. -/
theorem appendAll_leaves (laws : Medium.Appending μ) {records : List Record} {store : Store μ}
    {world : World} (hlen : ∀ record ∈ records, record.toBytes.length = store.recordLen) :
    ∃ (additions : List Addition) (store' : Store μ) (world' : World),
      additions.map (·.record) = records ∧
      appendAll records store world = .ok ((additions.map (·.result), store'), world') ∧
      store'.content laws world' = store.content laws world ++ additions.flatMap (·.left) := by
  induction records generalizing store world with
  | nil => exact ⟨[], store, world, rfl, rfl, (List.append_nil _).symm⟩
  | cons record later ih =>
    obtain ⟨result, middle, around, part, hrun, hleaves, hrecordLen, hcontent⟩ :=
      append_leaves laws store world (hlen record List.mem_cons_self)
    obtain ⟨additions, store', world', hrecords, hlater, hcontent'⟩ :=
      ih fun other hother => (hlen other (List.mem_cons_of_mem record hother)).trans hrecordLen.symm
    refine ⟨⟨record, result, part, hleaves⟩ :: additions, store', world', ?_, ?_, ?_⟩
    · rw [List.map_cons, hrecords]
    · exact (Act.bind_of_ok hrun).trans (Act.map_of_ok hlater)
    · rw [hcontent', hcontent, List.flatMap_cons, List.append_assoc]

theorem left_of_isOk {addition : Addition} (h : addition.result.isOk = true) :
    addition.left = addition.record.toBytes := by
  rcases addition with ⟨record, result, left, hleaves⟩
  cases hleaves with
  | whole => rfl
  | unopened => cases h
  | torn _ => cases h

theorem successes_cons (addition : Addition) (later : List Addition) :
    successes (addition :: later)
      = (if addition.result.isOk then [addition.record] else []) ++ successes later := by
  rw [successes, List.filter_cons, successes]
  split <;> rfl

theorem debris_cons (addition : Addition) (later : List Addition) :
    debris (addition :: later)
      = (if addition.result.isOk then [] else addition.left) ++ debris later := by
  rw [debris, List.filter_cons, debris]
  cases addition.result.isOk <;> rfl

/-- Apart from debris there are the records that were added. -/
theorem length_left {additions : List Addition} {recordLen : Nat}
    (hlen : ∀ addition ∈ additions, addition.record.toBytes.length = recordLen) :
    (additions.flatMap (·.left)).length
      = (successes additions).length * recordLen + (debris additions).length := by
  induction additions with
  | nil => rw [successes, debris, List.filter_nil, List.map_nil, List.length_nil, Nat.zero_mul]; rfl
  | cons addition later ih =>
    have hfirst := hlen addition List.mem_cons_self
    have hlater := ih fun other hother => hlen other (List.mem_cons_of_mem addition hother)
    rw [List.flatMap_cons, List.length_append, hlater, successes_cons, debris_cons,
      List.length_append, List.length_append]
    cases hok : addition.result.isOk with
    | true =>
      rw [if_pos rfl, if_pos rfl, left_of_isOk hok, hfirst, List.length_singleton, List.length_nil,
        Nat.add_mul]
      omega
    | false =>
      rw [if_neg Bool.false_ne_true, if_neg Bool.false_ne_true, List.length_nil, Nat.zero_add]
      omega

/-- If no failure left anything, there is nothing but the records that were added. -/
theorem left_of_no_debris {additions : List Addition} (h : debris additions = []) :
    additions.flatMap (·.left) = (successes additions).flatMap Record.toBytes := by
  induction additions with
  | nil => rfl
  | cons addition later ih =>
    rw [debris_cons, List.append_eq_nil_iff] at h
    rw [List.flatMap_cons, successes_cons, List.flatMap_append, ih h.2]
    cases hok : addition.result.isOk with
    | true => rw [if_pos rfl, left_of_isOk hok, List.flatMap_singleton]
    | false =>
      rw [hok, if_neg Bool.false_ne_true] at h
      rw [if_neg Bool.false_ne_true, h.1]
      rfl

theorem mem_successes {additions : List Addition} {record : Record}
    (h : record ∈ successes additions) : record ∈ additions.map (·.record) := by
  obtain ⟨addition, hmem, rfl⟩ := List.mem_map.mp h
  exact List.mem_map_of_mem (List.mem_filter.mp hmem).1

/-- Bytes are divided into records if no record is missing a part. -/
theorem split_isOk_iff (target : String) (recordLen : Nat) (bytes : Bytes) :
    (split target recordLen bytes).isOk = true ↔ bytes.length % recordLen = 0 := by
  rw [split]
  by_cases h : bytes.length % recordLen = 0
  · rw [if_neg (not_not_intro h)]
    exact iff_of_true rfl h
  · rw [if_pos h]
    exact iff_of_false Bool.false_ne_true h

/-- A log that consists of records is added to, with failures at any point. Every addition that goes
well leaves its record at the end, and every one that fails a first part of its record. So the log
still consists of the records that were added if no failure left anything. Otherwise it can be
divided into records only if the parts left make up whole ones. -/
theorem content_of_appends (laws : Medium.Appending μ) (store : Store μ) (world : World)
    (target : String) (kept added : List Record)
    (hcontent : store.content laws world = kept.flatMap Record.toBytes)
    (hkept : ∀ record ∈ kept, Fits store.recordLen record)
    (hadded : ∀ record ∈ added, Fits store.recordLen record) (hpos : 0 < store.recordLen) :
    ∃ (additions : List Addition) (store' : Store μ) (world' : World),
      additions.map (·.record) = added ∧
      appendAll added store world = .ok ((additions.map (·.result), store'), world') ∧
      store'.content laws world'
        = kept.flatMap Record.toBytes ++ additions.flatMap (·.left) ∧
      ((split target store.recordLen (store'.content laws world')).isOk = true ↔
        (debris additions).length % store.recordLen = 0) ∧
      (debris additions = [] → split target store.recordLen (store'.content laws world')
        = .ok (kept ++ successes additions)) := by
  obtain ⟨additions, store', world', hrecords, hrun, hleft⟩ :=
    appendAll_leaves laws fun record hrecord => (hadded record hrecord).length
  rw [hcontent] at hleft
  refine ⟨additions, store', world', hrecords, hrun, hleft, ?_, ?_⟩
  · have hold := fun record hrecord => (hkept record hrecord).length
    have hlen : ∀ addition ∈ additions, addition.record.toBytes.length = store.recordLen := by
      intro addition haddition
      have hmem : addition.record ∈ additions.map (·.record) := List.mem_map_of_mem haddition
      rw [hrecords] at hmem
      exact (hadded _ hmem).length
    rw [split_isOk_iff, hleft, List.length_append, length_flatMap hold, length_left hlen,
      ← Nat.add_assoc, ← Nat.add_mul, Nat.mul_add_mod_self_right]
  · intro hnone
    have hfits : ∀ record ∈ kept ++ successes additions, Fits store.recordLen record := by
      intro record hrecord
      rcases List.mem_append.mp hrecord with hold | hnew
      · exact hkept record hold
      · exact hadded record (hrecords ▸ mem_successes hnew)
    rw [hleft, left_of_no_debris hnone, ← List.flatMap_append]
    exact split_flatMap target hpos hfits

/-- A record of seventeen bytes, with zeros for a nonce. -/
def short (byte : UInt8) : Record := ⟨List.replicate nonceLen 0, [byte], rfl⟩

/-- A disk that is full in the middle of the first record written to it. -/
def fillingUp : World where
  files := { mishaps := [none, none, some ⟨5, .reported "no space left"⟩] }

/-- A log in a file, for records of seventeen bytes. -/
def onDisk : Store LogFile where
  medium := ⟨⟨"/enc_log.bin"⟩⟩
  recordLen := 17

/-- Two records are added to a file, on a disk that is full in the middle of the first. -/
theorem content_of_full_disk :
    ∃ (additions : List Addition) (store' : Store LogFile) (world' : World),
      additions.map (·.record) = [short 1, short 2] ∧
      appendAll [short 1, short 2] onDisk fillingUp
        = .ok ((additions.map (·.result), store'), world') ∧
      store'.content LogFile.appending world' = additions.flatMap (·.left) := by
  have hempty : onDisk.content LogFile.appending fillingUp = [] := by decide +kernel
  have hfits : ∀ record ∈ [short 1, short 2], Fits onDisk.recordLen record := by
    intro record hrecord
    rcases List.mem_cons.mp hrecord with rfl | hrecord
    · exact ⟨by decide, rfl⟩
    · rw [List.mem_singleton.mp hrecord]
      exact ⟨by decide, rfl⟩
  obtain ⟨additions, store', world', hrecords, hrun, hcontent, -⟩ :=
    content_of_appends LogFile.appending onDisk fillingUp onDisk.location [] [short 1, short 2]
      hempty (fun _ hmem => absurd hmem List.not_mem_nil) hfits (by decide)
  exact ⟨additions, store', world', hrecords, hrun, hcontent⟩

/-- A store whose medium is full after five bytes, once. -/
def full : Store Flaky where
  medium := { faults := [{ call := .write, after := 5, failure := .failure "no space left" }] }
  recordLen := 17

/-- The medium takes five bytes and fails. -/
theorem writeAll_full : Medium.writeAll (μ := Flaky) (0 : Nat) (short 1).toBytes ⟨full.medium, {}⟩
    = ((.error (.reported "no space left"), (5 : Nat)),
        ⟨{ content := some (List.replicate 5 0) }, {}⟩) := by
  have hrest : Medium.writeAll (μ := Flaky) (0 : Nat) (short 1).toBytes ⟨full.medium, {}⟩
      = Medium.writeAll (μ := Flaky) (5 : Nat) ((short 1).toBytes.drop 5)
          ⟨{ full.medium with content := some (List.replicate 5 0) }, {}⟩ := by
    rw [Medium.writeAll, if_neg (by decide)]
    rfl
  rw [hrest, Medium.writeAll, if_neg (by decide)]
  rfl

/-- So an addition fails, and what it has written stays. -/
theorem append_full : (append (short 1)).run full {}
    = .ok ((.error (.writeFailed "flaky" (.reported "no space left")),
        { full with medium := { content := some (List.replicate 5 0) } }), {}) := by
  have hwritten : writeOut (μ := Flaky) (0 : Nat) (short 1).toBytes ⟨full.medium, {}⟩
      = (.error (.reported "no space left"), ⟨{ content := some (List.replicate 5 0) }, {}⟩) := by
    rw [writeOut, writeAll_full]
  refine (Attempt.bind_of_ok rfl).trans ?_
  rw [if_neg (by decide)]
  refine (Attempt.bind_of_ok rfl).trans ?_
  refine (trying_eq (writeOut (μ := Flaky) (0 : Nat) (short 1).toBytes) .writeFailed full {}).trans ?_
  rw [hwritten]
  rfl

/-- A log is not what it was when an addition has failed. -/
theorem not_unchanged_of_failed_append :
    ¬ ∀ (store store' : Store Flaky) (world world' : World) (record : Record) (error : StoreError),
      (append record).run store world = .ok ((.error error, store'), world') →
      store'.content Flaky.appending world' = store.content Flaky.appending world := by
  intro hunchanged
  have hsame := hunchanged full _ {} {} (short 1) _ append_full
  cases hsame

end SealedLog.Store
