import SealedLog.Proofs.Medium.LogFile
import SealedLog.Proofs.Store

/-!
# Stores that cannot be told apart

While nothing goes wrong, what a store answers depends on the bytes of its log alone, and so does
what becomes of them. So it does not matter what medium they are on.

- `Store.Operation`: what can be asked of a store; `outcome` says what it comes to on bare bytes.
- `Store.Ends`: an attempt that ends as on bare bytes; `Operation.perform_calm` is the one step.
- `Store.play_eq`: what is seen of a store is what is seen of bare bytes.
- `Store.file_like_memory`: a log in a file is seen as one in memory.
-/

namespace SealedLog

/-- The error without the place where it happened. -/
def StoreError.nowhere : StoreError → StoreError
  | .openFailed _ source => .openFailed "" source
  | .writeFailed _ source => .writeFailed "" source
  | .readFailed _ source => .readFailed "" source
  | .recordSizeMismatch expected actual => .recordSizeMismatch expected actual

namespace Store

/-! ## Operations -/

/-- What can be asked of a store. A dump is read to its end. -/
inductive Operation
  | append (record : Record)
  | clear
  | dump
  | lenBytes
  | recordCount
  | records

/-- What a store answers. -/
inductive Answer
  | done
  | dumped (missing : Bool) (pieces : List (Except StoreError HexChunk))
  | counted (count : Nat)
  | listed (records : List Record)
deriving DecidableEq

namespace Operation

/-- Whether the log is only looked at. -/
def Reads : Operation → Prop
  | append _ | clear => False
  | dump | lenBytes | recordCount | records => True

/-- An operation and its answer. -/
def perform {μ : Type} [Medium μ] : Operation → Attempt (Store μ) StoreError Answer
  | append record => do
    Store.append record
    return .done
  | clear => do
    Store.clear
    return .done
  | dump => do
    let dump : HexDump (Medium.Reader μ) ← Store.dump
    return .dumped dump.missing (← Store.dumpItems none dump)
  | lenBytes => do return .counted (← Store.lenBytes)
  | recordCount => do return .counted (← Store.recordCount)
  | records => do return .listed (← Store.records)

/-- What an operation comes to on bare bytes, and what becomes of them. -/
def outcome (recordLen : Nat) (content : Option Bytes) :
    Operation → Except Halt (Except StoreError Answer × Option Bytes)
  | append record =>
    if record.toBytes.length = recordLen then
      .ok (.ok .done, some (content.getD [] ++ record.toBytes))
    else .ok (.error (.recordSizeMismatch recordLen record.toBytes.length), content)
  | clear => .ok (.ok .done, some [])
  | dump =>
    .ok (.ok (.dumped content.isNone ((HexDump.chunks 0 (content.getD [])).map .ok)), content)
  | lenBytes => .ok (.ok (.counted (content.getD []).length), content)
  | recordCount =>
    if recordLen = 0 then .error .emptyRecords
    else .ok (.ok (.counted ((content.getD []).length / recordLen)), content)
  | records =>
    match content with
    | none => .ok (.ok (.listed []), content)
    | some bytes =>
      if recordLen = 0 then .error .emptyRecords
      else .ok ((split "" recordLen bytes).map .listed, content)

end Operation

/-- An error in divided bytes is the same anywhere. -/
theorem split_nowhere (target : String) (recordLen : Nat) (bytes : Bytes) :
    (split target recordLen bytes).mapError StoreError.nowhere = split "" recordLen bytes := by
  rw [split, split]
  split <;> rfl

/-! ## One operation -/

section

variable {μ α : Type} [Medium μ] (laws : Medium.Faultless μ) {store : Store μ} {world : World}

/-- The operation ends as it does on bare bytes, locations aside, on a calm site again. If it only
looks at the log, everything else is as it was, too. -/
def Ends (operation : Operation) (store : Store μ) (world : World) :
    Except Halt (Except StoreError Answer × Option Bytes) → Prop
  | .error why => operation.perform.run store world = .error why
  | .ok (result, content) => ∃ found store' world',
    operation.perform.run store world = .ok ((found, store'), world') ∧
      found.mapError StoreError.nowhere = result ∧ store'.recordLen = store.recordLen ∧
      laws.Calm ⟨store'.medium, world'.files⟩ ∧
      laws.content ⟨store'.medium, world'.files⟩ = content ∧
      (operation.Reads → store' = store ∧ Files.Alike world.files world'.files)

/-- A step that leaves its site alone leaves the store alone. -/
theorem trying_untouched (error : String → SystemError → StoreError)
    {step : Site μ → Except SystemError α × Site μ} {a : α}
    (h : ∃ after, step ⟨store.medium, world.files⟩ = (.ok a, after) ∧ laws.Calm after ∧
      Medium.Untouched ⟨store.medium, world.files⟩ after) :
    ∃ files, (trying step error).run store world
        = .ok ((.ok a, store), { world with files }) ∧
      laws.Calm ⟨store.medium, files⟩ ∧ Files.Alike world.files files := by
  obtain ⟨⟨medium, files⟩, hstep, hcalm, hmedium, halike⟩ := h
  obtain rfl : medium = store.medium := hmedium
  exact ⟨files, trying_of_ok a _ hstep, hcalm, halike⟩

variable {laws}

/-- An operation that leaves the store alone only looks at the log. -/
theorem Ends.of_untouched {operation : Operation} (found : Except StoreError Answer) {files : Files}
    (hrun : operation.perform.run store world = .ok ((found, store), { world with files }))
    (hcalm : laws.Calm ⟨store.medium, files⟩) (halike : Files.Alike world.files files) :
    Ends laws operation store world
      (.ok (found.mapError StoreError.nowhere, laws.content ⟨store.medium, world.files⟩)) :=
  ⟨found, store, _, hrun, rfl, rfl, hcalm, laws.content_untouched ⟨rfl, halike⟩,
    fun _ => ⟨rfl, halike⟩⟩

variable (h : laws.Calm ⟨store.medium, world.files⟩)
include h

/-- A record of the right length is added at the end of the log. -/
theorem append_of_calm {record : Record} (hlen : record.toBytes.length = store.recordLen) :
    ∃ after : Site μ, (append record).run store world
        = .ok ((.ok (), { store with medium := after.medium }),
            { world with files := after.files }) ∧
      laws.Calm after ∧ laws.content after
        = some ((laws.content ⟨store.medium, world.files⟩).getD [] ++ record.toBytes) := by
  obtain ⟨writer, opened, hopen, hcalm, hopened, hcontent⟩ := laws.openAppend_calm h
  obtain ⟨writer', written, hwrite, hcalm, hopened, hcontent⟩ :=
    laws.writeAll record.toBytes hcalm hopened hcontent
  obtain ⟨flushed, hflush, hcalm, hkept⟩ := laws.flush_calm hcalm hopened
  refine ⟨flushed, ?_, hcalm, hkept.trans hcontent⟩
  refine (Attempt.bind_of_ok rfl).trans ?_
  rw [if_neg (not_not_intro hlen)]
  refine (Attempt.bind_of_ok (trying_of_ok writer opened hopen)).trans ?_
  refine trying_of_ok () flushed ?_
  simp only [hwrite, hflush]

theorem append_ends (record : Record) :
    Ends laws (.append record) store world
      ((Operation.append record).outcome store.recordLen
        (laws.content ⟨store.medium, world.files⟩)) := by
  rw [Operation.outcome]
  by_cases hlen : record.toBytes.length = store.recordLen
  · obtain ⟨after, hrun, hcalm, hcontent⟩ := append_of_calm h hlen
    rw [if_pos hlen]
    exact ⟨.ok .done, _, _, Attempt.bind_of_ok hrun, rfl, rfl, hcalm, hcontent, False.elim⟩
  · have hrun : (Operation.append record).perform.run store world
        = .ok ((.error (.recordSizeMismatch store.recordLen record.toBytes.length), store),
            world) :=
      Act.bind_of_ok (append_refused hlen world)
    rw [if_neg hlen]
    exact ⟨_, _, _, hrun, rfl, rfl, h, rfl, False.elim⟩

theorem clear_ends :
    Ends laws .clear store world
      (Operation.clear.outcome store.recordLen (laws.content ⟨store.medium, world.files⟩)) := by
  obtain ⟨after, htruncate, hcalm, hcontent⟩ := laws.truncate_calm h
  have hrun : ∃ notices, Operation.clear.perform.run store world
      = .ok ((.ok .done, { store with medium := after.medium }),
          { world with files := after.files, notices }) :=
    ⟨_, Attempt.bind_of_ok (Attempt.bind_of_ok (trying_of_ok () after htruncate))⟩
  obtain ⟨notices, hrun⟩ := hrun
  exact ⟨_, _, _, hrun, rfl, rfl, hcalm, hcontent, False.elim⟩

omit h in
/-- A dump that leaves the site alone leaves the store alone. -/
theorem dumpItems_of_all {dump : HexDump (Medium.Reader μ)}
    {items : List (Except StoreError HexChunk)}
    (hall : dump.all ⟨store.medium, world.files⟩ = (items, ⟨store.medium, world.files⟩)) :
    dumpItems none dump store world = .ok ((items, store), world) := by
  rw [dumpItems, onSite]
  simp only [hall]

theorem dump_ends :
    Ends laws .dump store world
      (Operation.dump.outcome store.recordLen (laws.content ⟨store.medium, world.files⟩)) := by
  obtain ⟨files, hopen, hcalm, halike⟩ :=
    trying_untouched laws .openFailed (laws.openRead_calm h)
  refine Ends.of_untouched (.ok _) ?_ hcalm halike
  cases hcontent : laws.content ⟨store.medium, world.files⟩ with
  | none =>
    rw [hcontent] at hopen
    rw [Option.getD_none, HexDump.chunks_nil]
    refine (Attempt.bind_of_ok (Attempt.bind_of_ok hopen)).trans ?_
    exact Attempt.bind_of_ok (Attempt.lift_of_ok (dumpItems_of_all rfl))
  | some bytes =>
    rw [hcontent] at hopen
    refine (Attempt.bind_of_ok (Attempt.bind_of_ok hopen)).trans ?_
    exact Attempt.bind_of_ok
      (Attempt.lift_of_ok (dumpItems_of_all (laws.all_bring hcalm bytes store.location 0 false)))

theorem lenBytes_of_calm :
    ∃ files, lenBytes.run store world
        = .ok ((.ok ((laws.content ⟨store.medium, world.files⟩).getD []).length, store),
            { world with files }) ∧
      laws.Calm ⟨store.medium, files⟩ ∧ Files.Alike world.files files := by
  obtain ⟨files, hsize, hcalm, halike⟩ :=
    trying_untouched laws .readFailed (laws.size_calm h)
  refine ⟨files, (Attempt.bind_of_ok hsize).trans ?_, hcalm, halike⟩
  cases laws.content ⟨store.medium, world.files⟩ <;> rfl

theorem lenBytes_ends :
    Ends laws .lenBytes store world
      (Operation.lenBytes.outcome store.recordLen (laws.content ⟨store.medium, world.files⟩)) := by
  obtain ⟨files, hlen, hcalm, halike⟩ := lenBytes_of_calm h
  exact Ends.of_untouched (.ok _) (Attempt.bind_of_ok hlen) hcalm halike

theorem recordCount_ends :
    Ends laws .recordCount store world
      (Operation.recordCount.outcome store.recordLen
        (laws.content ⟨store.medium, world.files⟩)) := by
  obtain ⟨files, hlen, hcalm, halike⟩ := lenBytes_of_calm h
  rw [Operation.outcome]
  by_cases hzero : store.recordLen = 0
  · rw [if_pos hzero]
    refine Act.bind_of_error ((Attempt.bind_of_ok hlen).trans ?_)
    refine (Attempt.bind_of_ok rfl).trans ?_
    rw [if_pos hzero]
    rfl
  · rw [if_neg hzero]
    refine Ends.of_untouched (.ok _) (Attempt.bind_of_ok ?_) hcalm halike
    refine (Attempt.bind_of_ok hlen).trans ?_
    refine (Attempt.bind_of_ok rfl).trans ?_
    rw [if_neg hzero]
    rfl

/-- The bytes of a log that is there are read to the end, and then divided. -/
theorem records_of_calm {bytes : Bytes}
    (hcontent : laws.content ⟨store.medium, world.files⟩ = some bytes) :
    ∃ files, laws.Calm ⟨store.medium, files⟩ ∧ Files.Alike world.files files ∧
      records.run store world =
        if store.recordLen = 0 then .error .emptyRecords
        else .ok ((split store.location store.recordLen bytes, store), { world with files }) := by
  obtain ⟨files, hopen, hcalm, halike⟩ :=
    trying_untouched laws .openFailed (laws.openRead_calm h)
  rw [hcontent] at hopen
  have hread : (trying (Medium.readToEnd (laws.bring bytes)) .readFailed).run store
      { world with files } = .ok ((.ok bytes, store), { world with files }) :=
    trying_of_ok _ _ (laws.readToEnd bytes hcalm)
  refine ⟨files, hcalm, halike, ?_⟩
  refine (Attempt.bind_of_ok rfl).trans ?_
  refine (Attempt.bind_of_ok hopen).trans ?_
  refine (Attempt.bind_of_ok hread).trans ?_
  split <;> rfl

theorem records_ends :
    Ends laws .records store world
      (Operation.records.outcome store.recordLen (laws.content ⟨store.medium, world.files⟩)) := by
  cases hcontent : laws.content ⟨store.medium, world.files⟩ with
  | none =>
    obtain ⟨files, hopen, hcalm, halike⟩ :=
      trying_untouched laws .openFailed (laws.openRead_calm h)
    rw [hcontent] at hopen
    have hrun : Operation.records.perform.run store world
        = .ok ((.ok (.listed []), store), { world with files }) :=
      Attempt.bind_of_ok (Attempt.bind_of_ok hopen)
    have hends := Ends.of_untouched _ hrun hcalm halike
    rw [hcontent] at hends
    exact hends
  | some bytes =>
    obtain ⟨files, hcalm, halike, hrecords⟩ := records_of_calm h hcontent
    dsimp only [Operation.outcome]
    by_cases hzero : store.recordLen = 0
    · rw [if_pos hzero] at hrecords ⊢
      exact Act.bind_of_error hrecords
    · rw [if_neg hzero] at hrecords ⊢
      have hrun : Operation.records.perform.run store world
          = .ok (((split store.location store.recordLen bytes).map .listed, store),
              { world with files }) := by
        refine (Act.bind_of_ok hrecords).trans ?_
        cases split store.location store.recordLen bytes <;> rfl
      have hends := Ends.of_untouched _ hrun hcalm halike
      rw [hcontent] at hends
      rw [← split_nowhere store.location]
      cases hresult : split store.location store.recordLen bytes <;> rw [hresult] at hends <;>
        exact hends

/-- Every operation ends as on bare bytes. -/
theorem perform_ends (operation : Operation) :
    Ends laws operation store world
      (operation.outcome store.recordLen (laws.content ⟨store.medium, world.files⟩)) := by
  cases operation with
  | append record => exact append_ends h record
  | clear => exact clear_ends h
  | dump => exact dump_ends h
  | lenBytes => exact lenBytes_ends h
  | recordCount => exact recordCount_ends h
  | records => exact records_ends h

end

/-! ## Many operations -/

/-- What happens to a log: its store is asked something, or it is taken away from outside. -/
inductive Event
  | asked (operation : Operation)
  | removed

/-- What is seen of a log after an event: the answer of its store, locations aside, if it was asked
something, and the bytes of the log, if there is a log. -/
structure Sight where
  answer : Option (Except StoreError Answer)
  content : Option Bytes
deriving DecidableEq

/-- What an event comes to on bare bytes. -/
def Event.outcome (recordLen : Nat) (content : Option Bytes) : Event → Except Halt Sight
  | .asked operation =>
    match operation.outcome recordLen content with
    | .error why => .error why
    | .ok (result, content) => .ok ⟨some result, content⟩
  | .removed => .ok ⟨none, none⟩

/-- What is seen of bare bytes, one event after the other. -/
def foresee (recordLen : Nat) : Option Bytes → List Event → Except Halt (List Sight)
  | _, [] => .ok []
  | content, event :: later =>
    match event.outcome recordLen content with
    | .error why => .error why
    | .ok sight => (foresee recordLen sight.content later).map (sight :: ·)

section

variable {μ : Type} [Medium μ]

/-- What an event is answered. -/
def Event.happen (view : Medium.View μ) : Event → Act (Store μ) (Option (Except StoreError Answer))
  | .asked operation => do
    let result ← operation.perform.run
    return some (result.mapError StoreError.nowhere)
  | .removed => do
    onSite fun site => ((), view.removed site)
    return none

/-- An event, and what is seen then. -/
def Event.seen (view : Medium.View μ) (event : Event) : Act (Store μ) Sight := do
  let answer ← event.happen view
  return ⟨answer, ← onSite fun site => (view.content site, site)⟩

/-- One event after the other, with what is seen of the log. -/
def play (view : Medium.View μ) : List Event → Act (Store μ) (List Sight)
  | [] => return []
  | event :: later => do
    let sight ← event.seen view
    return sight :: (← play view later)

/-- What is seen of a log through some events. -/
def sights (view : Medium.View μ) (events : List Event) (store : Store μ) (world : World) :
    Except Halt (List Sight) :=
  (play view events store world).map (·.1.1)

/-- After these events, nothing is changed by an operation that only looks at the log. -/
def LooksOnly (view : Medium.View μ) (events : List Event) (store : Store μ) (world : World) :
    Prop :=
  ∀ seen store' world', play view events store world = .ok ((seen, store'), world') →
    ∀ operation : Operation, operation.Reads → ∀ result store'' world'',
      operation.perform.run store' world' = .ok ((result, store''), world'') →
      store'' = store' ∧ Files.Alike world'.files world''.files

variable {laws : Medium.Faultless μ} {store : Store μ} {world : World}

theorem seen_of_happen {view : Medium.View μ} {event : Event} {store' : Store μ} {world' : World}
    {answer : Option (Except StoreError Answer)}
    (h : event.happen view store world = .ok ((answer, store'), world')) :
    event.seen view store world
      = .ok ((⟨answer, view.content ⟨store'.medium, world'.files⟩⟩, store'), world') :=
  Act.bind_of_ok h

/-- The invariant of a run: the store has not changed its record length, nothing is to go wrong, and
the log has these bytes. -/
structure Rests (laws : Medium.Faultless μ) (recordLen : Nat) (content : Option Bytes)
    (store : Store μ) (world : World) : Prop where
  recordLen : store.recordLen = recordLen
  calm : laws.Calm ⟨store.medium, world.files⟩
  content : laws.content ⟨store.medium, world.files⟩ = content

variable {recordLen : Nat} {content : Option Bytes}

/-- What is seen of an event is what is seen on bare bytes. -/
theorem Rests.seen (h : Rests laws recordLen content store world) (event : Event) :
    match event.outcome recordLen content with
    | .error why => event.seen laws.toView store world = .error why
    | .ok sight => ∃ store' world',
      event.seen laws.toView store world = .ok ((sight, store'), world') ∧
        Rests laws recordLen sight.content store' world' := by
  obtain ⟨rfl, hcalm, rfl⟩ := h
  cases event with
  | removed =>
    obtain ⟨hremoved, hnone⟩ := laws.removed_calm hcalm
    have hhappen : Event.removed.happen laws.toView store world = .ok ((none,
        { store with medium := (laws.removed ⟨store.medium, world.files⟩).medium }),
        { world with files := (laws.removed ⟨store.medium, world.files⟩).files }) := rfl
    have hseen := seen_of_happen hhappen
    rw [show laws.content _ = none from hnone] at hseen
    exact ⟨_, _, hseen, rfl, hremoved, hnone⟩
  | asked operation =>
    have hends := perform_ends hcalm operation
    rw [Event.outcome]
    cases houtcome :
        operation.outcome store.recordLen (laws.content ⟨store.medium, world.files⟩) with
    | error why =>
      rw [houtcome] at hends
      exact Act.bind_of_error (Act.bind_of_error hends)
    | ok ending =>
      obtain ⟨result, content⟩ := ending
      rw [houtcome] at hends
      obtain ⟨found, store', world', hrun, rfl, hlen, hcalm', rfl, -⟩ := hends
      exact ⟨store', world', seen_of_happen (Act.bind_of_ok hrun), hlen, hcalm', rfl⟩

/-- What is seen through some events is what is seen on bare bytes. -/
theorem Rests.play (h : Rests laws recordLen content store world) (events : List Event) :
    match foresee recordLen content events with
    | .error why => Store.play laws.toView events store world = .error why
    | .ok seen => ∃ content' store' world',
      Store.play laws.toView events store world = .ok ((seen, store'), world') ∧
        Rests laws recordLen content' store' world' := by
  induction events generalizing content store world with
  | nil => exact ⟨content, store, world, rfl, h⟩
  | cons event later ih =>
    have hseen := h.seen event
    rw [foresee]
    cases houtcome : event.outcome recordLen content with
    | error why =>
      rw [houtcome] at hseen
      exact Act.bind_of_error hseen
    | ok sight =>
      rw [houtcome] at hseen
      obtain ⟨store', world', hseen, hrests⟩ := hseen
      have hlater := ih hrests
      dsimp only
      cases hforesee : foresee recordLen sight.content later with
      | error why =>
        rw [hforesee] at hlater
        exact (Act.bind_of_ok hseen).trans (Act.bind_of_error hlater)
      | ok seen =>
        rw [hforesee] at hlater
        obtain ⟨content', store'', world'', hplay, hrests'⟩ := hlater
        exact ⟨content', store'', world'',
          (Act.bind_of_ok hseen).trans (Act.bind_of_ok hplay), hrests'⟩

theorem Rests.sights_eq (h : Rests laws recordLen content store world) (events : List Event) :
    sights laws.toView events store world = foresee recordLen content events := by
  have hplay := h.play events
  rw [sights]
  cases hforesee : foresee recordLen content events with
  | error why =>
    rw [hforesee] at hplay
    rw [hplay]
    rfl
  | ok seen =>
    rw [hforesee] at hplay
    obtain ⟨content', store', world', hplay, -⟩ := hplay
    rw [hplay]
    rfl

theorem Rests.looksOnly (h : Rests laws recordLen content store world) (events : List Event) :
    LooksOnly laws.toView events store world := by
  intro seen store' world' hplayed operation hreads result store'' world'' hperform
  have hplay := h.play events
  cases hforesee : foresee recordLen content events with
  | error why =>
    rw [hforesee, hplayed] at hplay
    cases hplay
  | ok seen' =>
    rw [hforesee] at hplay
    obtain ⟨content', store₁, world₁, hplay, hrests⟩ := hplay
    rw [hplayed] at hplay
    cases hplay
    have hends := perform_ends hrests.calm operation
    generalize operation.outcome _ _ = outcome at hends
    cases outcome with
    | error why =>
      rw [Ends, hperform] at hends
      cases hends
    | ok ending =>
      obtain ⟨found, store₂, world₂, hrun, -, -, -, -, hkept⟩ := hends
      rw [hperform] at hrun
      cases hrun
      exact hkept hreads

end

/-- On bare bytes every operation ends, unless they are divided into records of no length. -/
theorem Operation.outcome_of_pos {recordLen : Nat} (hpos : 0 < recordLen) (content : Option Bytes)
    (operation : Operation) : ∃ ending, operation.outcome recordLen content = .ok ending := by
  have hne := Nat.ne_of_gt hpos
  cases operation with
  | append record =>
    rw [outcome]
    split <;> exact ⟨_, rfl⟩
  | clear => exact ⟨_, rfl⟩
  | dump => exact ⟨_, rfl⟩
  | lenBytes => exact ⟨_, rfl⟩
  | recordCount =>
    rw [outcome, if_neg hne]
    exact ⟨_, rfl⟩
  | records =>
    cases content with
    | none => exact ⟨_, rfl⟩
    | some bytes =>
      rw [outcome, if_neg hne]
      exact ⟨_, rfl⟩

theorem foresee_of_pos {recordLen : Nat} (hpos : 0 < recordLen) (content : Option Bytes)
    (events : List Event) : ∃ seen, foresee recordLen content events = .ok seen := by
  induction events generalizing content with
  | nil => exact ⟨[], rfl⟩
  | cons event later ih =>
    obtain ⟨sight, hsight⟩ : ∃ sight, event.outcome recordLen content = .ok sight := by
      cases event with
      | removed => exact ⟨_, rfl⟩
      | asked operation =>
        obtain ⟨ending, hending⟩ := operation.outcome_of_pos hpos content
        rw [Event.outcome, hending]
        exact ⟨_, rfl⟩
    obtain ⟨seen, hseen⟩ := ih sight.content
    rw [foresee, hsight]
    dsimp only
    rw [hseen]
    exact ⟨_, rfl⟩

/-- Where a log in a file can be opened and nothing goes wrong, it cannot be told from a log in
memory with the same bytes: whatever the two stores are asked, and whenever their logs are taken
away, the same is seen of both. They always answer, if their records have a length. Looking at a
log changes neither. -/
theorem file_like_memory (file : Store LogFile) (memory : Store Memory) (world world' : World)
    (events : List Event) (hcalm : LogFile.Calm ⟨file.medium, world.files⟩)
    (hrecordLen : memory.recordLen = file.recordLen)
    (hcontent : memory.medium.content = world.files.read? file.medium.path) :
    sights LogFile.view events file world = sights Memory.view events memory world' ∧
      (0 < file.recordLen → ∃ seen, sights LogFile.view events file world = .ok seen) ∧
      LooksOnly LogFile.view events file world ∧ LooksOnly Memory.view events memory world' := by
  have hfile : Rests LogFile.faultless file.recordLen (world.files.read? file.medium.path)
      file world := ⟨rfl, hcalm, rfl⟩
  have hmemory : Rests Memory.faultless file.recordLen (world.files.read? file.medium.path)
      memory world' := ⟨hrecordLen, trivial, hcontent⟩
  have hforeseen := hfile.sights_eq events
  refine ⟨hforeseen.trans (hmemory.sights_eq events).symm, fun hpos => ?_, hfile.looksOnly events,
    hmemory.looksOnly events⟩
  obtain ⟨seen, hseen⟩ := foresee_of_pos hpos (world.files.read? file.medium.path) events
  exact ⟨seen, hforeseen.trans hseen⟩

/-- A log of seventeen-byte records that is missing, is added to, is taken away and is emptied. -/
theorem file_like_missing_memory :
    let file : Store LogFile := ⟨⟨⟨"/enc_log.bin"⟩⟩, 17⟩
    let memory : Store Memory := ⟨⟨none⟩, 17⟩
    let record : Record := ⟨List.replicate nonceLen 0, [1], rfl⟩
    let events : List Event :=
      [.asked .dump, .asked (.append record), .asked .records, .removed, .asked .records,
        .asked .clear, .asked .dump]
    LogFile.Calm ⟨file.medium, {}⟩ ∧ memory.medium.content = Files.read? {} file.medium.path ∧
      sights LogFile.view events file {} = sights Memory.view events memory {} ∧
      ∃ seen, sights LogFile.view events file {} = .ok seen := by
  intro file memory record events
  have hcalm : LogFile.Calm ⟨file.medium, {}⟩ :=
    LogFile.calm_iff.mpr ⟨fun _ hmem => absurd hmem List.not_mem_nil, [file.medium.path.lastPiece],
      by decide +kernel⟩
  have hcontent : memory.medium.content = Files.read? {} file.medium.path := by decide +kernel
  obtain ⟨hsights, hends, -, -⟩ := file_like_memory file memory {} {} events hcalm rfl hcontent
  exact ⟨hcalm, hcontent, hsights, hends (by decide)⟩

end Store

end SealedLog
