import SealedLog.Proofs.Journal.Mounted
import SealedLog.Proofs.SoftElement.Draws

/-!
# Fresh nonces

A software element serves any number of journals, booted one after the other or used side by side.
Every nonce and every key is a draw of its generator, and no draw serves twice: what a failed append
or a key that could not be stored has drawn is lost. If the draws differ from each other, so do the
nonces and the keys.

- `Journal.Service`, `Service.Reachable`: an element that serves journals, and what can happen.
- `Change.sealed`: the record that a change seals, whether it can be stored or not.
- `Service.Fresh`: the invariant; `fresh_of_reachable` holds it for every service.
- `Service.nonces_distinct`: what follows for nonces and keys.
-/

namespace SealedLog.Journal

open SoftElement (Tallied)

variable {ε μ : Type}

/-! ## What is sealed -/

/-- The message that a change seals, if it seals one. -/
def Change.message? (journal : Journal ε μ) (world : World) : Change → Option Bytes
  | .appendStatus =>
    some (statusMessage (journal.sequence.current + 1) journal.started world.now).encode
  | .appendMessage plaintext => some plaintext
  | .clear => none

variable [Element ε]

/-- The record that a change makes of its message. It may not come to be stored. -/
def Change.sealed (journal : Journal ε μ) (world : World) (change : Change) : List Record :=
  match change.message? journal world with
  | none => []
  | some message =>
    match (journal.sealer.encryptMessage message).run journal.gateway world with
    | .ok ((.ok record, _), _) => [record]
    | _ => []

theorem Change.sealed_of_ok {journal : Journal ε μ} {world around : World} {change : Change}
    {message : Bytes} {record : Record} {gateway : Gateway ε}
    (hmessage : change.message? journal world = some message)
    (hsealed : (journal.sealer.encryptMessage message).run journal.gateway world
      = .ok ((.ok record, gateway), around)) : change.sealed journal world = [record] := by
  simp only [Change.sealed, hmessage, hsealed]

/-- The record that a journal reports to have added. -/
def added? : Except LogError Response → Option Record
  | .ok (.reported report) => some report.record
  | .ok (.added record) => some record
  | _ => none

section

variable {journal journal' : Journal ε μ} {world world' : World}

omit [Element ε] in
/-- The store does not use the connection. -/
theorem onStore_gateway {α : Type} (attempt : Attempt (Store μ) StoreError α) :
    (onStore attempt).Ensures journal world (fun _ => True)
      (fun _ journal' _ => journal'.gateway = journal.gateway)
      fun _ journal' _ => journal'.gateway = journal.gateway :=
  Attempt.Ensures.orElseAs (Attempt.Ensures.within
    (Attempt.Ensures.anyhow.mono (fun _ _ _ _ => rfl) fun _ _ _ _ => rfl))

variable [Medium μ]

/-- A message that is to be added is sealed first, and the connection is left as it is then. What
is added is what was sealed. -/
theorem appendMessage_sealed (plaintext : Bytes) :
    (appendMessage plaintext).Ensures journal world (fun _ => True)
      (fun _ journal' _ => ∃ result around,
        (journal.sealer.encryptMessage plaintext).run journal.gateway world
          = .ok ((result, journal'.gateway), around))
      fun record journal' _ => ∃ around,
        (journal.sealer.encryptMessage plaintext).run journal.gateway world
          = .ok ((.ok record, journal'.gateway), around) := by
  refine appendMessage_stores ⟨fun _ _ => trivial, ?_⟩
  rintro (source | record) gateway around hsealed
  · exact ⟨_, around, hsealed⟩
  · refine (onStore_gateway _).mono ?_ ?_
    · rintro error journal' world' hgateway
      exact ⟨.ok record, around, hgateway.symm ▸ hsealed⟩
    · rintro _ journal' world' hgateway
      exact ⟨around, hgateway.symm ▸ hsealed⟩

/-- Where sealing a message leads, if a change seals one: the connection is left as it is then, and
what is reported to be added was sealed. -/
def Change.Follows (change : Change) (journal : Journal ε μ) (world : World)
    (result : Except LogError Response) (gateway : Gateway ε) : Prop :=
  match change.message? journal world with
  | none => gateway = journal.gateway ∧ added? result = none
  | some message => ∃ outcome around,
    (journal.sealer.encryptMessage message).run journal.gateway world
      = .ok ((outcome, gateway), around) ∧ (added? result).toList.Sublist outcome.toOption.toList

/-- A change seals its message, and does nothing else with the connection. -/
theorem Change.perform_follows (change : Change) (journal : Journal ε μ) (world : World) :
    change.perform.Ensures journal world (fun _ => True)
      (fun error journal' _ => change.Follows journal world (.error error) journal'.gateway)
      fun answer journal' _ => change.Follows journal world (.ok answer) journal'.gateway := by
  cases change with
  | appendStatus =>
    have hadded : (Journal.appendStatus : Attempt (Journal ε μ) LogError AppendReport).Ensures
        journal world (fun _ => True)
        (fun error journal' _ =>
          Change.appendStatus.Follows journal world (.error error) journal'.gateway)
        fun report journal' _ =>
          Change.appendStatus.Follows journal world (.ok (.reported report)) journal'.gateway := by
      refine appendStatus_ensures ?_
      refine Attempt.Ensures.step rfl ?_
      refine Attempt.Ensures.step rfl ?_
      refine ((appendMessage_sealed _).mono ?_ fun _ _ _ hsealed => hsealed).bind ?_
      · rintro error journal' world' ⟨result, around, hsealed⟩
        exact ⟨result, around, hsealed, List.nil_sublist _⟩
      · rintro record journal' world' ⟨around, hsealed⟩
        refine Attempt.Ensures.step rfl ?_
        exact Attempt.Ensures.pure ⟨_, around, hsealed, .refl _⟩
    exact hadded.bind fun _ _ _ hfollows => Attempt.Ensures.pure hfollows
  | appendMessage plaintext =>
    refine ((appendMessage_sealed plaintext).mono ?_ fun _ _ _ hsealed => hsealed).bind ?_
    · rintro error journal' world' ⟨result, around, hsealed⟩
      exact ⟨result, around, hsealed, List.nil_sublist _⟩
    · rintro record journal' world' ⟨around, hsealed⟩
      exact Attempt.Ensures.pure ⟨_, around, hsealed, .refl _⟩
  | clear =>
    refine ((onStore_gateway Store.clear).mono ?_ fun _ _ _ hgateway => hgateway).bind ?_
    · exact fun _ _ _ hgateway => ⟨hgateway, rfl⟩
    · exact fun _ _ _ hgateway => Attempt.Ensures.pure ⟨hgateway, rfl⟩

end

/-! ## Services -/

/-- The journal with the element that all journals share, and its completions. -/
def connected (element : ε) (completions : List Completion) (journal : Journal ε μ) :
    Journal ε μ :=
  journal.withGateway { journal.gateway with element, completions }

/-- A software element in the service of journals, with the records that were sealed and what the
changes came to so far. -/
structure Service (μ : Type) where
  element : Tallied
  completions : List Completion := []
  journals : List (Journal Tallied μ) := []
  records : List Record := []
  results : List (Except LogError Response) := []

namespace Service

variable [Medium μ]

/-- What can become of an element that journals are booted with. -/
inductive Reachable (first : SoftElement) : Service μ → Prop
  | start : Reachable first { element := ⟨first, []⟩ }
  /-- A journal is booted with the element, or the boot fails. -/
  | boot {service : Service μ} {config : Config} {medium : μ} {gateway gateway' : Gateway Tallied}
      {world world' : World} {result : Except LogError (Journal Tallied μ)} :
      Reachable first service →
      gateway.element = service.element → gateway.completions = service.completions →
      (bootOver config medium).run gateway world = .ok ((result, gateway'), world') →
      Reachable first
        { service with
          element := gateway'.element
          completions := gateway'.completions
          journals := service.journals ++ result.toOption.toList }
  /-- One of the journals changes its log, or fails to. -/
  | change {service : Service μ} {before after : List (Journal Tallied μ)}
      {journal journal' : Journal Tallied μ} {change : Change} {world world' : World}
      {result : Except LogError Response} :
      Reachable first service → service.journals = before ++ journal :: after →
      change.perform.run (journal.connected service.element service.completions) world
        = .ok ((result, journal'), world') →
      Reachable first
        { element := journal'.gateway.element
          completions := journal'.gateway.completions
          journals := before ++ journal' :: after
          records := service.records
            ++ change.sealed (journal.connected service.element service.completions) world
          results := service.results ++ [result] }
  /-- Something is about to go wrong. -/
  | inject {service : Service μ} (fault : Fault) :
      Reachable first service →
      Reachable first
        { service with
          element := { service.element with
            element := service.element.element.injectFault fault } }
  /-- The worker gets on while no one waits. -/
  | work {service : Service μ} (limit : Option Span) (files : Files) :
      Reachable first service →
      Reachable first
        { service with
          element := (Element.await limit service.element files).element
          completions := Completion.settleAll service.completions
            (Element.await limit service.element files).timely }

/-- The tally of the element is sound with the nonces of the records, and the records that were
reported are among those that were sealed. -/
structure Fresh (first : SoftElement) (service : Service μ) : Prop where
  sound : Tallied.Sound first.generator (service.records.map Record.nonce) service.element
    service.completions.length
  reported : (service.results.filterMap added?).Sublist service.records

variable {first : SoftElement} {service : Service μ}

omit [Medium μ] in
/-- Who follows the sealing of a message has the record that is sealed, if there is one. -/
theorem fresh_change {journal : Journal Tallied μ} {change : Change} {world : World}
    {result : Except LogError Response} {gateway : Gateway Tallied} {nonces : List Bytes}
    (hsound : Tallied.Sound first.generator nonces journal.gateway.element
      journal.gateway.completions.length)
    (h : change.Follows journal world result gateway) :
    Tallied.Sound first.generator (nonces ++ (change.sealed journal world).map Record.nonce)
        gateway.element gateway.completions.length ∧
      (added? result).toList.Sublist (change.sealed journal world) := by
  rw [Change.Follows] at h
  rw [Change.sealed]
  cases hmessage : change.message? journal world with
  | none =>
    rw [hmessage] at h
    obtain ⟨rfl, hnone⟩ := h
    rw [hnone]
    exact ⟨(List.append_nil nonces).symm ▸ hsound, .slnil⟩
  | some message =>
    rw [hmessage] at h
    obtain ⟨outcome, around, hsealed, hadded⟩ := h
    dsimp only
    rw [hsealed]
    have hended := (Tallied.encryptMessage_fresh hsound journal.sealer
      message).ends outcome gateway around hsealed
    cases outcome with
    | error source => exact ⟨(List.append_nil nonces).symm ▸ hended, hadded⟩
    | ok record => exact ⟨hended, hadded⟩

/-- The invariant holds of every service, by induction on what happened. -/
theorem fresh_of_reachable (hidle : first.queue = []) (h : Reachable first service) :
    Fresh first service := by
  induction h with
  | start =>
    refine ⟨⟨?_, ?_, .refl _, .slnil⟩, .slnil⟩
    · intro job hjob
      rw [hidle] at hjob
      cases hjob
    · intro job hjob
      rw [hidle] at hjob
      cases hjob
  | @boot service config medium gateway gateway' world world' result _ helement hcompletions hboot
      ih =>
    have hsound : Tallied.Tracked first.generator (service.records.map Record.nonce) gateway
        world := by
      rw [Tallied.Tracked, Gateway.Has, helement, hcompletions]
      exact ih.sound
    have hended := (bootOver_lasting (Tallied.lasting_sound _ _) hsound config medium).ends result
      gateway' world' hboot
    cases result with
    | error error => exact ⟨hended, ih.reported⟩
    | ok journal => exact ⟨hended.1, ih.reported⟩
  | @change service before after journal journal' change world world' result _ _ hrun ih =>
    let connected := journal.connected service.element service.completions
    have hfollows : change.Follows connected world result journal'.gateway := by
      have hended := (change.perform_follows connected world).ends result journal' world' hrun
      cases result with
      | error error => exact hended
      | ok answer => exact hended
    obtain ⟨hsound, hadded⟩ := fresh_change ih.sound hfollows
    constructor
    · rw [List.map_append]
      exact hsound
    · rw [List.filterMap_append]
      refine ih.reported.append ?_
      cases hresult : added? result with
      | none => simp [hresult]
      | some record => simpa [hresult] using hadded
  | inject fault _ ih =>
    exact ⟨⟨ih.sound.proper, ih.sound.queued, ih.sound.gives, ih.sound.nonces⟩, ih.reported⟩
  | work limit files _ ih =>
    refine ⟨?_, ih.reported⟩
    rw [Completion.length_settleAll]
    exact Tallied.sound_await ih.sound limit files

/-- Journals are booted with an idle element and change their logs in any order, faults are
injected at any time, and the worker gets on when it will. Then the generator has given its draws
one after the other and nothing else, whatever became of what was drawn. The nonces of all records,
those included that could not be stored, and all keys that were made are draws of their own; the
records that were reported are among these. As long as the draws differ, so do nonces and keys. -/
theorem nonces_distinct {first : SoftElement} (hidle : first.queue = []) {service : Service μ}
    (h : Reachable first service) :
    first.generator.Gives service.element.draws service.element.element.generator ∧
      (service.records.map Record.nonce ++ service.element.keys).Subperm service.element.draws ∧
      (service.results.filterMap added?).Sublist service.records ∧
      ((∀ index < service.element.draws.length, ∀ before < index,
          first.generator.draw before ≠ first.generator.draw index) →
        (service.records.map Record.nonce ++ service.element.keys).Nodup) := by
  obtain ⟨hsound, hreported⟩ := fresh_of_reachable hidle h
  have hdraws : (service.records.map Record.nonce ++ service.element.keys).Subperm
      service.element.draws :=
    (hsound.nonces.append_right _).subperm.trans service.element.randoms_append_keys
  refine ⟨hsound.gives, hdraws, hreported, fun hdistinct => ?_⟩
  obtain ⟨some, hperm, hsome⟩ := hdraws
  refine hperm.nodup_iff.mp (hsome.nodup ?_)
  rw [hsound.gives.inOrder]
  refine List.Nodup.map_on ?_ List.nodup_range
  intro index hindex other hother heq
  rw [List.mem_range] at hindex hother
  by_contra hne
  rcases Nat.lt_or_gt_of_ne hne with hlt | hgt
  · exact hdistinct other hother index hlt heq
  · exact hdistinct index hindex other hgt heq.symm

/-- A log with records of one block. -/
def singleBlock : Config where
  plaintextMaxLen := 16
  recordSize := 32

/-- A boot makes a key, an append loses a byte of its nonce, and the next append is stored: three
draws, a key and one record. -/
theorem nonces_distinct_after_short_nonce :
    ∃ service : Service Memory,
      Reachable { generator := .stepping 1 1 } service ∧
      service.results.length = 2 ∧ service.records.length = 1 ∧
      service.element.keys.length = 1 ∧ service.element.draws.length = 3 ∧
      (service.records.map Record.nonce ++ service.element.keys).Nodup := by
  let first : SoftElement := { generator := .stepping 1 1 }
  let gateway : Gateway Tallied := { element := ⟨first, []⟩, timeout := none }
  -- Everything is evaluated up to what the store writes.
  have heval : ((bootOver singleBlock (⟨none⟩ : Memory)).run gateway {}).toOption.any (fun booted =>
      booted.1.1.toOption.any fun journal =>
        let faulty : Tallied := { booted.1.2.element with
          element := booted.1.2.element.element.injectFault .shortOutput }
        ((Change.perform (.appendMessage [5])).run
            (journal.connected faulty booted.1.2.completions) {}).toOption.any fun failed =>
          failed.1.1.toOption.isNone ∧
            ((Change.appendMessage [5]).sealed
              (journal.connected faulty booted.1.2.completions) {}) = [] ∧
            ((failed.1.2.sealer.encryptMessage [6]).run failed.1.2.gateway {}).toOption.any
              fun sealed => sealed.1.1.toOption.any fun record =>
                record.toBytes.length = failed.1.2.store.recordLen ∧
                  sealed.1.2.element.keys.length = 1 ∧
                  sealed.1.2.element.draws.length = 3) = true := by
    decide +kernel
  simp only [any_toOption, Prod.exists, decide_eq_true_eq] at heval
  obtain ⟨_, gateway', world, hboot, journal, rfl, result, failed, world', hfailed, hnone, hlost,
    _, sealed, around, hsealed, record, rfl, hlen, hkeys, hdraws⟩ := heval
  have hadded : (Change.perform (.appendMessage [6])).run
      (failed.connected failed.gateway.element failed.gateway.completions) {}
      = .ok ((.ok (.added record), (failed.withGateway sealed).withRecord record), around) :=
    Attempt.bind_of_ok (appendMessage_of_ok hsealed hlen)
  have hmade : (Change.appendMessage [6]).sealed
      (failed.connected failed.gateway.element failed.gateway.completions) {} = [record] :=
    Change.sealed_of_ok rfl hsealed
  have hbooted : Reachable first _ := .boot .start rfl rfl hboot
  have hreached : Reachable first _ :=
    .change (.change (.inject .shortOutput hbooted) (List.nil_append [journal]).symm hfailed)
      (List.nil_append [failed]).symm hadded
  have hdistinct : ∀ index < 3, ∀ before < index,
      first.generator.draw before ≠ first.generator.draw index := by decide +kernel
  refine ⟨_, hreached, rfl, ?_, hkeys, hdraws, ?_⟩
  · exact congrArg List.length (congrArg₂ (· ++ ·) hlost hmade)
  · refine (nonces_distinct rfl hreached).2.2.2 fun index hindex => ?_
    exact hdistinct index (Nat.lt_of_lt_of_eq hindex hdraws)

end Service

end SealedLog.Journal
