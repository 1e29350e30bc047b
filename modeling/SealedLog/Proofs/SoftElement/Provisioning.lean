import SealedLog.Proofs.SoftElement.Reached
import SealedLog.Proofs.SoftElement.Sealing

/-!
# Keys after a boot

Metadata in a slot is taken for a sign that a key is there. It need not be: the key is made by a
command of its own, and that one can fail when the metadata was written already.

- `Settles`, `Holding`: the slots of an element, with and without commands before the next one.
- `Custody.ensureKeyReady_settles`: what becomes of the slot that a key is wanted in.
- `key_of_boot`: when there is a key after a boot. Then every message is sealed that is not too
  long.
-/

namespace SealedLog

namespace SoftElement

variable {gateway gateway' : Gateway SoftElement} {files : Files} {world : World}
  {slots : Slots} {Halts : Halt → Prop} {Bad : CommandError → Gateway SoftElement → World → Prop}

/-! ## Keys -/

/-- Every key has the right length. -/
def KeysFit (slots : Slots) : Prop :=
  ∀ id key, slots.key? id = some key → key.length = Aes.blockLen

theorem commit_of_no_file {element : SoftElement} (h : element.stateFile = none) (id : ObjectId)
    (entry : SlotEntry) (files : Files) :
    element.commit id entry files
      = ⟨.ok .done, { element with slots := element.slots.insert id entry }, files, []⟩ := by
  rw [commit, h]

/-- Without a state file, commands keep the keys fitting. -/
theorem keysFit_commit :
    KeptByCommit fun slots stateFile _ => stateFile = none ∧ KeysFit slots := by
  intro element id entry files hentry h
  rw [commit_of_no_file h.1]
  refine ⟨h.1, ?_⟩
  intro other key hkey
  rw [Slots.key?_insert] at hkey
  split at hkey
  · rcases hentry with hsame | ⟨new, hnew, hlen⟩
    · exact h.2 id key (hsame ▸ hkey)
    · rw [hnew] at hkey
      exact Option.some.inj hkey ▸ hlen
  · exact h.2 other key hkey

/-! ## Slots behind a gateway -/

/-- When all is done that was queued, the element has the slots, and there is time for a command. -/
structure Settles (gateway : Gateway SoftElement) (files : Files) (slots : Slots) : Prop
    extends Undisturbed gateway files where
  stateFile : (gateway.element.settled files).stateFile = none
  holds : (gateway.element.settled files).slots = slots
  keysFit : KeysFit slots

/-- The element has the slots, and commands are executed at once. -/
structure Holding (gateway : Gateway SoftElement) (slots : Slots) : Prop extends Idle gateway where
  stateFile : gateway.element.stateFile = none
  holds : gateway.element.slots = slots
  keysFit : KeysFit slots

theorem Holding.settles (h : Holding gateway slots) (files : Files) :
    Settles gateway files slots := by
  have hsettled := settled_of_idle h.queue files
  refine ⟨h.undisturbed files, ?_, ?_, h.keysFit⟩
  · rw [hsettled]
    exact h.stateFile
  · rw [hsettled]
    exact h.holds

/-- An element with a key in the slot serves it. -/
theorem Holding.serves (h : Holding gateway slots) {id : ObjectId} (hkey : slots.hasKey id = true) :
    Serves gateway id := by
  obtain ⟨key, hkey⟩ := Option.isSome_iff_exists.mp hkey
  exact ⟨h.toIdle, key, h.holds ▸ hkey, h.keysFit id key hkey⟩

/-- After a command the element has the slots that the command leaves. -/
theorem After.holding {command : Command} (hafter : After gateway command files gateway')
    (h : Settles gateway files slots) :
    Holding gateway' (served gateway command files).element.slots := by
  have hkept : (served gateway command files).element.stateFile = none ∧
      KeysFit (served gateway command files).element.slots :=
    execute_keeps keysFit_commit (gateway.element.settled files) command
      ⟨h.stateFile, h.holds ▸ h.keysFit⟩
  refine ⟨hafter.idle h.toUndisturbed, ?_, hafter.slots, hkept.2⟩
  rw [hafter.element]
  exact hkept.1

/-- A command that ends in `output` and leaves the slots as given. -/
theorem submitAndWait_settles {command : Command} {output : Output} {slots' : Slots}
    (h : Settles gateway world.files slots) (hcheck : checkParameters command = .ok ())
    (houtput : (served gateway command world.files).outcome = .ok output)
    (hslots : (served gateway command world.files).element.slots = slots') :
    (Gateway.submitAndWait command).Ensures gateway world Halts Bad
      fun found gateway' _ => found = output ∧ Holding gateway' slots' :=
  submitAndWait_of_ok h.toUndisturbed hcheck houtput fun _ _ hafter =>
    ⟨rfl, hslots ▸ hafter.holding h⟩

theorem readMetadata_settles (h : Settles gateway world.files slots) (id : ObjectId) :
    (Gateway.readMetadata id).Ensures gateway world Halts Bad
      fun bytes gateway' _ => bytes = slots.metadata id ∧ Holding gateway' slots := by
  have houtput : (served gateway (.readMetadata id) world.files).outcome
      = .ok (.metadata (slots.metadata id)) := by
    rw [← h.holds]
    rfl
  refine Gateway.readMetadata_ensures
    ((submitAndWait_settles h rfl houtput h.holds).mono (fun _ _ _ hbad => hbad) ?_)
  rintro _ gateway' world' ⟨rfl, hholding⟩
  refine ⟨?_, fun hother => absurd rfl (hother _)⟩
  rintro _ ⟨⟩
  exact ⟨rfl, hholding⟩

theorem writeMetadata_settles (slots : Slots) (h : Settles gateway world.files slots)
    (id : ObjectId) {metadata : Bytes}
    (hcheck : checkParameters (.writeMetadata id metadata) = .ok ()) :
    (Gateway.writeMetadata id metadata).Ensures gateway world Halts Bad
      fun _ gateway' _ => Holding gateway'
        (slots.insert id { (slots.get? id).getD {} with metadata }) := by
  have hserved : ∃ element' files', served gateway (.writeMetadata id metadata) world.files
      = ⟨.ok .done, element', files', []⟩ ∧
        element'.slots = slots.insert id { (slots.get? id).getD {} with metadata } := by
    rw [served, execute, commit_of_no_file h.stateFile, ← h.holds]
    exact ⟨_, _, rfl, rfl⟩
  obtain ⟨element', files', hserved, hslots⟩ := hserved
  refine Gateway.writeMetadata_ensures (Attempt.Ensures.mono (submitAndWait_settles h hcheck
    (congrArg Execution.outcome hserved) ((congrArg (·.element.slots) hserved).trans hslots))
    (fun _ _ _ hbad => hbad) ?_)
  exact fun _ _ _ hsettled => hsettled.2

/-- A key is made in a slot that has metadata. -/
theorem generateSymmetricKey_settles (h : Settles gateway world.files slots) {slot : KeySlot}
    {entry : SlotEntry} (hentry : slots.get? slot.id = some entry) (hne : entry.metadata ≠ []) :
    (Gateway.generateSymmetricKey slot).Ensures gateway world Halts Bad fun _ gateway' _ =>
      ∃ key, Holding gateway' (slots.insert slot.id { entry with key := some key }) := by
  have hserved : ∃ element' files' key,
      served gateway (.generateSymmetricKey slot.id slot.algorithm slot.usage) world.files
        = ⟨.ok .done, element', files', []⟩ ∧
          element'.slots = slots.insert slot.id { entry with key := some key } := by
    rw [served, execute, h.holds, hentry]
    simp only [if_neg hne]
    refine ⟨_, _, _, commit_of_no_file ?_ _ _ _, rfl⟩
    exact h.stateFile
  obtain ⟨element', files', key, hserved, hslots⟩ := hserved
  refine Gateway.generateSymmetricKey_ensures (Attempt.Ensures.mono (submitAndWait_settles h rfl
    (congrArg Execution.outcome hserved) ((congrArg (·.element.slots) hserved).trans hslots))
    (fun _ _ _ hbad => hbad) ?_)
  exact fun _ _ _ hsettled => ⟨key, hsettled.2⟩

end SoftElement

/-! ## Custody -/

namespace Custody

open SoftElement

variable {custody : Custody SoftElement} {world : World} {slots : Slots} {Halts : Halt → Prop}
  {Bad : KeyError → Custody SoftElement → World → Prop}

/-- The slot is written and gets a key. -/
theorem provision_settles (h : Settles custody.gateway world.files slots) :
    provision.Ensures custody world Halts Bad fun _ custody' _ =>
      ∃ slots', Holding custody'.gateway slots' ∧ slots'.hasKey custody.slot.id = true := by
  have hentry := Slots.get?_insert_self slots custody.slot.id
    { (slots.get? custody.slot.id).getD {} with metadata := KeySlot.descriptor }
  have hne : KeySlot.descriptor ≠ [] := List.cons_ne_nil _ _
  refine provision_ensures fun _ => ?_
  refine Attempt.Ensures.mono (writeMetadata_settles slots ?_ _ rfl) (fun _ _ _ hbad => hbad) ?_
  · exact h
  intro _ gateway written hwritten _
  refine Attempt.Ensures.mono (generateSymmetricKey_settles (hwritten.settles _) hentry hne)
    (fun _ _ _ hbad => hbad) ?_
  rintro _ gateway made ⟨key, hkeyed⟩ _
  refine ⟨_, hkeyed, ?_⟩
  rw [Slots.hasKey, Slots.key?_insert, if_pos rfl]
  rfl

/-- The slot is looked at, and left as it is. -/
theorem slotHasMetadata_settles (h : Settles custody.gateway world.files slots) :
    Act.Ensures slotHasMetadata custody world Halts fun found custody' _ =>
      (found = true ↔ slots.metadata custody.slot.id ≠ []) ∧
        Holding custody'.gateway slots ∧ custody'.slot = custody.slot := by
  refine slotHasMetadata_ensures ((readMetadata_settles h _).mono (fun _ _ _ hbad => hbad) ?_)
  rintro _ gateway read ⟨rfl, hholding⟩ _
  refine ⟨?_, hholding, rfl⟩
  rw [Bool.not_eq_true', List.isEmpty_eq_false_iff]

/-- The key that is there is used if there is metadata, also if there is no key. Otherwise one is
made. -/
theorem ensureKeyReady_settles (h : Settles custody.gateway world.files slots) (force : Bool) :
    (ensureKeyReady force).Ensures custody world Halts Bad fun _ custody' _ =>
      ∃ slots', Holding custody'.gateway slots' ∧ (slots'.hasKey custody.slot.id = true ↔
        force = true ∨ slots.metadata custody.slot.id = [] ∨ slots.hasKey custody.slot.id = true)
    := by
  refine ensureKeyReady_ensures (fun hforce _ => ?_) fun hforce => ?_
  · refine Attempt.Ensures.mono (provision_settles h) (fun _ _ _ hbad => hbad) ?_
    rintro _ custody' _ ⟨slots', hholding, hkey⟩
    exact ⟨slots', hholding, iff_of_true hkey (.inl hforce)⟩
  · refine (slotHasMetadata_settles h).mono ?_
    rintro found looked asked ⟨hfound, hholding, hslot⟩ _
    constructor
    · intro hyes
      refine ⟨slots, hholding, ?_⟩
      rw [hforce, or_iff_right Bool.false_ne_true, or_iff_right (hfound.mp hyes)]
    · intro hno
      have hempty : slots.metadata custody.slot.id = [] := by
        by_contra hne
        rw [hfound.mpr hne] at hno
        cases hno
      refine Attempt.Ensures.mono (provision_settles (hholding.settles _))
        (fun _ _ _ hbad => hbad) ?_
      rintro _ custody' _ ⟨slots', hholding', hkey⟩
      exact ⟨slots', hholding', iff_of_true (hslot ▸ hkey) (.inr (.inl hempty))⟩

end Custody

/-! ## Boots -/

namespace SoftElement

variable {outside : Files → Files → Prop} {gateway : Gateway SoftElement} {world : World}

/-- What a boot meets at an element that was made without a state file. -/
theorem settles_of_reached {generator : Generator} {latency handover : Span} {files : Files}
    {config : Config}
    (hreached : Reached outside ⟨{ generator, latency, handover }, files, 0⟩ gateway world)
    (hfaults : gateway.element.faults = [])
    (htime : ((gateway.element.await none world.files).elapsed
      + gateway.element.pace).isWithin config.element.completionTimeout = true) :
    Settles (Journal.rewired config gateway) world.files
      (gateway.element.settled world.files).slots := by
  have hkept : gateway.element.stateFile = none ∧ KeysFit gateway.element.slots := by
    refine run_keeps keysFit_commit (fun _ h => h) hreached ⟨rfl, ?_⟩
    intro id key hkey
    cases hkey
  have hworked : (gateway.element.settled world.files).stateFile = none ∧
      KeysFit (gateway.element.settled world.files).slots :=
    workOff_keeps keysFit_commit gateway.element.queue none { gateway.element with queue := [] }
      hkept
  have hqueued := queued_of_run hreached fun _ hmem => absurd hmem List.not_mem_nil
  exact ⟨⟨hfaults, hqueued, htime⟩, hworked.1, rfl, hworked.2⟩

/-- A boot without faults and in time succeeds. There is a key in the slot afterwards if a new one
was asked for, if the slot had no metadata, or if it had a key already; metadata alone does not make
one. With a key every message is added that is not too long, if blocks can be made. -/
theorem key_of_boot (generator : Generator) (latency handover : Span) (files : Files)
    (config : Config) (medium : Memory) (gateway : Gateway SoftElement) (world : World)
    (hreached : Reached outside ⟨{ generator, latency, handover }, files, 0⟩ gateway world)
    (hfaults : gateway.element.faults = [])
    (htime : ((gateway.element.await none world.files).elapsed
      + gateway.element.pace).isWithin config.element.completionTimeout = true)
    (hvalid : config.validate = .ok ()) :
    ∃ journal gateway' world', (Journal.bootOver config medium).run gateway world
        = .ok ((.ok journal, gateway'), world') ∧
      (gateway'.element.slots.hasKey config.keySlot = true ↔
        config.forceRegenerate = true ∨
        (gateway.element.settled world.files).slots.metadata config.keySlot = [] ∨
        (gateway.element.settled world.files).slots.hasKey config.keySlot = true) ∧
      (gateway'.element.slots.hasKey config.keySlot = true →
        config.blockLen ≤ Sealer.capacityMax →
        ∀ calls last, Journal.Run (fun _ _ => False) journal calls last →
        ∀ (plaintext : Bytes) world, plaintext.length ≤ config.blockLen →
        ∃ record last' world', (Journal.appendMessage plaintext).run last world
          = .ok ((.ok record, last'), world')) := by
  have hboot : (Journal.bootOver config medium).Ensures gateway world (fun _ => False)
      (fun _ _ _ => False) fun journal gateway' _ =>
        journal.gateway = gateway' ∧ journal.sealer = ⟨config.slot, config.blockLen⟩ ∧
        journal.store.recordLen = config.recordLen ∧ ∃ slots, Holding gateway' slots ∧
          (slots.hasKey config.keySlot = true ↔
            config.forceRegenerate = true ∨
            (gateway.element.settled world.files).slots.metadata config.keySlot = [] ∨
            (gateway.element.settled world.files).slots.hasKey config.keySlot = true) := by
    refine Journal.bootOver_ensures (fun error herror => ?_) fun _ => ?_
    · rw [hvalid] at herror
      cases herror
    · refine (Custody.ensureKeyReady_settles (settles_of_reached hreached hfaults htime)
        config.forceRegenerate).mono (fun _ _ _ hbad => hbad) ?_
      exact fun _ custody' world' hready _ => ⟨rfl, rfl, rfl, hready⟩
  obtain ⟨result, gateway', world', heq, hgood⟩ := hboot.exists_of_total
  cases result with
  | error error => exact hgood.elim
  | ok journal =>
    obtain ⟨rfl, hsealer, hrecordLen, slots, hholding, hkey⟩ := hgood
    rw [← hholding.holds] at hkey
    refine ⟨journal, _, world', heq, hkey, ?_⟩
    intro hhas hroom calls last hrun plaintext around hshort
    -- From here on only the journal uses the gateway.
    have hserving := Journal.Serving.of_validate hvalid hroom hsealer hrecordLen
      (hholding.serves (hholding.holds ▸ hhas))
    exact (Journal.serving_of_run hserving hrun).appends hshort around

/-- A gateway to a new element that loses the end of two answers and then fails to make a key. -/
def interrupting : Gateway SoftElement where
  element :=
    { generator := .stepping 0 1
      faults := [.shortOutput, .shortOutput, .failCompletion .deviceError] }
  timeout := none

/-- A boot is interrupted between its two commands. The next one takes the metadata for a key. -/
theorem boot_of_interrupted :
    ∃ gateway world journal gateway' world',
      Reached (fun _ _ => False) ⟨{ generator := .stepping 0 1 }, {}, 0⟩ gateway world ∧
      gateway.element.faults = [] ∧
      ((gateway.element.await none world.files).elapsed
        + gateway.element.pace).isWithin (some (.ofMillis 5000)) = true ∧
      (Journal.bootOver {} (⟨some []⟩ : Memory)).run gateway world
        = .ok ((.ok journal, gateway'), world') ∧
      gateway'.element.slots.hasKey defaultKeySlot = false := by
  have heval : ((Journal.bootOver {} (⟨some []⟩ : Memory)).run interrupting {}).toOption.any
      (fun first => first.1.2.element.faults = [] ∧
        ((first.1.2.element.await none first.2.files).elapsed
          + first.1.2.element.pace).isWithin (some (.ofMillis 5000)) = true ∧
        ((Journal.bootOver {} (⟨some []⟩ : Memory)).run first.1.2 first.2).toOption.any
          fun second => second.1.1.toOption.any fun _ =>
            second.1.2.element.slots.hasKey defaultKeySlot = false) = true := by
    decide +kernel
  -- The first boot fails at the key; the second one finds the metadata and is content.
  simp only [any_toOption, Prod.exists, decide_eq_true_eq] at heval
  obtain ⟨result, gateway, world, hfirst, hfaults, htime, booted, gateway', world', hsecond,
    journal, rfl, hkey⟩ := heval
  have hinjected : Reached (fun _ _ => False) ⟨{ generator := .stepping 0 1 }, {}, 0⟩
      interrupting {} :=
    .tail (.tail (.tail .refl (.inject .shortOutput)) (.inject .shortOutput))
      (.inject (.failCompletion .deviceError))
  have hreached : Reached (fun _ _ => False) ⟨{ generator := .stepping 0 1 }, {}, 0⟩
      gateway world := by
    have hends := (bootOver_reached hinjected {} (⟨some []⟩ : Memory)).ends result gateway world
      hfirst
    cases result <;> exact hends
  exact ⟨gateway, world, journal, gateway', world', hreached, hfaults, htime, hsecond, hkey⟩

/-- After an interrupted boot a new key is made when it is asked for, and a message is added. -/
theorem key_of_forced_boot :
    ∃ gateway world journal gateway' world',
      Reached (fun _ _ => False) ⟨{ generator := .stepping 0 1 }, {}, 0⟩ gateway world ∧
      (Journal.bootOver { forceRegenerate := true } (⟨some []⟩ : Memory)).run gateway world
        = .ok ((.ok journal, gateway'), world') ∧
      gateway'.element.slots.hasKey defaultKeySlot = true ∧
      ∃ record last world'', (Journal.appendMessage [1, 2, 3]).run journal world'
        = .ok ((.ok record, last), world'') := by
  obtain ⟨gateway, world, -, -, -, hreached, hfaults, htime, -⟩ := boot_of_interrupted
  obtain ⟨journal, gateway', world', hboot, hkey, hadd⟩ := key_of_boot (.stepping 0 1) ⟨0⟩ ⟨0⟩ {}
    { forceRegenerate := true } ⟨some []⟩ gateway world hreached hfaults htime rfl
  have hhas := hkey.mpr (.inl rfl)
  exact ⟨gateway, world, journal, gateway', world', hreached, hboot, hhas,
    hadd hhas (by decide) [] journal .refl [1, 2, 3] world' (by decide)⟩

/-- Metadata is no sign of a key: a boot without faults and in time can leave its slot without
one. -/
theorem not_key_of_boot :
    ¬ ∀ (config : Config) (gateway : Gateway SoftElement) (world : World),
      Reached (fun _ _ => False) ⟨{ generator := .stepping 0 1 }, {}, 0⟩ gateway world →
      gateway.element.faults = [] →
      ((gateway.element.await none world.files).elapsed
        + gateway.element.pace).isWithin config.element.completionTimeout = true →
      config.validate = .ok () →
      ∀ journal gateway' world', (Journal.bootOver config (⟨some []⟩ : Memory)).run gateway world
          = .ok ((.ok journal, gateway'), world') →
        gateway'.element.slots.hasKey config.keySlot = true := by
  intro hkeyed
  obtain ⟨gateway, world, journal, gateway', world', hreached, hfaults, htime, hboot, hkey⟩ :=
    boot_of_interrupted
  have hhas := hkeyed {} gateway world hreached hfaults htime rfl journal gateway' world' hboot
  rw [show gateway'.element.slots.hasKey ({} : Config).keySlot = false from hkey] at hhas
  cases hhas

end SoftElement

end SealedLog
