import SealedLog.Proofs.Deciphering
import SealedLog.Proofs.Gateway.Fate
import SealedLog.Proofs.Journal.Boot
import SealedLog.Proofs.SoftElement.Sealing

/-!
# Records that can be opened

Who has the key of the slot can read every record back, by what is in the record alone. This needs
no quiet element: whatever faults, delays and earlier commands there are, what is not sealed under
the key becomes no record.

- `Record.Opens`: the message comes out of the record, with the zeros it was filled up with.
- `SoftElement.HoldsKey`: a slot has a key and keeps it.
- `SoftElement.submitAndWait_yields`: what comes of a command comes from the slots with that key.
- `Journal.opens_of_appendMessage`: every record that is added opens.
-/

namespace SealedLog

/-- Deciphered under the key, with the nonce for the initial block, the record is the message with
zeros up to the block length. -/
def Record.Opens (key : Bytes) (blockLen : Nat) (message : Bytes) (record : Record) : Prop :=
  Cbc.decrypt (Aes.decryptBlock key) record.nonce record.ciphertext
    = message ++ List.replicate (blockLen - message.length) 0

namespace SoftElement

variable {id : ObjectId} {key : Bytes} {command : Command}

/-! ## Keys that stay -/

/-- The command makes no key for the slot. -/
def Spares (id : ObjectId) (command : Command) : Prop :=
  ∀ algorithm usage, command ≠ .generateSymmetricKey id algorithm usage

/-- A slot keeps its key when another one is committed, or one with the same key. -/
theorem commit_key? (element : SoftElement) {slot : ObjectId} {entry : SlotEntry}
    (h : slot = id → entry.key = element.slots.key? id) (files : Files) :
    (element.commit slot entry files).element.slots.key? id = element.slots.key? id := by
  have hinsert : (element.slots.insert slot entry).key? id = element.slots.key? id := by
    rw [Slots.key?_insert]
    split
    · next hslot => exact h hslot.symm
    · rfl
  rw [commit]
  split
  · exact hinsert
  · split
    · exact hinsert
    · rfl

theorem execute_key? (h : Spares id command) (element : SoftElement) (files : Files) :
    (element.execute command files).element.slots.key? id = element.slots.key? id := by
  cases command with
  | generateRandom len => rfl
  | readMetadata slot => rfl
  | writeMetadata slot metadata =>
    refine commit_key? element ?_ files
    rintro rfl
    show ((element.slots.get? slot).getD {}).key = _
    rw [Slots.key?]
    cases element.slots.get? slot <;> rfl
  | generateSymmetricKey slot algorithm usage =>
    rw [execute]
    split
    · rfl
    · split
      · rfl
      · refine commit_key? { element with generator := _ } ?_ files
        rintro rfl
        exact absurd rfl (h algorithm usage)
  | encrypt slot mode plaintext iv =>
    cases mode
    rw [execute]
    split
    · rfl
    · split
      · rfl
      · split <;> rfl

/-! ## What comes of commands -/

/-- The output comes of the command at slots with the key, whole or without its last byte. -/
def Yields (id : ObjectId) (key : Bytes) (command : Command) (output : Output) : Prop :=
  ∃ (element : SoftElement) (files : Files) (executed : Output),
    element.slots.key? id = some key ∧
    (element.execute command files).outcome = .ok executed ∧
    (output = executed ∨ output = shortened executed)

/-- The resolution is that of one of the jobs; if it brings something, it is what comes of it. -/
def Resolves (id : ObjectId) (key : Bytes) (jobs : List Job) (resolution : Resolution) : Prop :=
  ∃ job ∈ jobs, resolution.ticket = job.ticket ∧
    ∀ output, resolution.outcome = .ok output → Yields id key job.command output

/-- A job leaves the key in its slot, and what it brings comes of it. -/
theorem perform_yields (element : SoftElement) {job : Job} (hjob : Spares id job.command)
    (hkey : element.slots.key? id = some key) (files : Files) :
    (element.perform job files).element.slots.key? id = some key ∧
      ∀ resolution ∈ (element.perform job files).timely, Resolves id key [job] resolution := by
  have hkept := (execute_key? hjob element files).trans hkey
  have hexecuted : ∀ change : Output → Output,
      (∀ output, change output = output ∨ change output = shortened output) →
      Resolves id key [job]
        ⟨job.ticket, (element.execute job.command files).outcome.map change⟩ := by
    intro change hchange
    refine ⟨job, List.mem_singleton_self job, rfl, ?_⟩
    intro output houtput
    cases houtcome : (element.execute job.command files).outcome with
    | error code =>
      rw [houtcome] at houtput
      cases houtput
    | ok executed =>
      rw [houtcome] at houtput
      obtain rfl := Except.ok.inj houtput
      exact ⟨element, files, executed, hkey, houtcome, hchange executed⟩
  rw [perform]
  split
  · exact ⟨hkey, fun _ hmem => absurd hmem List.not_mem_nil⟩
  · refine ⟨hkey, ?_⟩
    intro resolution hmem
    rw [List.mem_singleton.mp hmem]
    refine ⟨job, List.mem_singleton_self job, rfl, ?_⟩
    intro output houtput
    cases houtput
  · refine ⟨hkept, ?_⟩
    intro resolution hmem
    rw [List.mem_singleton.mp hmem]
    exact hexecuted shortened fun _ => .inr rfl
  · refine ⟨hkept, ?_⟩
    intro resolution hmem
    rw [List.mem_singleton.mp hmem]
    exact hexecuted _ fun _ => .inl rfl

theorem Resolves.of_subset {jobs jobs' : List Job} {resolution : Resolution}
    (h : Resolves id key jobs resolution) (hsub : jobs ⊆ jobs') :
    Resolves id key jobs' resolution := by
  obtain ⟨job, hjob, hrest⟩ := h
  exact ⟨job, hsub hjob, hrest⟩

/-- So do any number of jobs, by induction on them. -/
theorem workOff_yields {jobs : List Job} (limit : Option Span) (element : SoftElement)
    (hjobs : ∀ job ∈ jobs, Spares id job.command) (hkey : element.slots.key? id = some key)
    (files : Files) :
    (workOff limit jobs element files).element.slots.key? id = some key ∧
      ∀ resolution ∈ (workOff limit jobs element files).timely,
        Resolves id key jobs resolution := by
  induction jobs generalizing limit element files with
  | nil => exact ⟨hkey, fun _ hmem => absurd hmem List.not_mem_nil⟩
  | cons job later ih =>
    obtain ⟨hkept, hfirst⟩ :=
      perform_yields { element with spent := ⟨0⟩ } (hjobs job List.mem_cons_self) hkey files
    rw [workOff]
    split
    · obtain ⟨hlast, hlater⟩ :=
        ih (limit.map (· - (element.duration job - element.spent))) _
          (fun other hother => hjobs other (List.mem_cons_of_mem job hother)) hkept _
      refine ⟨hlast, ?_⟩
      intro resolution hmem
      rcases List.mem_append.mp hmem with hmem | hmem
      · exact (hfirst resolution hmem).of_subset (by simp)
      · exact (hlater resolution hmem).of_subset (List.subset_cons_self job later)
    · exact ⟨hkey, fun _ hmem => absurd hmem List.not_mem_nil⟩

/-! ## Behind a gateway -/

variable {gateway gateway' : Gateway SoftElement} {world : World}

/-- The slot has the key, and no command that is still to be executed makes another one for it. -/
structure HoldsKey (gateway : Gateway SoftElement) (id : ObjectId) (key : Bytes) : Prop where
  key : gateway.element.slots.key? id = some key
  queued : ∀ job ∈ gateway.element.queue, job.ticket < gateway.completions.length
  spares : ∀ job ∈ gateway.element.queue, Spares id job.command

/-- A submission leaves the slots alone. At most the command itself is new in the queue, and what is
resolved is the command given up. -/
theorem react_spares (ticket : Ticket) (command : Command) (element : SoftElement) :
    (element.react ticket command).element.slots = element.slots ∧
      (∀ job ∈ (element.react ticket command).element.queue,
        job ∈ element.queue ∨ job.ticket = ticket ∧ job.command = command) ∧
      ∀ resolution ∈ (element.react ticket command).resolved, resolution = .drop ticket := by
  have hqueue : ∀ job ∈ (element.react ticket command).element.queue,
      job ∈ element.queue ∨ job.ticket = ticket ∧ job.command = command :=
    fun _ => mem_queue_react
  rcases react_cases ticket command element with ⟨code, faults, hreact⟩ | hreact <;>
    rw [hreact] at hqueue ⊢
  · exact ⟨rfl, hqueue, fun _ hmem => List.mem_singleton.mp hmem⟩
  · exact ⟨rfl, hqueue, fun _ hmem => absurd hmem List.not_mem_nil⟩

/-- The slot still has the key when a command was sent, and what is queued makes no other. -/
theorem HoldsKey.sent (h : HoldsKey gateway id key) (hcommand : Spares id command) :
    HoldsKey (gateway.sent command) id key := by
  obtain ⟨hslots, hqueue, -⟩ := react_spares gateway.completions.length command gateway.element
  refine ⟨(congrArg (·.key? id) hslots).trans h.key, ?_, ?_⟩
  · intro job hjob
    rw [Gateway.length_sent]
    rcases hqueue job hjob with hold | ⟨hticket, -⟩
    · exact Nat.lt_succ_of_lt (h.queued job hold)
    · exact hticket ▸ Nat.lt_succ_self _
  · intro job hjob
    rcases hqueue job hjob with hold | ⟨-, hnew⟩
    · exact h.spares job hold
    · exact hnew ▸ hcommand

/-- While a command is waited for, the key stays, and whatever brings something comes of a job. -/
theorem HoldsKey.activity (h : HoldsKey gateway id key) (ticket : Ticket) (files : Files) :
    (gateway.activity ticket files).element.slots.key? id = some key ∧
      (∀ job ∈ (gateway.activity ticket files).element.queue, job ∈ gateway.element.queue) ∧
      ∀ resolution ∈ (gateway.activity ticket files).timely,
        Resolves id key gateway.element.queue resolution := by
  rw [Gateway.activity]
  split
  · obtain ⟨hkey, hresolves⟩ := workOff_yields gateway.timeout { gateway.element with queue := [] }
      h.spares h.key files
    refine ⟨hkey, ?_, hresolves⟩
    intro job hjob
    rcases mem_queue_workOff hjob with hold | hnone
    · exact hold
    · cases hnone
  · exact ⟨h.key, fun _ hjob => hjob, fun _ hmem => absurd hmem List.not_mem_nil⟩

/-- A command that brings something brings what comes of it at slots with the key, and the key
stays. -/
theorem submitAndWait_yields (h : HoldsKey gateway id key) (hcommand : Spares id command) :
    (Gateway.submitAndWait command).Ensures gateway world (fun _ => True) (fun _ _ _ => True)
      fun output gateway' _ => Yields id key command output ∧ HoldsKey gateway' id key := by
  refine Gateway.submitAndWait_ensures (fun _ _ _ _ _ => trivial) ?_ (fun _ _ _ _ _ => trivial)
    (fun _ _ _ _ _ _ => trivial) fun _ _ => trivial
  intro output world' houtput _ _
  have hsent := h.sent hcommand
  obtain ⟨hkey, hqueue, hresolves⟩ := hsent.activity gateway.completions.length world.files
  obtain ⟨-, hnew, hresolved⟩ := react_spares gateway.completions.length command gateway.element
  constructor
  · obtain ⟨hfound, -⟩ := Gateway.answered_first gateway command world.files
    rw [houtput] at hfound
    rcases List.mem_append.mp (Completion.mem_of_first hfound.symm) with hgiven | htimely
    · cases hresolved _ hgiven
    · -- Only the job of the command itself has its ticket.
      obtain ⟨job, hjob, hticket, hyields⟩ := hresolves _ htimely
      rcases hnew job hjob with hold | ⟨-, hcommand⟩
      · exact absurd hticket.symm (Nat.ne_of_lt (h.queued job hold))
      · exact hcommand ▸ hyields output rfl
  · refine ⟨hkey, ?_, fun job hjob => hsent.spares job (hqueue job hjob)⟩
    intro job hjob
    rw [Gateway.length_answered, ← Gateway.length_sent gateway command]
    exact hsent.queued job (hqueue job hjob)

theorem generateRandom_yields (h : HoldsKey gateway id key) (len : Nat) :
    (Gateway.generateRandom len).Ensures gateway world (fun _ => True) (fun _ _ _ => True)
      fun _ gateway' _ => HoldsKey gateway' id key := by
  have hspares : Spares id (.generateRandom len) := fun _ _ => Command.noConfusion
  refine Gateway.generateRandom_ensures ((submitAndWait_yields h hspares).mono
    (fun _ _ _ _ => trivial) ?_)
  exact fun _ _ _ hyields => ⟨fun _ _ => hyields.2, fun _ => trivial⟩

/-- A ciphertext as long as the plaintext is the plaintext under the key. -/
theorem encrypt_yields {slot : KeySlot} (h : HoldsKey gateway slot.id key) {plaintext iv : Bytes}
    (hne : plaintext ≠ []) :
    (Gateway.encrypt slot .cbc plaintext iv).Ensures gateway world (fun _ => True)
      (fun _ _ _ => True) fun ciphertext _ _ => ciphertext.length = plaintext.length →
        Cbc.encryptAes key iv plaintext = some ciphertext := by
  have hspares : Spares slot.id (.encrypt slot.id .cbc plaintext iv) :=
    fun _ _ => Command.noConfusion
  refine Gateway.encrypt_ensures ((submitAndWait_yields h hspares).mono
    (fun _ _ _ _ => trivial) ?_)
  rintro _ gateway' world' ⟨⟨element, files, executed, hholds, houtcome, houtput⟩, -⟩
  refine ⟨?_, fun _ => trivial⟩
  rintro ciphertext rfl hlen
  rw [execute] at houtcome
  simp only [hholds, if_neg hne] at houtcome
  cases hsealed : Cbc.encryptAes key iv plaintext with
  | none =>
    rw [hsealed] at houtcome
    cases houtcome
  | some whole =>
    rw [hsealed] at houtcome
    obtain rfl := Except.ok.inj houtcome
    rcases houtput with hwhole | hcut
    · exact congrArg some (Output.ciphertext.inj hwhole).symm
    · -- What lost its last byte is shorter than the plaintext.
      obtain ⟨hlength, -⟩ := Cbc.decrypt_of_encryptAes hsealed
      have hcut : ciphertext = whole.dropLast := Output.ciphertext.inj hcut
      have hpos := List.length_pos_iff.mpr hne
      rw [hcut, List.length_dropLast, hlength] at hlen
      omega

end SoftElement

/-! ## Records -/

variable {key : Bytes}

open SoftElement in
/-- Every message that is sealed can be read back. -/
theorem Sealer.encryptMessage_opens {sealer : Sealer} {gateway : Gateway SoftElement}
    {world : World} (h : HoldsKey gateway sealer.slot.id key) (hpos : 0 < sealer.blockLen)
    (message : Bytes) :
    (sealer.encryptMessage message).Ensures gateway world (fun _ => True) (fun _ _ _ => True)
      fun record _ _ => record.Opens key sealer.blockLen message := by
  refine encryptMessage_ensures (fun _ => trivial) (fun _ _ => trivial) fun hfits _ => ?_
  refine (generateRandom_yields h nonceLen).mono (fun _ _ _ _ => trivial) ?_
  intro nonce gateway world hholds
  refine ⟨fun _ => trivial, fun hnonce => ?_⟩
  have hblock := length_block hfits
  have hne : sealer.block message ≠ [] := by
    intro hempty
    rw [hempty] at hblock
    exact absurd hpos (hblock ▸ Nat.lt_irrefl 0)
  refine (encrypt_yields hholds hne).mono (fun _ _ _ _ => trivial) ?_
  intro ciphertext gateway world hsealed
  refine ⟨fun _ => trivial, fun hlen => ?_⟩
  exact (Cbc.decrypt_of_encryptAes (hsealed (hlen.trans hblock.symm))).2

namespace Journal

variable {μ : Type} [Medium μ]

/-- What is added was sealed, whatever becomes of it on the medium. -/
theorem appendMessage_opens {journal : Journal SoftElement μ} {world : World}
    (h : SoftElement.HoldsKey journal.gateway journal.sealer.slot.id key)
    (hpos : 0 < journal.sealer.blockLen) (plaintext : Bytes) :
    (appendMessage plaintext).Ensures journal world (fun _ => True) (fun _ _ _ => True)
      fun record _ _ => record.Opens key journal.sealer.blockLen plaintext := by
  have hsealed : ((onGateway (journal.sealer.encryptMessage plaintext)).orElseAs
      LogError.cipher).Ensures journal world (fun _ => True) (fun _ _ _ => True)
      fun record _ _ => record.Opens key journal.sealer.blockLen plaintext :=
    Attempt.Ensures.orElseAs (Attempt.Ensures.within (Attempt.Ensures.within
      (Sealer.encryptMessage_opens h hpos plaintext)))
  refine Attempt.Ensures.step rfl ?_
  refine hsealed.bind fun record journal world hopens => ?_
  exact Attempt.Ensures.anyhow.bind fun _ _ _ _ => Attempt.Ensures.pure hopens

/-- Under a valid configuration every record that is added can be read back with the key of the
slot: it is the message, filled up with zeros. No fault, delay, earlier command or medium changes
that. Without any of these in the way, the message is added if its block can be made. -/
theorem opens_of_appendMessage (config : Config) (hvalid : config.validate = .ok ())
    (key plaintext : Bytes) (hkey : key.length = Aes.blockLen)
    (hshort : plaintext.length ≤ config.blockLen) :
    (∀ (μ : Type) [Medium μ] (journal journal' : Journal SoftElement μ) (world world' : World)
      (record : Record), journal.sealer = ⟨config.slot, config.blockLen⟩ →
      SoftElement.HoldsKey journal.gateway config.keySlot key →
      (appendMessage plaintext).run journal world = .ok ((.ok record, journal'), world') →
      record.Opens key config.blockLen plaintext) ∧
    ∀ (journal : Journal SoftElement Memory) (world : World),
      config.blockLen ≤ Sealer.capacityMax →
      journal.sealer = ⟨config.slot, config.blockLen⟩ →
      journal.store.recordLen = config.recordLen →
      SoftElement.HoldsKey journal.gateway config.keySlot key →
      SoftElement.Idle journal.gateway →
      ∃ record journal' world',
        (appendMessage plaintext).run journal world = .ok ((.ok record, journal'), world') := by
  constructor
  · intro μ _ journal journal' world world' record hsealer hholds hrun
    have hopens : (appendMessage plaintext).Ensures journal world (fun _ => True)
        (fun _ _ _ => True) fun record _ _ =>
          record.Opens key journal.sealer.blockLen plaintext := by
      refine appendMessage_opens ?_ ?_ plaintext
      · rw [hsealer]
        exact hholds
      · rw [hsealer]
        exact (Config.blocks_of_validate hvalid).1
    have hends := hopens.ends (.ok record) journal' world' hrun
    rw [hsealer] at hends
    exact hends
  · intro journal world hroom hsealer hrecordLen hholds hidle
    have hserves : SoftElement.Serves journal.gateway config.keySlot :=
      ⟨hidle, key, hholds.key, hkey⟩
    exact (Serving.of_validate hvalid hroom hsealer hrecordLen hserves).appends hshort world

/-- A key that is known outside the element. -/
def knownKey : Bytes :=
  [0x2b, 0x7e, 0x15, 0x16, 0x28, 0xae, 0xd2, 0xa6, 0xab, 0xf7, 0x15, 0x88, 0x09, 0xcf, 0x4f, 0x3c]

/-- A journal in memory at an element with a known key. -/
def known : Journal SoftElement Memory where
  custody :=
    { gateway :=
        { element := SoftElement.withKey
            { generator := .stepping 0x0706050403020100 0x0808080808080808 } defaultKeySlot knownKey
          timeout := some (.ofMillis 5000) }
      slot := { id := defaultKeySlot } }
  provisioning := .reused
  sealer := { slot := { id := defaultKeySlot } }
  store := { medium := {} }
  started := 0

/-- A message of a few bytes is added, and can be read back from its record. -/
theorem opens_of_known_key : ∃ record journal' world',
    (appendMessage [0x61, 0x62, 0x63]).run known {} = .ok ((.ok record, journal'), world') ∧
      record.Opens knownKey 64 [0x61, 0x62, 0x63] := by
  have hholds : SoftElement.HoldsKey known.gateway defaultKeySlot knownKey :=
    ⟨rfl, fun _ hmem => absurd hmem List.not_mem_nil, fun _ hmem => absurd hmem List.not_mem_nil⟩
  obtain ⟨hopens, hadds⟩ :=
    opens_of_appendMessage {} rfl knownKey [0x61, 0x62, 0x63] rfl (by decide)
  obtain ⟨record, journal', world', hrun⟩ :=
    hadds known {} (by decide) rfl rfl hholds ⟨rfl, rfl, by decide⟩
  exact ⟨record, journal', world', hrun,
    hopens Memory known journal' {} world' record rfl hholds hrun⟩

end Journal

end SealedLog
