import SealedLog.Proofs.Cbc
import SealedLog.Proofs.Journal.Boot
import SealedLog.Proofs.Journal.Calls
import SealedLog.Proofs.SoftElement.Service

/-!
# Sealing by a software element

An element with a key in the slot seals every message that is not too long, as long as no fault is
prepared and there is time enough.

- `Serves`: a gateway to such an element; every command that sealing needs leaves it so.
- `Sealer.encryptMessage_serves`: a message becomes a record unless it is too long.
- `Journal.Serving`: a journal at such a gateway stays so, whatever is asked of it, and adds every
  message that is short enough.
-/

namespace SealedLog

namespace SoftElement

variable {gateway gateway' : Gateway SoftElement} {world : World} {Halts : Halt → Prop}
  {Bad : CommandError → Gateway SoftElement → World → Prop} {id : ObjectId}

/-- Commands are executed at once, and the slot has a key of the right length. -/
structure Serves (gateway : Gateway SoftElement) (id : ObjectId) : Prop extends Idle gateway where
  key : ∃ key, gateway.element.slots.key? id = some key ∧ key.length = Aes.blockLen

/-- A command that leaves the slots alone leaves the service as it is. -/
theorem Serves.after {command : Command} {files : Files} (h : Serves gateway id)
    (hslots : (served gateway command files).element.slots = gateway.element.slots)
    (hafter : After gateway command files gateway') : Serves gateway' id := by
  obtain ⟨key, hkey, hlen⟩ := h.key
  refine ⟨hafter.idle (h.undisturbed files), key, ?_, hlen⟩
  rw [hafter.slots, hslots]
  exact hkey

/-- What an idle element serves, it serves from its slots as they are. -/
theorem served_of_idle (h : Idle gateway) (command : Command) (files : Files) :
    ∃ files', served gateway command files
      = ({ gateway.element with spent := ⟨0⟩ } : SoftElement).execute command files' := by
  rw [served, settled_of_idle h.queue]
  exact ⟨_, rfl⟩

/-- Random bytes are as many as are asked for. -/
theorem generateRandom_serves (h : Serves gateway id) {len : Nat} (hmin : randomMin ≤ len)
    (hmax : len ≤ randomMax) :
    (Gateway.generateRandom len).Ensures gateway world Halts Bad
      fun bytes gateway' _ => bytes.length = len ∧ Serves gateway' id := by
  obtain ⟨files', hserved⟩ := served_of_idle h.toIdle (.generateRandom len) world.files
  have hcheck : checkParameters (.generateRandom len) = .ok () := by
    rw [checkParameters, if_pos ⟨hmin, hmax⟩]
  have houtput : (served gateway (.generateRandom len) world.files).outcome
      = .ok (.random (gateway.element.generator.fill len).1) := by
    rw [hserved]
    rfl
  refine Gateway.generateRandom_ensures (submitAndWait_of_ok (h.undisturbed _) hcheck houtput ?_)
  intro gateway' world' hafter
  refine ⟨?_, fun hother => absurd rfl (hother _)⟩
  rintro _ ⟨⟩
  refine ⟨length_fill _ len, h.after ?_ hafter⟩
  rw [hserved]
  rfl

/-- A block is enciphered under the key in the slot. -/
theorem encrypt_serves {slot : KeySlot} (h : Serves gateway slot.id) {plaintext iv : Bytes}
    (hne : plaintext ≠ []) (hwhole : plaintext.length % Aes.blockLen = 0)
    (hiv : iv.length = Aes.blockLen) :
    (Gateway.encrypt slot .cbc plaintext iv).Ensures gateway world Halts Bad
      fun bytes gateway' _ => bytes.length = plaintext.length ∧ Serves gateway' slot.id := by
  obtain ⟨files', hserved⟩ :=
    served_of_idle h.toIdle (.encrypt slot.id .cbc plaintext iv) world.files
  obtain ⟨key, hkey, hkeyLen⟩ := h.key
  obtain ⟨ciphertext, hciphertext, hlen⟩ := Cbc.exists_encryptAes hkeyLen hiv hwhole
  have hexecuted : served gateway (.encrypt slot.id .cbc plaintext iv) world.files
      = ⟨.ok (.ciphertext ciphertext), { gateway.element with spent := ⟨0⟩ }, files', []⟩ := by
    rw [hserved, execute]
    simp only [hkey, if_neg hne, hciphertext]
  refine Gateway.encrypt_ensures (submitAndWait_of_ok (h.undisturbed _) rfl
    (congrArg Execution.outcome hexecuted) ?_)
  intro gateway' world' hafter
  refine ⟨?_, fun hother => absurd rfl (hother _)⟩
  rintro _ ⟨⟩
  refine ⟨hlen, h.after ?_ hafter⟩
  rw [hexecuted]

end SoftElement

open SoftElement in
/-- A message becomes a record of its block, unless it is too long, where blocks can be made. -/
theorem Sealer.encryptMessage_serves {sealer : Sealer} {gateway : Gateway SoftElement}
    {world : World} {Halts : Halt → Prop} (h : Serves gateway sealer.slot.id)
    (hpos : 0 < sealer.blockLen) (hroom : sealer.blockLen ≤ capacityMax)
    (hwhole : sealer.blockLen % Aes.blockLen = 0) (message : Bytes) :
    (sealer.encryptMessage message).Ensures gateway world Halts
      (fun _ gateway' _ => sealer.blockLen < message.length ∧ Serves gateway' sealer.slot.id)
      fun record gateway' _ =>
        record.ciphertext.length = sealer.blockLen ∧ Serves gateway' sealer.slot.id := by
  refine encryptMessage_ensures (fun hlong => ⟨hlong, h⟩)
    (fun _ hhuge => absurd hroom (Nat.not_le_of_lt hhuge)) fun hfits _ => ?_
  have hmin : SoftElement.randomMin ≤ nonceLen := by decide
  have hmax : nonceLen ≤ SoftElement.randomMax := by decide
  refine (generateRandom_serves h hmin hmax).mono (fun _ _ _ hbad => hbad) ?_
  rintro nonce gateway world ⟨hnonce, hserves⟩
  refine ⟨fun hne => absurd hnonce hne, fun _ => ?_⟩
  have hblock := length_block hfits
  have hne : sealer.block message ≠ [] := by
    intro hempty
    rw [hempty] at hblock
    exact absurd hpos (hblock ▸ Nat.lt_irrefl 0)
  refine (encrypt_serves hserves hne (hblock ▸ hwhole) hnonce).mono (fun _ _ _ hbad => hbad) ?_
  rintro ciphertext gateway world ⟨hlen, hserves⟩
  have hlen := hlen.trans hblock
  exact ⟨fun hne => absurd hlen hne, fun _ => ⟨hlen, hserves⟩⟩

namespace Journal

variable {journal first last : Journal SoftElement Memory} {sealer : Sealer} {world : World}
  {Halts : Halt → Prop}

/-- The journal seals at a gateway that serves it, in records that its store takes. -/
structure Serving (journal : Journal SoftElement Memory) (sealer : Sealer) : Prop where
  seals : journal.sealer = sealer
  serves : SoftElement.Serves journal.gateway sealer.slot.id
  blockLen : 0 < sealer.blockLen
  room : sealer.blockLen ≤ Sealer.capacityMax
  whole : sealer.blockLen % Aes.blockLen = 0
  recordLen : journal.store.recordLen = sealer.recordLen

/-- So it is after a boot with an accepted configuration, if blocks can be made. -/
theorem Serving.of_validate {config : Config} (hvalid : config.validate = .ok ())
    (hroom : config.blockLen ≤ Sealer.capacityMax)
    (hsealer : journal.sealer = ⟨config.slot, config.blockLen⟩)
    (hrecordLen : journal.store.recordLen = config.recordLen)
    (hserves : SoftElement.Serves journal.gateway config.keySlot) :
    Serving journal ⟨config.slot, config.blockLen⟩ := by
  obtain ⟨hpos, hwhole⟩ := Config.blocks_of_validate hvalid
  have hsize := Config.recordLen_of_room hvalid hroom
  exact ⟨hsealer, hserves, hpos, hroom, hwhole, hrecordLen.trans hsize⟩

theorem Serving.recordLen_pos (h : Serving journal sealer) : 0 < journal.store.recordLen := by
  rw [h.recordLen, Sealer.recordLen, nonceLen]
  omega

/-- A message is added unless it is too long. -/
theorem Serving.appendMessage_ensures (h : Serving journal sealer) (plaintext : Bytes) :
    (appendMessage plaintext).Ensures journal world Halts
      (fun _ journal' _ => sealer.blockLen < plaintext.length ∧ Serving journal' sealer)
      fun _ journal' _ => Serving journal' sealer := by
  obtain ⟨rfl, hserves, hpos, hroom, hwhole, hrecordLen⟩ := h
  refine Journal.appendMessage_ensures
    ((Sealer.encryptMessage_serves hserves hpos hroom hwhole plaintext).mono ?_ ?_)
  · rintro error gateway _ ⟨hlong, hafter⟩
    exact ⟨hlong, rfl, hafter, hpos, hroom, hwhole, hrecordLen⟩
  · rintro record gateway _ ⟨hlen, hafter⟩
    refine ⟨?_, rfl, hafter, hpos, hroom, hwhole, hrecordLen⟩
    rw [Record.length_toBytes, Record.encodedLen, hlen, hrecordLen, Sealer.recordLen]

/-- So every message is added that is short enough. -/
theorem Serving.appends (h : Serving journal sealer) {plaintext : Bytes}
    (hshort : plaintext.length ≤ sealer.blockLen) (world : World) :
    ∃ record journal' world',
      (appendMessage plaintext).run journal world = .ok ((.ok record, journal'), world') := by
  have happend : (appendMessage plaintext).Ensures journal world (fun _ => False)
      (fun _ _ _ => False) fun _ _ _ => True :=
    (h.appendMessage_ensures plaintext).mono
      (fun _ _ _ hbad => absurd hbad.1 (Nat.not_lt.mpr hshort)) fun _ _ _ _ => trivial
  obtain ⟨result, journal', world', hrun, hends⟩ := happend.exists_of_total
  cases result with
  | error error => exact hends.elim
  | ok record => exact ⟨record, journal', world', hrun⟩

/-- Whatever is asked of such a journal, it answers and stays as it is. -/
theorem Serving.perform_ensures (h : Serving journal sealer) (call : Call) :
    call.perform.Ensures journal world Halts (fun _ journal' _ => Serving journal' sealer)
      fun _ journal' _ => Serving journal' sealer := by
  have hadd : ∀ (journal : Journal SoftElement Memory) (plaintext : Bytes) (world : World),
      Serving journal sealer → (appendMessage plaintext).Ensures journal world Halts
        (fun _ journal' _ => Serving journal' sealer) fun _ journal' _ => Serving journal' sealer :=
    fun journal plaintext world h =>
      (h.appendMessage_ensures plaintext).mono (fun _ _ _ hbad => hbad.2) fun _ _ _ hgood => hgood
  cases call with
  | appendStatus =>
    have hnext : Serving { journal with sequence := ⟨journal.sequence.current + 1⟩ } sealer :=
      ⟨h.seals, h.serves, h.blockLen, h.room, h.whole, h.recordLen⟩
    refine Attempt.Ensures.bind (appendStatus_ensures (appendNumbered_ensures fun plaintext => ?_))
      fun _ _ _ hafter => Attempt.Ensures.pure hafter
    refine (hadd _ plaintext world hnext).mono (fun _ _ _ hbad => hbad) ?_
    exact fun _ _ _ hadded _ _ _ => hadded
  | appendMessage plaintext =>
    exact (hadd journal plaintext world h).bind fun _ _ _ hafter => Attempt.Ensures.pure hafter
  | clear =>
    obtain ⟨world', hclear⟩ := Store.clear_eq journal.store world
    refine Attempt.Ensures.step (onStore_eq hclear) ?_
    exact Attempt.Ensures.pure ⟨h.seals, h.serves, h.blockLen, h.room, h.whole, h.recordLen⟩
  | dump limit =>
    obtain ⟨dump, hdump⟩ := Store.dump_eq journal.store world
    refine Attempt.Ensures.step (onStore_eq hdump) ?_
    obtain ⟨pieces, hpieces⟩ := Store.dumpItems_eq journal.store limit dump world
    refine Attempt.Ensures.step (Attempt.lift_of_ok (Act.within_of_ok hpieces)) ?_
    exact Attempt.Ensures.pure h
  | records =>
    have hrecords := onStore_eq (Store.records_eq h.recordLen_pos world)
    refine Attempt.Ensures.bind (Attempt.Ensures.of_eq hrecords ?_) fun _ _ _ hafter =>
      Attempt.Ensures.pure hafter
    cases Store.split journal.store.location journal.store.recordLen journal.store.medium.bytes with
    | error error => exact h
    | ok records => exact h
  | recordCount =>
    refine Attempt.Ensures.step (onStore_eq (Store.recordCount_eq h.recordLen_pos world)) ?_
    exact Attempt.Ensures.pure h

/-- A journal keeps sealing throughout any calls, as long as no one else uses its gateway. -/
theorem serving_of_run {calls : List (Call × Except LogError Response)}
    (h : Serving first sealer) (hrun : Run (fun _ _ => False) first calls last) :
    Serving last sealer := by
  induction hrun with
  | refl => exact h
  | @call calls middle last call world world' result _ hcall ih =>
    have hperform : call.perform.Ensures middle world (fun _ => True)
        (fun _ journal' _ => Serving journal' sealer) fun _ journal' _ => Serving journal' sealer :=
      ih.perform_ensures call
    have hends := hperform.ends result last world' hcall
    cases result with
    | error error => exact hends
    | ok response => exact hends
  | between _ hbetween _ => exact hbetween.elim

end Journal

end SealedLog
