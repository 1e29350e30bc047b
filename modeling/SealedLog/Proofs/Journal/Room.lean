import SealedLog.Proofs.Journal.Secrecy
import SealedLog.Proofs.Status

/-!
# Room for status entries

A status message grows with its numbers, and a block does not. Blocks of sixty-four bytes and more
take every status message, whenever it is made. A configuration with smaller blocks is accepted as
well: blocks of sixteen bytes take no status message at all, and the two lengths in between take
those with numbers that are short enough.

- `Journal.appendStatus_of_long`, `Journal.appendStatus_of_short`: when a status entry is too long.
- `Journal.Configured`: the journals of a configuration, from the boot on.
- `Journal.status_room`: which configurations have room for which status entries.
-/

namespace SealedLog.Journal

variable {ε μ : Type} [Element ε] [Medium μ] {journal : Journal ε μ} {world : World}

/-! ## One entry -/

/-- The journal when the number of a status entry was taken. -/
def numbered (journal : Journal ε μ) : Journal ε μ :=
  { journal with sequence := ⟨journal.sequence.current + 1⟩ }

/-- The message of the status entry that is to be added next. -/
def nextMessage (journal : Journal ε μ) (world : World) : StatusMessage :=
  statusMessage (journal.sequence.current + 1) journal.started world.now

/-- The attempt failed because the message was too long. -/
def TooLong {α : Type} (result : Except LogError α) : Prop :=
  ∃ length limit, result = .error (.cipher (.plaintextTooLong length limit))

/-- A status entry that is too long is not sealed, and nothing becomes of it but that its number is
used up. -/
theorem appendStatus_of_long
    (h : journal.sealer.blockLen < (journal.nextMessage world).encode.length) :
    appendStatus.run journal world
      = .ok ((.error (.cipher (.plaintextTooLong (journal.nextMessage world).encode.length
          journal.sealer.blockLen)), journal.numbered), world) := by
  have hrefused : appendStatus.Ensures journal world (fun _ => False)
      (fun error last around => error = .cipher (.plaintextTooLong
        (journal.nextMessage world).encode.length journal.sealer.blockLen) ∧
          last = journal.numbered ∧ around = world) fun _ _ _ => False := by
    refine appendStatus_ensures (appendNumbered_of_message (appendMessage_stores
      (Sealer.encryptMessage_ensures (fun _ => ⟨rfl, rfl, rfl⟩) (fun hfits _ => ?_)
        fun hfits _ => ?_)))
    · exact absurd h (Nat.not_lt.mpr hfits)
    · exact absurd h (Nat.not_lt.mpr hfits)
  obtain ⟨result, last, around, hrun, hlast⟩ := hrefused.exists_of_total
  cases result with
  | error error =>
    obtain ⟨rfl, rfl, rfl⟩ := hlast
    exact hrun
  | ok report => exact hlast.elim

/-- Whatever happens to one that is not, it does not fail for that. -/
theorem appendStatus_of_short
    (h : (journal.nextMessage world).encode.length ≤ journal.sealer.blockLen)
    {result : Except LogError AppendReport} {last : Journal ε μ} {around : World}
    (hrun : appendStatus.run journal world = .ok ((result, last), around)) : ¬TooLong result := by
  have hends : appendStatus.Ensures journal world (fun _ => True)
      (fun error _ _ => ¬TooLong (.error error : Except LogError AppendReport))
      fun report _ _ => ¬TooLong (.ok report) := by
    refine appendStatus_ensures (appendNumbered_of_message (appendMessage_stores
      (Sealer.encryptMessage_ensures (fun hlong => ?_) (fun _ _ => trivial) fun _ _ => ?_)))
    · exact absurd hlong (Nat.not_lt.mpr h)
    · refine Attempt.Ensures.anyhow.mono (fun _ _ _ _ => nofun) fun nonce _ _ _ => ?_
      refine ⟨fun _ => nofun, fun _ => ?_⟩
      refine Attempt.Ensures.anyhow.mono (fun _ _ _ _ => nofun) fun ciphertext _ _ _ => ?_
      refine ⟨fun _ => nofun, fun _ => ?_⟩
      exact Attempt.Ensures.orElseAs (Attempt.Ensures.anyhow.mono (fun _ _ _ _ => nofun)
        fun _ _ _ _ _ => nofun)
  cases result with
  | error error => exact hends.ends _ _ _ hrun
  | ok report => exact hends.ends _ _ _ hrun

/-! ## The journals of a configuration -/

/-- The journals that a configuration leads to: one that was booted, what it becomes by calls, at
any time, and by what happens to its connection and its medium in between. -/
inductive Configured (config : Config) : Journal ε μ → Prop
  | booted {medium : μ} {gateway gateway' : Gateway ε} {journal : Journal ε μ}
      {before booted : World} :
      (bootOver config medium).run gateway before = .ok ((.ok journal, gateway'), booted) →
      Configured config journal
  | called {journal last : Journal ε μ} {call : Call} {world around : World}
      {result : Except LogError Response} :
      Configured config journal →
      call.answer.run journal world = .ok ((result, last), around) → Configured config last
  | elsewhere {journal : Journal ε μ} (gateway : Gateway ε) (medium : μ) :
      Configured config journal →
      Configured config
        { journal.withGateway gateway with store := { journal.store with medium } }

omit [Medium μ] in
/-- A journal that was booted by its configuration alone is one of them. -/
theorem configured_of_boot {config : Config} {gateway gateway' : Gateway ε}
    {journal : Journal ε Mounted} {before booted : World}
    (h : (boot config).run gateway before = .ok ((.ok journal, gateway'), booted)) :
    Configured config journal := by
  have hbooted : (boot config).Ensures gateway before (fun _ => True) (fun _ _ _ => True)
      fun journal _ _ => Configured config journal := by
    unfold Attempt.Ensures
    rw [boot]
    cases config.validate with
    | error error => exact Act.Ensures.of_eq rfl trivial
    | ok _ =>
      have hmount : Act.Ensures (liftM config.storage.mount) gateway before (fun _ => True)
          fun _ _ _ => True := ⟨fun _ _ => trivial, fun _ _ _ _ => trivial⟩
      refine hmount.bind fun result _ _ _ => ?_
      cases result with
      | error error => exact Act.Ensures.of_eq rfl trivial
      | ok medium =>
        refine ⟨fun _ _ => trivial, fun result _ _ hrun => ?_⟩
        cases result with
        | error error => trivial
        | ok journal => exact .booted hrun
  exact hbooted.ends _ _ _ h

/-- However an attempt ends, messages are sealed as before. -/
def KeepsSealer {error α : Type} (attempt : Attempt (Journal ε μ) error α) : Prop :=
  ∀ (journal : Journal ε μ) (world : World), attempt.Ensures journal world (fun _ => True)
    (fun _ last _ => last.sealer = journal.sealer) fun _ last _ => last.sealer = journal.sealer

omit [Element ε] [Medium μ] in
theorem onStore_keepsSealer {α : Type} (attempt : Attempt (Store μ) StoreError α) :
    KeepsSealer (onStore attempt : Attempt (Journal ε μ) LogError α) := fun _ _ =>
  Attempt.Ensures.orElseAs (Attempt.Ensures.within
    (Attempt.Ensures.anyhow.mono (fun _ _ _ _ => rfl) fun _ _ _ _ => rfl))

theorem appendMessage_keepsSealer (plaintext : Bytes) :
    KeepsSealer (appendMessage plaintext : Attempt (Journal ε μ) LogError Record) := fun _ _ =>
  appendMessage_stores (Attempt.Ensures.anyhow.mono (fun _ _ _ _ => rfl)
    fun record _ _ _ => onStore_keepsSealer (Store.append record) _ _)

theorem appendStatus_keepsSealer :
    KeepsSealer (appendStatus : Attempt (Journal ε μ) LogError AppendReport) := by
  intro journal world
  refine appendStatus_ensures (appendNumbered_of_message ?_)
  exact (appendMessage_keepsSealer _ journal.numbered world).mono (fun _ _ _ h => h)
    fun _ _ _ h _ => h

/-- A call changes nothing of how messages are sealed. -/
theorem Call.answer_keepsSealer (call : Call) :
    KeepsSealer (call.answer : Attempt (Journal ε μ) LogError Response) := by
  intro journal world
  cases call with
  | appendStatus =>
    exact (appendStatus_keepsSealer journal world).bind fun _ _ _ h => Attempt.Ensures.pure h
  | appendMessage plaintext =>
    exact (appendMessage_keepsSealer plaintext journal world).bind
      fun _ _ _ h => Attempt.Ensures.pure h
  | clear =>
    exact (onStore_keepsSealer Store.clear journal world).bind
      fun _ _ _ h => Attempt.Ensures.pure h
  | dump limit =>
    refine (onStore_keepsSealer Store.dump journal world).bind fun dump middle between h => ?_
    refine Attempt.Ensures.bind (Attempt.Ensures.lift (Act.Ensures.within
      ⟨fun _ _ => trivial, fun _ _ _ _ => h⟩)) fun _ _ _ h => Attempt.Ensures.pure h
  | records =>
    exact (onStore_keepsSealer Store.records journal world).bind
      fun _ _ _ h => Attempt.Ensures.pure h
  | recordCount =>
    exact (onStore_keepsSealer Store.recordCount journal world).bind
      fun _ _ _ h => Attempt.Ensures.pure h

/-- All of them seal blocks of the length that is configured. -/
theorem Configured.blockLen {config : Config} (h : Configured config journal) :
    journal.sealer.blockLen = config.blockLen := by
  induction h with
  | booted hboot => rw [((bootOver_booted config _ _ _).ends _ _ _ hboot).1]
  | @called journal last call world around result _ hrun ih =>
    have hkept := (call.answer_keepsSealer journal world).ends _ _ _ hrun
    have hsealer : last.sealer = journal.sealer := by
      cases result with
      | error error => exact hkept
      | ok response => exact hkept
    rw [hsealer, ih]
  | elsewhere _ _ _ ih => exact ih

/-! ## Configurations -/

/-- A status message with the largest numbers. -/
def longest : StatusMessage := ⟨4294967295, 18446744073709551615⟩

theorem length_encode_longest : longest.encode.length = 51 := by
  have hseq : ¬(Decimal.digits longest.seq.toNat).length ≤ 9 := by
    rw [Decimal.length_digits_le_iff (by decide)]
    decide
  have huptime : ¬(Decimal.digits longest.uptimeMs.toNat).length ≤ 19 := by
    rw [Decimal.length_digits_le_iff (by decide)]
    decide
  have hle := longest.length_encode_le
  rw [StatusMessage.length_encode] at hle ⊢
  omega

/-- A configuration that is accepted has room for all status messages exactly if its blocks are of
sixty-four bytes or more, and for none if they are of sixteen. Whenever a journal of it is asked for
a status entry that is longer than a block, it answers that the message is too long, and nothing
becomes of it but that its number is used up. A journal that is asked for another one does not
answer so. -/
theorem status_room (config : Config) (hvalid : config.validate = .ok ()) :
    ((∀ message : StatusMessage, message.encode.length ≤ config.blockLen) ↔
      64 ≤ config.blockLen) ∧
    (config.blockLen = 16 →
      ∀ message : StatusMessage, config.blockLen < message.encode.length) ∧
    ∀ {ε μ : Type} [Element ε] [Medium μ] (journal : Journal ε μ) (world : World),
      Configured config journal →
      (config.blockLen < (journal.nextMessage world).encode.length →
        appendStatus.run journal world
          = .ok ((.error (.cipher (.plaintextTooLong (journal.nextMessage world).encode.length
              config.blockLen)), journal.numbered), world)) ∧
      ((journal.nextMessage world).encode.length ≤ config.blockLen →
        ∀ result last around, appendStatus.run journal world = .ok ((result, last), around) →
          ¬TooLong result) := by
  obtain ⟨-, hblocks⟩ := Config.blocks_of_validate hvalid
  rw [Config.cipherBlock] at hblocks
  refine ⟨⟨fun hall => ?_, fun hlen message => ?_⟩, fun hlen message => ?_, ?_⟩
  · -- Below sixty-four there are three lengths, and the longest message fits none of them.
    have hlongest := hall longest
    rw [length_encode_longest] at hlongest
    omega
  · exact message.length_encode_le.trans (by omega)
  · have := message.le_length_encode
    omega
  · intro ε μ _ _ journal world hconfigured
    rw [← hconfigured.blockLen]
    exact ⟨appendStatus_of_long, fun hshort _ _ _ => appendStatus_of_short hshort⟩

/-- A configuration with blocks of so many bytes. -/
def ofBlocks (plaintextMaxLen : UInt64) : Config where
  plaintextMaxLen := plaintextMaxLen
  recordSize := nonceLen.toUInt64 + plaintextMaxLen

/-- The first status entry fits into blocks of thirty-two bytes, but others do not. -/
theorem status_room_of_thirty_two :
    (ofBlocks 32).validate = .ok () ∧
    (¬∀ message : StatusMessage, message.encode.length ≤ 32) ∧
    ∃ (journal last : Journal ScriptedElement Memory) (booted around : World)
      (result : Except LogError AppendReport), Configured (ofBlocks 32) journal ∧
      appendStatus.run journal booted = .ok ((result, last), around) ∧ ¬TooLong result := by
  have hvalid : (ofBlocks 32).validate = .ok () := by decide
  obtain ⟨hall, -, hentries⟩ := status_room (ofBlocks 32) hvalid
  have heval : ((bootOver (ofBlocks 32) (⟨none⟩ : Memory)).run stumbling {}).toOption.any
      (fun booted => booted.1.1.toOption.any fun journal =>
        (appendStatus.run journal booted.2).toOption.any fun _ =>
          (journal.nextMessage booted.2).encode.length ≤ 32) = true := by
    decide +kernel
  simp only [any_toOption, Prod.exists, decide_eq_true_eq] at heval
  obtain ⟨_, _, booted, hboot, journal, rfl, result, last, around, hrun, hshort⟩ := heval
  exact ⟨hvalid, fun hfits => absurd (hall.mp hfits) (by decide), journal, last, booted, around,
    result, .booted hboot, hrun,
    (hentries journal booted (.booted hboot)).2 hshort result last around hrun⟩

/-- So a configuration can be accepted that has no room for a status entry. -/
theorem not_room_of_sixteen :
    ¬∀ (config : Config) (journal last : Journal ScriptedElement Memory) (world around : World)
      (result : Except LogError AppendReport),
      config.validate = .ok () → Configured config journal →
      appendStatus.run journal world = .ok ((result, last), around) → ¬TooLong result := by
  intro hroom
  have heval : ((bootOver (ofBlocks 16) (⟨none⟩ : Memory)).run stumbling {}).toOption.any
      (fun booted => booted.1.1.toOption.isSome) = true := by
    decide +kernel
  simp only [any_toOption, Prod.exists] at heval
  obtain ⟨result, _, booted, hboot, hsome⟩ := heval
  cases result with
  | error error => cases hsome
  | ok journal =>
    have hconfigured : Configured (ofBlocks 16) journal := .booted hboot
    have hlong : journal.sealer.blockLen < (journal.nextMessage booted).encode.length := by
      rw [hconfigured.blockLen]
      exact Nat.lt_of_lt_of_le (by decide) (journal.nextMessage booted).le_length_encode
    exact hroom _ _ _ _ _ _ (by decide) hconfigured (appendStatus_of_long hlong) ⟨_, _, rfl⟩

end SealedLog.Journal
