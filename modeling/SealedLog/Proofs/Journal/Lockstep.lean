import SealedLog.Journal
import SealedLog.Proofs.Journal.Calls
import SealedLog.Proofs.Store.Lockstep

/-!
# Journals side by side

What two journals do side by side, from what is done with their stores and their connections.

- `Journal.onGateway_lockstep`, `Journal.onStore_lockstep`: a pair on parts of two journals.
- `Journal.appendMessage_lockstep`: sealing keeps step, and then storing.
- `Journal.appendStatus_lockstep`: status entries are messages; their numbers are the same.
-/

namespace SealedLog.Journal

variable {ε ε' μ α error : Type} {journal : Journal ε μ} {journal' : Journal ε' μ}
  {world world' : World} {Related : Journal ε μ → World → Journal ε' μ → World → Prop}

theorem onGateway_lockstep {attempt : Attempt (Gateway ε) error α}
    {attempt' : Attempt (Gateway ε') error α}
    (h : attempt.Lockstep attempt' journal.gateway world journal'.gateway world'
      fun gateway world gateway' world' =>
        Related (journal.withGateway gateway) world (journal'.withGateway gateway') world') :
    (onGateway attempt : Attempt (Journal ε μ) error α).Lockstep (onGateway attempt') journal world
      journal' world' Related :=
  Attempt.Lockstep.within (Attempt.Lockstep.within h)

theorem onStore_lockstep {attempt attempt' : Attempt (Store μ) StoreError α}
    (h : attempt.Lockstep attempt' journal.store world journal'.store world'
      fun store world store' world' =>
        Related { journal with store } world { journal' with store := store' } world') :
    (onStore attempt : Attempt (Journal ε μ) LogError α).Lockstep (onStore attempt') journal world
      journal' world' Related :=
  Attempt.Lockstep.orElseAs (Attempt.Lockstep.within h)

variable [Element ε] [Element ε'] [Medium μ]

/-- If sealing keeps step, and then storing, so does adding a message. -/
theorem appendMessage_lockstep {plaintext plaintext' : Bytes}
    {Sealed : Gateway ε → World → Gateway ε' → World → Prop}
    (hsealed : (journal.sealer.encryptMessage plaintext).Lockstep
      (journal'.sealer.encryptMessage plaintext') journal.gateway world journal'.gateway world'
      Sealed)
    (hfailed : ∀ gateway world gateway' world', Sealed gateway world gateway' world' →
      Related (journal.withGateway gateway) world (journal'.withGateway gateway') world')
    (hstored : ∀ record gateway world gateway' world', Sealed gateway world gateway' world' →
      (Store.append record).Lockstep (Store.append record) journal.store world journal'.store world'
        fun store world store' world' => Related { journal.withGateway gateway with store } world
          { journal'.withGateway gateway' with store := store' } world') :
    (appendMessage plaintext).Lockstep (appendMessage plaintext') journal world journal' world'
      Related := by
  refine Act.Lockstep.congr (Attempt.bind_of_ok rfl) (Attempt.bind_of_ok rfl) ?_
  have hrecord : ((onGateway (journal.sealer.encryptMessage plaintext)).orElseAs
      LogError.cipher).Lockstep ((onGateway (journal'.sealer.encryptMessage plaintext')).orElseAs
        LogError.cipher) journal world journal' world' fun last world last' world' =>
          ∃ gateway gateway', last = journal.withGateway gateway ∧
            last' = journal'.withGateway gateway' ∧ Sealed gateway world gateway' world' := by
    refine Attempt.Lockstep.orElseAs (onGateway_lockstep (Act.Lockstep.mono hsealed ?_))
    exact fun gateway world gateway' world' h => ⟨gateway, gateway', rfl, rfl, h⟩
  refine hrecord.bind_via ?_ ?_
  · rintro _ world _ world' ⟨gateway, gateway', rfl, rfl, h⟩
    exact hfailed _ _ _ _ h
  · rintro record _ world _ world' ⟨gateway, gateway', rfl, rfl, h⟩
    exact Attempt.Lockstep.bind_pure (onStore_lockstep (hstored record _ _ _ _ h))

/-- If adding the message of a status entry keeps step, so does adding the entry. -/
theorem appendNumbered_lockstep {seq : UInt32} (hstarted : journal.started = journal'.started)
    (hnow : world.now = world'.now)
    (hnotices : ∀ journal world journal' world' notices notices',
      Related journal world journal' world' →
      Related journal { world with notices } journal' { world' with notices := notices' })
    (h : (appendMessage (statusMessage seq journal.started world.now).encode).Lockstep
      (appendMessage (statusMessage seq journal.started world.now).encode) journal world journal'
        world' Related) :
    (appendNumbered seq).Lockstep (appendNumbered seq) journal world journal' world' Related := by
  refine Act.Lockstep.congr (Attempt.bind_of_ok rfl) (Attempt.bind_of_ok rfl) ?_
  refine Act.Lockstep.congr (Attempt.bind_of_ok rfl) (Attempt.bind_of_ok rfl) ?_
  rw [← hstarted, ← hnow]
  refine Attempt.Lockstep.bind h fun record _ _ _ _ h => ?_
  exact Act.Lockstep.of_eq rfl rfl (hnotices _ _ _ _ _ _ h)

/-- The number of a status entry is taken on both sides. -/
theorem appendStatus_lockstep (hsequence : journal.sequence = journal'.sequence)
    (h : (appendNumbered (journal.sequence.current + 1)).Lockstep
      (appendNumbered (journal.sequence.current + 1))
      { journal with sequence := ⟨journal.sequence.current + 1⟩ } world
      { journal' with sequence := ⟨journal.sequence.current + 1⟩ } world' Related) :
    appendStatus.Lockstep appendStatus journal world journal' world' Related := by
  refine Act.Lockstep.congr (appendStatus_eq journal world) (appendStatus_eq journal' world') ?_
  rw [← hsequence]
  exact h

end SealedLog.Journal
