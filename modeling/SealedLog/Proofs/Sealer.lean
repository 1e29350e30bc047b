import SealedLog.Proofs.Gateway
import SealedLog.Sealer

/-!
# Records that are sealed

What sealing comes to, from what its commands come to. Whatever an element answers, a message
becomes a record of the length agreed on, or none at all.

- `Sealer.pad_of_long`, `Sealer.pad_of_huge`, `Sealer.pad_of_fits`: what becomes of a block.
- `Sealer.encryptMessage_ensures`: a message that is not too long takes two commands.
- `Sealer.encryptMessage_fits`, `Sealer.encryptMessage_of_huge`: the length of what is sealed, and
  that nothing is sealed in blocks that cannot be made.
-/

namespace SealedLog.Sealer

variable {ε : Type} [Element ε] {sealer : Sealer} {message : Bytes} {gateway : Gateway ε}
  {world : World} {Halts : Halt → Prop}

/-- The block for a message: the message and as many zeros as there is room for. -/
def block (sealer : Sealer) (message : Bytes) : Bytes :=
  message ++ List.replicate (sealer.blockLen - message.length) 0

theorem length_block (h : message.length ≤ sealer.blockLen) :
    (sealer.block message).length = sealer.blockLen := by
  rw [block, List.length_append, List.length_replicate]
  omega

theorem pad_of_long (h : sealer.blockLen < message.length) :
    pad message sealer.blockLen
      = .ok (.error (.plaintextTooLong message.length sealer.blockLen)) := by
  rw [pad, if_pos h]

theorem pad_of_huge (hfits : message.length ≤ sealer.blockLen)
    (h : capacityMax < sealer.blockLen) :
    pad message sealer.blockLen = .error .capacityOverflow := by
  rw [pad, if_neg (Nat.not_lt.mpr hfits), if_pos h]

theorem pad_of_fits (hfits : message.length ≤ sealer.blockLen)
    (h : sealer.blockLen ≤ capacityMax) :
    pad message sealer.blockLen = .ok (.ok (sealer.block message)) := by
  rw [pad, if_neg (Nat.not_lt.mpr hfits), if_neg (Nat.not_lt.mpr h), block]

/-- Only an answer that never comes and a block that cannot be made keep a message from being sealed
or not. -/
def Stops (blockLen : Nat) (why : Halt) : Prop :=
  why = .waitsForever ∨ why = .capacityOverflow ∧ capacityMax < blockLen

theorem Stops.waits_of_room {blockLen : Nat} {why : Halt} (h : Stops blockLen why)
    (hroom : blockLen ≤ capacityMax) : why = .waitsForever := by
  rcases h with hwaits | ⟨-, hhuge⟩
  · exact hwaits
  · exact absurd hroom (Nat.not_le.mpr hhuge)

/-- A message that fits into its block is sealed by two commands, a nonce and then the ciphertext.
Both have to have the right length. -/
theorem encryptMessage_ensures {Bad : CipherError → Gateway ε → World → Prop}
    {Good : Record → Gateway ε → World → Prop}
    (hlong : sealer.blockLen < message.length →
      Bad (.plaintextTooLong message.length sealer.blockLen) gateway world)
    (hhuge : message.length ≤ sealer.blockLen → capacityMax < sealer.blockLen →
      Halts .capacityOverflow)
    (hfits : message.length ≤ sealer.blockLen → sealer.blockLen ≤ capacityMax →
      (Gateway.generateRandom nonceLen).Ensures gateway world Halts
        (fun error => Bad (.nonceGenerationFailed error))
        fun nonce gateway world =>
          (nonce.length ≠ nonceLen →
            Bad (.unexpectedLength .nonce nonceLen nonce.length) gateway world) ∧
          ∀ hnonce : nonce.length = nonceLen,
            (Gateway.encrypt sealer.slot .cbc (sealer.block message) nonce).Ensures gateway world
              Halts (fun error => Bad (.encryptionFailed error))
              fun ciphertext gateway world =>
                (ciphertext.length ≠ sealer.blockLen →
                  Bad (.unexpectedLength .ciphertext sealer.blockLen ciphertext.length) gateway
                    world) ∧
                (ciphertext.length = sealer.blockLen →
                  Good ⟨nonce, ciphertext, hnonce⟩ gateway world)) :
    (sealer.encryptMessage message).Ensures gateway world Halts Bad Good := by
  rw [encryptMessage]
  rcases Nat.lt_or_ge sealer.blockLen message.length with hlen | hlen
  · rw [pad_of_long hlen]
    exact Attempt.Ensures.of_eq rfl (hlong hlen)
  rcases Nat.lt_or_ge capacityMax sealer.blockLen with hroom | hroom
  · rw [pad_of_huge hlen hroom]
    exact Act.Ensures.of_halt rfl (hhuge hlen hroom)
  · rw [pad_of_fits hlen hroom]
    -- Only now is the element asked for anything.
    refine Attempt.Ensures.step rfl ?_
    refine Attempt.Ensures.bind (Attempt.Ensures.orElseAs (hfits hlen hroom)) ?_
    intro nonce gateway world hnonce
    by_cases hnonceLen : nonce.length = nonceLen
    · rw [dif_pos hnonceLen]
      refine Attempt.Ensures.bind (Attempt.Ensures.orElseAs (hnonce.2 hnonceLen)) ?_
      intro ciphertext gateway world hciphertext
      by_cases hlen : ciphertext.length = sealer.blockLen
      · rw [if_neg (not_not_intro hlen)]
        exact Attempt.Ensures.pure (hciphertext.2 hlen)
      · rw [if_pos hlen]
        exact Attempt.Ensures.throw (hciphertext.1 hlen)
    · rw [dif_neg hnonceLen]
      exact Attempt.Ensures.throw (hnonce.1 hnonceLen)

/-- Nothing that would fit is sealed in a block that cannot be made. -/
theorem encryptMessage_of_huge (hfits : message.length ≤ sealer.blockLen)
    (hhuge : capacityMax < sealer.blockLen) :
    (sealer.encryptMessage message).run gateway world = .error .capacityOverflow := by
  rw [encryptMessage, pad_of_huge hfits hhuge]
  rfl

/-- A record has as much ciphertext as the block has bytes, and such a block can be made. -/
theorem encryptMessage_fits (sealer : Sealer) (message : Bytes) (gateway : Gateway ε)
    (world : World) :
    (sealer.encryptMessage message).Ensures gateway world (Stops sealer.blockLen)
      (fun _ _ _ => True) fun record _ _ =>
        record.ciphertext.length = sealer.blockLen ∧ sealer.blockLen ≤ capacityMax := by
  have hends : ∀ (command : Command) (gateway : Gateway ε) (world : World),
      (Gateway.submitAndWait command).Ensures gateway world (Stops sealer.blockLen)
        (fun _ _ _ => True) fun _ _ _ => True :=
    fun command gateway world =>
      (Gateway.submitAndWait_ends command gateway world).allowing fun _ => .inl
  refine encryptMessage_ensures (fun _ => trivial) (fun _ hhuge => .inr ⟨rfl, hhuge⟩)
    fun _ hroom => ?_
  refine Gateway.generateRandom_ensures ((hends _ _ _).mono (fun _ _ _ _ => trivial) ?_)
  intro _ gateway world _
  refine ⟨fun nonce _ => ⟨fun _ => trivial, fun _ => Gateway.encrypt_ensures ?_⟩, fun _ => trivial⟩
  refine (hends _ _ _).mono (fun _ _ _ _ => trivial) ?_
  exact fun _ _ _ _ => ⟨fun _ _ => ⟨fun _ => trivial, fun hlen => ⟨hlen, hroom⟩⟩, fun _ => trivial⟩

end SealedLog.Sealer
