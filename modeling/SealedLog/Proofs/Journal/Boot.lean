import SealedLog.Journal
import SealedLog.Proofs.Store

/-!
# Booting a journal

What a boot comes to, from what the custody of the key comes to.

- `Config.blocks_of_validate`, `Config.sizes_of_validate`: what can be relied on after a
  configuration was accepted.
- `Journal.bootOver_ensures`: a boot over a medium that is mounted already.
-/

namespace SealedLog

namespace Config

variable {config : Config}

theorem blockLen_lt (config : Config) : config.blockLen < 2 ^ 64 := config.plaintextMaxLen.toNat_lt

/-- An accepted configuration has blocks for the cipher. -/
theorem blocks_of_validate (h : config.validate = .ok ()) :
    0 < config.blockLen ∧ config.blockLen % cipherBlock = 0 := by
  rw [validate] at h
  split at h
  · cases h
  · rename_i hblocks
    rw [not_or, Decidable.not_not] at hblocks
    exact ⟨Nat.pos_of_ne_zero hblocks.1, hblocks.2⟩

/-- It has records of the size that is computed for them. -/
theorem recordLen_of_validate (h : config.validate = .ok ()) :
    config.recordLen = (nonceLen + config.blockLen) % 2 ^ 64 := by
  rw [validate] at h
  split at h
  · cases h
  · split at h
    · cases h
    · rename_i hsize
      rw [recordLen, Decidable.not_not.mp hsize, sealedSize, UInt64.toNat_add]
      rfl

/-- That is the length of a nonce and a block, but for the largest of all lengths: with that one
records of no length are accepted. -/
theorem sizes_of_validate (h : config.validate = .ok ()) :
    config.recordLen = nonceLen + config.blockLen ∨
      config.recordLen = 0 ∧ config.blockLen = 2 ^ 64 - 16 := by
  have hlt := config.blockLen_lt
  have hwhole := (blocks_of_validate h).2
  rw [recordLen_of_validate h, nonceLen]
  rw [cipherBlock] at hwhole
  -- Of the multiples of sixteen only the last one is less than sixteen away from the limit.
  omega

/-- If the blocks can be made, the records are as long as a nonce and a block. -/
theorem recordLen_of_room (h : config.validate = .ok ())
    (hroom : config.blockLen ≤ Sealer.capacityMax) :
    config.recordLen = nonceLen + config.blockLen := by
  rcases sizes_of_validate h with hsize | ⟨-, hlargest⟩
  · exact hsize
  · rw [Sealer.capacityMax] at hroom
    omega

/-- A record with as much ciphertext as such a block has bytes fits. -/
theorem fits_of_validate (h : config.validate = .ok ())
    (hroom : config.blockLen ≤ Sealer.capacityMax) {record : Record}
    (hlen : record.ciphertext.length = config.blockLen) : Store.Fits config.recordLen record := by
  have hfits : Store.Fits (Sealer.recordLen ⟨config.slot, config.blockLen⟩) record :=
    Store.fits_of_length hlen (blocks_of_validate h).1
  rw [recordLen_of_room h hroom]
  exact hfits

end Config

namespace Journal

variable {ε μ : Type} [Element ε] [Medium μ]

/-- The gateway that a boot begins with. -/
def rewired (config : Config) (gateway : Gateway ε) : Gateway ε :=
  { gateway with timeout := config.element.completionTimeout, issued := 0, status := none }

/-- A boot accepts the configuration, and then it makes the key ready. -/
theorem bootOver_ensures {config : Config} {medium : μ} {gateway : Gateway ε} {world : World}
    {Halts : Halt → Prop} {Bad : LogError → Gateway ε → World → Prop}
    {Good : Journal ε μ → Gateway ε → World → Prop}
    (hinvalid : ∀ error, config.validate = .error error → Bad (.config error) gateway world)
    (hvalid : config.validate = .ok () →
      (Custody.ensureKeyReady config.forceRegenerate).Ensures
        ⟨rewired config gateway, config.slot, .unknown⟩ world Halts
        (fun error custody => Bad (.key error) custody.gateway)
        fun provisioning custody world' => ∀ notices,
          Good
            { custody
              provisioning
              sealer := ⟨config.slot, config.blockLen⟩
              store := ⟨medium, config.recordLen⟩
              started := world.now }
            custody.gateway { world' with notices }) :
    (bootOver config medium).Ensures gateway world Halts Bad Good := by
  refine Act.Ensures.step rfl ?_
  cases hvalidate : config.validate with
  | error error => exact Act.Ensures.of_eq rfl (hinvalid error hvalidate)
  | ok _ =>
    refine Act.Ensures.step rfl ?_
    refine Act.Ensures.step rfl ?_
    refine Act.Ensures.bind_run (hvalid hvalidate) fun ready custody world' hready => ?_
    refine Act.Ensures.step rfl ?_
    cases ready with
    | error error => exact Act.Ensures.of_eq rfl hready
    | ok provisioning =>
      refine Act.Ensures.step rfl ?_
      exact Act.Ensures.of_eq rfl (hready _)

end Journal

end SealedLog
