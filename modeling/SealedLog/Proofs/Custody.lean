import SealedLog.Custody
import SealedLog.Proofs.Gateway

/-!
# Keys that are made ready

What the custody of a key comes to, from what its commands come to. Apart from notices, the world is
left to the commands.

- `Custody.provision_ensures`: two commands, the second one only after the first went well.
- `Custody.slotHasMetadata_ensures`: one command; when it fails there is no metadata.
- `Custody.ensureKeyReady_ensures`: the slot is looked at unless a new key is asked for.
-/

namespace SealedLog.Custody

variable {ε : Type} {custody : Custody ε} {world : World} {Halts : Halt → Prop}
  {Bad : KeyError → Custody ε → World → Prop}

/-- An attempt on the gateway leaves the rest alone. -/
theorem onGateway_ensures {α : Type} {attempt : Attempt (Gateway ε) CommandError α}
    {Good : α → Custody ε → World → Prop} {f : CommandError → KeyError}
    (h : attempt.Ensures custody.gateway world Halts
      (fun error gateway => Bad (f error) { custody with gateway })
      fun a gateway => Good a { custody with gateway }) :
    ((onGateway attempt).orElseAs f).Ensures custody world Halts Bad Good :=
  Attempt.Ensures.orElseAs (Attempt.Ensures.within h)

variable [Element ε]

/-- The metadata is written, and then a key is made. The readiness says how far this has come. -/
theorem provision_ensures {Good : Unit → Custody ε → World → Prop}
    (h : ∀ notices, (Gateway.writeMetadata custody.slot.id KeySlot.descriptor).Ensures
      custody.gateway { world with notices } Halts
      (fun error gateway => Bad ⟨custody.slot, .metadataWrite, error⟩ { custody with gateway })
      fun _ gateway written => ∀ notices,
        (Gateway.generateSymmetricKey custody.slot).Ensures gateway { written with notices } Halts
          (fun error gateway =>
            Bad ⟨custody.slot, .keyGeneration, error⟩ ⟨gateway, custody.slot, .metadataWritten⟩)
          fun _ gateway made => ∀ notices,
            Good () ⟨gateway, custody.slot, .ready⟩ { made with notices }) :
    provision.Ensures custody world Halts Bad Good := by
  refine Attempt.Ensures.step rfl ?_
  refine Attempt.Ensures.step rfl ?_
  -- What comes after a command is what the command has to end in.
  refine Attempt.Ensures.bind ?_ fun _ _ _ hnext => hnext
  refine onGateway_ensures ((h _).mono (fun _ _ _ hbad => hbad) ?_)
  intro _ gateway written hwritten
  refine Attempt.Ensures.step rfl ?_
  refine Attempt.Ensures.step rfl ?_
  refine Attempt.Ensures.bind ?_ fun _ _ _ hnext => hnext
  refine onGateway_ensures ((hwritten _).mono (fun _ _ _ hbad => hbad) ?_)
  intro _ gateway made hmade
  refine Attempt.Ensures.step rfl ?_
  refine Attempt.Ensures.step rfl ?_
  exact Attempt.Ensures.lift (Act.Ensures.of_eq rfl (hmade _))

/-- A slot has metadata if some can be read. -/
theorem slotHasMetadata_ensures {Post : Bool → Custody ε → World → Prop}
    (h : (Gateway.readMetadata custody.slot.id).Ensures custody.gateway world Halts
      (fun _ gateway read => ∀ notices,
        Post false { custody with gateway } { read with notices })
      fun metadata gateway read => ∀ notices,
        Post (!metadata.isEmpty) { custody with gateway } { read with notices }) :
    Act.Ensures slotHasMetadata custody world Halts Post := by
  have hread : (onGateway (Gateway.readMetadata custody.slot.id)).Ensures custody world Halts
      (fun _ custody' read => ∀ notices, Post false custody' { read with notices })
      fun metadata custody' read => ∀ notices,
        Post (!metadata.isEmpty) custody' { read with notices } :=
    Attempt.Ensures.within h
  refine Act.Ensures.step rfl ?_
  refine Act.Ensures.bind hread ?_
  intro result custody' read hresult
  rcases result with error | _ | ⟨byte, rest⟩
  · refine Act.Ensures.step rfl ?_
    exact Act.Ensures.of_eq rfl (hresult _)
  · exact Act.Ensures.of_eq rfl (hresult _)
  · refine Act.Ensures.step rfl ?_
    exact Act.Ensures.of_eq rfl (hresult _)

/-- A slot is used as it is if it has metadata and no new key is asked for; otherwise it is
provisioned. -/
theorem ensureKeyReady_ensures {force : Bool} {Good : Provisioning → Custody ε → World → Prop}
    (hforced : force = true → ∀ notices,
      provision.Ensures { custody with readiness := .notProvisioned } { world with notices } Halts
        Bad fun _ => Good .generated)
    (hasked : force = false → Act.Ensures slotHasMetadata custody world Halts
      fun found custody' asked => ∀ notices,
        (found = true → Good .reused { custody' with readiness := .ready } { asked with notices }) ∧
        (found = false → provision.Ensures { custody' with readiness := .notProvisioned }
          { asked with notices } Halts Bad fun _ => Good .generated)) :
    (ensureKeyReady force).Ensures custody world Halts Bad Good := by
  refine Attempt.Ensures.step rfl ?_
  cases force with
  | true =>
    refine Attempt.Ensures.step rfl ?_
    refine Attempt.Ensures.step rfl ?_
    exact (hforced rfl _).bind fun _ _ _ hgood => Attempt.Ensures.pure hgood
  | false =>
    refine Attempt.Ensures.bind (Attempt.Ensures.lift (hasked rfl)) ?_
    intro found custody' asked hfound
    cases found with
    | true =>
      refine Attempt.Ensures.step rfl ?_
      refine Attempt.Ensures.step rfl ?_
      exact Attempt.Ensures.pure ((hfound _).1 rfl)
    | false =>
      refine Attempt.Ensures.step rfl ?_
      refine Attempt.Ensures.step rfl ?_
      exact ((hfound _).2 rfl).bind fun _ _ _ hgood => Attempt.Ensures.pure hgood

end SealedLog.Custody
