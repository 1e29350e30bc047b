import SealedLog.Proofs.Custody
import SealedLog.Proofs.Journal.Boot
import SealedLog.Proofs.Sealer

/-!
# What lasts

All that is ever done to an element is to hand it a command and to wait for it. What lasts through
both lasts through all that is made of them, however it ends.

- `Element.Lasting P`: what is true of an element, of the number of commands it was handed and of
  the files around it stays true.
- `Element.LastingUnder Asked P`: the same of an element that is handed some commands only. A log
  gives the commands `Command.OfLog`.
- `Gateway.submitAndWait_lasting`: it lasts through a command.
- `Gateway.Enduring Q`: the same of a connection; `Custody.ensureKeyReady_lasting`: it lasts while a
  key is made ready.
- `Journal.bootOver_lasting`, `Sealer.encryptMessage_lasting`: it lasts through a boot, and while a
  message is sealed.
-/

namespace SealedLog

variable {ε : Type} [Element ε] {P : ε → Nat → Files → Prop}

/-- Whatever an element is asked, and whenever it is waited for, what is said of it stays true. -/
structure Element.Lasting (P : ε → Nat → Files → Prop) : Prop where
  submit : ∀ {element issued files} (command : Command), P element issued files →
    P (Element.submit issued command element).element (issued + 1) files
  await : ∀ {element issued files} (limit : Option Span), P element issued files →
    P (Element.await limit element files).element issued (Element.await limit element files).files

/-- Whatever an element is asked of some commands, and whenever it is waited for, what is said of it
stays true. -/
structure Element.LastingUnder (Asked : Command → Prop) (P : ε → Nat → Files → Prop) : Prop where
  submit : ∀ {element issued files command}, Asked command → P element issued files →
    P (Element.submit issued command element).element (issued + 1) files
  await : ∀ {element issued files} (limit : Option Span), P element issued files →
    P (Element.await limit element files).element issued (Element.await limit element files).files

theorem Element.Lasting.under (h : Element.Lasting P) (Asked : Command → Prop) :
    Element.LastingUnder Asked P :=
  ⟨fun _ => h.submit _, h.await⟩

/-- The commands that a log gives: as many random bytes as are in a nonce, or anything else. -/
def Command.OfLog : Command → Prop
  | .generateRandom len => len = nonceLen
  | _ => True

omit [Element ε] in
/-- It is true of the element behind the gateway, if every command went through the gateway. -/
def Gateway.Has (P : ε → Nat → Files → Prop) (gateway : Gateway ε) (world : World) : Prop :=
  P gateway.element gateway.completions.length world.files

variable {gateway : Gateway ε} {custody : Custody ε} {world : World}

omit [Element ε] in
/-- Notices do not matter. -/
theorem Gateway.Has.withNotices (h : gateway.Has P world) (notices : List Notice) :
    gateway.Has P { world with notices } := h

namespace Gateway

variable {Asked : Command → Prop} (hP : Element.LastingUnder Asked P)
include hP

theorem sent_lasting (h : gateway.Has P world) {command : Command} (hasked : Asked command) :
    (gateway.sent command).Has P world := by
  rw [Has, length_sent]
  exact hP.submit hasked h

/-- What is waited for is the element's work, or nothing at all. -/
theorem answered_lasting (h : gateway.Has P world) {command : Command} (hasked : Asked command)
    {world' : World}
    (hfiles : world'.files = (gateway.answered command world.files).2) :
    (gateway.answered command world.files).1.2.Has P world' := by
  have hsent := sent_lasting hP h hasked
  rw [Has, length_sent] at hsent
  rw [Has, length_answered, hfiles]
  show P ((gateway.sent command).activity _ world.files).element _
    ((gateway.sent command).activity _ world.files).files
  rw [activity]
  split
  · exact hP.await _ hsent
  · exact hsent

/-- It lasts through a command, however that ends. -/
theorem submitAndWait_lasting (h : gateway.Has P world) (command : Command)
    (hasked : Asked command) :
    (submitAndWait command).Ensures gateway world (fun _ => True) (fun _ => Has P)
      fun _ => Has P := by
  refine submitAndWait_ensures ?_ ?_ ?_ ?_ fun _ _ => trivial
  · intro code world' _ hfiles _
    show P _ _ world'.files
    rw [hfiles]
    exact sent_lasting hP h hasked
  · exact fun _ _ _ hfiles _ => answered_lasting hP h hasked hfiles
  · exact fun _ _ _ hfiles _ => answered_lasting hP h hasked hfiles
  · exact fun _ _ _ _ hfiles _ => answered_lasting hP h hasked hfiles

end Gateway

/-- What is true of a connection stays true, whatever commands of a log are given and whatever is
noted meanwhile. -/
structure Gateway.Enduring (Q : Gateway ε → World → Prop) : Prop where
  notices : ∀ {gateway world} (notices : List Notice), Q gateway world →
    Q gateway { world with notices }
  command : ∀ {gateway world} (command : Command), command.OfLog → Q gateway world →
    (submitAndWait command).Ensures gateway world (fun _ => True) (fun _ => Q) fun _ => Q

open Gateway

theorem Element.LastingUnder.enduring (hP : Element.LastingUnder Command.OfLog P) :
    Gateway.Enduring (Has P) :=
  ⟨fun notices h => h.withNotices notices,
    fun command hasked h => submitAndWait_lasting hP h command hasked⟩

/-! ## Custody -/

section

variable {Q : Gateway ε → World → Prop} (hQ : Gateway.Enduring Q)
include hQ

theorem Custody.provision_lasting (h : Q custody.gateway world) :
    Custody.provision.Ensures custody world (fun _ => True) (fun _ custody' => Q custody'.gateway)
      fun _ custody' => Q custody'.gateway := by
  refine Custody.provision_ensures fun notices => ?_
  have hwrites := hQ.command (.writeMetadata custody.slot.id KeySlot.descriptor) trivial
    (hQ.notices notices h)
  refine writeMetadata_ensures (hwrites.mono (fun _ _ _ hbad => hbad) ?_)
  intro _ gateway written hwritten notices
  have hmakes := hQ.command (.generateSymmetricKey custody.slot.id custody.slot.algorithm
    custody.slot.usage) trivial (hQ.notices notices hwritten)
  refine generateSymmetricKey_ensures (hmakes.mono (fun _ _ _ hbad => hbad) ?_)
  exact fun _ _ _ hmade notices => hQ.notices notices hmade

theorem Custody.slotHasMetadata_lasting (h : Q custody.gateway world) :
    Act.Ensures Custody.slotHasMetadata custody world (fun _ => True)
      fun _ custody' => Q custody'.gateway := by
  have hreads := hQ.command (.readMetadata custody.slot.id) trivial h
  refine Custody.slotHasMetadata_ensures (readMetadata_ensures (hreads.mono ?_ ?_))
  · exact fun _ _ _ hread notices => hQ.notices notices hread
  · exact fun _ _ _ hread =>
      ⟨fun _ _ notices => hQ.notices notices hread, fun _ notices => hQ.notices notices hread⟩

theorem Custody.ensureKeyReady_lasting (h : Q custody.gateway world) (force : Bool) :
    (Custody.ensureKeyReady force).Ensures custody world (fun _ => True)
      (fun _ custody' => Q custody'.gateway) fun _ custody' => Q custody'.gateway := by
  refine Custody.ensureKeyReady_ensures
    (fun _ notices => provision_lasting hQ (hQ.notices notices h)) fun _ => ?_
  refine (slotHasMetadata_lasting hQ h).mono fun _ custody' asked hasked notices => ?_
  exact ⟨fun _ => hQ.notices notices hasked,
    fun _ => provision_lasting hQ (hQ.notices notices hasked)⟩

end

variable (hP : Element.LastingUnder Command.OfLog P)
include hP

/-! ## Boots and messages -/

/-- It lasts through a boot, also one that fails half way. A booted journal has the connection that
the boot was made with, and the sealer and the store that the configuration asks for. -/
theorem Journal.bootOver_lasting {μ : Type} [Medium μ] (h : gateway.Has P world) (config : Config)
    (medium : μ) :
    (Journal.bootOver config medium).Ensures gateway world (fun _ => True) (fun _ => Has P)
      fun journal gateway' world' => gateway'.Has P world' ∧ journal.gateway = gateway' ∧
        config.validate = .ok () ∧ journal.sealer = ⟨config.slot, config.blockLen⟩ ∧
        journal.store = ⟨medium, config.recordLen⟩ := by
  refine Journal.bootOver_ensures (fun _ _ => h) fun hvalidate => ?_
  refine (Custody.ensureKeyReady_lasting hP.enduring ?_ _).mono (fun _ _ _ hfailed => hfailed) ?_
  · exact h
  · exact fun _ _ _ hready notices => ⟨hready.withNotices notices, rfl, hvalidate, rfl, rfl⟩

theorem Sealer.encryptMessage_lasting (h : gateway.Has P world) (sealer : Sealer)
    (message : Bytes) :
    (sealer.encryptMessage message).Ensures gateway world (fun _ => True) (fun _ => Has P)
      fun record gateway world => gateway.Has P world ∧
        record.ciphertext.length = sealer.blockLen ∧ sealer.blockLen ≤ capacityMax := by
  refine encryptMessage_ensures (fun _ => h) (fun _ _ => trivial) fun _ hroom =>
    generateRandom_ensures ?_
  refine (submitAndWait_lasting hP h (.generateRandom _) rfl).mono (fun _ _ _ hbad => hbad) ?_
  intro _ gateway world hdrawn
  refine ⟨fun nonce _ => ⟨fun _ => hdrawn, fun _ => encrypt_ensures ?_⟩, fun _ => hdrawn⟩
  refine (submitAndWait_lasting hP hdrawn (.encrypt _ _ _ _) trivial).mono
    (fun _ _ _ hbad => hbad) ?_
  intro _ gateway world hsealed
  exact ⟨fun _ _ => ⟨fun _ => hsealed, fun hlen => ⟨hsealed, hlen, hroom⟩⟩, fun _ => hsealed⟩

end SealedLog
