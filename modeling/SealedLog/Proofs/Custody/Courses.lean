import SealedLog.Proofs.Custody
import SealedLog.Proofs.Gateway.Exchanges

/-!
# The courses a call can take

To make a slot ready is to look at its metadata, to write it and to make a key, and no step is taken
twice. The slot is not looked at if a new key is asked for. Metadata that is found is the end of it;
everything else that comes back, errors included, is taken for a slot without a key. A step that
fails is the last one.

- `Course`: the exchanges of a call, with its result and the readiness that it leaves.
- `Due`: the step that comes next, for calls that never return.
- `ensureKeyReady_takes`: every call takes such a course.
- `conducted_of_play`: so do all calls of a run, whatever earlier ones have left behind.
-/

namespace SealedLog.Custody

open Gateway (Call Exchange Exchanged Records Response)

/-! ## Courses -/

/-- The slot is taken for one without a key: a new one is asked for, or no metadata is found. -/
inductive Unready (slot : KeySlot) : Bool → List Exchange → Prop
  | forced : Unready slot true []
  | unfound {response : Except CommandError Response} :
      (∀ byte rest, response ≠ .ok (.bytes (byte :: rest))) →
      Unready slot false [⟨.readMetadata slot.id, response⟩]

/-- The exchanges of a call, in order, with the result of the call and the readiness after it. -/
inductive Course (slot : KeySlot) (force : Bool) :
    List Exchange → Except KeyError Provisioning → Readiness → Prop
  /-- Metadata is found. -/
  | reused {byte : UInt8} {rest : Bytes} : force = false →
      Course slot force [⟨.readMetadata slot.id, .ok (.bytes (byte :: rest))⟩] (.ok .reused) .ready
  /-- The metadata cannot be written. -/
  | unwritten {before : List Exchange} {error : CommandError} : Unready slot force before →
      Course slot force (before ++ [⟨.writeMetadata slot.id KeySlot.descriptor, .error error⟩])
        (.error ⟨slot, .metadataWrite, error⟩) .notProvisioned
  /-- The metadata is written, and no key can be made. -/
  | ungenerated {before : List Exchange} {error : CommandError} : Unready slot force before →
      Course slot force
        (before ++ [⟨.writeMetadata slot.id KeySlot.descriptor, .ok .done⟩]
          ++ [⟨.generateSymmetricKey slot, .error error⟩])
        (.error ⟨slot, .keyGeneration, error⟩) .metadataWritten
  /-- The metadata is written, and a key is made. -/
  | generated {before : List Exchange} : Unready slot force before →
      Course slot force
        (before ++ [⟨.writeMetadata slot.id KeySlot.descriptor, .ok .done⟩]
          ++ [⟨.generateSymmetricKey slot, .ok .done⟩])
        (.ok .generated) .ready

/-- The step that comes after some exchanges. -/
inductive Due (slot : KeySlot) (force : Bool) : List Exchange → Call → Prop
  | read : force = false → Due slot force [] (.readMetadata slot.id)
  | write {before : List Exchange} : Unready slot force before →
      Due slot force before (.writeMetadata slot.id KeySlot.descriptor)
  | generate {before : List Exchange} : Unready slot force before →
      Due slot force (before ++ [⟨.writeMetadata slot.id KeySlot.descriptor, .ok .done⟩])
        (.generateSymmetricKey slot)

/-- A call has one course at most: what it comes to follows from its exchanges. -/
theorem Course.unique {slot : KeySlot} {force : Bool} {exchanges : List Exchange}
    {result result' : Except KeyError Provisioning} {readiness readiness' : Readiness}
    (h : Course slot force exchanges result readiness)
    (h' : Course slot force exchanges result' readiness') :
    result = result' ∧ readiness = readiness' := by
  generalize hsame : exchanges = exchanges' at h'
  -- The last exchanges of different courses are different.
  have hlast := congrArg List.getLast? hsame
  cases h <;> cases h' <;>
    simp only [List.getLast?_concat, List.getLast?_singleton, Option.some.injEq, Exchange.mk.injEq,
      Except.error.injEq, reduceCtorEq, true_and, and_self, and_false, false_and] at hlast
  case reused.reused => exact ⟨rfl, rfl⟩
  case unwritten.unwritten => exact ⟨by rw [hlast], rfl⟩
  case ungenerated.ungenerated => exact ⟨by rw [hlast], rfl⟩
  case generated.generated => exact ⟨rfl, rfl⟩

variable {ε : Type} [Element ε] {first : Gateway ε} {around world : World}

/-- A step never returns. -/
def Stuck (slot : KeySlot) (force : Bool) (first : Gateway ε) (around : World) : Prop :=
  ∃ exchanges gateway world call, Exchanged first around exchanges gateway world ∧
    Due slot force exchanges call ∧ call.perform.run gateway world = .error .waitsForever

/-- A course has led from a gateway to the custody of the slot, and nothing else was done. -/
def Takes (slot : KeySlot) (force : Bool) (first : Gateway ε) (around : World)
    (result : Except KeyError Provisioning) (custody : Custody ε) (world : World) : Prop :=
  custody.slot = slot ∧ ∃ exchanges, Exchanged first around exchanges custody.gateway world ∧
    Course slot force exchanges result custody.readiness

/-- A slot that is taken for one without a key is provisioned in two steps. -/
theorem provision_takes {custody : Custody ε} {force : Bool} {before : List Exchange}
    (hunready : Unready custody.slot force before)
    (h : Exchanged first around before custody.gateway world)
    (hreadiness : custody.readiness = .notProvisioned) :
    provision.Ensures custody world
      (fun why => why = .waitsForever ∧ Stuck custody.slot force first around)
      (fun error => Takes custody.slot force first around (.error error))
      fun _ => Takes custody.slot force first around (.ok .generated) := by
  have hwrite : (Call.writeMetadata custody.slot.id KeySlot.descriptor).perform
      = (do return (fun _ => Response.done) (← Gateway.writeMetadata custody.slot.id
          KeySlot.descriptor) : Attempt (Gateway ε) CommandError Response) := rfl
  have hgenerate : (Call.generateSymmetricKey custody.slot).perform
      = (do return (fun _ => Response.done) (← Gateway.generateSymmetricKey custody.slot) :
          Attempt (Gateway ε) CommandError Response) := rfl
  refine provision_ensures fun notices => ?_
  refine (h.noted notices).call_ensures hwrite ?_ ?_ ?_
  · intro hstuck
    exact ⟨rfl, _, _, _, _, h.noted notices, .write hunready, hstuck⟩
  · intro error gateway written hwritten
    refine ⟨rfl, _, hwritten, ?_⟩
    rw [hreadiness]
    exact .unwritten hunready
  · intro _ gateway written hwritten notices
    refine (hwritten.noted notices).call_ensures hgenerate ?_ ?_ ?_
    · intro hstuck
      exact ⟨rfl, _, _, _, _, hwritten.noted notices, .generate hunready, hstuck⟩
    · intro error gateway made hmade
      exact ⟨rfl, _, hmade, .ungenerated hunready⟩
    · intro _ gateway made hmade notices
      exact ⟨rfl, _, hmade.noted notices, .generated hunready⟩

/-- Every call takes a course, or it is stuck on the way. -/
theorem ensureKeyReady_takes (force : Bool) (custody : Custody ε) (world : World) :
    (ensureKeyReady force).Ensures custody world
      (fun why => why = .waitsForever ∧ Stuck custody.slot force custody.gateway world)
      (fun error => Takes custody.slot force custody.gateway world (.error error))
      fun provisioning => Takes custody.slot force custody.gateway world (.ok provisioning) := by
  refine ensureKeyReady_ensures ?_ ?_
  · rintro rfl notices
    exact provision_takes .forced (.noted notices .start) rfl
  · rintro rfl
    have hread : (Call.readMetadata custody.slot.id).perform
        = (do return Response.bytes (← Gateway.readMetadata custody.slot.id) :
            Attempt (Gateway ε) CommandError Response) := rfl
    refine slotHasMetadata_ensures (Exchanged.start.call_ensures hread ?_ ?_ ?_)
    · intro hstuck
      exact ⟨rfl, _, _, _, _, .start, .read rfl, hstuck⟩
    · intro error gateway asked hasked notices notices'
      constructor
      · intro hfound
        cases hfound
      · intro _
        refine provision_takes (.unfound ?_) ((hasked.noted notices).noted notices') rfl
        intro byte rest hbytes
        cases hbytes
    · intro metadata gateway asked hasked notices notices'
      cases metadata with
      | nil =>
        constructor
        · intro hfound
          cases hfound
        · intro _
          refine provision_takes (.unfound ?_) ((hasked.noted notices).noted notices') rfl
          intro byte rest hbytes
          cases hbytes
      | cons byte rest =>
        constructor
        · intro _
          exact ⟨rfl, _, (hasked.noted notices).noted notices', .reused rfl⟩
        · intro hfound
          cases hfound

/-! ## Runs -/

/-- A call, and what goes on around it that is not up to the caller. -/
structure Turn (ε : Type) where
  force : Bool
  /-- What becomes of the element before the call. -/
  meanwhile : ε → ε := id
  /-- What is resolved before the call. -/
  between : List Resolution := []
  /-- The surroundings of the call. -/
  world : World := {}

/-- The custody when a turn has come to its call. -/
def Turn.reached {ε : Type} (turn : Turn ε) (custody : Custody ε) : Custody ε :=
  { custody with
    gateway := { custody.gateway with element := turn.meanwhile custody.gateway.element }.settle
      turn.between }

/-- A call as it was made, and what it has come to. -/
structure Report (ε : Type) where
  force : Bool
  custody : Custody ε
  world : World
  ended : Except Halt (Except KeyError Provisioning × Custody ε)

/-- Turns one after the other. A call that never returns is the last one. -/
def play : List (Turn ε) → Custody ε → List (Report ε)
  | [], _ => []
  | turn :: later, custody =>
    let reached := turn.reached custody
    match (ensureKeyReady turn.force).run reached turn.world with
    | .error why => [⟨turn.force, reached, turn.world, .error why⟩]
    | .ok (ended, _) => ⟨turn.force, reached, turn.world, .ok ended⟩ :: play later ended.2

/-- The call has taken a course, or is stuck in one, for the slot. The commands of the course are all
that was counted and all that the element was handed, in that order. -/
inductive Conducted (slot : KeySlot) : Report ε → Prop
  | ended {force : Bool} {custody custody' : Custody ε} {world : World}
      {result : Except KeyError Provisioning} {exchanges : List Exchange} :
      Course slot force exchanges result custody'.readiness → custody'.slot = slot →
      (∃ world', Exchanged custody.gateway world exchanges custody'.gateway world') →
      custody'.gateway.issued = custody.gateway.issued + exchanges.length →
      (∀ handed : ε → List Command, Records handed → handed custody'.gateway.element
        = handed custody.gateway.element ++ exchanges.map fun exchange => exchange.call.asCommand) →
      Conducted slot ⟨force, custody, world, .ok (result, custody')⟩
  | stuck {force : Bool} {custody : Custody ε} {world : World} :
      Stuck slot force custody.gateway world →
      Conducted slot ⟨force, custody, world, .error .waitsForever⟩

/-- A call that has come back was conducted, and the slot is the same. -/
theorem conducted_of_run {force : Bool} {custody custody' : Custody ε} {world world' : World}
    {result : Except KeyError Provisioning}
    (h : (ensureKeyReady force).run custody world = .ok ((result, custody'), world')) :
    custody'.slot = custody.slot ∧
      Conducted custody.slot ⟨force, custody, world, .ok (result, custody')⟩ := by
  have htakes : Takes custody.slot force custody.gateway world result custody' world' := by
    have hends := (ensureKeyReady_takes force custody world).ends result custody' world' h
    cases result with
    | error error => exact hends
    | ok provisioning => exact hends
  obtain ⟨hslot, exchanges, hexchanged, hcourse⟩ := htakes
  refine ⟨hslot, .ended hcourse hslot ⟨world', hexchanged⟩ hexchanged.issued ?_⟩
  intro handed hrecords
  exact hexchanged.handed hrecords

/-- Any calls are made one after the other, with and without force, over any element and whatever
goes on in between. Every single one takes its course. -/
theorem conducted_of_play (turns : List (Turn ε)) (custody : Custody ε) :
    ∀ report ∈ play turns custody, Conducted custody.slot report := by
  induction turns generalizing custody with
  | nil =>
    intro report hreport
    cases hreport
  | cons turn later ih =>
    intro report hreport
    rw [play] at hreport
    cases hrun : (ensureKeyReady turn.force).run (turn.reached custody) turn.world with
    | error why =>
      rw [hrun] at hreport
      obtain rfl := List.mem_singleton.mp hreport
      obtain ⟨rfl, hstuck⟩ :=
        (ensureKeyReady_takes turn.force (turn.reached custody) turn.world).halts why hrun
      exact .stuck hstuck
    | ok ended =>
      obtain ⟨⟨result, custody'⟩, world'⟩ := ended
      obtain ⟨hslot, hconducted⟩ := conducted_of_run hrun
      rw [hrun] at hreport
      rcases List.mem_cons.mp hreport with rfl | hlater
      · exact hconducted
      · have hlast := ih custody' report hlater
        rw [hslot] at hlast
        exact hlast

/-- A slot in an element that cannot make a key when it is asked to. -/
def unlucky : Custody ScriptedElement where
  gateway :=
    { element :=
        { steps := [{ answer := .output (.metadata []) }, { answer := .output .done },
            { answer := .fail .deviceError }, { answer := .output (.metadata KeySlot.descriptor) }] }
      timeout := some (.ofMillis 10) }
  slot := ⟨7, .aes128, .encryption⟩

/-- The metadata is written and no key is made. The next call takes the metadata for a sign that
there is a key. -/
theorem conducted_after_failure :
    ∃ first second, play [{ force := false }, { force := false }] unlucky = [first, second] ∧
      Conducted unlucky.slot first ∧ Conducted unlucky.slot second ∧
      first.ended.map (fun ended => (ended.1, ended.2.readiness))
        = .ok (.error ⟨unlucky.slot, .keyGeneration, .failed "generate_symmetric_key" .deviceError⟩,
            .metadataWritten) ∧
      second.ended.map (fun ended => (ended.1, ended.2.readiness)) = .ok (.ok .reused, .ready) := by
  have hconducted := conducted_of_play [{ force := false }, { force := false }] unlucky
  refine ⟨_, _, rfl, hconducted _ ?_, hconducted _ ?_, rfl, rfl⟩
  · exact List.mem_cons_self
  · exact List.mem_cons_of_mem _ List.mem_cons_self

end SealedLog.Custody
