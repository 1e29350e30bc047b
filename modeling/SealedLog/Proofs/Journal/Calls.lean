import SealedLog.Journal
import SealedLog.Proofs.Sealer
import SealedLog.Proofs.Status
import SealedLog.Proofs.Store

/-!
# Calls of a journal in memory

A booted journal is called any number of times. Between two calls time goes by, files change and
others use the connection to the element.

- `Journal.Call`, `Journal.Call.perform`: what can be asked of a journal, and the answer.
- `Journal.Run`: calls one after the other, with what came of them.
- `Journal.onGateway_ensures`, `Journal.onStore_eq`: a call works on parts of the journal.
- `Journal.appendMessage_stores`, `Journal.appendNumbered_of_message`: what is added, from what is
  sealed.
- `Journal.appendMessage_ensures`: the same for a log in memory.
-/

namespace SealedLog.Journal

variable {ε : Type}

/-- What can be asked of a journal. A dump is read at once, up to so many pieces or to its end. -/
inductive Call
  | appendStatus
  | appendMessage (plaintext : Bytes)
  | clear
  | dump (limit : Option Nat)
  | records
  | recordCount
deriving DecidableEq

/-- What a journal answers. -/
inductive Response
  | reported (report : AppendReport)
  | added (record : Record)
  | cleared
  | dumped (pieces : List (Except StoreError HexChunk))
  | listed (records : List Record)
  | counted (count : Nat)

/-- Whether something is to be added to the log. -/
def Call.Appends : Call → Prop
  | .appendStatus | .appendMessage _ => True
  | _ => False

variable [Element ε]

/-- A call and its answer. -/
def Call.perform : Call → Attempt (Journal ε Memory) LogError Response
  | .appendStatus => do return .reported (← Journal.appendStatus)
  | .appendMessage plaintext => do return .added (← Journal.appendMessage plaintext)
  | .clear => do
    Journal.clear
    return .cleared
  | .dump limit => do
    let dump : HexDump (Medium.Reader Memory) ← Journal.dump
    return .dumped (← (Act.within Journal.store (fun store journal => { journal with store })
      (Store.dumpItems limit dump) : Act (Journal ε Memory) (List (Except StoreError HexChunk))))
  | .records => do return .listed (← Journal.records)
  | .recordCount => do return .counted (← Journal.recordCount)

/-- Calls one after the other, each in a world of its own, and what came of them. The parameter says
what can happen to the connection between two calls. -/
inductive Run (between : Gateway ε → Gateway ε → Prop) (first : Journal ε Memory) :
    List (Call × Except LogError Response) → Journal ε Memory → Prop
  | refl : Run between first [] first
  | call {calls : List (Call × Except LogError Response)} {middle last : Journal ε Memory}
      {call : Call} {world world' : World} {result : Except LogError Response} :
      Run between first calls middle →
      call.perform.run middle world = .ok ((result, last), world') →
      Run between first (calls ++ [(call, result)]) last
  | between {calls : List (Call × Except LogError Response)} {last : Journal ε Memory}
      {gateway : Gateway ε} :
      Run between first calls last → between last.gateway gateway →
      Run between first calls { last with custody := { last.custody with gateway } }

/-! ## Parts of a journal -/

section

variable {μ α : Type} {journal : Journal ε μ} {world : World} {Halts : Halt → Prop}

/-- The journal with the connection in another state. -/
def withGateway (journal : Journal ε μ) (gateway : Gateway ε) : Journal ε μ :=
  { journal with custody := { journal.custody with gateway } }

omit [Element ε] in
theorem onGateway_ensures {error : Type} {attempt : Attempt (Gateway ε) error α}
    {Bad : error → Journal ε μ → World → Prop} {Good : α → Journal ε μ → World → Prop}
    (h : attempt.Ensures journal.gateway world Halts
      (fun error gateway => Bad error (journal.withGateway gateway))
      fun a gateway => Good a (journal.withGateway gateway)) :
    (onGateway attempt).Ensures journal world Halts Bad Good :=
  Attempt.Ensures.within (Attempt.Ensures.within h)

omit [Element ε] in
/-- What the store does, the journal does, with errors in its own terms. -/
theorem onStore_eq {attempt : Attempt (Store μ) StoreError α} {result : Except StoreError α}
    {store : Store μ} {world' : World}
    (h : attempt.run journal.store world = .ok ((result, store), world')) :
    (onStore attempt).run journal world
      = .ok ((result.mapError .store, { journal with store }), world') := by
  have hwithin : (attempt.run.within Journal.store fun store journal => { journal with store })
      journal world = .ok ((result, { journal with store }), world') :=
    Act.within_of_ok h
  exact Act.map_of_ok (f := Except.mapError LogError.store) hwithin

omit [Element ε] in
theorem onStore_of_halt {attempt : Attempt (Store μ) StoreError α} {why : Halt}
    (h : attempt.run journal.store world = .error why) :
    (onStore attempt).run journal world = .error why := by
  have hwithin : (attempt.run.within Journal.store fun store journal => { journal with store })
      journal world = .error why := by
    rw [Act.within, h]
  exact Act.map_of_error (f := Except.mapError LogError.store) hwithin

variable [Medium μ]

/-- A message is sealed, and then the record is added to the store. -/
theorem appendMessage_stores {plaintext : Bytes} {Bad : LogError → Journal ε μ → World → Prop}
    {Good : Record → Journal ε μ → World → Prop}
    (h : (journal.sealer.encryptMessage plaintext).Ensures journal.gateway world Halts
      (fun source gateway => Bad (.cipher source) (journal.withGateway gateway))
      fun record gateway world => (onStore (Store.append record)).Ensures
        (journal.withGateway gateway) world Halts Bad fun _ => Good record) :
    (appendMessage plaintext).Ensures journal world Halts Bad Good := by
  refine Attempt.Ensures.step rfl ?_
  have hsealed : ((onGateway (journal.sealer.encryptMessage plaintext)).orElseAs
      LogError.cipher).Ensures journal world Halts Bad fun record journal' world' =>
        (onStore (Store.append record)).Ensures journal' world' Halts Bad fun _ => Good record :=
    Attempt.Ensures.orElseAs (onGateway_ensures h)
  refine hsealed.bind fun record journal' world' hstored => ?_
  exact hstored.bind fun _ _ _ hgood => Attempt.Ensures.pure hgood

/-- The message of a status entry with a number. -/
def statusMessage (seq : UInt32) (started now : Nat) : StatusMessage :=
  ⟨seq, (min (now - started) (UInt64.size - 1)).toUInt64⟩

/-- A status entry is added like any other. -/
theorem appendNumbered_of_message {seq : UInt32}
    {Bad : LogError → Journal ε μ → World → Prop}
    {Good : AppendReport → Journal ε μ → World → Prop}
    (h : (appendMessage (statusMessage seq journal.started world.now).encode).Ensures journal world
      Halts Bad fun record journal' added => ∀ notices,
        Good ⟨seq, statusMessage seq journal.started world.now, record⟩ journal'
          { added with notices }) :
    (appendNumbered seq).Ensures journal world Halts Bad Good := by
  refine Attempt.Ensures.step rfl ?_
  refine Attempt.Ensures.step rfl ?_
  refine Attempt.Ensures.bind h fun record journal' added hadded => ?_
  refine Attempt.Ensures.step rfl ?_
  exact Attempt.Ensures.pure (hadded _)

/-- Its number is in the message and in the report. -/
theorem appendNumbered_ensures {seq : UInt32}
    {Bad : LogError → Journal ε μ → World → Prop}
    {Good : AppendReport → Journal ε μ → World → Prop}
    (h : ∀ plaintext, (appendMessage plaintext).Ensures journal world Halts Bad
      fun record journal' added => ∀ message notices, message.seq = seq →
        Good ⟨seq, message, record⟩ journal' { added with notices }) :
    (appendNumbered seq).Ensures journal world Halts Bad Good :=
  appendNumbered_of_message
    ((h _).mono (fun _ _ _ hbad => hbad) fun _ _ _ hadded notices => hadded _ notices rfl)

/-- A message that would fit is not added in a block that cannot be made. -/
theorem appendMessage_of_huge {plaintext : Bytes}
    (hfits : plaintext.length ≤ journal.sealer.blockLen)
    (hhuge : Sealer.capacityMax < journal.sealer.blockLen) :
    (appendMessage plaintext : Attempt (Journal ε μ) LogError Record).run journal world
      = .error .capacityOverflow := by
  have hstops : (appendMessage plaintext : Attempt (Journal ε μ) LogError Record).Ensures journal
      world (· = .capacityOverflow) (fun _ _ _ => False) fun _ _ _ => False :=
    appendMessage_stores (Act.Ensures.of_halt (Sealer.encryptMessage_of_huge hfits hhuge) rfl)
  exact hstops.run_of_never

/-- The number of a status entry is taken first. -/
theorem appendStatus_eq (journal : Journal ε μ) (world : World) :
    appendStatus.run journal world
      = (appendNumbered (journal.sequence.current + 1)).run
          { journal with sequence := ⟨journal.sequence.current + 1⟩ } world :=
  Attempt.bind_of_ok rfl

/-- Nor is a status entry, which always fits in such a block. -/
theorem appendStatus_of_huge (hhuge : Sealer.capacityMax < journal.sealer.blockLen) :
    (appendStatus : Attempt (Journal ε μ) LogError AppendReport).run journal world
      = .error .capacityOverflow := by
  rw [appendStatus_eq]
  have hfits : ∀ message : StatusMessage, message.encode.length ≤ journal.sealer.blockLen := by
    intro message
    have hlen := message.length_encode_le
    rw [Sealer.capacityMax] at hhuge
    omega
  refine (Attempt.bind_of_ok rfl).trans ((Attempt.bind_of_ok rfl).trans ?_)
  exact Act.bind_of_error (appendMessage_of_huge (hfits _) hhuge)

theorem appendStatus_ensures {Bad : LogError → Journal ε μ → World → Prop}
    {Good : AppendReport → Journal ε μ → World → Prop}
    (h : (appendNumbered (journal.sequence.current + 1)).Ensures
      { journal with sequence := ⟨journal.sequence.current + 1⟩ } world Halts Bad Good) :
    appendStatus.Ensures journal world Halts Bad Good :=
  Act.Ensures.congr (appendStatus_eq journal world) h

end

/-! ## In memory -/

variable {journal : Journal ε Memory} {world : World} {Halts : Halt → Prop}

/-- The journal with one more record in its log. -/
def withRecord (journal : Journal ε Memory) (record : Record) : Journal ε Memory :=
  { journal with
    store := { journal.store with medium := journal.store.medium.append record.toBytes } }

/-- A message that was sealed is added, if the record has the right length. -/
theorem appendMessage_ensures {plaintext : Bytes} {Bad : LogError → Journal ε Memory → World → Prop}
    {Good : Record → Journal ε Memory → World → Prop}
    (h : (journal.sealer.encryptMessage plaintext).Ensures journal.gateway world Halts
      (fun source gateway => Bad (.cipher source) (journal.withGateway gateway))
      fun record gateway world => record.toBytes.length = journal.store.recordLen ∧
        Good record ((journal.withGateway gateway).withRecord record) world) :
    (appendMessage plaintext).Ensures journal world Halts Bad Good := by
  refine appendMessage_stores (h.mono (fun _ _ _ hbad => hbad) ?_)
  rintro record gateway sealed ⟨hlen, hgood⟩
  change record.toBytes.length = (journal.withGateway gateway).store.recordLen at hlen
  exact Attempt.Ensures.of_eq (onStore_eq (Store.append_eq hlen sealed)) hgood

theorem appendMessage_of_ok {plaintext : Bytes} {record : Record} {gateway : Gateway ε}
    {world' : World}
    (hsealed : (journal.sealer.encryptMessage plaintext).run journal.gateway world
      = .ok ((.ok record, gateway), world'))
    (hlen : record.toBytes.length = journal.store.recordLen) :
    (appendMessage plaintext).run journal world
      = .ok ((.ok record, (journal.withGateway gateway).withRecord record), world') := by
  have hadded : (appendMessage plaintext).Ensures journal world (fun _ => False)
      (fun _ _ _ => False) fun found last around => found = record ∧
        last = (journal.withGateway gateway).withRecord record ∧ around = world' :=
    appendMessage_ensures (Attempt.Ensures.of_eq hsealed ⟨hlen, rfl, rfl, rfl⟩)
  obtain ⟨result, last, around, heq, hgood⟩ := hadded.exists_of_total
  cases result with
  | error error => exact hgood.elim
  | ok found =>
    obtain ⟨rfl, rfl, rfl⟩ := hgood
    exact heq

end SealedLog.Journal
