import SealedLog.Proofs.Medium.Delivery
import SealedLog.Proofs.Store

/-!
# Dumps of a log

A dump asks its reader for thirty-two bytes at a time. It does not matter in which pieces the reader
brings them, nor how often it has to be called again: a dump shows the bytes in pieces of thirty-two,
the last of which can be shorter. A failure takes the place of the piece in which it falls. After
the end, or after a failure, there is nothing more to be had.

- `HexDump.after`, `HexDump.call`: a dump that is called any number of times.
- `HexDump.call_of_delivery`, `HexDump.call_of_failure`: what each call gives.
- `HexDump.all_of_delivery`: all pieces of a log.
- `Store.calls_of_dump`: the same of a dump as a store hands it out.
-/

namespace SealedLog

open Medium (Delivers Ending)

namespace HexDump

variable {μ : Type} [Medium μ] {dump : HexDump (Medium.Reader μ)} {reader : Medium.Reader μ}
  {site : Site μ} {target : String} {missing : Bool} {rest : Bytes}

/-! ## Calls -/

/-- A dump and its site when so many pieces were asked for. -/
def after : Nat → HexDump (Medium.Reader μ) → Site μ → HexDump (Medium.Reader μ) × Site μ
  | 0, dump, site => (dump, site)
  | count + 1, dump, site => after count (next dump site).1.2 (next dump site).2

/-- What a call gives that comes after so many others. -/
def call (index : Nat) (dump : HexDump (Medium.Reader μ)) (site : Site μ) :
    Option (Except StoreError HexChunk) :=
  (next (after index dump site).1 (after index dump site).2).1.1

theorem call_zero (dump : HexDump (Medium.Reader μ)) (site : Site μ) :
    call 0 dump site = (next dump site).1.1 := rfl

theorem call_succ (index : Nat) (dump : HexDump (Medium.Reader μ)) (site : Site μ) :
    call (index + 1) dump site = call index (next dump site).1.2 (next dump site).2 := rfl

/-- A dump that has come to its end gives nothing more. -/
theorem call_of_closed (h : dump.reader = none) (index : Nat) : call index dump site = none := by
  have hnext : next dump site = ((none, dump), site) := by rw [next, h]
  induction index with
  | zero => rw [call_zero, hnext]
  | succ index ih => rw [call_succ, hnext, ih]

/-- What is given by a call that ends the dump is the last of it. -/
theorem call_of_last {item : Option (Except StoreError HexChunk)}
    {closed : HexDump (Medium.Reader μ)} {site' : Site μ}
    (h : next dump site = ((item, closed), site')) (hclosed : closed.reader = none) (index : Nat) :
    call index dump site = if index = 0 then item else none := by
  cases index with
  | zero => rw [call_zero, h, if_pos rfl]
  | succ index => rw [call_succ, h, call_of_closed hclosed index, if_neg (Nat.succ_ne_zero index)]

/-! ## One call -/

/-- A whole piece is shown if there is one, and what is left otherwise if the log is over then. -/
theorem next_of_delivery {ending : Ending} (h : Delivers ending rest reader site)
    (hne : rest ≠ []) (hall : dumpChunkLen ≤ rest.length ∨ ending = .exhausted)
    (target : String) (offset : Nat) (missing : Bool) :
    ∃ reader' site', next ⟨some reader, target, offset, missing⟩ site
        = ((some (.ok ⟨offset, rest.take dumpChunkLen⟩),
            ⟨some reader', target, offset + (rest.take dumpChunkLen).length, missing⟩), site') ∧
      Delivers ending (rest.drop dumpChunkLen) reader' site' := by
  rcases h.readUpTo dumpChunkLen with ⟨-, reader', site', hread, hlater⟩ |
    ⟨error, reader', site', hending, hshort, -⟩
  · refine ⟨reader', site', ?_, hlater⟩
    have htake : rest.take dumpChunkLen ≠ [] := by simp [hne, dumpChunkLen]
    rw [next]
    simp only [hread]
    rw [if_neg htake]
  · rcases hall with hlen | hexhausted
    · omega
    · rw [hexhausted] at hending
      cases hending

/-- When the log is over, so is the dump. -/
theorem next_of_exhausted (h : Delivers .exhausted [] reader site) (target : String)
    (offset : Nat) (missing : Bool) :
    ∃ site', next ⟨some reader, target, offset, missing⟩ site
      = ((none, ⟨none, target, offset, missing⟩), site') := by
  rcases h.readUpTo dumpChunkLen with ⟨-, reader', site', hread, -⟩ |
    ⟨error, reader', site', hending, -, -⟩
  · refine ⟨site', ?_⟩
    rw [next]
    simp only [hread]
    rfl
  · cases hending

/-- A failure takes the place of the piece that it falls into. -/
theorem next_of_failure {error : SystemError} (h : Delivers (.failed error) rest reader site)
    (hshort : rest.length < dumpChunkLen) (target : String) (offset : Nat) (missing : Bool) :
    ∃ site', next ⟨some reader, target, offset, missing⟩ site
      = ((some (.error (.readFailed target error)), ⟨none, target, offset, missing⟩), site') := by
  rcases h.readUpTo dumpChunkLen with ⟨hlen | hexhausted, -⟩ |
    ⟨other, reader', site', hending, -, hread⟩
  · omega
  · cases hexhausted
  · cases hending
    refine ⟨site', ?_⟩
    rw [next]
    simp only [hread]

/-! ## All calls -/

/-- The bytes of a piece, counted from where the piece begins that comes before it. -/
theorem extract_drop (bytes : Bytes) (start stop : Nat) :
    (bytes.drop dumpChunkLen).extract start stop
      = bytes.extract (dumpChunkLen + start) (dumpChunkLen + stop) := by
  rw [List.extract_eq_take_drop, List.extract_eq_take_drop, List.drop_drop,
    Nat.add_sub_add_left]

/-- The piece of a log that comes after so many others, shown with so many bytes before the log. -/
def piece (offset index : Nat) (bytes : Bytes) : HexChunk :=
  ⟨offset + dumpChunkLen * index, bytes.extract (dumpChunkLen * index)
    (min (dumpChunkLen * index + dumpChunkLen) bytes.length)⟩

theorem piece_zero (offset : Nat) (bytes : Bytes) :
    piece offset 0 bytes = ⟨offset, bytes.take dumpChunkLen⟩ := by
  rw [piece, Nat.mul_zero, Nat.add_zero, Nat.zero_add, List.extract_eq_take_drop, List.drop_zero,
    Nat.sub_zero, ← List.take_take, List.take_length]

/-- Every other piece is a piece of what follows the first one. -/
theorem piece_succ {offset index : Nat} {bytes : Bytes} (h : dumpChunkLen ≤ bytes.length) :
    piece offset (index + 1) bytes
      = piece (offset + dumpChunkLen) index (bytes.drop dumpChunkLen) := by
  have hstart : dumpChunkLen * (index + 1) = dumpChunkLen + dumpChunkLen * index := by
    rw [Nat.mul_succ, Nat.add_comm]
  have hstop : min (dumpChunkLen * (index + 1) + dumpChunkLen) bytes.length
      = dumpChunkLen + min (dumpChunkLen * index + dumpChunkLen)
          (bytes.drop dumpChunkLen).length := by
    rw [List.length_drop]
    omega
  rw [piece, piece, extract_drop, hstop, hstart, Nat.add_assoc]

/-- A reader brings the log to its end: then the pieces are shown one after the other, and nothing
after them. By induction on what is left to bring, with the offset that was reached. -/
theorem call_of_delivery (h : Delivers .exhausted rest reader site) (offset index : Nat) :
    call index ⟨some reader, target, offset, missing⟩ site
      = if dumpChunkLen * index < rest.length then some (.ok (piece offset index rest))
        else none := by
  induction hlen : rest.length using Nat.strongRecOn generalizing rest reader site offset index with
  | ind len ih =>
    subst hlen
    by_cases hrest : rest = []
    · subst hrest
      obtain ⟨site', hnext⟩ := next_of_exhausted h target offset missing
      rw [call_of_last hnext rfl, List.length_nil, if_neg (Nat.not_lt_zero _), ite_self]
    · obtain ⟨reader', site', hnext, hlater⟩ :=
        next_of_delivery h hrest (.inr rfl) target offset missing
      have hpos : 0 < rest.length := List.length_pos_iff.mpr hrest
      cases index with
      | zero => rw [call_zero, hnext, piece_zero, Nat.mul_zero, if_pos hpos]
      | succ index =>
        have hfewer : (rest.drop dumpChunkLen).length < rest.length := by
          rw [List.length_drop]
          exact Nat.sub_lt hpos (by decide)
        have hmore : dumpChunkLen * index < (rest.drop dumpChunkLen).length
            ↔ dumpChunkLen * (index + 1) < rest.length := by
          rw [List.length_drop, Nat.mul_succ]
          omega
        rw [call_succ, hnext]
        dsimp only
        rw [ih _ hfewer hlater _ index rfl]
        simp only [hmore]
        split
        · rename_i hlt
          have hfull : dumpChunkLen ≤ rest.length := by
            rw [Nat.mul_succ] at hlt
            omega
          rw [piece_succ hfull, List.length_take, Nat.min_eq_left hfull]
        · rfl

/-- A reader fails: then the pieces are shown that are whole, the failure is told, and nothing comes
after it. -/
theorem call_of_failure {error : SystemError} (h : Delivers (.failed error) rest reader site)
    (offset index : Nat) :
    call index ⟨some reader, target, offset, missing⟩ site
      = if index < rest.length / dumpChunkLen then some (.ok (piece offset index rest))
        else if index = rest.length / dumpChunkLen then some (.error (.readFailed target error))
        else none := by
  induction hlen : rest.length using Nat.strongRecOn generalizing rest reader site offset index with
  | ind len ih =>
    subst hlen
    by_cases hshort : rest.length < dumpChunkLen
    · obtain ⟨site', hnext⟩ := next_of_failure h hshort target offset missing
      rw [call_of_last hnext rfl, Nat.div_eq_of_lt hshort, if_neg (Nat.not_lt_zero index)]
    · have hfull : dumpChunkLen ≤ rest.length := Nat.le_of_not_lt hshort
      have hpos : 0 < rest.length := Nat.lt_of_lt_of_le (by decide) hfull
      have hne : rest ≠ [] := List.length_pos_iff.mp hpos
      obtain ⟨reader', site', hnext, hlater⟩ :=
        next_of_delivery h hne (.inl hfull) target offset missing
      have hwhole : rest.length / dumpChunkLen
          = (rest.drop dumpChunkLen).length / dumpChunkLen + 1 := by
        rw [List.length_drop]
        exact Nat.div_eq_sub_div (by decide) hfull
      rw [hwhole]
      cases index with
      | zero => rw [call_zero, hnext, piece_zero, if_pos (Nat.succ_pos _)]
      | succ index =>
        have hfewer : (rest.drop dumpChunkLen).length < rest.length := by
          rw [List.length_drop]
          exact Nat.sub_lt hpos (by decide)
        rw [call_succ, hnext]
        dsimp only
        rw [ih _ hfewer hlater _ index rfl, piece_succ hfull, List.length_take,
          Nat.min_eq_left hfull]
        simp only [Nat.add_lt_add_iff_right, Nat.add_right_cancel_iff]

/-- All pieces of a log are had if there can be so many. By induction on how many there can be, with
the offset that was reached. -/
theorem items_of_delivery {limit : Nat} (h : Delivers .exhausted rest reader site)
    (hlimit : rest.length < limit) (target : String) (offset : Nat) (missing : Bool) :
    ∃ site', items limit ⟨some reader, target, offset, missing⟩ site
      = ((chunks offset rest).map .ok, site') := by
  induction limit generalizing rest reader site offset with
  | zero => exact absurd hlimit (Nat.not_lt_zero _)
  | succ limit ih =>
    rw [items, chunks]
    by_cases hrest : rest = []
    · subst hrest
      obtain ⟨site', hnext⟩ := next_of_exhausted h target offset missing
      rw [hnext, dif_pos rfl]
      exact ⟨site', rfl⟩
    · obtain ⟨reader', site', hnext, hlater⟩ :=
        next_of_delivery h hrest (.inr rfl) target offset missing
      have hfewer : (rest.drop dumpChunkLen).length < limit := by
        have hpos := List.length_pos_iff.mpr hrest
        rw [List.length_drop, dumpChunkLen]
        omega
      obtain ⟨last, hitems⟩ := ih hlater hfewer (offset + (rest.take dumpChunkLen).length)
      rw [hnext, dif_neg hrest]
      exact ⟨last, by simp only [hitems, List.map_cons]⟩

/-- There are never more pieces than a dump allows for. -/
theorem all_of_delivery (h : Delivers .exhausted rest reader site) (target : String)
    (offset : Nat) (missing : Bool) :
    ∃ site', all ⟨some reader, target, offset, missing⟩ site
      = ((chunks offset rest).map .ok, site') :=
  items_of_delivery h (Nat.lt_succ_of_le (h.length_le_remaining rfl)) target offset missing

/-- What the call that comes after so many others gives of a log that was brought so. -/
def shown (target : String) (content : Bytes) : Ending → Nat → Option (Except StoreError HexChunk)
  | .exhausted, index =>
    if index < (content.length + 31) / 32 then
      some (.ok ⟨32 * index,
        content.extract (32 * index) (min (32 * index + 32) content.length)⟩)
    else none
  | .failed error, index =>
    if index < content.length / 32 then
      some (.ok ⟨32 * index, content.extract (32 * index) (32 * index + 32)⟩)
    else if index = content.length / 32 then some (.error (.readFailed target error))
    else none

theorem call_eq_shown {ending : Ending} (h : Delivers ending rest reader site) (index : Nat) :
    call index ⟨some reader, target, 0, missing⟩ site = shown target rest ending index := by
  cases ending with
  | exhausted =>
    have hmore : index < (rest.length + 31) / 32 ↔ dumpChunkLen * index < rest.length := by
      rw [dumpChunkLen]
      omega
    rw [call_of_delivery h, shown]
    simp only [hmore, piece, Nat.zero_add, dumpChunkLen]
  | failed error =>
    rw [call_of_failure h, shown]
    -- A piece that is whole ends before the bytes do.
    have hwhole : index < rest.length / 32 → min (32 * index + 32) rest.length = 32 * index + 32 :=
      fun hlt => Nat.min_eq_left (by omega)
    simp only [piece, Nat.zero_add, dumpChunkLen]
    split
    · rename_i hlt
      rw [hwhole hlt]
    · rfl

end HexDump

namespace Store

variable {μ : Type} [Medium μ]

/-- A dump has the reader that the medium gives it, if there is a log, and starts at the first
byte. -/
theorem dump_cases {store store' : Store μ} {world world' : World}
    {dump : HexDump (Medium.Reader μ)}
    (h : Store.dump.run store world = .ok ((.ok dump, store'), world')) :
    dump = ⟨dump.reader, store.location, 0, dump.reader.isNone⟩ := by
  rcases hopen : Medium.openRead ⟨store.medium, world.files⟩ with ⟨error | found, site⟩
  · have htrying : (trying Medium.openRead .openFailed).run store world
        = .ok ((.error (.openFailed store.location error), { store with medium := site.medium }),
            { world with files := site.files }) := by
      rw [trying_eq, hopen]
      rfl
    have hfailed : Store.dump.run store world
        = .ok ((.error (.openFailed store.location error), { store with medium := site.medium }),
            { world with files := site.files }) :=
      (Attempt.bind_of_ok rfl).trans (Act.bind_of_ok htrying)
    cases hfailed.symm.trans h
  · cases (dump_of_opened hopen).symm.trans h
    rfl

/-- However its reader brings the log, a dump gives all of it in pieces of thirty-two bytes, the last
of which can be shorter, and nothing after them. If the reader fails, the dump gives the pieces that
are whole until then, the failure, and nothing after it. Where there is no log, it gives nothing. -/
theorem calls_of_dump {store store' : Store μ} {world world' : World}
    {dump : HexDump (Medium.Reader μ)}
    (hdump : Store.dump.run store world = .ok ((.ok dump, store'), world')) (index : Nat) :
    (dump.missing = true → dump.call index ⟨store'.medium, world'.files⟩ = none) ∧
    ∀ reader ending content, dump.reader = some reader →
      Delivers ending content reader ⟨store'.medium, world'.files⟩ →
      dump.missing = false ∧ dump.call index ⟨store'.medium, world'.files⟩
        = HexDump.shown store.location content ending index := by
  rw [dump_cases hdump]
  cases dump.reader with
  | none => exact ⟨fun _ => HexDump.call_of_closed rfl index, nofun⟩
  | some reader =>
    refine ⟨nofun, fun reader ending content hreader hdelivers => ?_⟩
    cases hreader
    exact ⟨rfl, HexDump.call_eq_shown hdelivers index⟩

/-- A log of seventy bytes that is read in pieces of at most five, with a fault on the way. -/
def choppy (fault : MediumFault) : Store Flaky where
  medium := { content := some (List.replicate 70 7), faults := [fault], readLimit := some 5 }

/-- After an interruption all of it is shown, in three pieces, the last of them with six bytes. If a
read fails after forty bytes, one piece is shown and then the failure. -/
theorem calls_of_choppy_dump :
    ∃ (interruption failure : MediumFault) (dump dump' : HexDump (Medium.Reader Flaky)),
      Store.dump.run (choppy interruption) {} = .ok ((.ok dump, choppy interruption), {}) ∧
      dump.call 2 ⟨(choppy interruption).medium, {}⟩ = some (.ok ⟨64, List.replicate 6 7⟩) ∧
      dump.call 3 ⟨(choppy interruption).medium, {}⟩ = none ∧
      Store.dump.run (choppy failure) {} = .ok ((.ok dump', choppy failure), {}) ∧
      dump'.call 0 ⟨(choppy failure).medium, {}⟩ = some (.ok ⟨0, List.replicate 32 7⟩) ∧
      dump'.call 1 ⟨(choppy failure).medium, {}⟩
        = some (.error (.readFailed "flaky" (.reported "gone"))) ∧
      dump'.call 2 ⟨(choppy failure).medium, {}⟩ = none := by
  let interruption : MediumFault := { call := .read, after := 7, failure := .interruption "again" }
  let failure : MediumFault := { call := .read, after := 40, failure := .failure "gone" }
  let reader : Flaky.Reader := ⟨List.replicate 70 7, 0⟩
  let site : Site Flaky := ⟨(choppy interruption).medium, {}⟩
  let site' : Site Flaky := ⟨(choppy failure).medium, {}⟩
  have hpatient : site.medium.Patient :=
    ⟨fun fault hfault _ => ⟨"again", List.mem_singleton.mp hfault ▸ rfl⟩, by decide⟩
  have hwhole : Delivers .exhausted (List.replicate 70 7) reader site := hpatient.delivers reader
  have hfault : Flaky.take .read site'.medium.faults = some (failure, []) := rfl
  have hafter : failure.after = reader.moved + 40 := rfl
  have hpart : Delivers (.failed (.reported "gone")) ((List.replicate 70 7).take 40) reader site' :=
    Flaky.delivers_of_failure hfault rfl (by decide) reader hafter (by decide)
  have hdump : Store.dump.run (choppy interruption) {}
      = .ok ((.ok ⟨some reader, "flaky", 0, false⟩, choppy interruption), {}) := rfl
  have hdump' : Store.dump.run (choppy failure) {}
      = .ok ((.ok ⟨some reader, "flaky", 0, false⟩, choppy failure), {}) := rfl
  have hcall := fun index => ((calls_of_dump hdump index).2 reader _ _ rfl hwhole).2
  have hcall' := fun index => ((calls_of_dump hdump' index).2 reader _ _ rfl hpart).2
  exact ⟨interruption, failure, _, _, hdump, (hcall 2).trans (by cbv), (hcall 3).trans (by cbv),
    hdump', (hcall' 0).trans (by cbv), (hcall' 1).trans (by cbv), (hcall' 2).trans (by cbv)⟩

end Store

end SealedLog
