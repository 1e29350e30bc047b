import SealedLog.Medium

/-!
# A medium that fails on schedule

A log in memory whose calls move a limited number of bytes and fail by a list of faults. A fault
names the call it is for. The first fault for a call fires and is used up; for reads and writes
it fires only when its handle has moved so many bytes, and until then no call goes beyond them.
-/

namespace SealedLog

/-- The calls a fault can be for. -/
inductive MediumCall
  | openAppend
  | write
  | flush
  | truncate
  | openRead
  | read
  | size
deriving Repr, DecidableEq

/-- What a fault does when it fires. -/
inductive MediumFailure
  /-- The call moves nothing and does not fail. -/
  | nothing
  /-- A read or write asks to be made again; another call fails. -/
  | interruption (text : String)
  | failure (text : String)
deriving Repr, DecidableEq

namespace MediumFailure

/-- The failure as the result of a call that moves no bytes. -/
def error : MediumFailure → SystemError
  | nothing => .nothingWritten
  | interruption text | failure text => .reported text

/-- The failure as the result of a call that moves bytes. -/
def reply {α : Type} (none : α) : MediumFailure → Reply α
  | nothing => .moved none
  | interruption _ => .interrupted
  | failure text => .failed (.reported text)

end MediumFailure

/-- One fault to come. -/
structure MediumFault where
  call : MediumCall
  /-- Bytes that the handle has to move first. -/
  after : Nat := 0
  failure : MediumFailure
deriving Repr, DecidableEq

/-- A log in memory with faults to come. -/
structure Flaky where
  content : Option Bytes := some []
  faults : List MediumFault := []
  readLimit : Option Nat := none
  writeLimit : Option Nat := none
deriving Repr, DecidableEq

namespace Flaky

/-- The first fault for a call, and the faults without it. -/
def take (call : MediumCall) : List MediumFault → Option (MediumFault × List MediumFault)
  | [] => none
  | fault :: more =>
    if fault.call = call then some (fault, more)
    else (take call more).map fun (found, rest) => (found, fault :: rest)

theorem length_of_take {call : MediumCall} {faults rest : List MediumFault}
    {fault : MediumFault} (h : take call faults = some (fault, rest)) :
    rest.length < faults.length := by
  induction faults generalizing rest fault with
  | nil => simp [take] at h
  | cons first more ih =>
    unfold take at h
    split at h
    · simp only [Option.some.injEq, Prod.mk.injEq] at h
      simp [← h.2]
    · simp only [Option.map_eq_some_iff, Prod.mk.injEq] at h
      obtain ⟨⟨found, left⟩, hl, _, hr⟩ := h
      have := ih hl
      simp [← hr]
      omega

/-- How many bytes a call that is asked for `wanted` may move, if no fault fires now; the fault
that fires otherwise, and the faults left. -/
def allowance (faults : List MediumFault) (call : MediumCall) (limit : Option Nat)
    (moved wanted : Nat) : Except (MediumFault × List MediumFault) Nat :=
  let most := min wanted (limit.getD wanted)
  match take call faults with
  | none => .ok most
  | some (fault, rest) =>
    if fault.after ≤ moved then .error (fault, rest) else .ok (min most (fault.after - moved))

theorem length_of_allowance {faults rest : List MediumFault} {call : MediumCall}
    {limit : Option Nat} {moved wanted : Nat} {fault : MediumFault}
    (h : allowance faults call limit moved wanted = .error (fault, rest)) :
    rest.length < faults.length := by
  unfold allowance at h
  simp only at h
  split at h
  · simp at h
  · split at h
    · simp only [Except.error.injEq, Prod.mk.injEq] at h
      obtain ⟨rfl, rfl⟩ := h
      exact length_of_take (by assumption)
    · simp at h

/-- A call that moves no bytes: its result, unless a fault for it fires. -/
def answer {α : Type} (call : MediumCall) (result : α) (effect : Flaky → Flaky)
    (site : Site Flaky) : Except SystemError α × Site Flaky :=
  match take call site.medium.faults with
  | some (fault, rest) =>
    (.error fault.failure.error, { site with medium := { site.medium with faults := rest } })
  | none => (.ok result, { site with medium := effect site.medium })

/-- One write; the writer counts the bytes it has moved. -/
def write (moved : Nat) (bytes : Bytes) (site : Site Flaky) : (Reply Nat × Nat) × Site Flaky :=
  match allowance site.medium.faults .write site.medium.writeLimit moved bytes.length with
  | .error (fault, rest) =>
    ((fault.failure.reply 0, moved), { site with medium := { site.medium with faults := rest } })
  | .ok count =>
    ((.moved count, moved + count),
      { site with
        medium :=
          { site.medium with
            content := some (site.medium.content.getD [] ++ bytes.take count) } })

/-- What is left to read, and how many bytes were read. -/
structure Reader where
  rest : Bytes
  moved : Nat := 0
deriving Repr, DecidableEq

/-- One read. -/
def read (reader : Reader) (limit : Nat) (site : Site Flaky) :
    (Reply Bytes × Reader) × Site Flaky :=
  match allowance site.medium.faults .read site.medium.readLimit reader.moved limit with
  | .error (fault, rest) =>
    ((fault.failure.reply [], reader), { site with medium := { site.medium with faults := rest } })
  | .ok count =>
    ((.moved (reader.rest.take count),
      ⟨reader.rest.drop count, reader.moved + (reader.rest.take count).length⟩), site)

instance : Medium Flaky where
  Reader := Reader
  Writer := Nat
  describe _ := "flaky"
  openAppend := answer .openAppend 0 fun flaky =>
    { flaky with content := some (flaky.content.getD []) }
  write := write
  flush _ := answer .flush () id
  truncate := answer .truncate () fun flaky => { flaky with content := some [] }
  openRead site :=
    answer .openRead (site.medium.content.map fun content => (⟨content, 0⟩ : Reader)) id site
  read := read
  size site := answer .size (site.medium.content.map List.length) id site
  patience _ site := site.medium.faults.length
  remaining reader site := reader.rest.length + site.medium.faults.length
  patience_lt := by
    intro moved bytes site h
    unfold write at h ⊢
    split at h
    · rename_i fault rest hf
      exact length_of_allowance hf
    · simp at h
  remaining_le := by
    intro reader limit site
    unfold read
    split
    · rename_i fault rest hf
      have := length_of_allowance hf
      simp only
      omega
    · simp
  remaining_lt := by
    intro reader limit site h
    unfold read at h ⊢
    split at h
    · rename_i fault rest hf
      have := length_of_allowance hf
      simp only
      omega
    · simp [Reply.advances] at h
      have := List.length_pos_iff.mpr h.2
      have := h.1
      simp only [List.length_drop]
      omega

end Flaky

end SealedLog
