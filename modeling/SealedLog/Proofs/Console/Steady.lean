import SealedLog.Proofs.Console.Lockstep

/-!
# What lasts through a session

On a page that takes everything no command ends in an error. Whatever is asked for, and whatever
fails, status entries are counted, and records have the same length.

- `OperatorCommand.ofByte_eq_append` and the others: which bytes ask for what.
- `Journal.Steady`, `Console.Steady`: how far a journal has come with its status entries, and the
  length of its records.
- `Console.obey_steady`: one command; `Console.obeyAll_steady` is about all commands of an input.
-/

namespace SealedLog

variable {ε μ α error : Type}

/-! ## Bytes -/

/-- What holds of the bytes by their numbers holds of all bytes. -/
theorem forall_byte {P : UInt8 → Prop} (h : ∀ n : Fin 256, P (.ofFin n)) (byte : UInt8) : P byte :=
  h byte.toFin

/-- The bytes that add a status entry. -/
theorem OperatorCommand.ofByte_eq_append : ∀ byte,
    OperatorCommand.ofByte byte = .append ↔ byte ∈ utf8 "aA1" :=
  forall_byte (by decide +kernel)

/-- The bytes that empty the log. -/
theorem OperatorCommand.ofByte_eq_clear : ∀ byte,
    OperatorCommand.ofByte byte = .clear ↔ byte ∈ utf8 "cC2" :=
  forall_byte (by decide +kernel)

/-- The ends of lines. -/
theorem OperatorCommand.ofByte_eq_ignore : ∀ byte,
    OperatorCommand.ofByte byte = .ignore ↔ byte ∈ utf8 "\r\n" :=
  forall_byte (by decide +kernel)

/-! ## What lasts -/

variable [Medium μ]

namespace Store

variable {store : Store μ} {world : World} {recordLen : Nat}

/-- However an attempt ends, records have this length. -/
def KeepsLength (recordLen : Nat) (attempt : Attempt (Store μ) StoreError α) : Prop :=
  ∀ {store : Store μ} {world : World}, store.recordLen = recordLen →
    attempt.Ensures store world (fun _ => True) (fun _ store' _ => store'.recordLen = recordLen)
      fun _ store' _ => store'.recordLen = recordLen

theorem trying_keepsLength (step : Site μ → Except SystemError α × Site μ)
    (error : String → SystemError → StoreError) : KeepsLength recordLen (trying step error) := by
  intro store world h
  refine Attempt.Ensures.of_eq (trying_eq step error store world) ?_
  cases (step ⟨store.medium, world.files⟩).1 with
  | error source => exact h
  | ok a => exact h

theorem append_keepsLength (record : Record) :
    KeepsLength recordLen (append record : Attempt (Store μ) _ _) := by
  intro store world h
  refine Attempt.Ensures.step rfl ?_
  split
  · exact Attempt.Ensures.throw h
  · exact (trying_keepsLength _ _ h).bind fun _ _ _ h => trying_keepsLength _ _ h

theorem clear_keepsLength : KeepsLength recordLen (clear : Attempt (Store μ) _ _) := by
  intro store world h
  refine (trying_keepsLength _ _ h).bind fun _ store' world' h => ?_
  refine Attempt.Ensures.step rfl ?_
  exact Attempt.Ensures.lift (Act.Ensures.of_eq rfl h)

theorem dump_keepsLength : KeepsLength recordLen (dump : Attempt (Store μ) _ _) := by
  intro store world h
  refine Attempt.Ensures.step rfl ?_
  refine (trying_keepsLength _ _ h).bind fun reader store' world' h => ?_
  cases reader with
  | none => exact Attempt.Ensures.pure h
  | some reader => exact Attempt.Ensures.pure h

end Store

namespace Journal

variable {journal : Journal ε μ} {world : World} {recordLen : Nat} {seq : UInt32}

/-- The journal has records of this length, and has got so far with its status entries. -/
structure Steady (recordLen : Nat) (seq : UInt32) (journal : Journal ε μ) : Prop where
  recordLen : journal.store.recordLen = recordLen
  sequence : journal.sequence.current = seq

omit [Medium μ] in
theorem onStore_steady {attempt : Attempt (Store μ) StoreError α}
    (hkeeps : Store.KeepsLength recordLen attempt) (h : journal.Steady recordLen seq) :
    (onStore attempt).Ensures journal world (fun _ => True)
      (fun _ journal' _ => journal'.Steady recordLen seq)
      fun _ journal' _ => journal'.Steady recordLen seq :=
  Attempt.Ensures.orElseAs (Attempt.Ensures.within ((hkeeps h.recordLen).mono
    (fun _ _ _ hlen => ⟨hlen, h.sequence⟩) fun _ _ _ hlen => ⟨hlen, h.sequence⟩))

variable [Element ε]

theorem appendMessage_steady (plaintext : Bytes) (h : journal.Steady recordLen seq) :
    (appendMessage plaintext).Ensures journal world (fun _ => True)
      (fun _ journal' _ => journal'.Steady recordLen seq)
      fun _ journal' _ => journal'.Steady recordLen seq := by
  refine appendMessage_stores (Attempt.Ensures.anyhow.mono ?_ ?_)
  · exact fun _ _ _ _ => ⟨h.recordLen, h.sequence⟩
  · exact fun record gateway world _ =>
      onStore_steady (Store.append_keepsLength record) ⟨h.recordLen, h.sequence⟩

/-- A status entry is counted, whether it can be added or not. -/
theorem appendStatus_steady (h : journal.Steady recordLen seq) :
    appendStatus.Ensures journal world (fun _ => True)
      (fun _ journal' _ => journal'.Steady recordLen (seq + 1))
      fun _ journal' _ => journal'.Steady recordLen (seq + 1) := by
  refine appendStatus_ensures (appendNumbered_ensures fun plaintext => ?_)
  have hnext : Steady recordLen (seq + 1)
      { journal with sequence := ⟨journal.sequence.current + 1⟩ } :=
    ⟨h.recordLen, congrArg (· + 1) h.sequence⟩
  refine (appendMessage_steady plaintext hnext).mono (fun _ _ _ h => h) ?_
  exact fun _ _ _ h _ _ _ => h

end Journal

namespace Console

variable {console : Console ε μ Page} {world : World} {recordLen : Nat} {seq : UInt32}

/-- The journal is steady, and the page takes everything. -/
structure Steady (recordLen : Nat) (seq : UInt32) (console : Console ε μ Page) : Prop where
  journal : console.journal.Steady recordLen seq
  endless : console.screen.capacity = none

omit [Medium μ] in
theorem onJournal_steady {attempt : Attempt (Journal ε μ) error α} {seq' : UInt32}
    (hattempt : attempt.Ensures console.journal world (fun _ => True)
      (fun _ journal' _ => journal'.Steady recordLen seq')
      fun _ journal' _ => journal'.Steady recordLen seq')
    (h : console.Steady recordLen seq) :
    (onJournal attempt).Ensures console world (fun _ => True)
      (fun _ console' _ => console'.Steady recordLen seq')
      fun _ console' _ => console'.Steady recordLen seq' :=
  Attempt.Ensures.within (hattempt.mono (fun _ _ _ hjournal => ⟨hjournal, h.endless⟩)
    fun _ _ _ hjournal => ⟨hjournal, h.endless⟩)

omit [Medium μ] in
theorem onScreen_steady {text : String} {step : Page → Except SystemError Unit × Page}
    (hadds : Page.Adds text step) (h : console.Steady recordLen seq) :
    (onScreen step).Ensures console world (fun _ => True) (fun _ _ _ => False)
      fun _ console' _ => console'.Steady recordLen seq :=
  Attempt.Ensures.of_eq (onScreen_of_endless h.endless hadds world) ⟨h.journal, h.endless⟩

theorem printItems_steady (limit total : Nat) (dump : HexDump (Medium.Reader μ))
    (h : console.Steady recordLen seq) :
    (printItems limit total dump).Ensures console world (fun _ => True)
      (fun _ console' _ => console'.Steady recordLen seq)
      fun _ console' _ => console'.Steady recordLen seq := by
  induction limit generalizing total dump console world with
  | zero => exact Attempt.Ensures.pure h
  | succ limit ih =>
    have hitem : Act.Ensures (nextItem dump) console world (fun _ => True)
        fun _ console' _ => console'.Steady recordLen seq :=
      Act.Ensures.of_eq rfl ⟨⟨h.journal.recordLen, h.journal.sequence⟩, h.endless⟩
    refine (Attempt.Ensures.lift hitem).bind ?_
    rintro ⟨item, later⟩ console world h
    rcases item with _ | error | chunk
    · exact Attempt.Ensures.pure h
    · exact Attempt.Ensures.throw h
    · refine ((onScreen_steady (Page.write_adds _) h).mono (fun _ _ _ h => h.elim)
        fun _ _ _ h => h).bind ?_
      exact fun _ _ _ h => ih _ later h

theorem printLog_steady (h : console.Steady recordLen seq) :
    printLog.Ensures console world (fun _ => True)
      (fun _ console' _ => console'.Steady recordLen seq)
      fun _ console' _ => console'.Steady recordLen seq := by
  refine (Attempt.Ensures.orElseAs (onJournal_steady (Journal.onStore_steady Store.dump_keepsLength
    h.journal) h)).bind ?_
  intro dump console world h
  split
  · exact Attempt.Ensures.of_eq rfl h
  · refine Attempt.Ensures.step rfl ?_
    refine (printItems_steady _ 0 dump h).bind fun total console world h => ?_
    refine ((onScreen_steady Page.flush_adds h).mono (fun _ _ _ h => h.elim)
      fun _ _ _ h => h).bind fun _ console world h => ?_
    refine Attempt.Ensures.step rfl ?_
    dsimp only
    split
    · exact Act.Ensures.of_halt rfl trivial
    · exact Attempt.Ensures.of_eq rfl h

variable [Element ε]

/-- The number of status entries that a byte asks for. -/
def entries (byte : UInt8) : UInt32 := if byte ∈ utf8 "aA1" then 1 else 0

/-- A command never ends in an error, and it is counted if it asks for a status entry. -/
theorem obey_steady (byte : UInt8) (h : console.Steady recordLen seq) :
    (obey byte).Ensures console world (fun _ => True) (fun _ _ _ => False)
      fun _ console' _ => console'.Steady recordLen (seq + entries byte) := by
  have hentries : OperatorCommand.ofByte byte ≠ .append → seq + entries byte = seq := by
    intro hother
    rw [entries, if_neg (fun hmem => hother ((OperatorCommand.ofByte_eq_append byte).mpr hmem))]
    exact UInt32.add_zero seq
  rw [obey]
  cases hcommand : OperatorCommand.ofByte byte with
  | append =>
    rw [entries, if_pos ((OperatorCommand.ofByte_eq_append byte).mp hcommand)]
    refine (Attempt.Ensures.caught (onJournal_steady (Journal.appendStatus_steady h.journal)
      h)).bind fun result console world h => ?_
    cases result with
    | ok report => exact Attempt.Ensures.of_eq rfl h
    | error error => exact Attempt.Ensures.of_eq rfl h
  | clear =>
    rw [hentries (by rw [hcommand]; exact OperatorCommand.noConfusion)]
    refine (Attempt.Ensures.caught (onJournal_steady (Journal.onStore_steady Store.clear_keepsLength
      h.journal) h)).bind fun result console world h => ?_
    cases result with
    | ok _ => exact Attempt.Ensures.of_eq rfl h
    | error error => exact Attempt.Ensures.of_eq rfl h
  | print =>
    rw [hentries (by rw [hcommand]; exact OperatorCommand.noConfusion)]
    refine (Attempt.Ensures.caught (printLog_steady h)).bind fun result console world h => ?_
    cases result with
    | ok _ => exact Attempt.Ensures.of_eq rfl h
    | error error => exact Attempt.Ensures.of_eq rfl h
  | ignore =>
    rw [hentries (by rw [hcommand]; exact OperatorCommand.noConfusion)]
    exact Attempt.Ensures.pure h
  | unknown other =>
    rw [hentries (by rw [hcommand]; exact OperatorCommand.noConfusion)]
    refine Attempt.Ensures.step rfl ?_
    exact onScreen_steady (Page.tell_adds usageLines) h

/-- So it is with all commands of an input, by induction on it. -/
theorem obeyAll_steady (bytes : Bytes) (h : console.Steady recordLen seq) :
    (obeyAll bytes).Ensures console world (fun _ => True) (fun _ _ _ => False)
      fun _ console' _ => console'.Steady recordLen
        (seq + UInt32.ofNat (bytes.countP (· ∈ utf8 "aA1"))) := by
  induction bytes generalizing console world seq with
  | nil => exact Attempt.Ensures.pure (by simpa using h)
  | cons byte more ih =>
    have hcount : seq + UInt32.ofNat ((byte :: more).countP (· ∈ utf8 "aA1"))
        = seq + entries byte + UInt32.ofNat (more.countP (· ∈ utf8 "aA1")) := by
      rw [List.countP_cons, UInt32.ofNat_add, entries]
      split <;> simp_all [UInt32.add_assoc, UInt32.add_comm]
    rw [hcount]
    exact (obey_steady byte h).bind fun _ _ _ h => ih h

end Console

end SealedLog
