import SealedLog.Medium.Flaky
import SealedLog.Proofs.Medium.Faultless
import SealedLog.Proofs.Medium.Indifferent

/-!
# Readers that deliver a log

A reader brings a log in pieces of any size and asks now and then to be called again. In the end the
log is over for good, or a read fails. Who asks for a fixed number of bytes does not notice how the
bytes came.

- `Medium.Delivers ending rest reader site`: what a reader still brings, and how it ends.
- `Delivers.readUpTo`: what is read when so many bytes are wanted.
- `Delivers.readToEnd`, `Delivers.length_le_remaining`: all of it is read, and a reader knows how
  much that is.
- `Medium.Discloses`, `Medium.Measures`: a log with these bytes, for everyone who looks at it.
- `Flaky.Patient.delivers`, `Flaky.delivers_of_failure`: readers on schedule deliver.
-/

namespace SealedLog

namespace Medium

variable {μ : Type} [Medium μ] {reader : Reader μ} {site : Site μ}

/-! ## Delivering -/

/-- How a reader comes to an end. -/
inductive Ending
  /-- The log is over, for good. -/
  | exhausted
  /-- A read fails. -/
  | failed (error : SystemError)

/-- A reader and its site when it was asked for so many bytes each time. -/
def asked : List Nat → Reader μ → Site μ → Reader μ × Site μ
  | [], reader, site => (reader, site)
  | limit :: later, reader, site =>
    asked later (read reader limit site).1.2 (read reader limit site).2

/-- A read that brings nothing, and does not fail. -/
def Idle (reply : Reply Bytes) : Prop := reply = .moved [] ∨ reply = .interrupted

/-- Whatever the reader was asked for, it brings nothing more. -/
def Exhausted (reader : Reader μ) (site : Site μ) : Prop :=
  ∀ limits limit, Idle (read (asked limits reader site).1 limit (asked limits reader site).2).1.1

/-- The bytes that a read has brought. -/
def brought : Reply Bytes → Bytes
  | .moved bytes => bytes
  | .interrupted | .failed _ => []

/-- A reply of a reader with such bytes left: some of them, at most as many as were asked for, or the
request to call again; or the failure, when no bytes are left. -/
def Serves (ending : Ending) (rest : Bytes) (limit : Nat) : Reply Bytes → Prop
  | .moved bytes => bytes ≠ [] ∧ bytes.length ≤ limit ∧ bytes <+: rest
  | .interrupted => True
  | .failed error => rest = [] ∧ ending = .failed error

/-- However it is asked, the reader brings these bytes, and then it ends so. -/
inductive Delivers (ending : Ending) : Bytes → Reader μ → Site μ → Prop
  | spent {reader : Reader μ} {site : Site μ} :
      ending = .exhausted → Exhausted reader site → Delivers ending [] reader site
  | serving {rest : Bytes} {reader : Reader μ} {site : Site μ} :
      (∀ limit, 0 < limit → Serves ending rest limit (read reader limit site).1.1) →
      (∀ limit, 0 < limit → (∀ error, (read reader limit site).1.1 ≠ .failed error) →
        Delivers ending (rest.drop (brought (read reader limit site).1.1).length)
          (read reader limit site).1.2 (read reader limit site).2) →
      Delivers ending rest reader site

/-- A reader delivers if every reply is one of these: to call again, a first part of what is left, or
the failure at the end. -/
theorem Delivers.of_replies {ending : Ending} {rest : Bytes}
    (h : ∀ limit, 0 < limit →
      (∃ reader' site', read reader limit site = ((.interrupted, reader'), site') ∧
        Delivers ending rest reader' site') ∨
      (∃ part rest' reader' site', read reader limit site = ((.moved part, reader'), site') ∧
        rest = part ++ rest' ∧ part ≠ [] ∧ part.length ≤ limit ∧
        Delivers ending rest' reader' site') ∨
      ∃ error, (read reader limit site).1.1 = .failed error ∧ rest = [] ∧
        ending = .failed error) :
    Delivers ending rest reader site := by
  refine .serving (fun limit hlimit => ?_) fun limit hlimit hgoes => ?_
  · rcases h limit hlimit with ⟨reader', site', hread, -⟩ |
      ⟨part, rest', reader', site', hread, rfl, hne, hle, -⟩ | ⟨error, hread, hrest, hending⟩ <;>
      rw [hread]
    · trivial
    · exact ⟨hne, hle, List.prefix_append part rest'⟩
    · exact ⟨hrest, hending⟩
  · rcases h limit hlimit with ⟨reader', site', hread, hlater⟩ |
      ⟨part, rest', reader', site', hread, rfl, -, -, hlater⟩ | ⟨error, hread, -, -⟩
    · rw [hread]
      exact hlater
    · rw [hread]
      show Delivers ending ((part ++ rest').drop part.length) reader' site'
      rw [List.drop_left]
      exact hlater
    · exact absurd hread (hgoes error)

/-! ## Reading -/

/-- A log is over if no read brings anything, and it is so again after every read. -/
theorem Exhausted.of_invariant (Over : Reader μ → Site μ → Prop) (hover : Over reader site)
    (hread : ∀ reader site limit, Over reader site →
      Idle (read reader limit site).1.1 ∧
        Over (read reader limit site).1.2 (read reader limit site).2) :
    Exhausted reader site := by
  intro limits
  induction limits generalizing reader site with
  | nil => exact fun limit => (hread reader site limit hover).1
  | cons limit later ih => exact ih (hread reader site limit hover).2

theorem Exhausted.read (h : Exhausted reader site) (limit : Nat) :
    Exhausted (read reader limit site).1.2 (read reader limit site).2 :=
  fun limits => h (limit :: limits)

/-- From a log that is over nothing is read, and it stays over. -/
theorem Exhausted.readUpTo (h : Exhausted reader site) (want : Nat) :
    ∃ reader' site', Medium.readUpTo want reader site = ((.ok [], reader'), site') ∧
      Exhausted reader' site' := by
  fun_induction Medium.readUpTo want reader site with
  | case1 reader site => exact ⟨reader, site, rfl, h⟩
  | case2 want reader site hwant called error hreply =>
    rcases h [] want with hmoved | hinterrupted
    · cases hreply.symm.trans hmoved
    · cases hreply.symm.trans hinterrupted
  | case3 want reader site hwant called hreply ih => exact ih (h.read want)
  | case4 want reader site hwant called hreply => exact ⟨_, _, rfl, h.read want⟩
  | case5 want reader site hwant called bytes hreply hbytes =>
    rcases h [] want with hmoved | hinterrupted
    · cases hreply.symm.trans hmoved
      exact absurd rfl hbytes
    · cases hreply.symm.trans hinterrupted

/-- Nor is anything read to the end. -/
theorem Exhausted.readToEnd (h : Exhausted reader site) :
    ∃ site', Medium.readToEnd reader site = (.ok [], site') := by
  fun_induction Medium.readToEnd reader site with
  | case1 reader site called error hreply =>
    rcases h [] 32 with hmoved | hinterrupted
    · cases hreply.symm.trans hmoved
    · cases hreply.symm.trans hinterrupted
  | case2 reader site called hreply ih => exact ih (h.read 32)
  | case3 reader site called hreply => exact ⟨_, rfl⟩
  | case4 reader site called bytes hreply hbytes =>
    rcases h [] 32 with hmoved | hinterrupted
    · cases hreply.symm.trans hmoved
      exact absurd rfl hbytes
    · cases hreply.symm.trans hinterrupted

/-- As many bytes are read as are wanted, or all that are left when the log is over. If the reader
fails before that, none are. By induction on how the bytes are brought. -/
theorem Delivers.readUpTo {ending : Ending} {rest : Bytes} (h : Delivers ending rest reader site)
    (want : Nat) :
    ((want ≤ rest.length ∨ ending = .exhausted) ∧ ∃ reader' site',
      Medium.readUpTo want reader site = ((.ok (rest.take want), reader'), site') ∧
      Delivers ending (rest.drop want) reader' site') ∨
    ∃ error reader' site', ending = .failed error ∧ rest.length < want ∧
      Medium.readUpTo want reader site = ((.error error, reader'), site') := by
  induction h generalizing want with
  | spent hending hexhausted =>
    obtain ⟨reader', site', hread, hstays⟩ := hexhausted.readUpTo want
    rw [List.take_nil, List.drop_nil]
    exact .inl ⟨.inr hending, reader', site', hread, .spent hending hstays⟩
  | @serving rest reader site hserves hlater ih =>
    by_cases hwant : want = 0
    · refine .inl ⟨.inl (hwant ▸ Nat.zero_le _), reader, site, ?_, ?_⟩
      · rw [hwant, Medium.readUpTo, if_pos rfl, List.take_zero]
      · rw [hwant, List.drop_zero]
        exact .serving hserves hlater
    · have hpos : 0 < want := Nat.pos_of_ne_zero hwant
      have hserved := hserves want hpos
      have hnext := ih want hpos
      rw [readUpTo_step site hwant reader]
      generalize read reader want site = called at hserved hnext ⊢
      rcases called with ⟨⟨reply, reader'⟩, site'⟩
      cases reply with
      | failed error =>
        obtain ⟨rfl, hending⟩ := hserved
        exact .inr ⟨error, reader', site', hending, hpos, rfl⟩
      | interrupted => exact hnext (by rintro _ ⟨⟩) want
      | moved bytes =>
        obtain ⟨hne, hle, rest', rfl⟩ := hserved
        have hnext := hnext (by rintro _ ⟨⟩) (want - bytes.length)
        simp only [brought, List.drop_left] at hnext
        dsimp only
        rw [if_neg hne]
        rcases hnext with ⟨hgood, last, around, hread, hdelivers⟩ |
          ⟨error, last, around, hending, hshort, hread⟩
        · refine .inl ⟨hgood.imp_left fun hle => ?_, last, around, ?_, ?_⟩
          · rw [List.length_append]
            omega
          · rw [hread, List.take_append, List.take_of_length_le hle]
            rfl
          · rw [List.drop_append, List.drop_of_length_le hle]
            exact hdelivers
        · refine .inr ⟨error, last, around, hending, ?_, ?_⟩
          · rw [List.length_append]
            omega
          · rw [hread]
            rfl

/-- A log that is brought to its end is read as a whole. By induction on how the bytes are
brought. -/
theorem Delivers.readToEnd {rest : Bytes} (h : Delivers .exhausted rest reader site) :
    ∃ site', Medium.readToEnd reader site = (.ok rest, site') := by
  induction h with
  | spent _ hexhausted => exact hexhausted.readToEnd
  | @serving rest reader site hserves _ ih =>
    have hserved := hserves 32 (by decide)
    have hlater := ih 32 (by decide)
    rw [readToEnd_step site reader]
    generalize read reader 32 site = called at hserved hlater ⊢
    rcases called with ⟨⟨reply, reader'⟩, site'⟩
    cases reply with
    | failed error => cases hserved.2
    | interrupted => exact hlater nofun
    | moved bytes =>
      obtain ⟨hne, -, rest', rfl⟩ := hserved
      obtain ⟨last, hread⟩ := hlater nofun
      simp only [brought, List.drop_left] at hread
      refine ⟨last, ?_⟩
      dsimp only
      rw [if_neg hne, hread]
      rfl

/-- A reader that brings a log to its end knows of every byte that it has left. -/
theorem Delivers.length_le_remaining {ending : Ending} {rest : Bytes}
    (h : Delivers ending rest reader site) (hending : ending = .exhausted) :
    rest.length ≤ remaining reader site := by
  induction h with
  | spent _ _ => exact Nat.zero_le _
  | @serving rest reader site hserves _ ih =>
    -- Asked for a single byte, it brings that one, or it was interrupted.
    have hserved := hserves 1 Nat.one_pos
    have hlater := ih 1 Nat.one_pos
    have hfewer := remaining_lt reader 1 site
    cases hreply : (read reader 1 site).1.1 with
    | failed error =>
      rw [hreply, hending] at hserved
      cases hserved.2
    | interrupted =>
      rw [hreply] at hlater hfewer
      exact Nat.le_trans (hlater nofun) (Nat.le_of_lt (hfewer rfl))
    | moved bytes =>
      rw [hreply] at hserved hlater hfewer
      obtain ⟨hne, hle, -⟩ := hserved
      have hlater : rest.length - bytes.length ≤ _ := List.length_drop ▸ hlater nofun
      have hfewer := hfewer (by simpa [Reply.advances] using hne)
      omega

/-! ## Logs that can be read -/

/-- The log has these bytes for everyone who reads it: it is opened, and its reader brings them and
then no more, in whatever pieces. Without bytes, it is not there. -/
def Discloses (site : Site μ) : Option Bytes → Prop
  | none => ∃ site', openRead site = (.ok none, site')
  | some bytes => ∃ reader site', openRead site = (.ok (some reader), site') ∧
      Delivers .exhausted bytes reader site'

/-- The length of the log is told as that of these bytes. -/
def Measures (site : Site μ) (content : Option Bytes) : Prop :=
  ∃ site', size site = (.ok (content.map List.length), site')

namespace Faultless

variable (laws : Faultless μ)

/-- While nothing goes wrong, a reader brings all that it has left. -/
theorem delivers (hcalm : laws.Calm site) (rest : Bytes) :
    Delivers .exhausted rest (laws.bring rest) site := by
  induction hlen : rest.length using Nat.strongRecOn generalizing rest with
  | ind len ih =>
    by_cases hrest : rest = []
    · subst hrest
      refine .spent rfl (Exhausted.of_invariant
        (fun reader around => reader = laws.bring [] ∧ laws.Calm around) ⟨rfl, hcalm⟩ ?_)
      rintro _ around limit ⟨rfl, hcalm⟩
      rw [laws.read_bring [] limit hcalm, List.take_nil, List.drop_nil]
      exact ⟨.inl rfl, rfl, hcalm⟩
    · have hpos := List.length_pos_iff.mpr hrest
      refine .of_replies fun limit hlimit => .inr (.inl ⟨_, rest.drop limit, _, _,
        laws.read_bring rest limit hcalm, (List.take_append_drop limit rest).symm, ?_, ?_, ?_⟩)
      · rw [Ne, List.take_eq_nil_iff]
        exact not_or.mpr ⟨Nat.ne_of_gt hlimit, hrest⟩
      · rw [List.length_take]
        exact Nat.min_le_left _ _
      · refine ih _ ?_ (rest.drop limit) rfl
        rw [List.length_drop]
        omega

/-- The bytes of a log are those that can be seen of it. -/
theorem discloses (hcalm : laws.Calm site) : Discloses site (laws.content site) := by
  obtain ⟨after, hopen, hstill, -⟩ := laws.openRead_calm hcalm
  cases hcontent : laws.content site with
  | none =>
    rw [hcontent] at hopen
    exact ⟨after, hopen⟩
  | some bytes =>
    rw [hcontent] at hopen
    exact ⟨laws.bring bytes, after, hopen, laws.delivers hstill bytes⟩

theorem measures (hcalm : laws.Calm site) : Measures site (laws.content site) := by
  obtain ⟨after, hsize, -⟩ := laws.size_calm hcalm
  exact ⟨after, hsize⟩

end Faultless

end Medium

/-! ## Readers on schedule -/

namespace Flaky

open Medium (Delivers Ending Exhausted)

theorem mem_of_take {call : MediumCall} {faults rest : List MediumFault} {fault : MediumFault}
    (h : take call faults = some (fault, rest)) :
    fault ∈ faults ∧ fault.call = call ∧ ∀ other ∈ rest, other ∈ faults := by
  induction faults generalizing rest fault with
  | nil => cases h
  | cons first more ih =>
    rw [take] at h
    split at h
    · rename_i hcall
      cases h
      exact ⟨List.mem_cons_self, hcall, fun other => List.mem_cons_of_mem first⟩
    · obtain ⟨⟨found, left⟩, hfound, heq⟩ := Option.map_eq_some_iff.mp h
      cases heq
      obtain ⟨hmem, hcall, hrest⟩ := ih hfound
      refine ⟨List.mem_cons_of_mem first hmem, hcall, fun other hother => ?_⟩
      rcases List.mem_cons.mp hother with rfl | hother
      · exact List.mem_cons_self
      · exact List.mem_cons_of_mem first (hrest other hother)

/-- Who asks for some bytes is not kept to none by the limit of a read. -/
theorem most_pos {readLimit : Option Nat} (hlimit : readLimit ≠ some 0) {limit : Nat}
    (hpos : 0 < limit) : 0 < min limit (readLimit.getD limit) := by
  cases readLimit with
  | none => simpa using hpos
  | some most =>
    have hne : most ≠ 0 := fun hzero => hlimit (congrArg some hzero)
    rw [Option.getD_some]
    omega

/-- Reads can be interrupted, but they do not fail, and each of them can bring something. -/
structure Patient (flaky : Flaky) : Prop where
  interrupted : ∀ fault ∈ flaky.faults, fault.call = .read →
    ∃ text, fault.failure = .interruption text
  limit : flaky.readLimit ≠ some 0

/-- So is a medium that is interrupted once. -/
theorem patient_of_interruption (content : Option Bytes) (after : Nat) (text : String)
    {readLimit : Option Nat} (hlimit : readLimit ≠ some 0) :
    Patient
      { content, readLimit, faults := [{ call := .read, after, failure := .interruption text }] }
    where
  interrupted _ hfault _ := ⟨text, List.mem_singleton.mp hfault ▸ rfl⟩
  limit := hlimit

variable {reader : Reader} {site : Site Flaky}

/-- A read is interrupted, or it brings some of what is left. -/
theorem Patient.read_cases (h : site.medium.Patient) (reader : Reader) (limit : Nat) :
    (∃ site', read reader limit site = ((.interrupted, reader), site') ∧ site'.medium.Patient ∧
      site'.medium.faults.length < site.medium.faults.length) ∨
    ∃ count, count ≤ limit ∧ (0 < limit → 0 < count) ∧ read reader limit site
      = ((.moved (reader.rest.take count),
          ⟨reader.rest.drop count, reader.moved + (reader.rest.take count).length⟩), site) := by
  rw [read, allowance]
  dsimp only
  cases htake : take .read site.medium.faults with
  | none => exact .inr ⟨_, Nat.min_le_left _ _, most_pos h.limit, rfl⟩
  | some found =>
    obtain ⟨fault, rest⟩ := found
    obtain ⟨hmem, hcall, hrest⟩ := mem_of_take htake
    obtain ⟨text, hfailure⟩ := h.interrupted fault hmem hcall
    dsimp only
    by_cases hafter : fault.after ≤ reader.moved
    · rw [if_pos hafter]
      dsimp only
      rw [hfailure]
      refine .inl ⟨_, rfl, ⟨fun other hother => ?_, h.limit⟩, length_of_take htake⟩
      exact h.interrupted other (hrest other hother)
    · rw [if_neg hafter]
      refine .inr ⟨_, ?_, fun hpos => ?_, rfl⟩
      · omega
      · have := most_pos h.limit hpos
        omega

/-- Where nothing is left, nothing is brought, however often one asks. -/
theorem Patient.exhausted (h : site.medium.Patient) (hrest : reader.rest = []) :
    Exhausted (μ := Flaky) reader site := by
  refine Exhausted.of_invariant (fun reader site => site.medium.Patient ∧ reader.rest = [])
    ⟨h, hrest⟩ ?_
  rintro reader site limit ⟨hpatient, hrest⟩
  show Medium.Idle (read reader limit site).1.1 ∧ (read reader limit site).2.medium.Patient ∧
    (read reader limit site).1.2.rest = []
  rcases hpatient.read_cases reader limit with ⟨site', hread, hlater, -⟩ | ⟨count, -, -, hread⟩ <;>
    rw [hread]
  · exact ⟨.inr rfl, hlater, hrest⟩
  · dsimp only
    rw [hrest, List.take_nil, List.drop_nil]
    exact ⟨.inl rfl, hpatient, rfl⟩

/-- A reader that is interrupted at most delivers the log. -/
theorem Patient.delivers (h : site.medium.Patient) (reader : Reader) :
    Delivers (μ := Flaky) .exhausted reader.rest reader site := by
  induction hlen : reader.rest.length + site.medium.faults.length using Nat.strongRecOn
    generalizing reader site with
  | ind len ih =>
    by_cases hrest : reader.rest = []
    · rw [hrest]
      exact .spent rfl (h.exhausted hrest)
    · have hpos := List.length_pos_iff.mpr hrest
      refine .of_replies fun limit hlimit => ?_
      rcases h.read_cases reader limit with ⟨site', hread, hlater, hfewer⟩ |
        ⟨count, hle, hcount, hread⟩
      · exact .inl ⟨reader, site', hread, ih _ (by omega) hlater reader rfl⟩
      · have hsome := hcount hlimit
        refine .inr (.inl ⟨_, reader.rest.drop count, _, _, hread,
          (List.take_append_drop count _).symm, ?_, ?_, ?_⟩)
        · rw [Ne, List.take_eq_nil_iff]
          exact not_or.mpr ⟨Nat.ne_of_gt hsome, hrest⟩
        · rw [List.length_take]
          omega
        · refine ih _ ?_ h ⟨reader.rest.drop count, _⟩ rfl
          rw [List.length_drop]
          omega

/-- A log is read as it is if it can be opened, and interrupted at most. -/
theorem Patient.discloses {flaky : Flaky} (h : flaky.Patient)
    (hopen : take .openRead flaky.faults = none) (files : Files) :
    Medium.Discloses ⟨flaky, files⟩ flaky.content := by
  have hopened : Medium.openRead (⟨flaky, files⟩ : Site Flaky)
      = (.ok (flaky.content.map fun content => (⟨content, 0⟩ : Reader)), ⟨flaky, files⟩) := by
    show answer _ _ _ _ = _
    rw [answer, hopen]
    rfl
  cases hcontent : flaky.content with
  | none => exact ⟨⟨flaky, files⟩, by rw [hopened, hcontent]; rfl⟩
  | some bytes =>
    have hpatient : (⟨flaky, files⟩ : Site Flaky).medium.Patient := h
    exact ⟨(⟨bytes, 0⟩ : Reader), ⟨flaky, files⟩, by rw [hopened, hcontent]; rfl,
      hpatient.delivers ⟨bytes, 0⟩⟩

/-- A reader whose first fault is a failure delivers what it moves until then. -/
theorem delivers_of_failure {fault : MediumFault} {later : List MediumFault} {text : String}
    (hfault : take .read site.medium.faults = some (fault, later))
    (hfailure : fault.failure = .failure text) (hlimit : site.medium.readLimit ≠ some 0)
    (reader : Reader) {count : Nat} (hafter : fault.after = reader.moved + count)
    (hcount : count ≤ reader.rest.length) :
    Delivers (μ := Flaky) (.failed (.reported text)) (reader.rest.take count) reader site := by
  induction count using Nat.strongRecOn generalizing reader with
  | ind count ih =>
    refine .of_replies fun limit hpos => ?_
    show _ ∨ _ ∨ ∃ error, (read reader limit site).1.1 = _ ∧ _
    by_cases hnow : count = 0
    · refine .inr (.inr ⟨.reported text, ?_, by rw [hnow, List.take_zero], rfl⟩)
      rw [read, allowance, hfault]
      dsimp only
      rw [if_pos (by omega)]
      dsimp only
      rw [hfailure]
      rfl
    · -- Before the fault is due, no read goes beyond it.
      have hmost := most_pos hlimit hpos
      let part := min (min limit (site.medium.readLimit.getD limit)) (fault.after - reader.moved)
      have hread : read reader limit site = ((.moved (reader.rest.take part),
          ⟨reader.rest.drop part, reader.moved + (reader.rest.take part).length⟩), site) := by
        rw [read, allowance, hfault]
        dsimp only
        rw [if_neg (by omega)]
      have hpart : part ≤ count := by omega
      have hlen : (reader.rest.take part).length = part := by
        rw [List.length_take]
        omega
      refine .inr (.inl ⟨_, (reader.rest.drop part).take (count - part), _, _, hread, ?_, ?_, ?_,
        ih (count - part) (by omega) ⟨reader.rest.drop part, _⟩ ?_ ?_⟩)
      · rw [← List.take_add, Nat.add_sub_cancel' hpart]
      · rw [Ne, ← List.length_eq_zero_iff, hlen]
        omega
      · rw [hlen]
        omega
      · dsimp only
        rw [hlen]
        omega
      · rw [List.length_drop]
        omega

end Flaky

end SealedLog
