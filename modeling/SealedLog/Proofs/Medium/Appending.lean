import SealedLog.Medium.Flaky
import SealedLog.Medium.Memory

/-!
# Media that are appended to

A writer takes its bytes in pieces and can fail between any two of them. What it has taken by then
stays on the medium.

- `Medium.Appending`: what can be relied on when a log grows at its end.
- `Medium.Appending.writeAll`: a first part of the bytes is taken, or all of them.
- `Memory.appending`, `Flaky.appending`: media that can be relied on so.
-/

namespace SealedLog

namespace Medium

/-- What a call that was replied to so has taken of some bytes. -/
def taken (bytes : Bytes) : Reply Nat → Bytes
  | .moved count => bytes.take count
  | .interrupted | .failed _ => []

/-- What can be relied on when a log grows at its end. -/
structure Appending (μ : Type) [Medium μ] where
  /-- The bytes of the log; none if there is no log. -/
  content : Site μ → Bytes
  /-- The writer was opened on the log, and nothing else has happened to the log since. -/
  Opened : Writer μ → Site μ → Prop
  content_openAppend : ∀ site, content (openAppend site).2 = content site
  opened_openAppend : ∀ {site writer}, (openAppend site).1 = .ok writer →
    Opened writer (openAppend site).2
  content_write : ∀ {writer bytes site}, Opened writer site →
    content (write writer bytes site).2
      = content site ++ taken bytes (write writer bytes site).1.1
  opened_write : ∀ {writer bytes site}, Opened writer site →
    Opened (write writer bytes site).1.2 (write writer bytes site).2
  content_flush : ∀ {writer site}, Opened writer site →
    content (flush writer site).2 = content site

variable {μ : Type} [Medium μ]

/-- However many calls it takes, a first part of the bytes is added to the log: all of them, or those
taken before a call failed. -/
theorem Appending.writeAll (laws : Appending μ) (writer : Writer μ) (bytes : Bytes)
    (site : Site μ) (h : laws.Opened writer site) :
    laws.Opened (writeAll writer bytes site).1.2 (writeAll writer bytes site).2 ∧
      ∃ part, part <+: bytes ∧
        laws.content (writeAll writer bytes site).2 = laws.content site ++ part ∧
        ((writeAll writer bytes site).1.1 = .ok () → part = bytes) := by
  fun_induction Medium.writeAll writer bytes site with
  | case1 writer site =>
    exact ⟨h, [], List.prefix_refl [], (List.append_nil _).symm, fun _ => rfl⟩
  | case2 writer bytes site hne called error hreply =>
    have hcontent : laws.content called.2 = laws.content site ++ taken bytes called.1.1 :=
      laws.content_write h
    rw [hreply] at hcontent
    exact ⟨laws.opened_write h, [], List.nil_prefix, hcontent, nofun⟩
  | case3 writer bytes site hne called hreply ih =>
    have hcontent : laws.content called.2 = laws.content site ++ taken bytes called.1.1 :=
      laws.content_write h
    rw [hreply, taken, List.append_nil] at hcontent
    obtain ⟨hopened, part, hpart, hlater, hall⟩ := ih (laws.opened_write h)
    exact ⟨hopened, part, hpart, by rw [hlater, hcontent], hall⟩
  | case4 writer bytes site hne called hreply =>
    have hcontent : laws.content called.2 = laws.content site ++ taken bytes called.1.1 :=
      laws.content_write h
    rw [hreply] at hcontent
    exact ⟨laws.opened_write h, [], List.nil_prefix, hcontent, nofun⟩
  | case5 writer bytes site hne called count hreply hcount ih =>
    have hcontent : laws.content called.2 = laws.content site ++ taken bytes called.1.1 :=
      laws.content_write h
    rw [hreply, taken] at hcontent
    obtain ⟨hopened, part, hpart, hlater, hall⟩ := ih (laws.opened_write h)
    -- What this call took comes before what the later ones take.
    refine ⟨hopened, bytes.take count ++ part, ?_, ?_, ?_⟩
    · have hfront := (List.prefix_append_right_inj (bytes.take count)).mpr hpart
      rwa [List.take_append_drop] at hfront
    · rw [hlater, hcontent, List.append_assoc]
    · intro hok
      rw [hall hok, List.take_append_drop]

end Medium

/-! ## Media -/

/-- Memory takes everything, and never fails. -/
def Memory.appending : Medium.Appending Memory where
  content site := site.medium.bytes
  Opened _ _ := True
  content_openAppend site := List.append_nil _
  opened_openAppend _ := trivial
  content_write {writer bytes site} _ := by
    show site.medium.bytes ++ bytes = site.medium.bytes ++ bytes.take bytes.length
    rw [List.take_length]
  opened_write _ := trivial
  content_flush _ := rfl

/-- A medium that fails on schedule has taken what it moved before. -/
def Flaky.appending : Medium.Appending Flaky where
  content site := site.medium.content.getD []
  Opened _ _ := True
  content_openAppend site := by
    show (Flaky.answer _ _ _ site).2.medium.content.getD [] = _
    rw [Flaky.answer]
    split <;> rfl
  opened_openAppend _ := trivial
  content_write {writer bytes site} _ := by
    show (Flaky.write writer bytes site).2.medium.content.getD []
      = _ ++ Medium.taken bytes (Flaky.write writer bytes site).1.1
    rw [Flaky.write]
    split
    · next fault rest _ =>
      cases hfailure : fault.failure <;> simp [MediumFailure.reply, Medium.taken]
    · rfl
  opened_write _ := trivial
  content_flush {writer site} _ := by
    show (Flaky.answer _ _ _ site).2.medium.content.getD [] = _
    rw [Flaky.answer]
    split <;> rfl

end SealedLog
