import SealedLog.Proofs.Medium.Appending
import SealedLog.Proofs.Medium.Faultless

/-!
# Media that are one of two

A medium that is one of two does what the one does that is there. So what can be relied on of both
can be relied on of it.

- `Medium.Appending.either`: a log that grows at its end, on one medium or the other.
- `Medium.Faultless.second`: a log without faults on the second medium.
- `Medium.writeAll_opened`: what every single write keeps.
-/

namespace SealedLog.Medium

variable {α β μ : Type} [Medium α] [Medium β] [Medium μ]

/-- A log on one of two media grows as it does on the one that is there. -/
def Appending.either (first : Appending α) (second : Appending β) : Appending (α ⊕ β) where
  content site :=
    match site.medium with
    | .inl medium => first.content ⟨medium, site.files⟩
    | .inr medium => second.content ⟨medium, site.files⟩
  Opened writer site :=
    match writer, site.medium with
    | .inl writer, .inl medium => first.Opened writer ⟨medium, site.files⟩
    | .inr writer, .inr medium => second.Opened writer ⟨medium, site.files⟩
    | _, _ => False
  content_openAppend := by
    rintro ⟨medium | medium, files⟩
    · exact first.content_openAppend ⟨medium, files⟩
    · exact second.content_openAppend ⟨medium, files⟩
  opened_openAppend := by
    rintro ⟨medium | medium, files⟩ writer h
    · change (openAppend (⟨medium, files⟩ : Site α)).1.map .inl = .ok writer at h
      cases hopen : (openAppend (⟨medium, files⟩ : Site α)).1 with
      | error error => rw [hopen] at h; cases h
      | ok writer' =>
        rw [hopen] at h
        obtain rfl := Except.ok.inj h
        exact first.opened_openAppend hopen
    · change (openAppend (⟨medium, files⟩ : Site β)).1.map .inr = .ok writer at h
      cases hopen : (openAppend (⟨medium, files⟩ : Site β)).1 with
      | error error => rw [hopen] at h; cases h
      | ok writer' =>
        rw [hopen] at h
        obtain rfl := Except.ok.inj h
        exact second.opened_openAppend hopen
  content_write := by
    rintro (writer | writer) bytes ⟨medium | medium, files⟩ h
    · exact first.content_write h
    · exact h.elim
    · exact h.elim
    · exact second.content_write h
  opened_write := by
    rintro (writer | writer) bytes ⟨medium | medium, files⟩ h
    · exact first.opened_write h
    · exact h.elim
    · exact h.elim
    · exact second.opened_write h
  content_flush := by
    rintro (writer | writer) ⟨medium | medium, files⟩ h
    · exact first.content_flush h
    · exact h.elim
    · exact h.elim
    · exact second.content_flush h

/-- A log without faults on the second of two media has none on the medium that is either. -/
def Faultless.second (laws : Faultless β) : Faultless (α ⊕ β) where
  content site :=
    match site.medium with
    | .inl _ => none
    | .inr medium => laws.content ⟨medium, site.files⟩
  removed site :=
    match site.medium with
    | .inl _ => site
    | .inr medium => Site.second (laws.removed ⟨medium, site.files⟩)
  Calm site :=
    match site.medium with
    | .inl _ => False
    | .inr medium => laws.Calm ⟨medium, site.files⟩
  Opened writer site :=
    match writer, site.medium with
    | .inr writer, .inr medium => laws.Opened writer ⟨medium, site.files⟩
    | _, _ => False
  bring rest := .inr (laws.bring rest)
  openAppend_calm := by
    rintro ⟨medium | medium, files⟩ h
    · exact h.elim
    · obtain ⟨writer, after, hopen, hafter⟩ := laws.openAppend_calm h
      exact ⟨.inr writer, Site.second after, by simp only [openAppend, hopen]; rfl, hafter⟩
  write_calm := by
    rintro (writer | writer) ⟨medium | medium, files⟩ old bytes h hopened hcontent
    · exact h.elim
    · exact hopened.elim
    · exact h.elim
    · obtain ⟨after, hwrite, hafter⟩ := laws.write_calm bytes h hopened hcontent
      exact ⟨Site.second after, by simp only [write, writeEither, hwrite], hafter⟩
  flush_calm := by
    rintro (writer | writer) ⟨medium | medium, files⟩ h hopened
    · exact h.elim
    · exact hopened.elim
    · exact h.elim
    · obtain ⟨after, hflush, hafter⟩ := laws.flush_calm h hopened
      exact ⟨Site.second after, by simp only [flush, hflush], hafter⟩
  truncate_calm := by
    rintro ⟨medium | medium, files⟩ h
    · exact h.elim
    · obtain ⟨after, htruncate, hafter⟩ := laws.truncate_calm h
      exact ⟨Site.second after, by simp only [truncate, htruncate], hafter⟩
  openRead_calm := by
    rintro ⟨medium | medium, files⟩ h
    · exact h.elim
    · obtain ⟨after, hopen, hcalm, hmedium, halike⟩ := laws.openRead_calm h
      refine ⟨Site.second after, ?_, hcalm, congrArg Sum.inr hmedium, halike⟩
      simp only [openRead, hopen]
      cases laws.content ⟨medium, files⟩ <;> rfl
  size_calm := by
    rintro ⟨medium | medium, files⟩ h
    · exact h.elim
    · obtain ⟨after, hsize, hcalm, hmedium, halike⟩ := laws.size_calm h
      exact ⟨Site.second after, by simp only [size, hsize], hcalm, congrArg Sum.inr hmedium, halike⟩
  removed_calm := by
    rintro ⟨medium | medium, files⟩ h
    · exact h.elim
    · exact laws.removed_calm h
  read_bring := by
    rintro ⟨medium | medium, files⟩ rest limit h
    · exact h.elim
    · simp only [read, readEither, laws.read_bring rest limit h]
      rfl
  remaining_bring := by
    rintro ⟨medium | medium, files⟩ rest h
    · exact h.elim
    · exact laws.remaining_bring rest h
  content_untouched := by
    rintro ⟨medium | medium, files⟩ ⟨medium' | medium', files'⟩ h
    · rfl
    · cases h.medium
    · cases h.medium
    · exact laws.content_untouched ⟨Sum.inr.inj h.medium, h.files⟩

/-- What every single write keeps of a writer and its site is kept by any number of them. -/
theorem writeAll_opened {Opened : Writer μ → Site μ → Prop}
    (hwrite : ∀ {writer site} bytes, Opened writer site →
      Opened (write writer bytes site).1.2 (write writer bytes site).2)
    (writer : Writer μ) (bytes : Bytes) (site : Site μ) (h : Opened writer site) :
    Opened (writeAll writer bytes site).1.2 (writeAll writer bytes site).2 := by
  fun_induction Medium.writeAll writer bytes site with
  | case1 => exact h
  | case2 => exact hwrite _ h
  | case3 _ _ _ _ _ _ ih => exact ih (hwrite _ h)
  | case4 => exact hwrite _ h
  | case5 _ _ _ _ _ _ _ _ ih => exact ih (hwrite _ h)

end SealedLog.Medium
