import SealedLog.Completion

/-!
# Completions that are resolved

Whatever else is resolved, a pending completion gets the outcome of the first attempt at it.

- `Completion.getD_settleAll`: attempts at other completions do not touch it.
- `Completion.collect_settleAll`: what is found when it was attempted once, as the last of several.
-/

namespace SealedLog.Completion

variable {completions : List Completion} {resolutions : List Resolution} {ticket : Ticket}

theorem length_settleAll (completions : List Completion) (resolutions : List Resolution) :
    (settleAll completions resolutions).length = completions.length := by
  induction resolutions generalizing completions with
  | nil => rfl
  | cons resolution rest ih =>
    show (settleAll (settle completions resolution) rest).length = _
    rw [ih, settle, List.length_modify]

theorem getD_settle_of_ne {resolution : Resolution} (h : resolution.ticket ≠ ticket)
    (completions : List Completion) :
    (settle completions resolution).getD ticket {} = completions.getD ticket {} := by
  rw [settle, List.getD_eq_getElem?_getD, List.getElem?_modify_ne _ _ h,
    List.getD_eq_getElem?_getD]

theorem getD_settle_self (hlen : ticket < completions.length)
    (hpending : completions.getD ticket {} = {}) (outcome : Outcome) :
    (settle completions ⟨ticket, outcome⟩).getD ticket {} = ⟨.ofOutcome outcome, some outcome⟩ := by
  have hget : completions[ticket]? = some {} := by
    rw [List.getD_eq_getElem?_getD] at hpending
    rw [List.getElem?_eq_getElem hlen] at hpending ⊢
    exact congrArg some hpending
  rw [List.getD_eq_getElem?_getD, settle, List.getElem?_modify_eq, hget]
  rfl

/-- Attempts at other completions do not touch the one with the ticket. -/
theorem getD_settleAll (h : ∀ resolution ∈ resolutions, resolution.ticket ≠ ticket)
    (completions : List Completion) :
    (settleAll completions resolutions).getD ticket {} = completions.getD ticket {} := by
  induction resolutions generalizing completions with
  | nil => rfl
  | cons resolution rest ih =>
    show (settleAll (settle completions resolution) rest).getD ticket {} = _
    rw [ih fun other hother => h other (List.mem_cons_of_mem _ hother),
      getD_settle_of_ne (h resolution List.mem_cons_self)]

/-- A completion that is attempted once gets the outcome, which is found by who waits. -/
theorem collect_settleAll (h : ∀ resolution ∈ resolutions, resolution.ticket ≠ ticket)
    (hlen : ticket < completions.length) (hpending : completions.getD ticket {} = {})
    (outcome : Outcome) :
    ((settleAll completions (resolutions ++ [⟨ticket, outcome⟩])).getD ticket {}).collect.1
      = some outcome := by
  have hlast : settleAll completions (resolutions ++ [⟨ticket, outcome⟩])
      = settle (settleAll completions resolutions) ⟨ticket, outcome⟩ :=
    List.foldl_append
  rw [hlast, getD_settle_self ((length_settleAll completions resolutions).symm ▸ hlen)
    ((getD_settleAll h completions).trans hpending), collect, if_neg]
  cases outcome <;> simp [CommandStatus.ofOutcome]

end SealedLog.Completion
