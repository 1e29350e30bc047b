import SealedLog.Proofs.Lockstep
import SealedLog.Proofs.Medium.Indifferent
import SealedLog.Store

/-!
# A store among files it cannot tell apart

From the same store, among files that its medium cannot tell apart, every operation gives the same
answer and leaves the same store, among such files again.

- `Store.Beside`: the same store among files that are near each other.
- `Store.append_lockstep`, `Store.clear_lockstep`, `Store.dump_lockstep`,
  `Store.dumpItems_lockstep`, `Store.records_lockstep`, `Store.recordCount_lockstep`: the
  operations.
-/

namespace SealedLog.Store

variable {μ α : Type} {Near : Files → Files → Prop} {store store' : Store μ} {world world' : World}

/-- The same store, among files that are near each other, at the same time. -/
structure Beside (Near : Files → Files → Prop) (store : Store μ) (world : World) (store' : Store μ)
    (world' : World) : Prop where
  store : store = store'
  files : Near world.files world'.files
  now : world.now = world'.now

/-- A step that is the same on sites beside each other is the same for the store. -/
theorem onSite_lockstep {step : Site μ → α × Site μ}
    (hstep : ∀ {site site' : Site μ}, Medium.Beside Near site site' →
      Medium.Same Near (step site) (step site'))
    (h : Beside Near store world store' world') :
    Act.Lockstep (onSite step) (onSite step) store world store' world' (Beside Near) := by
  obtain ⟨rfl, hfiles, hnow⟩ := h
  have hbeside : Medium.Beside Near ⟨store.medium, world.files⟩ ⟨store.medium, world'.files⟩ :=
    ⟨rfl, hfiles⟩
  obtain ⟨hresult, hmedium, hafter⟩ := hstep hbeside
  refine ⟨hresult, ?_, hafter, hnow⟩
  exact congrArg (Store.mk · store.recordLen) hmedium

variable [Medium μ]

theorem trying_lockstep {step : Site μ → Except SystemError α × Site μ}
    (error : String → SystemError → StoreError)
    (hstep : ∀ {site site' : Site μ}, Medium.Beside Near site site' →
      Medium.Same Near (step site) (step site'))
    (h : Beside Near store world store' world') :
    (trying step error).Lockstep (trying step error) store world store' world' (Beside Near) := by
  obtain ⟨rfl, hfiles, hnow⟩ := h
  refine Act.Lockstep.step rfl rfl ?_
  refine (onSite_lockstep hstep ⟨rfl, hfiles, hnow⟩).bind ?_
  intro result last around last' around' hlast
  cases result with
  | ok a => exact Act.Lockstep.of_eq rfl rfl hlast
  | error source => exact Act.Lockstep.of_eq rfl rfl hlast

variable (hμ : Medium.Indifferent μ Near)
include hμ

/-- A record is added alike, or the medium fails alike. -/
theorem append_lockstep (record : Record) (h : Beside Near store world store' world') :
    (append record).Lockstep (append record) store world store' world' (Beside Near) := by
  obtain ⟨rfl, hfiles, hnow⟩ := h
  refine Attempt.Lockstep.step rfl rfl ?_
  split
  · exact Attempt.Lockstep.throw ⟨rfl, hfiles, hnow⟩
  · refine (trying_lockstep _ hμ.openAppend ⟨rfl, hfiles, hnow⟩).bind ?_
    intro writer store world store' world' h
    refine trying_lockstep _ ?_ h
    intro site site' hbeside
    obtain ⟨hresult, hsite⟩ := hμ.writeAll writer record.toBytes hbeside
    rcases hwritten : Medium.writeAll writer record.toBytes site with ⟨⟨result, last⟩, after⟩
    rcases hwritten' : Medium.writeAll writer record.toBytes site' with ⟨⟨result', last'⟩, after'⟩
    rw [hwritten, hwritten'] at hresult hsite
    obtain ⟨rfl, rfl⟩ := Prod.mk.inj hresult
    cases result with
    | ok _ => exact hμ.flush last hsite
    | error error => exact ⟨rfl, hsite⟩

theorem clear_lockstep (h : Beside Near store world store' world') :
    clear.Lockstep clear store world store' world' (Beside Near) := by
  refine (trying_lockstep _ hμ.truncate h).bind ?_
  rintro _ store world _ world' ⟨rfl, hfiles, hnow⟩
  refine Attempt.Lockstep.step rfl rfl ?_
  exact Attempt.Lockstep.lift (Act.Lockstep.of_eq rfl rfl ⟨rfl, hfiles, hnow⟩)

theorem dump_lockstep (h : Beside Near store world store' world') :
    dump.Lockstep dump store world store' world' (Beside Near) := by
  obtain ⟨rfl, hfiles, hnow⟩ := h
  refine Attempt.Lockstep.step rfl rfl ?_
  refine (trying_lockstep _ hμ.openRead ⟨rfl, hfiles, hnow⟩).bind ?_
  intro reader store world store' world' h
  cases reader with
  | none => exact Attempt.Lockstep.pure h
  | some reader => exact Attempt.Lockstep.pure h

/-- The pieces of a dump are the same. -/
theorem dumpItems_lockstep (limit : Option Nat) (dump : HexDump (Medium.Reader μ))
    (h : Beside Near store world store' world') :
    Act.Lockstep (dumpItems limit dump) (dumpItems limit dump) store world store' world'
      (Beside Near) := by
  refine onSite_lockstep ?_ h
  intro site site' hbeside
  cases limit with
  | some limit => exact hμ.items limit dump hbeside
  | none =>
    dsimp only
    rw [HexDump.all, HexDump.all, hμ.left dump hbeside]
    exact hμ.items _ dump hbeside

theorem recordCount_lockstep (h : Beside Near store world store' world') :
    recordCount.Lockstep recordCount store world store' world' (Beside Near) := by
  have hlen : lenBytes.Lockstep lenBytes store world store' world' (Beside Near) :=
    (trying_lockstep _ hμ.size h).bind_pure
  refine hlen.bind ?_
  rintro len store world _ world' ⟨rfl, hfiles, hnow⟩
  refine Attempt.Lockstep.step rfl rfl ?_
  split
  · exact Act.Lockstep.of_halt rfl rfl
  · exact Attempt.Lockstep.pure ⟨rfl, hfiles, hnow⟩

theorem records_lockstep (h : Beside Near store world store' world') :
    records.Lockstep records store world store' world' (Beside Near) := by
  obtain ⟨rfl, hfiles, hnow⟩ := h
  refine Attempt.Lockstep.step rfl rfl ?_
  refine (trying_lockstep _ hμ.openRead ⟨rfl, hfiles, hnow⟩).bind ?_
  intro reader later world later' world' h
  cases reader with
  | none => exact Attempt.Lockstep.pure h
  | some reader =>
    refine (trying_lockstep _ (hμ.readToEnd reader) h).bind ?_
    intro bytes later world later' world' h
    split
    · exact Act.Lockstep.of_halt rfl rfl
    · exact Act.Lockstep.of_eq rfl rfl h

end SealedLog.Store
