import SealedLog.Proofs.Journal.Mounted

/-!
# Where a log is

The storage of a configuration has to do with one file: the one at the place that the file name leads
to from the mount point. A name that stays below the mount point leads below it. Other names are
accepted as well, and lead elsewhere.

- `StorageConfig.Placed`: one file, and where it is; `placed_of_outer` is the proof.
- `StorageConfig.not_below_of_climbing`: a name with double dots leads out of the mount point.
-/

namespace SealedLog.StorageConfig

open Files

variable {config : StorageConfig} {outer : Path}

/-- The storage of a configuration has to do with one file, and the mount point and the file name say
where that is. -/
structure Placed (config : StorageConfig) (outer : Path) (files : Files) : Prop where
  /-- The name is followed from the mount point, or from the root if it is absolute. -/
  place : files.placeOf (outer.join config.fileName)
    = resolve (if config.fileName.toList.head? = some '/' then [] else files.placeOf outer)
        (Path.filled config.fileName.toList)
  /-- A relative name that never leads up past the mount point leads below it. -/
  below : config.fileName.toList.head? ≠ some '/' →
    inward 0 (Path.filled config.fileName.toList) = true →
    Below (files.placeOf outer) (files.placeOf (outer.join config.fileName))
  /-- Whatever comes of it, mounting has to do with no other file. -/
  others : ∀ {world : World}, world.files.home = files.home →
    ∃ result world', config.mount world = .ok (result, world') ∧
      ∀ {other}, other ≠ files.placeOf (outer.join config.fileName) → ∀ {content bits},
        world.files.node? other = some (.file content bits) ↔
          world'.files.node? other = some (.file content bits)
  /-- A log that was mounted is the file at that place, for its owner alone as its directory is. -/
  mounted : ∀ {world world' : World} {medium}, world.files.home = files.home →
    config.mount world = .ok (.ok medium, world') →
    medium = .inr ⟨outer.join config.fileName⟩ ∧
      world'.files.existing outer = .ok (files.placeOf outer, .directory 0o700) ∧
      ∃ content bits, bits % 0o1000 = 0o600 ∧
        world'.files.existing (outer.join config.fileName)
          = .ok (files.placeOf (outer.join config.fileName), .file content bits)
  /-- However an addition ends, it changes nothing else. -/
  append : ∀ {recordLen : Nat} {record : Record} {result : Except StoreError Unit}
    {store : Store Mounted} {world world' : World}, world.files.home = files.home →
    (Store.append record).run (.mounted (outer.join config.fileName) recordLen) world
      = .ok ((result, store), world') →
    SameBut (files.placeOf (outer.join config.fileName)) world.files world'.files
  /-- Nor does clearing the log. -/
  clear : ∀ {recordLen : Nat} {result : Except StoreError Unit} {store : Store Mounted}
    {world world' : World}, world.files.home = files.home →
    Store.clear.run (.mounted (outer.join config.fileName) recordLen) world
      = .ok ((result, store), world') →
    SameBut (files.placeOf (outer.join config.fileName)) world.files world'.files

/-- So it is for every configuration with its log in a file. -/
theorem placed_of_outer (houter : config.outer? = some outer) (files : Files) :
    Placed config outer files where
  place := placeOf_join files outer config.fileName
  below hrelative hinward := by
    rw [placeOf_join, if_neg hrelative]
    exact below_of_inward (files.placeOf outer) hinward
  others {world} hhome := by
    obtain ⟨result, world', hmount, hmounting⟩ := config.mount_of_outer houter world
    refine ⟨_, world', hmount, fun {other} hother content bits => hmounting.others ?_⟩
    rwa [placeOf_of_home hhome] at hother
  mounted {world world' medium} hhome hmount := by
    obtain ⟨result, _, hmounted, hmounting⟩ := config.mount_of_outer houter world
    cases result with
    | error error => cases hmount.symm.trans hmounted
    | ok file =>
      cases hmount.symm.trans hmounted
      obtain ⟨rfl, hdirectory, bits, hbits, hthere⟩ := hmounting.ready
      rw [← placeOf_of_home hhome] at hdirectory hthere
      exact ⟨rfl, hdirectory, _, bits, hbits, hthere⟩
  append {recordLen record result store world world'} hhome happend := by
    have hended := (Store.append_ensures (outer.join config.fileName) recordLen record world).ends
      result store world' happend
    rw [placeOf_of_home hhome]
    cases result with
    | error error => exact hended.2
    | ok _ => exact hended.elim fun _ hopened => hopened.sameBut
  clear {recordLen result store world world'} hhome hclear := by
    obtain ⟨_, _, hcleared, hsame, -⟩ :=
      Store.clear_mounted (outer.join config.fileName) recordLen world
    cases hclear.symm.trans hcleared
    rw [placeOf_of_home hhome]
    exact hsame

/-- A name that goes down, up and down again stays below `/logs`. -/
theorem placed_of_winding :
    let config : StorageConfig := { mountPoint := some ⟨"/logs"⟩, fileName := "old/../log" }
    config.outer? = some ⟨"/logs"⟩ ∧ Placed config ⟨"/logs"⟩ {} ∧
      Below (({} : Files).placeOf ⟨"/logs"⟩)
        (({} : Files).placeOf (Path.join ⟨"/logs"⟩ config.fileName)) := by
  intro config
  have houter : config.outer? = some ⟨"/logs"⟩ := rfl
  have hrelative : config.fileName.toList.head? ≠ some '/' := by decide +kernel
  have hinward : inward 0 (Path.filled config.fileName.toList) = true := by decide +kernel
  have hplaced := placed_of_outer houter {}
  exact ⟨houter, hplaced, hplaced.below hrelative hinward⟩

/-- The configuration of a log at `../other` below `/logs` is accepted, and the log is mounted. It is
the file `/other`. -/
theorem not_below_of_climbing :
    ¬ ∀ (config : Config) (outer : Path) (world world' : World) (medium : Mounted),
      config.validate = .ok () → config.storage.outer? = some outer →
      config.storage.mount world = .ok (.ok medium, world') →
      Below (world'.files.placeOf outer)
        (world'.files.placeOf (outer.join config.storage.fileName)) := by
  intro hbelow
  let config : Config := { storage := { mountPoint := some ⟨"/logs"⟩, fileName := "../other" } }
  let first : World := { files := { nodes := [(["other".toList], .file [7] 0o644)] } }
  have heval : (config.storage.mount first).toOption.any (fun mounted =>
      mounted.1.toOption.any fun _ =>
        !decide (Below (mounted.2.files.placeOf ⟨"/logs"⟩)
          (mounted.2.files.placeOf (Path.join ⟨"/logs"⟩ "../other")))) = true := by
    decide +kernel
  simp only [any_toOption, Prod.exists, Bool.not_eq_true', decide_eq_false_iff_not] at heval
  obtain ⟨_, world', hmount, medium, rfl, hnot⟩ := heval
  have hvalid : config.validate = .ok () := by decide +kernel
  exact hnot (hbelow config ⟨"/logs"⟩ first world' medium hvalid rfl hmount)

end SealedLog.StorageConfig
