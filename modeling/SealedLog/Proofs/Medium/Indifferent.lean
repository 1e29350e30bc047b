import SealedLog.HexDump
import SealedLog.Medium.Memory

/-!
# Media that cannot tell files apart

A medium may keep its log in files, or not look at files at all. What it does from two sites with
the same medium and with files that are near each other, in a sense that is up to the medium, is
then the same, and the files are near each other again.

- `Medium.Indifferent`: a medium that cannot tell such files apart.
- `Medium.indifferent_eq`, `Memory.indifferent`: every medium is so for files that are equal, and
  memory for any files.
- `Indifferent.writeAll`, `Indifferent.readToEnd`, `Indifferent.items`: what holds of one call
  holds of the loops.
-/

namespace SealedLog

namespace Medium

variable {μ α : Type}

/-- The same medium, with files that are near each other. -/
structure Beside (Near : Files → Files → Prop) (site site' : Site μ) : Prop where
  medium : site.medium = site'.medium
  files : Near site.files site'.files

/-- The same result, on sites that are beside each other. -/
structure Same (Near : Files → Files → Prop) (ended ended' : α × Site μ) : Prop where
  result : ended.1 = ended'.1
  site : Beside Near ended.2 ended'.2

/-- The medium cannot tell files apart that are near each other. -/
structure Indifferent (μ : Type) [Medium μ] (Near : Files → Files → Prop) : Prop where
  openAppend : ∀ {site site' : Site μ}, Beside Near site site' →
    Same Near (openAppend site) (openAppend site')
  write : ∀ {site site' : Site μ} (writer bytes), Beside Near site site' →
    Same Near (write writer bytes site) (write writer bytes site')
  flush : ∀ {site site' : Site μ} (writer), Beside Near site site' →
    Same Near (flush writer site) (flush writer site')
  truncate : ∀ {site site' : Site μ}, Beside Near site site' →
    Same Near (truncate site) (truncate site')
  openRead : ∀ {site site' : Site μ}, Beside Near site site' →
    Same Near (openRead site) (openRead site')
  read : ∀ {site site' : Site μ} (reader limit), Beside Near site site' →
    Same Near (read reader limit site) (read reader limit site')
  size : ∀ {site site' : Site μ}, Beside Near site site' → Same Near (size site) (size site')
  remaining : ∀ {site site' : Site μ} (reader), Beside Near site site' →
    remaining reader site = remaining reader site'

theorem Beside.eq_of_eq {site site' : Site μ} (h : Beside Eq site site') : site = site' := by
  rcases site with ⟨medium, files⟩
  obtain ⟨rfl, rfl⟩ := h
  rfl

theorem Same.refl {Near : Files → Files → Prop} (hnear : ∀ files, Near files files)
    (ended : α × Site μ) : Same Near ended ended :=
  ⟨rfl, rfl, hnear _⟩

/-- No medium tells files apart that are equal. -/
theorem indifferent_eq [Medium μ] : Indifferent μ Eq where
  openAppend h := h.eq_of_eq ▸ .refl (fun _ => rfl) _
  write _ _ h := h.eq_of_eq ▸ .refl (fun _ => rfl) _
  flush _ h := h.eq_of_eq ▸ .refl (fun _ => rfl) _
  truncate h := h.eq_of_eq ▸ .refl (fun _ => rfl) _
  openRead h := h.eq_of_eq ▸ .refl (fun _ => rfl) _
  read _ _ h := h.eq_of_eq ▸ .refl (fun _ => rfl) _
  size h := h.eq_of_eq ▸ .refl (fun _ => rfl) _
  remaining _ h := h.eq_of_eq ▸ rfl

/-! ## One call of a loop -/

section

variable [Medium μ] (site : Site μ)

/-- Writing goes on by what the first call is replied. -/
theorem writeAll_step (writer : Writer μ) {bytes : Bytes} (hne : bytes ≠ []) :
    Medium.writeAll writer bytes site =
      match (write writer bytes site).1.1 with
      | .failed error =>
        ((.error error, (write writer bytes site).1.2), (write writer bytes site).2)
      | .interrupted =>
        Medium.writeAll (write writer bytes site).1.2 bytes (write writer bytes site).2
      | .moved count =>
        if count = 0 then
          ((.error .nothingWritten, (write writer bytes site).1.2), (write writer bytes site).2)
        else
          Medium.writeAll (write writer bytes site).1.2 (bytes.drop count)
            (write writer bytes site).2 := by
  rw [Medium.writeAll, if_neg hne]
  dsimp only
  split <;> rename_i hreply <;> rw [hreply]

/-- Reading goes on by what the first call is replied. -/
theorem readToEnd_step (reader : Reader μ) :
    Medium.readToEnd reader site =
      match (read reader 32 site).1.1 with
      | .failed error => (.error error, (read reader 32 site).2)
      | .interrupted => Medium.readToEnd (read reader 32 site).1.2 (read reader 32 site).2
      | .moved bytes =>
        if bytes = [] then (.ok [], (read reader 32 site).2)
        else
          let rest := Medium.readToEnd (read reader 32 site).1.2 (read reader 32 site).2
          (rest.1.map (bytes ++ ·), rest.2) := by
  rw [Medium.readToEnd]
  dsimp only
  split <;> rename_i hreply <;> rw [hreply]
  dsimp only
  split <;> rename_i hempty
  · rfl
  · rfl

theorem readUpTo_step {want : Nat} (hwant : want ≠ 0) (reader : Reader μ) :
    Medium.readUpTo want reader site =
      match (read reader want site).1.1 with
      | .failed error => ((.error error, (read reader want site).1.2), (read reader want site).2)
      | .interrupted => Medium.readUpTo want (read reader want site).1.2 (read reader want site).2
      | .moved bytes =>
        if bytes = [] then ((.ok [], (read reader want site).1.2), (read reader want site).2)
        else
          let rest := Medium.readUpTo (want - bytes.length) (read reader want site).1.2
            (read reader want site).2
          ((rest.1.1.map (bytes ++ ·), rest.1.2), rest.2) := by
  rw [Medium.readUpTo, if_neg hwant]
  dsimp only
  split <;> rename_i hreply <;> rw [hreply]
  dsimp only
  split <;> rename_i hempty
  · rfl
  · rfl

end

namespace Indifferent

variable [Medium μ] {Near : Files → Files → Prop} (hμ : Indifferent μ Near) {site site' : Site μ}
include hμ

/-! ## Loops -/

/-- All bytes are written alike, by induction on the calls it takes. -/
theorem writeAll (writer : Writer μ) (bytes : Bytes) : ∀ {site' : Site μ}, Beside Near site site' →
    Same Near (Medium.writeAll writer bytes site) (Medium.writeAll writer bytes site') := by
  fun_induction Medium.writeAll writer bytes site with
  | case1 writer site =>
    intro site' h
    rw [Medium.writeAll, if_pos rfl]
    exact ⟨rfl, h⟩
  | case2 writer bytes site hne called error =>
    rename_i hreply
    intro site' h
    obtain ⟨hresult, hsite⟩ := hμ.write writer bytes h
    rw [writeAll_step site' writer hne, ← hresult, hreply]
    exact ⟨rfl, hsite⟩
  | case3 writer bytes site hne called hreply =>
    rename_i ih
    intro site' h
    obtain ⟨hresult, hsite⟩ := hμ.write writer bytes h
    rw [writeAll_step site' writer hne, ← hresult, hreply]
    exact ih hsite
  | case4 writer bytes site hne called =>
    rename_i hreply
    intro site' h
    obtain ⟨hresult, hsite⟩ := hμ.write writer bytes h
    rw [writeAll_step site' writer hne, ← hresult, hreply]
    exact ⟨rfl, hsite⟩
  | case5 writer bytes site hne called count hreply hcount =>
    rename_i ih
    intro site' h
    obtain ⟨hresult, hsite⟩ := hμ.write writer bytes h
    rw [writeAll_step site' writer hne, ← hresult, hreply]
    dsimp only
    rw [if_neg hcount]
    exact ih hsite

/-- All there is is read alike, by induction on the calls it takes. -/
theorem readToEnd (reader : Reader μ) : ∀ {site' : Site μ}, Beside Near site site' →
    Same Near (Medium.readToEnd reader site) (Medium.readToEnd reader site') := by
  fun_induction Medium.readToEnd reader site with
  | case1 reader site called error =>
    rename_i hreply
    intro site' h
    obtain ⟨hresult, hsite⟩ := hμ.read reader 32 h
    rw [readToEnd_step site', ← hresult, hreply]
    exact ⟨rfl, hsite⟩
  | case2 reader site called hreply =>
    rename_i ih
    intro site' h
    obtain ⟨hresult, hsite⟩ := hμ.read reader 32 h
    rw [readToEnd_step site', ← hresult, hreply]
    exact ih hsite
  | case3 reader site called =>
    rename_i hreply
    intro site' h
    obtain ⟨hresult, hsite⟩ := hμ.read reader 32 h
    rw [readToEnd_step site', ← hresult, hreply]
    exact ⟨rfl, hsite⟩
  | case4 reader site called bytes hreply hne rest =>
    rename_i ih
    intro site' h
    obtain ⟨hresult, hsite⟩ := hμ.read reader 32 h
    rw [readToEnd_step site', ← hresult, hreply]
    dsimp only
    rw [if_neg hne]
    exact ⟨congrArg (Except.map (bytes ++ ·)) (ih hsite).result, (ih hsite).site⟩

/-- A piece is read alike, by induction on the calls it takes. -/
theorem readUpTo (want : Nat) (reader : Reader μ) : ∀ {site' : Site μ}, Beside Near site site' →
    Same Near (Medium.readUpTo want reader site) (Medium.readUpTo want reader site') := by
  fun_induction Medium.readUpTo want reader site with
  | case1 reader site =>
    intro site' h
    rw [Medium.readUpTo, if_pos rfl]
    exact ⟨rfl, h⟩
  | case2 want reader site hwant called error =>
    rename_i hreply
    intro site' h
    obtain ⟨hresult, hsite⟩ := hμ.read reader want h
    rw [readUpTo_step site' hwant, ← hresult, hreply]
    exact ⟨rfl, hsite⟩
  | case3 want reader site hwant called hreply =>
    rename_i ih
    intro site' h
    obtain ⟨hresult, hsite⟩ := hμ.read reader want h
    rw [readUpTo_step site' hwant, ← hresult, hreply]
    exact ih hsite
  | case4 want reader site hwant called =>
    rename_i hreply
    intro site' h
    obtain ⟨hresult, hsite⟩ := hμ.read reader want h
    rw [readUpTo_step site' hwant, ← hresult, hreply]
    exact ⟨rfl, hsite⟩
  | case5 want reader site hwant called bytes hreply hne rest =>
    rename_i ih
    intro site' h
    obtain ⟨hresult, hsite⟩ := hμ.read reader want h
    rw [readUpTo_step site' hwant, ← hresult, hreply]
    dsimp only
    rw [if_neg hne]
    exact ⟨congrArg (Prod.map (Except.map (bytes ++ ·)) id) (ih hsite).result, (ih hsite).site⟩

/-! ## Dumps -/

theorem next (dump : HexDump (Reader μ)) (h : Beside Near site site') :
    Same Near (dump.next site) (dump.next site') := by
  rw [HexDump.next, HexDump.next]
  cases dump.reader with
  | none => exact ⟨rfl, h⟩
  | some reader =>
    obtain ⟨hresult, hsite⟩ := hμ.readUpTo dumpChunkLen reader h
    dsimp only
    rw [← hresult]
    cases (Medium.readUpTo dumpChunkLen reader site).1.1 with
    | error error => exact ⟨rfl, hsite⟩
    | ok bytes =>
      dsimp only
      split
      · exact ⟨rfl, hsite⟩
      · exact ⟨rfl, hsite⟩

theorem left (dump : HexDump (Reader μ)) (h : Beside Near site site') :
    dump.left site = dump.left site' := by
  rw [HexDump.left, HexDump.left]
  cases dump.reader with
  | none => rfl
  | some reader => exact congrArg (· + 1) (hμ.remaining reader h)

theorem items (limit : Nat) (dump : HexDump (Reader μ)) (h : Beside Near site site') :
    Same Near (HexDump.items limit dump site) (HexDump.items limit dump site') := by
  induction limit generalizing dump site site' with
  | zero => exact ⟨rfl, h⟩
  | succ limit ih =>
    obtain ⟨hresult, hsite⟩ := hμ.next dump h
    rw [HexDump.items, HexDump.items]
    rcases hnext : dump.next site with ⟨⟨item, later⟩, around⟩
    rcases hnext' : dump.next site' with ⟨⟨item', later'⟩, around'⟩
    rw [hnext, hnext'] at hresult hsite
    obtain ⟨rfl, rfl⟩ := Prod.mk.inj hresult
    cases item with
    | none => exact ⟨rfl, hsite⟩
    | some item => exact ⟨congrArg (item :: ·) (ih later hsite).result, (ih later hsite).site⟩

end Indifferent

end Medium

/-- Memory does not look at files. -/
theorem Memory.indifferent : Medium.Indifferent Memory fun _ _ => True where
  openAppend h := ⟨rfl, congrArg (append · []) h.medium, trivial⟩
  write _ bytes h := ⟨rfl, congrArg (append · bytes) h.medium, trivial⟩
  flush _ h := ⟨rfl, h⟩
  truncate _ := ⟨rfl, rfl, trivial⟩
  openRead h := ⟨congrArg (fun memory : Memory => Except.ok memory.content) h.medium, h⟩
  read _ _ h := ⟨rfl, h⟩
  size h :=
    ⟨congrArg (fun memory : Memory => Except.ok (memory.content.map List.length)) h.medium, h⟩
  remaining _ _ := rfl

end SealedLog
