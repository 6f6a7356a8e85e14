import VehicleRecorder.Dataflash.RecordAdd

/-!
# Power loss during a pointer write

`DF_Write_RecordAdd` erases the sector when all flags are used, sets the flag
of the next entry and only then programs the entry.  Whatever part of these
commands has reached the chip when power fails is what the next boot reads.

The module computes the pair that is then restored for every history and every
point of failure, and states exactly when it is one of the two the writer could
have meant.
-/

namespace VehicleRecorder.Dataflash

open NorFlash Bytes FlagLog

/-- The device at the boot after power failed when `k` commands of the call had
been carried out: the flash is kept, the variables start afresh. -/
def afterPowerLoss (d : Device) (e : RecordWrite) (k : ℕ) : Device :=
  { chip := d.chip.issue
      ((recordAddCmds d.chip e.wr.toNat e.rd.toNat e.type).take k) }

/-- The eight bytes `DF_Read_RecordAdd` takes for an entry when no flag is
used: entry 65535, behind the log. -/
def RecordType.entryBehind (type : RecordType) : ℕ :=
  (type.addOffset + 1024) * 512 + 504

/-- An entry of which the first `j` bytes are new and the others erased equals
the new entry or the old one. -/
def TornHarmless (j : ℕ) (old new : List UInt8) : Prop :=
  (∀ i < 8, j ≤ i → new[i]? = some 0xFF) ∨
    ∀ i < 8, old[i]? = if i < j then new[i]? else some 0xFF

instance (j : ℕ) (old new : List UInt8) : Decidable (TornHarmless j old new) :=
  inferInstanceAs (Decidable (_ ∨ _))

/-- Nothing is lost when power fails after `k` commands of writing `e`, where
`c` calls of the type went before and `old` is the last of them: no command was
carried out, or the entry as far as it was programmed agrees with one of the
two; when the sector had to be erased first, what the chip holds behind the log
counts in place of the entry until the flag is set. -/
def PowerLossHarmless (chip : Chip) (c k : ℕ) (old e : RecordWrite) : Prop :=
  k = 0 ∨
    if c % 448 = 0 then
      if k = 1 then
        readBytes chip.flash e.type.entryBehind 8 = old.bytes ∨
          readBytes chip.flash e.type.entryBehind 8 = e.bytes
      else TornHarmless (k - 2) old.bytes e.bytes
    else TornHarmless (k - 1) old.bytes e.bytes

/-! ## What the boot reads -/

theorem afterPowerLoss_flash (d : Device) (e : RecordWrite) (k : ℕ) :
    (afterPowerLoss d e k).chip.flash =
      execAll sectorSize d.chip.flash
        ((commit e.type.layout d.chip.flash e.bytes).take k) := by
  rw [afterPowerLoss, Chip.issue_flash, recordAddCmds_eq]
  rfl

theorem readRecordAdd_of_filled {d : Device} {type : RecordType} {n : ℕ}
    {bs : List UInt8} (h : Filled type.layout d.chip.flash (n + 1))
    (hslot : readBytes d.chip.flash (type.layout.slotAddr n) 8 = bs) :
    readRecordAdd d.chip type = decodePair bs := by
  rw [readRecordAdd_eq h, latest_of_filled type.layout h, ← hslot]
  rfl

/-- With no flag used the reader runs off the end of the log. -/
theorem readRecordAdd_of_empty {chip : Chip} {type : RecordType}
    (h : Filled type.layout chip.flash 0) :
    readRecordAdd chip type =
      decodePair (readBytes chip.flash type.entryBehind 8) := by
  have hlt := type.addOffset_lt
  have hpage : u16 (type.addOffset + 1 + 65535 / 64) =
      type.addOffset + 1024 := by
    simp only [u16]
    omega
  rw [readRecordAdd, scanHead_eq, used_of_filled type.layout h]
  simp only [hpage, show u16 (0 + 65535) = 65535 from rfl,
    show 65535 % 64 * 8 = 504 from rfl]
  rw [dfReadFlash_eq chip (by omega) (by omega),
    dfReadFlash_eq chip (by omega) (by omega), decodePair,
    readBytes_add chip.flash type.entryBehind 4 4,
    List.take_left' (readBytes_length _ _ _),
    List.drop_left' (readBytes_length _ _ _)]
  rfl

theorem not_owns_entryBehind (type : RecordType) {x : ℕ}
    (hlo : type.entryBehind ≤ x) : ¬ type.Owns x := by
  have hmod := type.addOffset_mod
  simp only [RecordType.Owns, RecordType.entryBehind, sectorSize] at *
  omega

/-- Power fails while flags are left. -/
theorem readRecordAdd_powerLoss {d : Device} {e : RecordWrite} {n j : ℕ}
    (h : Filled e.type.layout d.chip.flash n) (hn : n < 448) :
    readRecordAdd (afterPowerLoss d e (j + 1)).chip e.type =
      decodePair (torn j e.bytes) := by
  obtain ⟨hfilled, hslot⟩ := filled_take_commit e.type.layout (j := j) h hn
    e.bytes_length
  apply readRecordAdd_of_filled (n := n)
  · rw [afterPowerLoss_flash]
    exact hfilled
  · rw [afterPowerLoss_flash]
    exact hslot

/-- Power fails right after the sector was erased. -/
theorem readRecordAdd_powerLoss_erased {d : Device} {e : RecordWrite}
    (h : Filled e.type.layout d.chip.flash 448) :
    readRecordAdd (afterPowerLoss d e 1).chip e.type =
      decodePair (readBytes d.chip.flash e.type.entryBehind 8) := by
  obtain ⟨herase, -⟩ := filled_take_commit_full e.type.layout (j := 0) h
    e.bytes_length
  have hflash : (afterPowerLoss d e 1).chip.flash =
      exec sectorSize d.chip.flash (.erase e.type.layout.head) := by
    rw [afterPowerLoss_flash]
    exact herase
  rw [readRecordAdd_of_empty]
  · congr 1
    apply readBytes_congr
    intro x hlo _
    rw [hflash]
    exact exec_of_not_touches sectorSize (not_owns_entryBehind e.type hlo)
  · rw [hflash]
    exact filled_zero_of_erase e.type.layout d.chip.flash

/-- Power fails after the sector was erased and the flag set. -/
theorem readRecordAdd_powerLoss_full {d : Device} {e : RecordWrite} {j : ℕ}
    (h : Filled e.type.layout d.chip.flash 448) :
    readRecordAdd (afterPowerLoss d e (j + 2)).chip e.type =
      decodePair (torn j e.bytes) := by
  obtain ⟨-, hfilled, hslot⟩ := filled_take_commit_full e.type.layout
    (j := j) h e.bytes_length
  apply readRecordAdd_of_filled (n := 0)
  · rw [afterPowerLoss_flash]
    exact hfilled
  · rw [afterPowerLoss_flash]
    exact hslot

/-! ## When that is the old or the new pair -/

theorem decodePair_inj {xs ys : List UInt8} (hx : xs.length = 8)
    (hy : ys.length = 8) (h : decodePair xs = decodePair ys) : xs = ys := by
  obtain ⟨hwr, hrd⟩ := Prod.mk.inj h
  have htake := leValue_inj (by simp [hx, hy]) hwr
  have hdrop := leValue_inj (by simp [hx, hy]) hrd
  rw [← List.take_append_drop 4 xs, htake, hdrop, List.take_append_drop]

theorem decodePair_eq_pair_iff {xs : List UInt8} (e : RecordWrite)
    (hx : xs.length = 8) : decodePair xs = e.pair ↔ xs = e.bytes := by
  have hpair : e.pair = decodePair e.bytes :=
    (decodePair_pairBytes e.wr e.rd).symm
  rw [hpair]
  constructor
  · exact decodePair_inj hx e.bytes_length
  · rintro rfl
    rfl

theorem torn_length (j : ℕ) (bs : List UInt8) :
    (torn j bs).length = bs.length := by
  rw [torn, List.length_append, List.length_take, List.length_replicate]
  omega

theorem getElem?_torn {j i : ℕ} {bs : List UInt8} (hi : i < bs.length) :
    (torn j bs)[i]? = if i < j then bs[i]? else some 0xFF := by
  rw [torn]
  by_cases hij : i < j
  · rw [if_pos hij, List.getElem?_append_left (by
      rw [List.length_take]
      omega), List.getElem?_take_of_lt hij]
  · rw [if_neg hij, List.getElem?_append_right (by
      rw [List.length_take]
      omega), List.getElem?_replicate, List.length_take]
    exact if_pos (by omega)

theorem torn_eq_iff {j : ℕ} {bs ys : List UInt8} (hb : bs.length = 8)
    (hy : ys.length = 8) :
    torn j bs = ys ↔
      ∀ i < 8, ys[i]? = if i < j then bs[i]? else some 0xFF := by
  constructor
  · rintro rfl i hi
    exact getElem?_torn (by omega)
  · intro h
    apply List.ext_getElem?
    intro i
    by_cases hi : i < 8
    · rw [h i hi, getElem?_torn (by omega)]
    · have hlen := torn_length j bs
      rw [List.getElem?_eq_none (by omega), List.getElem?_eq_none (by omega)]

theorem tornHarmless_iff {j : ℕ} (old e : RecordWrite) :
    (decodePair (torn j e.bytes) = old.pair ∨
        decodePair (torn j e.bytes) = e.pair) ↔
      TornHarmless j old.bytes e.bytes := by
  have hlen : (torn j e.bytes).length = 8 :=
    (torn_length j e.bytes).trans e.bytes_length
  have hnew : torn j e.bytes = e.bytes ↔
      ∀ i < 8, j ≤ i → e.bytes[i]? = some 0xFF := by
    rw [torn_eq_iff e.bytes_length e.bytes_length]
    constructor
    · intro h i hi hji
      rw [h i hi, if_neg (by omega)]
    · intro h i hi
      by_cases hij : i < j
      · rw [if_pos hij]
      · rw [if_neg hij, h i hi (by omega)]
  rw [decodePair_eq_pair_iff old hlen, decodePair_eq_pair_iff e hlen, hnew,
    torn_eq_iff e.bytes_length old.bytes_length, TornHarmless, or_comm]

/-- The pair read at boot is the old or the new one exactly when the power loss
was harmless. -/
theorem Logged.powerLoss_iff {d : Device} {e old : RecordWrite}
    {ws : List RecordWrite} (h : Logged d.chip e.type ws)
    (hlast : ws.getLast? = some old) (k : ℕ) :
    (readRecordAdd (afterPowerLoss d e k).chip e.type = old.pair ∨
        readRecordAdd (afterPowerLoss d e k).chip e.type = e.pair) ↔
      PowerLossHarmless d.chip ws.length k old e := by
  have hfilled := h.filled
  obtain ⟨c, hc⟩ := exists_length_eq_succ hlast
  rw [hc, usedAfter, layout_slots] at hfilled
  rw [hc, PowerLossHarmless]
  by_cases hk : k = 0
  · have hsame : (afterPowerLoss d e k).chip = d.chip := by
      rw [afterPowerLoss, hk, List.take_zero, Chip.issue_nil]
    have hold : readRecordAdd d.chip e.type = old.pair := by
      rw [readRecordAdd_eq hfilled, h.latest old hlast]
      exact decodePair_pairBytes old.wr old.rd
    rw [hsame]
    exact iff_of_true (Or.inl hold) (Or.inl hk)
  · obtain ⟨k, rfl⟩ := Nat.exists_eq_succ_of_ne_zero hk
    rw [or_iff_right hk]
    by_cases hroll : (c + 1) % 448 = 0
    · have hfull : c % 448 + 1 = 448 := by omega
      rw [hfull] at hfilled
      rw [if_pos hroll]
      by_cases hone : k = 0
      · subst hone
        have hlen := readBytes_length d.chip.flash e.type.entryBehind 8
        rw [if_pos rfl, readRecordAdd_powerLoss_erased hfilled,
          decodePair_eq_pair_iff old hlen, decodePair_eq_pair_iff e hlen]
      · obtain ⟨j, rfl⟩ := Nat.exists_eq_succ_of_ne_zero hone
        rw [if_neg (by omega), readRecordAdd_powerLoss_full hfilled]
        exact tornHarmless_iff old e
    · rw [if_neg hroll, readRecordAdd_powerLoss hfilled (by omega)]
      exact tornHarmless_iff old e

/-- For every history of a type and every point of failure, the next boot loads
the pair of the last completed write or the interrupted one if and only if the
power loss was harmless. -/
theorem dfReadRecordAdd_powerLoss_iff (d : Device) (es : List RecordWrite)
    (old e : RecordWrite) (herased : LogErased d.chip e.type)
    (hlast : (writesOf e.type es).getLast? = some old)
    (vars : (Device → ℕ) × (Device → ℕ))
    (hvars : e.type.resultVars = some vars) (k : ℕ) :
    let d' := writeRecords d es
    let boot := (dfReadRecordAdd (afterPowerLoss d' e k) e.type).1
    ((vars.1 boot, vars.2 boot) = old.pair ∨
        (vars.1 boot, vars.2 boot) = e.pair) ↔
      PowerLossHarmless d'.chip (writesOf e.type es).length k old e := by
  have hlogged := (logged_of_erased herased).run es
  intro d' boot
  rw [dfReadRecordAdd_vars _ hvars]
  exact hlogged.powerLoss_iff hlast k

/-- The cycle pointer moves from 1 to 2 and power fails between the last two
bytes of the entry. -/
theorem dfReadRecordAdd_powerLoss_iff_cycle :
    let d' := writeRecords .initial [⟨.cycleAdd, 1, 0⟩]
    let boot :=
      (dfReadRecordAdd (afterPowerLoss d' ⟨.cycleAdd, 2, 0⟩ 8) .cycleAdd).1
    ((boot.cycleWrite, boot.cycleRead) = (1, 0) ∨
        (boot.cycleWrite, boot.cycleRead) = (2, 0)) ↔
      PowerLossHarmless d'.chip 1 8 ⟨.cycleAdd, 1, 0⟩ ⟨.cycleAdd, 2, 0⟩ :=
  dfReadRecordAdd_powerLoss_iff .initial [⟨.cycleAdd, 1, 0⟩]
    ⟨.cycleAdd, 1, 0⟩ ⟨.cycleAdd, 2, 0⟩ (fun _ _ => rfl) (by decide)
    (Device.cycleWrite, Device.cycleRead) rfl 8

/-- Power fails between the flag and the entry: the boot loads a pair that was
never written. -/
theorem powerLoss_loads_erased_pair :
    let d' := writeRecords .initial [⟨.cycleAdd, 1, 0⟩]
    let boot :=
      (dfReadRecordAdd (afterPowerLoss d' ⟨.cycleAdd, 2, 0⟩ 1) .cycleAdd).1
    ¬ ((boot.cycleWrite, boot.cycleRead) = (1, 0) ∨
        (boot.cycleWrite, boot.cycleRead) = (2, 0)) ∧
      (boot.cycleWrite, boot.cycleRead) = (4294967295, 4294967295) := by
  decide +kernel

end VehicleRecorder.Dataflash
