import Mathlib.Data.List.GetD
import VehicleRecorder.Dataflash.DfOper

/-!
# Rewriting one page of a sector

`DF_WriteFlash` erases the sector of a page and programs back what it kept of
it: 150 bytes of each page, in the rows of `SectorBuf_save`.  What it is given
is stored over the row of the page, and runs on into the rows behind when it is
longer than a row.
-/

namespace VehicleRecorder.Dataflash

open NorFlash Bytes

/-- `DF_WriteFlash` at offset 0 does what it is for: the page reads back as the
buffer, and the other seven pages of the sector are as they were. -/
def RewritesPage (chip : Chip) (page : ℕ) (p : List UInt8) : Prop :=
  let chip' := chip.issue (dfWriteFlash chip page 0 p)
  dfReadFlash chip' page 0 p.length = p ∧
    ∀ q, q / 8 = page / 8 → q ≠ page → ∀ k < pageSize,
      pageTable chip' q k = pageTable chip q k

/-- The rows are enough: there is nothing but erased bytes behind them, neither
in the buffer nor in the other pages, and what runs on into the rows behind is
what the pages there hold anyway. -/
structure RowsSuffice (chip : Chip) (page : ℕ) (p : List UInt8) : Prop where
  buffer : ∀ k < p.length, dfBakSize ≤ k → p.getD k 0 = 0xFF
  pages : ∀ q, q / 8 = page / 8 → q ≠ page → ∀ k < pageSize,
    dfBakSize ≤ k → pageTable chip q k = 0xFF
  rows : ∀ q, q / 8 = page / 8 → page < q → ∀ k < dfBakSize,
    (q - page) * dfBakSize + k < p.length →
      p.getD ((q - page) * dfBakSize + k) 0 = pageTable chip q k

/-! ## A byte of the sector after the write -/

/-- A byte of row `j`, with whatever runs on from the row of the page. -/
theorem pageTable_rewritten_row (chip : Chip) {page j k : ℕ} (p : List UInt8)
    (hpage : page < 8192) (hj : j < 8) (hk : k < dfBakSize) :
    pageTable (chip.issue (dfWriteFlash chip page 0 p)) (8 * (page / 8) + j) k =
      if page % 8 ≤ j then
        p.getD ((j - page % 8) * dfBakSize + k)
          (pageTable chip (8 * (page / 8) + j) k)
      else pageTable chip (8 * (page / 8) + j) k := by
  have hk' : k < 150 := hk
  rw [pageTable_dfWriteFlash_row chip p hpage hj hk,
    List.getD_eq_getElem?_getD, getElem?_storeAt,
    getElem?_sectorBufSave chip hpage hj hk, Option.map_some, Option.getD_some]
  simp only [dfBakSize]
  by_cases hrow : page % 8 ≤ j
  · have hindex : j * 150 + k - (page % 8 * 150 + 0) =
        (j - page % 8) * 150 + k := by
      rw [Nat.sub_mul]
      omega
    rw [if_pos (by omega), if_pos hrow, hindex]
  · rw [if_neg (by omega), if_neg hrow]

/-- Behind the rows everything is erased. -/
theorem pageTable_rewritten_behind (chip : Chip) {page j k : ℕ}
    (p : List UInt8) (hpage : page < 8192) (hj : j < 8)
    (hlo : dfBakSize ≤ k) (hhi : k < pageSize) :
    pageTable (chip.issue (dfWriteFlash chip page 0 p)) (8 * (page / 8) + j) k =
      0xFF := by
  simp only [dfBakSize, pageSize] at hlo hhi
  rw [pageTable, Chip.issue_flash, dfWriteFlash_eq chip hpage, execAll_cons,
    execAll_of_untouched, exec_erase_row chip.flash page hj hhi]
  intro c hc
  obtain ⟨i, hi, hc⟩ := List.mem_flatMap.mp hc
  refine untouched_programBytes sectorSize ?_ c hc
  rw [rewrittenRow_length]
  simp only [dfBakSize]
  omega

/-- A page of the sector by its place in it. -/
theorem exists_place {page q : ℕ} (h : q / 8 = page / 8) :
    ∃ j < 8, q = 8 * (page / 8) + j :=
  ⟨q % 8, by omega, by omega⟩

/-! ## When the rows are enough -/

/-- The page reads back when the buffer has nothing behind its row. -/
theorem dfReadFlash_rewritten_iff (chip : Chip) {page : ℕ} {p : List UInt8}
    (hpage : page < 8192) (hlen : p.length ≤ pageSize) :
    dfReadFlash (chip.issue (dfWriteFlash chip page 0 p)) page 0 p.length = p ↔
      ∀ k < p.length, dfBakSize ≤ k → p.getD k 0 = 0xFF := by
  simp only [pageSize] at hlen
  have hplace : 8 * (page / 8) + page % 8 = page := by omega
  have hbyte (k : ℕ) (hk : k < p.length) :
      pageTable (chip.issue (dfWriteFlash chip page 0 p)) page k =
        if k < dfBakSize then p.getD k 0 else 0xFF := by
    have hj : page % 8 < 8 := Nat.mod_lt _ (by decide)
    split
    · rename_i hrow
      have h := pageTable_rewritten_row chip p hpage hj hrow
      rw [hplace, if_pos (Nat.le_refl _), Nat.sub_self, Nat.zero_mul,
        Nat.zero_add] at h
      rw [h, List.getD_eq_getElem _ _ hk, List.getD_eq_getElem _ _ hk]
    · rename_i hrow
      have h := pageTable_rewritten_behind chip p hpage hj
        (Nat.le_of_not_lt hrow) (by simp only [pageSize]; omega)
      rwa [hplace] at h
  rw [dfReadFlash_eq _ hpage (by omega), Nat.add_zero]
  constructor
  · intro hread k hk hlo
    have h := congrArg (fun bs => bs[k]?) hread
    simp only [getElem?_readBytes, if_pos hk] at h
    have hk' := hbyte k hk
    rw [if_neg (Nat.not_lt.mpr hlo), pageTable] at hk'
    rw [List.getD_eq_getElem?_getD, ← h, Option.getD_some, hk']
  · intro hff
    refine readBytes_of_getElem? fun k hk => ?_
    have hk' := hbyte k hk
    rw [pageTable] at hk'
    rw [hk', List.getElem?_eq_getElem hk]
    split
    · rw [List.getD_eq_getElem _ _ hk]
    · next hrow =>
        rw [← hff k hk (Nat.le_of_not_lt hrow), List.getD_eq_getElem _ _ hk]

/-- Another page is kept when it has nothing behind its row, and nothing else
than it holds runs on into its row. -/
theorem pageTable_rewritten_iff (chip : Chip) {page q : ℕ} {p : List UInt8}
    (hpage : page < 8192) (hsector : q / 8 = page / 8) (hne : q ≠ page) :
    (∀ k < pageSize, pageTable (chip.issue (dfWriteFlash chip page 0 p)) q k =
        pageTable chip q k) ↔
      (∀ k < pageSize, dfBakSize ≤ k → pageTable chip q k = 0xFF) ∧
        (page < q → ∀ k < dfBakSize, (q - page) * dfBakSize + k < p.length →
          p.getD ((q - page) * dfBakSize + k) 0 = pageTable chip q k) := by
  obtain ⟨j, hj, rfl⟩ := exists_place hsector
  have hdiff : page % 8 ≤ j →
      j - page % 8 = 8 * (page / 8) + j - page := by omega
  constructor
  · intro hkept
    constructor
    · intro k hk hlo
      rw [← hkept k hk]
      exact pageTable_rewritten_behind chip p hpage hj hlo hk
    · intro hlt k hk hin
      have hrow : page % 8 ≤ j := by omega
      have h := pageTable_rewritten_row chip p hpage hj hk
      rw [if_pos hrow, hdiff hrow, List.getD_eq_getElem _ _ hin,
        hkept k (by simp only [dfBakSize, pageSize] at hk ⊢; omega)] at h
      rw [List.getD_eq_getElem _ _ hin]
      exact h.symm
  · rintro ⟨hbehind, hrows⟩ k hk
    rcases Nat.lt_or_ge k dfBakSize with hrow | hlo
    · rw [pageTable_rewritten_row chip p hpage hj hrow]
      split
      · rename_i hle
        rw [hdiff hle]
        by_cases hin : (8 * (page / 8) + j - page) * dfBakSize + k < p.length
        · rw [← hrows (by omega) k hrow hin, List.getD_eq_getElem _ _ hin,
            List.getD_eq_getElem _ _ hin]
        · exact List.getD_eq_default _ _ (Nat.le_of_not_lt hin)
      · rfl
    · rw [hbehind k hk hlo]
      exact pageTable_rewritten_behind chip p hpage hj hlo hk

/-- `DF_WriteFlash` rewrites the page and keeps the rest of its sector exactly
when the rows are enough. -/
theorem rewritesPage_iff (chip : Chip) {page : ℕ} {p : List UInt8}
    (hpage : page < 8192) (hlen : p.length ≤ pageSize) :
    RewritesPage chip page p ↔ RowsSuffice chip page p := by
  rw [RewritesPage, dfReadFlash_rewritten_iff chip hpage hlen]
  constructor
  · rintro ⟨hbuffer, hothers⟩
    refine ⟨hbuffer, ?_, ?_⟩
    · intro q hsector hne
      exact ((pageTable_rewritten_iff chip hpage hsector hne).mp
        (hothers q hsector hne)).1
    · intro q hsector hlt
      have hne : q ≠ page := Nat.ne_of_gt hlt
      exact ((pageTable_rewritten_iff chip hpage hsector hne).mp
        (hothers q hsector hne)).2 hlt
  · intro h
    refine ⟨h.buffer, ?_⟩
    intro q hsector hne
    exact (pageTable_rewritten_iff chip hpage hsector hne).mpr
      ⟨h.pages q hsector hne, h.rows q hsector⟩

/-- Every page holds its number in each of its first 150 bytes. -/
def Chip.numbered : Chip :=
  { Chip.blank with
    flash := fun addr =>
      if addr % 512 < 150 then UInt8.ofNat (addr / 512) else 0xFF }

theorem rewritesPage_iff_numbered : RewritesPage .numbered 1433 [1, 1, 0] := by
  refine (rewritesPage_iff .numbered (by decide) (by decide)).mpr ⟨?_, ?_, ?_⟩
  · intro k hk hlo
    simp only [dfBakSize, List.length_cons, List.length_nil] at hk hlo
    omega
  · intro q _ _ k hk hlo
    refine if_neg ?_
    simp only [dfBakSize, pageSize] at hk hlo
    omega
  · intro q _ hlt k _ hin
    simp only [dfBakSize, List.length_cons, List.length_nil] at hin
    omega

/-- A `MSG_TEXT` whose text fills its 150 bytes. -/
def fullMsgText : List UInt8 := [1, 1, 150] ++ List.replicate 150 0x41

/-- Its last three bytes are lost. -/
theorem fullMsgText_not_rewritten : ¬ RewritesPage .blank 1433 fullMsgText := by
  rintro ⟨hread, -⟩
  have hlen : fullMsgText.length = 153 := rfl
  have hbyte : fullMsgText.getD 150 0 = 0x41 := rfl
  have hff := (dfReadFlash_rewritten_iff .blank (p := fullMsgText) (by decide)
    (by rw [hlen]; decide)).mp hread 150 (by rw [hlen]; decide) (by decide)
  rw [hbyte] at hff
  exact absurd hff (by decide)

end VehicleRecorder.Dataflash
