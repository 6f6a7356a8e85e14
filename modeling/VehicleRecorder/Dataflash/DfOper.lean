import VehicleRecorder.Lib.Bytes
import VehicleRecorder.Lib.NorFlash
import VehicleRecorder.Lib.SlotTable

/-!
# The serial flash and its page driver

`SST25VF.c` sends byte programs, 4 KB sector erases and byte reads to the
SST25VF032B over SPI; an address leaves the processor as three bytes.
`DF_Oper.c` builds virtual pages of 512 bytes on top of them, eight to a
sector.

The chip keeps a journal of the commands it was sent, so that a caller can be
asked what it issued as well as what it left behind.
-/

namespace VehicleRecorder.Dataflash

open NorFlash Bytes

/-- Bytes of a sector, the unit of `SST25V_SectorErase_4KByte`. -/
abbrev sectorSize : ℕ := 4096

/-- `PageSIZE`. -/
abbrev pageSize : ℕ := 512

/-- `DFBakSize`: the bytes of a page `DF_WriteFlash` saves and restores. -/
abbrev dfBakSize : ℕ := 150

/-- A value passed through a `u16` parameter. -/
abbrev u16 (n : ℕ) : ℕ := n % 65536

/-- The three address bytes of an SPI command. -/
abbrev spiAddress (addr : ℕ) : ℕ := addr % 16777216

/-- The flash part together with the program and erase commands it received,
oldest first. -/
structure Chip where
  flash : Flash
  journal : List Cmd

namespace Chip

/-- A part that was never written. -/
def blank : Chip := ⟨NorFlash.blank, []⟩

/-- Send a sequence of program and erase commands. -/
def issue (chip : Chip) (cmds : List Cmd) : Chip :=
  ⟨execAll sectorSize chip.flash cmds, chip.journal ++ cmds⟩

@[simp] theorem issue_flash (chip : Chip) (cmds : List Cmd) :
    (chip.issue cmds).flash = execAll sectorSize chip.flash cmds := rfl

@[simp] theorem issue_journal (chip : Chip) (cmds : List Cmd) :
    (chip.issue cmds).journal = chip.journal ++ cmds := rfl

@[simp] theorem issue_nil (chip : Chip) : chip.issue [] = chip := by
  simp [issue]

theorem issue_append (chip : Chip) (xs ys : List Cmd) :
    chip.issue (xs ++ ys) = (chip.issue xs).issue ys := by
  simp [issue, execAll_append]

end Chip

/-! ## SPI commands -/

/-- `SST25V_ByteRead`. -/
def sst25vByteRead (chip : Chip) (addr : ℕ) : UInt8 :=
  chip.flash (spiAddress addr)

/-- `SST25V_ByteWrite`. -/
def sst25vByteWrite (byte : UInt8) (addr : ℕ) : Cmd :=
  .program (spiAddress addr) byte

/-- `SST25V_SectorErase_4KByte`. -/
def sst25vSectorErase4KByte (addr : ℕ) : Cmd :=
  .erase (spiAddress addr)

/-! ## Pages -/

/-- `DF_ReadFlash`. -/
def dfReadFlash (chip : Chip) (page offset length : ℕ) : List UInt8 :=
  let baseAddress := u16 page * pageSize
  (List.range (u16 length)).map fun i =>
    sst25vByteRead chip (baseAddress + (u16 offset + i))

/-- The commands of `DF_WriteFlashDirect`; `p` are the `length` bytes the
pointer argument designates. -/
def dfWriteFlashDirect (page offset : ℕ) (p : List UInt8) : List Cmd :=
  let baseAddress := u16 page * pageSize
  p.mapIdx fun i b => sst25vByteWrite b (baseAddress + (u16 offset + i))

/-- The commands of `DF_WriteFlashSector`: erase the sector of the page, then
program. -/
def dfWriteFlashSector (page offset : ℕ) (p : List UInt8) : List Cmd :=
  sst25vSectorErase4KByte (8 * (u16 page / 8) * pageSize) ::
    p.mapIdx fun i b =>
      sst25vByteWrite b (u16 page * 512 + i + u16 offset)

/-- `SectorBuf_save` after the read loop of `DF_WriteFlash`, row after row. -/
def sectorBufSave (chip : Chip) (page : ℕ) : List UInt8 :=
  (List.range 8).flatMap fun i =>
    dfReadFlash chip (8 * (u16 page / 8) + i) 0 dfBakSize

/-- Store `p` into a buffer from index `at` on.  What would land behind the
buffer is outside the model and is dropped. -/
def storeAt (buf : List UInt8) (start : ℕ) (p : List UInt8) : List UInt8 :=
  buf.mapIdx fun i b =>
    if start ≤ i then p.getD (i - start) b else b

/-- The commands of `DF_WriteFlash`: the first 150 bytes of the eight pages of
the sector are saved in RAM, the sector is erased, and the saved bytes are
programmed back with `p` stored over row `page % 8` from `offset` on.  Storing
happens when the row is reached; it never reaches a row already programmed. -/
def dfWriteFlash (chip : Chip) (page offset : ℕ) (p : List UInt8) :
    List Cmd :=
  let buf := storeAt (sectorBufSave chip page)
    (u16 page % 8 * dfBakSize + u16 offset) p
  sst25vSectorErase4KByte (8 * (u16 page / 8) * pageSize) ::
    (List.range 8).flatMap fun j =>
      (List.range dfBakSize).map fun k =>
        sst25vByteWrite (buf.getD (j * dfBakSize + k) 0)
          ((8 * (u16 page / 8) + j) * pageSize + k)

/-! ## The driver in terms of byte ranges

Pages of the part lie below 8192, so neither the `u16` page number nor the
three address bytes lose anything. -/

theorem dfReadFlash_eq (chip : Chip) {page offset length : ℕ}
    (hpage : page < 8192) (hlen : offset + length < 65536) :
    dfReadFlash chip page offset length =
      readBytes chip.flash (page * 512 + offset) length := by
  apply List.ext_getElem?
  intro i
  rw [getElem?_readBytes]
  have hlength : u16 length = length := by
    simp only [u16]
    omega
  simp only [dfReadFlash, hlength, List.getElem?_map, sst25vByteRead]
  split
  · rename_i hi
    have haddr : spiAddress (u16 page * pageSize + (u16 offset + i)) =
        page * 512 + offset + i := by
      simp only [spiAddress, u16, pageSize]
      omega
    rw [List.getElem?_range hi, Option.map_some, haddr]
  · rename_i hi
    have hnone : (List.range length)[i]? = none := by
      rw [List.getElem?_eq_none]
      simpa using hi
    rw [hnone, Option.map_none]

@[simp] theorem dfReadFlash_length (chip : Chip) (page offset length : ℕ) :
    (dfReadFlash chip page offset length).length = u16 length := by
  simp [dfReadFlash]

theorem mapIdx_byteWrite (p : List UInt8) (addr : ℕ)
    (h : addr + p.length ≤ 16777216) :
    (p.mapIdx fun i b => sst25vByteWrite b (addr + i)) =
      programBytes addr p := by
  induction p generalizing addr with
  | nil => rfl
  | cons b p ih =>
      rw [List.length_cons] at h
      have hhead : addr % 16777216 = addr := by omega
      have htail := ih (addr + 1) (by omega)
      simp only [Nat.add_assoc, Nat.add_comm 1] at htail
      rw [List.mapIdx_cons, programBytes, htail, Nat.add_zero,
        sst25vByteWrite, spiAddress, hhead]

/-- A write that ends inside the part is a run of programs. -/
theorem dfWriteFlashDirect_eq_of_end {page offset : ℕ} {p : List UInt8}
    (hpage : page < 8192) (hoffset : offset < 65536)
    (hend : page * 512 + offset + p.length ≤ 16777216) :
    dfWriteFlashDirect page offset p =
      programBytes (page * 512 + offset) p := by
  have hp : u16 page = page := by
    simp only [u16]
    omega
  have ho : u16 offset = offset := by
    simp only [u16]
    omega
  rw [← mapIdx_byteWrite p (page * 512 + offset) hend]
  simp only [dfWriteFlashDirect, hp, ho, pageSize, Nat.add_assoc]

theorem dfWriteFlashDirect_eq {page offset : ℕ} {p : List UInt8}
    (hpage : page < 8192) (hlen : offset + p.length < 65536) :
    dfWriteFlashDirect page offset p =
      programBytes (page * 512 + offset) p :=
  dfWriteFlashDirect_eq_of_end hpage (by omega) (by omega)

theorem sst25vSectorErase4KByte_eq {page : ℕ} (hpage : page < 8192) :
    sst25vSectorErase4KByte (page * 512) = .erase (page * 512) := by
  have h : spiAddress (page * 512) = page * 512 := by
    simp only [spiAddress]
    omega
  rw [sst25vSectorErase4KByte, h]

/-! ## Rewriting a page

`DF_WriteFlash` keeps the first 150 bytes of every page of the sector it
erases, so on these bytes it is a write into a table of slots. -/

/-- The bytes `DF_WriteFlash` keeps, by page. -/
def pageTable (chip : Chip) : SlotTable.Table ℕ UInt8 :=
  fun page i => chip.flash (page * 512 + i)

theorem dfReadFlash_pageTable (chip : Chip) {page length : ℕ}
    (hpage : page < 8192) (hlen : length ≤ dfBakSize) :
    dfReadFlash chip page 0 length =
      SlotTable.read (pageTable chip) page length := by
  simp only [dfBakSize] at hlen
  rw [dfReadFlash_eq chip hpage (by omega), Nat.add_zero]
  apply List.ext_getElem?
  intro i
  rw [getElem?_readBytes]
  split
  · rename_i hi
    rw [SlotTable.getElem?_read hi]
    rfl
  · rename_i hi
    exact (List.getElem?_eq_none (by simpa using hi)).symm

theorem getElem?_sectorBufSave (chip : Chip) {page j k : ℕ}
    (hpage : page < 8192) (hj : j < 8) (hk : k < dfBakSize) :
    (sectorBufSave chip page)[j * dfBakSize + k]? =
      some (pageTable chip (8 * (page / 8) + j) k) := by
  have hu16 : u16 page = page := Nat.mod_eq_of_lt (by omega)
  have hrow (i : ℕ) :
      (dfReadFlash chip (8 * (page / 8) + i) 0 dfBakSize).length =
        dfBakSize := dfReadFlash_length chip _ _ _
  rw [sectorBufSave, hu16, getElem?_flatMap_range _ hrow hj hk,
    dfReadFlash_pageTable chip (by omega) (Nat.le_refl _),
    SlotTable.getElem?_read hk]

theorem getElem?_storeAt (buf : List UInt8) (start : ℕ) (p : List UInt8)
    (n : ℕ) :
    (storeAt buf start p)[n]? =
      buf[n]?.map fun b => if start ≤ n then p.getD (n - start) b else b := by
  rw [storeAt, List.getElem?_mapIdx]

/-- A byte programmed back is the new one in the row of the page, and the old
one elsewhere. -/
theorem getD_rewritten (chip : Chip) {page j k : ℕ} {p : List UInt8}
    (hpage : page < 8192) (hlen : p.length ≤ dfBakSize) (hj : j < 8)
    (hk : k < dfBakSize) :
    (storeAt (sectorBufSave chip page) (page % 8 * dfBakSize + 0) p).getD
        (j * dfBakSize + k) 0 =
      SlotTable.write (pageTable chip) (page, p) (8 * (page / 8) + j) k := by
  rw [List.getD_eq_getElem?_getD, getElem?_storeAt,
    getElem?_sectorBufSave chip hpage hj hk, Option.map_some, Option.getD_some,
    Nat.add_zero, SlotTable.write]
  simp only [dfBakSize] at hlen hk ⊢
  rcases Nat.lt_trichotomy j (page % 8) with hlt | heq | hgt
  · rw [if_neg (by omega), if_neg (by omega)]
  · have hk' : j * 150 + k - page % 8 * 150 = k := by omega
    rw [if_pos (by omega), if_pos (by omega), hk']
  · have hbehind : p.length ≤ j * 150 + k - page % 8 * 150 := by omega
    rw [if_pos (by omega), if_neg (by omega), List.getD_eq_getElem?_getD,
      List.getElem?_eq_none hbehind, Option.getD_none]

theorem map_range_byteWrite (b : ℕ → UInt8) (n addr : ℕ)
    (h : addr + n ≤ 16777216) :
    ((List.range n).map fun k => sst25vByteWrite (b k) (addr + k)) =
      programBytes addr ((List.range n).map b) := by
  rw [← mapIdx_byteWrite _ addr (by simpa using h)]
  apply List.ext_getElem?
  intro i
  rcases Nat.lt_or_ge i n with hi | hi
  · simp [List.getElem?_range hi]
  · simp [hi]

/-- What `DF_WriteFlash` programs into row `j` of the sector of `page`. -/
def rewrittenRow (chip : Chip) (page : ℕ) (p : List UInt8) (j : ℕ) :
    List UInt8 :=
  (List.range dfBakSize).map fun k =>
    (storeAt (sectorBufSave chip page) (page % 8 * dfBakSize + 0) p).getD
      (j * dfBakSize + k) 0

theorem rewrittenRow_length (chip : Chip) (page : ℕ) (p : List UInt8)
    (j : ℕ) : (rewrittenRow chip page p j).length = dfBakSize := by
  simp [rewrittenRow]

theorem dfWriteFlash_eq (chip : Chip) {page : ℕ} {p : List UInt8}
    (hpage : page < 8192) :
    dfWriteFlash chip page 0 p =
      .erase (8 * (page / 8) * 512) ::
        (List.range 8).flatMap fun j =>
          programBytes ((8 * (page / 8) + j) * 512)
            (rewrittenRow chip page p j) := by
  have hu16 : u16 page = page := Nat.mod_eq_of_lt (by omega)
  have hzero : u16 0 = 0 := rfl
  rw [dfWriteFlash, hu16, hzero, sst25vSectorErase4KByte_eq (by omega)]
  congr 1
  apply List.flatMap_congr
  intro j hj
  have hj : j < 8 := List.mem_range.mp hj
  rw [map_range_byteWrite _ _ _ (by simp only [dfBakSize, pageSize]; omega)]
  rfl

/-- `DF_WriteFlash` leaves the pages of other sectors alone. -/
theorem pageTable_dfWriteFlash_of_ne (chip : Chip) {page q k : ℕ}
    (p : List UInt8) (hpage : page < 8192) (hk : k < 512)
    (hsector : q / 8 ≠ page / 8) :
    pageTable (chip.issue (dfWriteFlash chip page 0 p)) q k =
      pageTable chip q k := by
  rw [pageTable, Chip.issue_flash, dfWriteFlash_eq chip hpage]
  apply execAll_of_untouched
  rw [untouched_cons]
  constructor
  · intro htouch
    have hdiv : (q * 512 + k) / 4096 = 8 * (page / 8) * 512 / 4096 := htouch
    omega
  · intro c hc
    obtain ⟨j, hj, hc⟩ := List.mem_flatMap.mp hc
    have hj : j < 8 := List.mem_range.mp hj
    refine untouched_programBytes sectorSize ?_ c hc
    rw [rewrittenRow_length]
    simp only [dfBakSize]
    omega

/-- The rewrite of a page erases the eight pages of its sector. -/
theorem exec_erase_row (f : Flash) (page : ℕ) {j k : ℕ} (hj : j < 8)
    (hk : k < 512) :
    exec sectorSize f (.erase (8 * (page / 8) * 512))
      ((8 * (page / 8) + j) * 512 + k) = 0xFF := by
  apply exec_erase_of_div_eq
  simp only [sectorSize]
  omega

/-- A kept byte is programmed back from its row. -/
theorem pageTable_dfWriteFlash_row (chip : Chip) {page j k : ℕ}
    (p : List UInt8) (hpage : page < 8192) (hj : j < 8) (hk : k < dfBakSize) :
    pageTable (chip.issue (dfWriteFlash chip page 0 p)) (8 * (page / 8) + j) k =
      (storeAt (sectorBufSave chip page) (page % 8 * dfBakSize + 0) p).getD
        (j * dfBakSize + k) 0 := by
  have hk' : k < 150 := hk
  have hrow : k < (rewrittenRow chip page p j).length := by
    rw [rewrittenRow_length]
    exact hk
  have herased := exec_erase_row chip.flash page hj
    (hk'.trans (by decide : 150 < 512))
  rw [pageTable, Chip.issue_flash, dfWriteFlash_eq chip hpage, execAll_cons,
    execAll_flatMap_range sectorSize _ _ hj,
    execAll_programBytes sectorSize hrow, herased, erased_and]
  · simp only [rewrittenRow, List.getElem_map, List.getElem_range]
  · intro i hi hne
    apply untouched_programBytes
    rw [rewrittenRow_length]
    simp only [dfBakSize]
    omega

/-- `DF_WriteFlash` at the start of a page is a write into the table. -/
theorem pageTable_dfWriteFlash (chip : Chip) {page q k : ℕ} {p : List UInt8}
    (hpage : page < 8192) (hlen : p.length ≤ dfBakSize) (hk : k < dfBakSize) :
    pageTable (chip.issue (dfWriteFlash chip page 0 p)) q k =
      SlotTable.write (pageTable chip) (page, p) q k := by
  have hk' : k < 150 := hk
  by_cases hsector : q / 8 = page / 8
  · obtain ⟨j, hj, rfl⟩ : ∃ j < 8, q = 8 * (page / 8) + j :=
      ⟨q % 8, by omega, by omega⟩
    rw [pageTable_dfWriteFlash_row chip p hpage hj hk]
    exact getD_rewritten chip hpage hlen hj hk
  · have hne : q ≠ page := by
      rintro rfl
      exact hsector rfl
    rw [SlotTable.write, if_neg hne]
    exact pageTable_dfWriteFlash_of_ne chip p hpage (by omega) hsector

end VehicleRecorder.Dataflash
