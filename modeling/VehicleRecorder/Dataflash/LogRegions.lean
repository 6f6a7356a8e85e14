import VehicleRecorder.Dataflash.FlashOper

/-!
# Isolation of the log regions

The record logs share the middle of the flash part.  A log owns the pages its
index range maps to from its start page, and a save is isolated when none of
the commands it issues reaches a byte another log owns.

The module says exactly when a save is isolated.  The over-speed log wraps its
index at 2800 and so claims the pages of seven other logs, which makes almost
every save of those unsafe; the remaining four logs are safe as long as a
record ends inside its own region.
-/

namespace VehicleRecorder.Dataflash

open NorFlash

/-! ## Regions -/

/-- The record logs with a region of their own. -/
inductive Log
  | cycle
  | doubt
  | perMin
  | tired
  | expSpd
  | mintPos
  | errorLog
  | perSec
  | accFire
  | logIn
  | powerCut
  | settingChg
  deriving DecidableEq, Repr

namespace Log

/-- The first page of the log. -/
def start : Log → ℕ
  | .cycle => cycleStartOffset
  | .doubt => vehicleRecStartOffset
  | .perMin => averageSpdStartOffset
  | .tired => tiredDrvStartOffset
  | .expSpd => expSpdStartOffset
  | .mintPos => avrgMintPositOffset
  | .errorLog => abNormalStartOffset
  | .perSec => avrgSpdSecOffset
  | .accFire => accWorkOnStartOffset
  | .logIn => logInOffset
  | .powerCut => powerCutOffset
  | .settingChg => settingChgOffset

/-- Slots on a page. -/
def per : Log → ℕ
  | .doubt => 2
  | .perMin => 7
  | .perSec => 7
  | .mintPos => 1
  | _ => 16

/-- Bytes of a slot. -/
def width : Log → ℕ
  | .doubt => 256
  | .perMin => 70
  | .perSec => 70
  | .mintPos => 512
  | _ => 32

/-- The bound of the write index, where the code wraps it. -/
def slots : Log → ℕ
  | .cycle => maxCycleNum
  | .doubt => maxRecoderNum
  | .perMin => maxSpdsPerMin
  | .expSpd => maxSpdsPerMin
  | .mintPos => maxMintPos
  | .perSec => maxSpdPerSec
  | _ => maxCommonNum

/-- The page of slot `i`. -/
def page (log : Log) (i : ℕ) : ℕ := log.start + i / log.per

/-- The address of slot `i`. -/
def addr (log : Log) (i : ℕ) : ℕ := slotAddr log.start log.per log.width i

/-- A byte of a page the index range maps to. -/
def Owns (log : Log) (x : ℕ) : Prop := ∃ i < log.slots, x / 512 = log.page i

/-- A byte of a page of some other log. -/
def Foreign (log : Log) (x : ℕ) : Prop := ∃ other ≠ log, other.Owns x

/-- The pages of the log. -/
def pages : Log → ℕ
  | .cycle => 1024
  | .doubt => 200
  | .perMin => 400
  | .expSpd => 175
  | .mintPos => 48
  | .perSec => 80
  | _ => 8

theorem lt_pages {log : Log} {i : ℕ} (hi : i < log.slots) :
    i / log.per < log.pages := by
  cases log
  all_goals
    simp only [slots, per, pages, maxCycleNum, maxRecoderNum, maxSpdsPerMin, maxMintPos,
      maxSpdPerSec, maxCommonNum] at hi ⊢
    omega

theorem mul_per_lt_slots {log : Log} {n : ℕ} (hn : n < log.pages) :
    n * log.per < log.slots := by
  cases log
  all_goals
    simp only [slots, per, pages, maxCycleNum, maxRecoderNum, maxSpdsPerMin, maxMintPos,
      maxSpdPerSec, maxCommonNum] at hn ⊢
    omega

theorem per_pos (log : Log) : 0 < log.per := by
  cases log <;> decide

theorem owns_iff (log : Log) (x : ℕ) :
    log.Owns x ↔
      log.start ≤ x / 512 ∧ x / 512 < log.start + log.pages := by
  constructor
  · rintro ⟨i, hi, hx⟩
    rw [hx, page]
    exact ⟨Nat.le_add_right _ _, Nat.add_lt_add_left (lt_pages hi) _⟩
  · rintro ⟨hlo, hhi⟩
    refine ⟨(x / 512 - log.start) * log.per, mul_per_lt_slots (by omega), ?_⟩
    rw [page, Nat.mul_div_cancel _ log.per_pos]
    omega

theorem end_lt (log : Log) : log.start + log.pages < 8000 := by
  cases log <;> decide

theorem fits (log : Log) {i : ℕ} (hi : i < log.slots) :
    SlotFits log.start log.per log.width i where
  per_pos := log.per_pos
  width_le := by cases log <;> decide
  page_lt := by
    have hpage := lt_pages hi
    have hend := log.end_lt
    omega

/-- No log reaches into the pages of the pointer logs. -/
theorem Owns.not_pointerLog {log : Log} {x : ℕ} (h : log.Owns x)
    (type : RecordType) : ¬ type.Owns x := by
  have hlt := type.addOffset_lt
  have hlo : 1768 ≤ log.start := by cases log <;> decide
  have hx := ((owns_iff log x).mp h).1
  simp only [RecordType.Owns, sectorSize]
  omega

/-- The page in front of which a record of slot `i` has to end in order to keep
clear of the other logs; 0 when the page of the slot itself lies in another
log, and the size of the part when no log follows. -/
def roomEnd (log : Log) (i : ℕ) : ℕ :=
  match log with
  | .cycle => vehicleRecStartOffset
  | .doubt => averageSpdStartOffset
  | .perMin => tiredDrvStartOffset
  | .tired => expSpdStartOffset
  | .expSpd =>
      if i < 128 then avrgMintPositOffset
      else if i / 128 = 15 then logInOffset
      else if 19 ≤ i / 128 then 8192
      else 0
  | _ => 0

theorem roomEnd_mod (log : Log) (i : ℕ) : log.roomEnd i % 8 = 0 := by
  cases log
  case expSpd =>
    simp only [roomEnd]
    split_ifs <;> rfl
  all_goals
    simp only [roomEnd, vehicleRecStartOffset, averageSpdStartOffset,
      tiredDrvStartOffset, expSpdStartOffset]

/-- Owning a byte, with the bounds of the region as numbers. -/
theorem owns_of_page {log : Log} {x : ℕ} (lo n : ℕ) (hstart : log.start = lo)
    (hpages : log.pages = n) (hlo : lo ≤ x / 512) (hhi : x / 512 < lo + n) :
    log.Owns x := by
  rw [owns_iff, hstart, hpages]
  exact ⟨hlo, hhi⟩

/-- The pages of the over-speed log without room are those of the logs that
were laid out behind its first sector. -/
theorem expSpd_foreign {i x : ℕ} (hi : i < 2800)
    (hroom : ¬ expSpd.page i < expSpd.roomEnd i)
    (hx : x / 512 = expSpd.page i) : expSpd.Foreign x := by
  have hx : x / 512 = 3400 + i / 16 := hx
  have hroom : (128 ≤ i ∧ i < 1920) ∨ (2048 ≤ i ∧ i < 2432) := by
    simp only [page, roomEnd, start, per, avrgMintPositOffset, logInOffset,
      expSpdStartOffset] at hroom
    split_ifs at hroom <;> omega
  rcases Nat.lt_or_ge (x / 512) 3456 with h | h
  · exact ⟨.mintPos, nofun, owns_of_page 3408 48 rfl rfl (by omega) h⟩
  rcases Nat.lt_or_ge (x / 512) 3512 with h | h
  · exact ⟨.perSec, nofun, owns_of_page 3432 80 rfl rfl (by omega) h⟩
  rcases Nat.lt_or_ge (x / 512) 3520 with h | h
  · exact ⟨.accFire, nofun, owns_of_page 3512 8 rfl rfl (by omega) h⟩
  rcases Nat.lt_or_ge (x / 512) 3536 with h | h
  · exact ⟨.logIn, nofun, owns_of_page 3528 8 rfl rfl (by omega) h⟩
  rcases Nat.lt_or_ge (x / 512) 3544 with h | h
  · exact ⟨.powerCut, nofun, owns_of_page 3536 8 rfl rfl (by omega) h⟩
  · exact ⟨.settingChg, nofun, owns_of_page 3544 8 rfl rfl (by omega) (by omega)⟩

/-- Without room the page of a slot lies in the region of another log. -/
theorem foreign_of_no_room {log : Log} {i x : ℕ} (hi : i < log.slots)
    (hroom : ¬ log.page i < log.roomEnd i) (hx : x / 512 = log.page i) :
    log.Foreign x := by
  have howns : log.Owns x := ⟨i, hi, hx⟩
  rw [owns_iff] at howns
  cases log
  case expSpd => exact expSpd_foreign hi hroom hx
  case cycle | doubt | perMin | tired => exact absurd (hx ▸ howns.2) hroom
  all_goals
    refine ⟨.expSpd, nofun, owns_of_page 3400 175 rfl rfl ?_ ?_⟩
    · exact Nat.le_trans (by decide) howns.1
    · exact Nat.lt_of_lt_of_le howns.2 (by decide)

/-- Behind the room another log begins. -/
theorem foreign_roomEnd {log : Log} {i : ℕ} (hi : i < log.slots)
    (hroom : log.page i < log.roomEnd i) (hend : log.roomEnd i < 8192) :
    log.Foreign (log.roomEnd i * 512) := by
  cases log <;> simp only [roomEnd] at hroom hend ⊢
  case cycle =>
    exact ⟨.doubt, nofun, owns_of_page 2792 200 rfl rfl (by decide) (by decide)⟩
  case doubt =>
    exact ⟨.perMin, nofun, owns_of_page 2992 400 rfl rfl (by decide)
      (by decide)⟩
  case perMin =>
    exact ⟨.tired, nofun, owns_of_page 3392 8 rfl rfl (by decide) (by decide)⟩
  case tired =>
    exact ⟨.expSpd, nofun, owns_of_page 3400 175 rfl rfl (by decide)
      (by decide)⟩
  case expSpd =>
    split_ifs at hroom hend ⊢
    · exact ⟨.mintPos, nofun, owns_of_page 3408 48 rfl rfl (by decide)
        (by decide)⟩
    · exact ⟨.logIn, nofun, owns_of_page 3528 8 rfl rfl (by decide)
        (by decide)⟩
    · exact absurd hend (Nat.lt_irrefl 8192)
    · exact absurd hroom (Nat.not_lt_zero _)
  all_goals exact absurd hroom (Nat.not_lt_zero _)

/-- From the start of the slot's sector to the end of the room no byte belongs
to another log. -/
theorem not_foreign_of_room {log : Log} {i x : ℕ}
    (hroom : log.page i < log.roomEnd i) (hlo : log.page i / 8 ≤ x / 4096)
    (hhi : x / 512 < log.roomEnd i) : ¬ log.Foreign x := by
  rintro ⟨other, hne, howns⟩
  rw [owns_iff] at howns
  simp only [roomEnd, page] at hroom hlo hhi
  cases log <;> cases other <;>
    first
    | exact hne rfl
    | simp only [start, per, pages, cycleStartOffset, vehicleRecStartOffset,
        averageSpdStartOffset, tiredDrvStartOffset, expSpdStartOffset,
        avrgMintPositOffset, abNormalStartOffset, avrgSpdSecOffset,
        accWorkOnStartOffset, logInOffset, powerCutOffset, settingChgOffset] at hroom hlo hhi howns
      try split_ifs at hroom hhi
      all_goals omega

theorem addr_div (log : Log) (i : ℕ) : log.addr i / 512 = log.page i := by
  have hin : i % log.per * log.width < 512 := by
    have hmod := Nat.mod_lt i log.per_pos
    cases log <;> simp only [per, width] at hmod ⊢ <;> omega
  rw [addr, slotAddr, ← page, Nat.mul_comm, Nat.mul_add_div (by decide),
    Nat.div_eq_of_lt hin, Nat.add_zero]

/-! ## Which saves are isolated -/

/-- The save gives up before programming.  The stored reports are saved
without looking at the slot. -/
def Refuses (log : Log) (chip : Chip) (i : ℕ) : Prop :=
  log ≠ .cycle ∧ SlotInUse log.start log.per log.width chip i

instance (log : Log) (chip : Chip) (i : ℕ) :
    Decidable (log.Refuses chip i) :=
  inferInstanceAs (Decidable (_ ∧ _))

/-- The erase and program commands of a save into the log. -/
def saveCmds (log : Log) (chip : Chip) (i : ℕ) (content : List UInt8) :
    List Cmd :=
  sectorCmds log.start log.per i ++
    if log.Refuses chip i then [] else programBytes (log.addr i) content

/-- The save keeps clear of the other logs: it erases and programs only where
there is room, and what it programs ends there. -/
def Safe (log : Log) (chip : Chip) (i : ℕ) (content : List UInt8) : Prop :=
  (FirstOfSector log.per i → log.page i < log.roomEnd i) ∧
    (log.Refuses chip i ∨ content = [] ∨
      log.addr i + content.length ≤ log.roomEnd i * 512)

instance (log : Log) (chip : Chip) (i : ℕ) (content : List UInt8) :
    Decidable (log.Safe chip i content) :=
  inferInstanceAs (Decidable (_ ∧ _))

theorem untouched_sectorCmds_iff (start per i x : ℕ) :
    Untouched sectorSize (sectorCmds start per i) x ↔
      (FirstOfSector per i → x / 4096 ≠ (start + i / per) / 8) := by
  have hsector : (start + i / per) * 512 / 4096 = (start + i / per) / 8 := by
    omega
  rw [sectorCmds]
  by_cases h : FirstOfSector per i
  · rw [if_pos h, untouched_cons, Cmd.Touches, sectorSize, hsector]
    exact ⟨fun hx _ => hx.1, fun hx => ⟨hx h, untouched_nil _ x⟩⟩
  · rw [if_neg h]
    exact ⟨fun _ hfirst => absurd hfirst h, fun _ => untouched_nil _ x⟩

theorem untouched_saveCmds_iff (log : Log) (chip : Chip) (i : ℕ)
    (content : List UInt8) (x : ℕ) :
    Untouched sectorSize (log.saveCmds chip i content) x ↔
      (FirstOfSector log.per i → x / 4096 ≠ log.page i / 8) ∧
        (log.Refuses chip i ∨ x < log.addr i ∨
          log.addr i + content.length ≤ x) := by
  rw [saveCmds, untouched_append, untouched_sectorCmds_iff, page]
  by_cases h : log.Refuses chip i
  · rw [if_pos h]
    exact and_congr_right fun _ =>
      ⟨fun _ => Or.inl h, fun _ => untouched_nil _ x⟩
  · rw [if_neg h, untouched_programBytes_iff, or_iff_right h]

theorem Safe.untouched {log : Log} {chip : Chip} {i : ℕ}
    {content : List UInt8} (h : log.Safe chip i content) {x : ℕ}
    (hx : log.Foreign x) :
    Untouched sectorSize (log.saveCmds chip i content) x := by
  obtain ⟨herase, hprogram⟩ := h
  have haddr := log.addr_div i
  have hmod := log.roomEnd_mod i
  rw [untouched_saveCmds_iff]
  constructor
  · intro hfirst hsector
    have hroom := herase hfirst
    have hdiv : x / 512 / 8 = log.page i / 8 :=
      (Nat.div_div_eq_div_mul x 512 8).trans hsector
    have hend : x / 512 < log.roomEnd i := by
      generalize x / 512 = q at hdiv
      omega
    exact not_foreign_of_room hroom (Nat.le_of_eq hsector.symm) hend hx
  · rcases hprogram with hrefuse | hempty | hend
    · exact Or.inl hrefuse
    · rw [hempty, List.length_nil, Nat.add_zero]
      exact Or.inr (Nat.lt_or_ge x (log.addr i))
    · by_contra! hin
      obtain ⟨-, hlo, hhi⟩ := hin
      have hroom : log.page i < log.roomEnd i := by omega
      exact not_foreign_of_room hroom (by omega) (by omega) hx

theorem safe_of_untouched {log : Log} {chip : Chip} {i : ℕ}
    {content : List UInt8} (hi : i < log.slots)
    (hlen : content.length < 65536)
    (h : ∀ x, log.Foreign x →
      Untouched sectorSize (log.saveCmds chip i content) x) :
    log.Safe chip i content := by
  have haddr := log.addr_div i
  have hpages := lt_pages hi
  have hend := log.end_lt
  simp only [untouched_saveCmds_iff] at h
  constructor
  · intro hfirst
    by_contra hroom
    have hx : log.page i * 512 / 512 = log.page i :=
      Nat.mul_div_cancel _ (by decide)
    exact (h _ (foreign_of_no_room hi hroom hx)).1 hfirst (by omega)
  · by_contra! hprogram
    obtain ⟨hrefuse, hne, hout⟩ := hprogram
    have hpos : 0 < content.length := List.length_pos_of_ne_nil hne
    by_cases hroom : log.page i < log.roomEnd i
    · have hfit : log.page i < 8000 := by
        rw [page]
        omega
      have hforeign := foreign_roomEnd hi hroom (by omega)
      rcases (h _ hforeign).2 with hr | hlo | hhi
      · exact hrefuse hr
      · omega
      · omega
    · have hforeign := foreign_of_no_room hi hroom haddr
      rcases (h _ hforeign).2 with hr | hlo | hhi
      · exact hrefuse hr
      · omega
      · omega

/-- A save touches no byte of another log exactly if it is safe. -/
theorem safe_iff_untouched {log : Log} {chip : Chip} {i : ℕ}
    {content : List UInt8} (hi : i < log.slots)
    (hlen : content.length < 65536) :
    log.Safe chip i content ↔
      ∀ x, log.Foreign x →
        Untouched sectorSize (log.saveCmds chip i content) x :=
  ⟨fun h _ hx => h.untouched hx, safe_of_untouched hi hlen⟩

end Log

end VehicleRecorder.Dataflash
