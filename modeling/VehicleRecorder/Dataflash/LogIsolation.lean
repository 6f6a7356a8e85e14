import VehicleRecorder.Dataflash.LogRegions

/-!
# Runs over the record logs

A run interleaves saves into all the logs.  A step is isolated when the
commands it appends to the journal of the chip leave the slots of every other
log alone; the main result characterizes the isolated runs.
-/

namespace VehicleRecorder.Dataflash

open NorFlash

/-! ## Steps -/

/-- The types `Common_WriteContent` accepts. -/
inductive CommonType
  | tiredDrv
  | expSpd
  | accFire
  | errorLog
  | logIn
  | powerCut
  | settingChg
  deriving DecidableEq, Repr

/-- The record type of the source. -/
def CommonType.type : CommonType → RecordType
  | .tiredDrv => .tiredDrvAdd
  | .expSpd => .expSpdAdd
  | .accFire => .accFireAdd
  | .errorLog => .errorLogAdd
  | .logIn => .logInAdd
  | .powerCut => .powerCutAdd
  | .settingChg => .settingChgAdd

/-- The log a common type writes to. -/
def CommonType.log : CommonType → Log
  | .tiredDrv => .tired
  | .expSpd => .expSpd
  | .accFire => .accFire
  | .errorLog => .errorLog
  | .logIn => .logIn
  | .powerCut => .powerCut
  | .settingChg => .settingChg

/-- A call that saves a record. -/
inductive SaveCall
  | apiCycleWrite (content : List UInt8)
  | spdpermin (content : List UInt8)
  | spdWarn (content : List UInt8)
  | tiredWarn (content : List UInt8)
  | doubtData (content : List UInt8)
  | commonWriteContent (type : CommonType) (i : ℕ) (content : List UInt8)
  | saveMintPosition (i : ℕ) (content : List UInt8)
  | savePerSecContent (i : ℕ) (content : List UInt8)

namespace SaveCall

/-- Perform the call. -/
def perform (d : Device) : SaveCall → Device
  | .apiCycleWrite c => (Dataflash.apiCycleWrite d c).1
  | .spdpermin c => (apiDFdirectoryWrite d .spdpermin c).1
  | .spdWarn c => (apiDFdirectoryWrite d .spdWarn c).1
  | .tiredWarn c => (apiDFdirectoryWrite d .tiredWarn c).1
  | .doubtData c => (apiDFdirectoryWrite d .doubtData c).1
  | .commonWriteContent t i c => (Dataflash.commonWriteContent d i c t.type).1
  | .saveMintPosition i c => (Dataflash.saveMintPosition d i c).1
  | .savePerSecContent i c => (Dataflash.savePerSecContent d i c).1

/-- The log the call writes to. -/
def log : SaveCall → Log
  | .apiCycleWrite _ => .cycle
  | .spdpermin _ => .perMin
  | .spdWarn _ => .expSpd
  | .tiredWarn _ => .tired
  | .doubtData _ => .doubt
  | .commonWriteContent t _ _ => t.log
  | .saveMintPosition _ _ => .mintPos
  | .savePerSecContent _ _ => .perSec

/-- The index the call writes at. -/
def index (d : Device) : SaveCall → ℕ
  | .apiCycleWrite _ => d.cycleWrite
  | .spdpermin _ => d.avrgSpdPerMinWrite
  | .spdWarn _ => d.expSpdRecWrite
  | .tiredWarn _ => d.tiredDrvWrite
  | .doubtData _ => d.recorderWrite
  | .commonWriteContent _ i _ => i
  | .saveMintPosition i _ => i
  | .savePerSecContent i _ => i

/-- The bytes handed over. -/
def content : SaveCall → List UInt8
  | .apiCycleWrite c => c
  | .spdpermin c => c
  | .spdWarn c => c
  | .tiredWarn c => c
  | .doubtData c => c
  | .commonWriteContent _ _ c => c
  | .saveMintPosition _ c => c
  | .savePerSecContent _ c => c

/-- An index argument is below the bound of its kind, and a length fits its
`u16` parameter. -/
structure Admissible (call : SaveCall) : Prop where
  length_lt : call.content.length < 65536
  index_lt :
    match call with
    | .commonWriteContent _ i _ => i < maxCommonNum
    | .saveMintPosition i _ => i < maxMintPos
    | .savePerSecContent i _ => i < maxSpdPerSec
    | _ => True

end SaveCall

/-- The write indices are below the bounds they are wrapped at. -/
structure Device.InRange (d : Device) : Prop where
  cycle : d.cycleWrite < maxCycleNum
  doubt : d.recorderWrite < maxRecoderNum
  perMin : d.avrgSpdPerMinWrite < maxSpdsPerMin
  tired : d.tiredDrvWrite < maxCommonNum
  expSpd : d.expSpdRecWrite < maxSpdsPerMin

theorem SaveCall.index_lt {d : Device} {call : SaveCall} (hd : d.InRange)
    (h : call.Admissible) : call.index d < call.log.slots := by
  cases call with
  | apiCycleWrite c => exact hd.cycle
  | spdpermin c => exact hd.perMin
  | spdWarn c => exact hd.expSpd
  | tiredWarn c => exact hd.tired
  | doubtData c => exact hd.doubt
  | commonWriteContent t i c =>
      have hi : i < 128 := h.index_lt
      have hslots : 128 ≤ t.log.slots := by cases t <;> decide
      exact Nat.lt_of_lt_of_le hi hslots
  | saveMintPosition i c => exact h.index_lt
  | savePerSecContent i c => exact h.index_lt

/-! ## What a step issues -/

/-- `d'` is the device after a save of `content` at slot `i` of the log, and
possibly more commands outside all the regions of other logs. -/
def Saved (log : Log) (i : ℕ) (content : List UInt8) (d d' : Device) : Prop :=
  ∃ tail, d'.chip = d.chip.issue (log.saveCmds d.chip i content ++ tail) ∧
    ∀ x, log.Foreign x → Untouched sectorSize tail x

theorem Saved.of_issue {log : Log} {i : ℕ} {content : List UInt8}
    {d d' : Device}
    (h : d'.chip = d.chip.issue (log.saveCmds d.chip i content)) :
    Saved log i content d d' := by
  refine ⟨[], ?_, fun x _ => untouched_nil _ x⟩
  rw [List.append_nil]
  exact h

theorem Saved.issue {log : Log} {i : ℕ} {content : List UInt8}
    {d d₁ d₂ : Device} {cmds : List Cmd} (h : Saved log i content d d₁)
    (hchip : d₂.chip = d₁.chip.issue cmds)
    (hcmds : ∀ x, log.Foreign x → Untouched sectorSize cmds x) :
    Saved log i content d d₂ := by
  obtain ⟨tail, hd₁, htail⟩ := h
  refine ⟨tail ++ cmds, ?_, ?_⟩
  · rw [hchip, hd₁, ← Chip.issue_append, List.append_assoc]
  · intro x hx
    exact (untouched_append sectorSize).mpr ⟨htail x hx, hcmds x hx⟩

/-- Writing the pointer log stays outside the regions. -/
theorem Saved.dfWriteRecordAdd {log : Log} {i : ℕ} {content : List UInt8}
    {d d₁ d₂ : Device} (h : Saved log i content d d₁)
    (hchip : d₂.chip = d₁.chip) (wr rd : ℕ) (type : RecordType) :
    Saved log i content d (dfWriteRecordAdd d₂ wr rd type) := by
  have hissue : (Dataflash.dfWriteRecordAdd d₂ wr rd type).chip =
      d₁.chip.issue (recordAddCmds d₂.chip wr rd type) := by
    rw [Dataflash.dfWriteRecordAdd, Device.issue_chip, hchip]
  apply h.issue hissue
  rintro x ⟨other, -, hx⟩
  exact untouched_recordAddCmds d₂.chip wr rd (hx.not_pointerLog type)

theorem saveCmds_eq_slotCmds {log : Log} (h : log ≠ .cycle) (chip : Chip)
    (i : ℕ) (content : List UInt8) :
    log.saveCmds chip i content =
      slotCmds log.start log.per log.width chip i content := by
  have hiff : log.Refuses chip i ↔
      SlotInUse log.start log.per log.width chip i := and_iff_right h
  rw [Log.saveCmds, slotCmds, Log.addr]
  simp only [hiff]

/-- `saveSlot` at a slot of a log. -/
theorem saveSlot_saved (log : Log) (hlog : log ≠ .cycle) {i : ℕ}
    {content : List UInt8} (hi : i < log.slots)
    (hlen : content.length < 65536) {d d' : Device}
    (hchip : d'.chip =
      (saveSlot log.start log.per log.width d i content).1.chip) :
    Saved log i content d d' := by
  apply Saved.of_issue
  rw [hchip, saveSlot_eq (log.fits hi) hlen, saveCmds_eq_slotCmds hlog]
  rfl

/-! ## The save functions -/

theorem saveDrvRecoder_chip (d : Device) (i : ℕ) (content : List UInt8) :
    (saveDrvRecoder d i content).1.chip =
      (saveSlot vehicleRecStartOffset 2 256 d i content).1.chip := by
  rw [saveDrvRecoder]
  rcases saveSlot vehicleRecStartOffset 2 256 d i content with ⟨d₁, _ | _⟩
  all_goals rfl

theorem savePerMinContent_chip (d : Device) (i : ℕ) (content : List UInt8) :
    (savePerMinContent d i content).1.chip =
      (saveSlot averageSpdStartOffset 7 70 d i content).1.chip := by
  rw [savePerMinContent]
  rcases saveSlot averageSpdStartOffset 7 70 d i content with ⟨d₁, _ | _⟩
  all_goals rfl

theorem savePerSecContent_chip (d : Device) (i : ℕ) (content : List UInt8) :
    (savePerSecContent d i content).1.chip =
      (saveSlot avrgSpdSecOffset 7 70 d i content).1.chip := by
  rw [savePerSecContent]
  rcases saveSlot avrgSpdSecOffset 7 70 d i content with ⟨d₁, _ | _⟩
  all_goals rfl

theorem saveMintPosition_chip (d : Device) (i : ℕ) (content : List UInt8) :
    (saveMintPosition d i content).1.chip =
      (saveSlot avrgMintPositOffset 1 512 d i content).1.chip := by
  rw [saveMintPosition]
  rcases saveSlot avrgMintPositOffset 1 512 d i content with ⟨d₁, _ | _⟩
  all_goals rfl

theorem commonWriteContent_chip (d : Device) (i : ℕ) (content : List UInt8)
    (t : CommonType) :
    (commonWriteContent d i content t.type).1.chip =
      (saveSlot t.log.start 16 32 d i content).1.chip := by
  have hstart : t.type.startOffset = some t.log.start := by cases t <;> rfl
  rw [commonWriteContent, hstart]
  dsimp only
  rcases saveSlot t.log.start 16 32 d i content with ⟨d₁, _ | _⟩
  · rfl
  · cases t <;> rfl

theorem commonWriteContent_saved {t : CommonType} {i : ℕ}
    {content : List UInt8} (hi : i < t.log.slots)
    (hlen : content.length < 65536) (d : Device) :
    Saved t.log i content d (commonWriteContent d i content t.type).1 := by
  have hlayout : t.log.per = 16 ∧ t.log.width = 32 := by
    cases t <;> exact ⟨rfl, rfl⟩
  have hlog : t.log ≠ .cycle := by cases t <;> exact nofun
  apply saveSlot_saved t.log hlog hi hlen
  rw [commonWriteContent_chip, hlayout.1, hlayout.2]

/-- What `SaveCycleGPS` issues: the erase of a new sector, the content, and
after four bad read-backs in a row an erase of the sector once more. -/
theorem saveCycleGPS_chip {d : Device} {content : List UInt8}
    (hi : d.cycleWrite < maxCycleNum) (hlen : content.length < 65536) :
    ∃ tail, (saveCycleGPS d content).1.chip =
        d.chip.issue
          (Log.cycle.saveCmds d.chip d.cycleWrite content ++ tail) ∧
      (tail = [] ∨ tail = [.erase (Log.cycle.page d.cycleWrite * 512)]) := by
  have hfits := Log.cycle.fits hi
  have hpage : cyclePage d.cycleWrite = Log.cycle.page d.cycleWrite :=
    Nat.add_comm _ _
  have hlt : Log.cycle.page d.cycleWrite < 8000 := hfits.page_lt
  have hin : cycleInPageAddr d.cycleWrite = d.cycleWrite % 16 * 32 :=
    Nat.mod_eq_of_lt (by omega)
  have herase : sst25vSectorErase4KByte
      (Log.cycle.page d.cycleWrite * pageSize) =
      .erase (Log.cycle.page d.cycleWrite * 512) :=
    sst25vSectorErase4KByte_eq (by omega)
  have hcmds : (if d.cycleWrite / 16 % 8 = 0 ∧ d.cycleWrite % 16 = 0 then
        [sst25vSectorErase4KByte (Log.cycle.page d.cycleWrite * pageSize)]
      else []) ++
        dfWriteFlashDirect (Log.cycle.page d.cycleWrite)
          (cycleInPageAddr d.cycleWrite) content =
      Log.cycle.saveCmds d.chip d.cycleWrite content := by
    have hnot : ¬ Log.cycle.Refuses d.chip d.cycleWrite := fun h => h.1 rfl
    rw [herase, hin, dfWriteFlashDirect_eq_of_end (by omega) (by omega)
      (by omega), Log.saveCmds, if_neg hnot]
    rfl
  simp only [saveCycleGPS, saveCycleSub1, hpage, ← Device.issue_append, hcmds]
  rw [herase]
  split_ifs
  · exact ⟨[], by simp, Or.inl rfl⟩
  · refine ⟨[.erase (Log.cycle.page d.cycleWrite * 512)], ?_, Or.inr rfl⟩
    rw [Chip.issue_append]
    rfl
  · exact ⟨[], by simp, Or.inl rfl⟩

/-- An erase of a sector of the ring reaches no other log. -/
theorem untouched_cycle_sector {i x : ℕ} (hi : i < maxCycleNum)
    (hx : Log.cycle.Foreign x) :
    Untouched sectorSize [.erase (Log.cycle.page i * 512)] x := by
  have hpage : Log.cycle.page i < 2792 :=
    Nat.add_lt_add_left (Log.lt_pages hi) 1768
  rw [untouched_cons]
  refine ⟨?_, untouched_nil _ x⟩
  intro htouch
  have hsector : x / 4096 = Log.cycle.page i * 512 / 4096 := htouch
  refine Log.not_foreign_of_room hpage (by omega) ?_ hx
  have hroom : Log.cycle.roomEnd i = 2792 := rfl
  omega

theorem apiCycleWrite_saved {d : Device} {content : List UInt8}
    (hi : d.cycleWrite < maxCycleNum) (hlen : content.length < 65536) :
    Saved .cycle d.cycleWrite content d (apiCycleWrite d content).1 := by
  obtain ⟨tail, hchip, htail⟩ := saveCycleGPS_chip hi hlen
  have hsaved : Saved .cycle d.cycleWrite content d
      (saveCycleGPS d content).1 := by
    refine ⟨tail, hchip, ?_⟩
    intro x hx
    rcases htail with rfl | rfl
    · exact untouched_nil _ x
    · exact untouched_cycle_sector hi hx
  rw [apiCycleWrite]
  rcases hsave : saveCycleGPS d content with ⟨d₁, _ | _⟩
  · rw [hsave] at hsaved
    exact hsaved
  · rw [hsave] at hsaved
    exact hsaved.dfWriteRecordAdd rfl _ _ _

/-- Every call saves into the slot of its log and stays otherwise outside the
regions of the other logs. -/
theorem SaveCall.perform_saved {d : Device} {call : SaveCall}
    (hd : d.InRange) (h : call.Admissible) :
    Saved call.log (call.index d) call.content d (call.perform d) := by
  have hi := SaveCall.index_lt hd h
  have hlen := h.length_lt
  cases call with
  | apiCycleWrite c => exact apiCycleWrite_saved hi hlen
  | spdpermin c =>
      have hsave := saveSlot_saved .perMin nofun hi hlen
        (savePerMinContent_chip d d.avrgSpdPerMinWrite c)
      refine Saved.dfWriteRecordAdd hsave ?_ _ _ _
      rfl
  | spdWarn c =>
      have hsave := commonWriteContent_saved (t := .expSpd) hi hlen d
      refine Saved.dfWriteRecordAdd hsave ?_ _ _ _
      rfl
  | tiredWarn c =>
      have hsave := commonWriteContent_saved (t := .tiredDrv) hi hlen d
      refine Saved.dfWriteRecordAdd hsave ?_ _ _ _
      rfl
  | doubtData c =>
      have hsave := saveSlot_saved .doubt nofun hi hlen
        (saveDrvRecoder_chip d d.recorderWrite c)
      refine Saved.dfWriteRecordAdd hsave ?_ _ _ _
      rfl
  | commonWriteContent t i c => exact commonWriteContent_saved hi hlen d
  | saveMintPosition i c =>
      exact saveSlot_saved .mintPos nofun hi hlen (saveMintPosition_chip d i c)
  | savePerSecContent i c =>
      exact saveSlot_saved .perSec nofun hi hlen (savePerSecContent_chip d i c)

/-! ## The index ranges along a run -/

namespace Device.InRange

variable {d : Device}

theorem issue (h : d.InRange) (cmds : List Cmd) : (d.issue cmds).InRange :=
  ⟨h.cycle, h.doubt, h.perMin, h.tired, h.expSpd⟩

theorem saveSlot (h : d.InRange) (start per width i : ℕ)
    (content : List UInt8) :
    (saveSlot start per width d i content).1.InRange := by
  rw [Dataflash.saveSlot]
  split_ifs
  case pos | pos => exact h.issue _
  case neg | neg => exact (h.issue _).issue _

theorem saveDrvRecoder (h : d.InRange) (i : ℕ) (content : List UInt8) :
    (saveDrvRecoder d i content).1.InRange := by
  have hslot := h.saveSlot vehicleRecStartOffset 2 256 i content
  rw [Dataflash.saveDrvRecoder]
  rcases hsave : Dataflash.saveSlot vehicleRecStartOffset 2 256 d i content
    with ⟨d₁, _ | _⟩
  all_goals rw [hsave] at hslot
  · exact { hslot with doubt := bump_lt (by decide) _ }
  · exact hslot

theorem savePerMinContent (h : d.InRange) (i : ℕ) (content : List UInt8) :
    (savePerMinContent d i content).1.InRange := by
  have hslot := h.saveSlot averageSpdStartOffset 7 70 i content
  rw [Dataflash.savePerMinContent]
  rcases hsave : Dataflash.saveSlot averageSpdStartOffset 7 70 d i content
    with ⟨d₁, _ | _⟩
  all_goals rw [hsave] at hslot
  · exact { hslot with perMin := bump_lt (by decide) _ }
  · exact hslot

theorem savePerSecContent (h : d.InRange) (i : ℕ) (content : List UInt8) :
    (savePerSecContent d i content).1.InRange := by
  have hslot := h.saveSlot avrgSpdSecOffset 7 70 i content
  rw [Dataflash.savePerSecContent]
  rcases hsave : Dataflash.saveSlot avrgSpdSecOffset 7 70 d i content
    with ⟨d₁, _ | _⟩
  all_goals rw [hsave] at hslot
  · exact ⟨hslot.cycle, hslot.doubt, hslot.perMin, hslot.tired, hslot.expSpd⟩
  · exact hslot

theorem saveMintPosition (h : d.InRange) (i : ℕ) (content : List UInt8) :
    (saveMintPosition d i content).1.InRange := by
  have hslot := h.saveSlot avrgMintPositOffset 1 512 i content
  rw [Dataflash.saveMintPosition]
  rcases hsave : Dataflash.saveSlot avrgMintPositOffset 1 512 d i content
    with ⟨d₁, _ | _⟩
  all_goals rw [hsave] at hslot
  · exact ⟨hslot.cycle, hslot.doubt, hslot.perMin, hslot.tired, hslot.expSpd⟩
  · exact hslot

theorem commonWriteContent (h : d.InRange) (t : CommonType) {i : ℕ}
    (hi : i < t.log.slots) (content : List UInt8) :
    (commonWriteContent d i content t.type).1.InRange := by
  have hstart : t.type.startOffset = some t.log.start := by cases t <;> rfl
  have hslot := h.saveSlot t.log.start 16 32 i content
  rw [Dataflash.commonWriteContent, hstart]
  dsimp only
  rcases hsave : Dataflash.saveSlot t.log.start 16 32 d i content
    with ⟨d₁, _ | _⟩
  all_goals rw [hsave] at hslot
  · exact hslot
  · cases t
    case tiredDrv => exact { hslot with tired := hi }
    case expSpd => exact { hslot with expSpd := hi }
    all_goals
      exact ⟨hslot.cycle, hslot.doubt, hslot.perMin, hslot.tired, hslot.expSpd⟩

theorem saveCycleSub1 (h : d.InRange) (page offset : ℕ)
    (content : List UInt8) :
    (saveCycleSub1 d page offset content).InRange :=
  ⟨h.cycle, h.doubt, h.perMin, h.tired, h.expSpd⟩

theorem saveCycleGPS (h : d.InRange) (content : List UInt8) :
    (saveCycleGPS d content).1.InRange := by
  have hwrite (n : ℕ) : nextCycle n < maxCycleNum := bump_lt (by decide) n
  have hsub (cmds : List Cmd) := (h.issue cmds).saveCycleSub1
    (cyclePage d.cycleWrite) (cycleInPageAddr d.cycleWrite) content
  simp only [Dataflash.saveCycleGPS]
  generalize (if d.cycleWrite / 16 % 8 = 0 ∧ d.cycleWrite % 16 = 0 then
    [sst25vSectorErase4KByte (cyclePage d.cycleWrite * pageSize)]
    else []) = cmds
  replace hsub := hsub cmds
  generalize Dataflash.saveCycleSub1 (d.issue cmds) (cyclePage d.cycleWrite)
    (cycleInPageAddr d.cycleWrite) content = d₁ at hsub
  split_ifs
  · exact ⟨hsub.cycle, hsub.doubt, hsub.perMin, hsub.tired, hsub.expSpd⟩
  · exact ⟨hwrite _, hsub.doubt, hsub.perMin, hsub.tired, hsub.expSpd⟩
  · exact ⟨hwrite _, hsub.doubt, hsub.perMin, hsub.tired, hsub.expSpd⟩

theorem apiCycleWrite (h : d.InRange) (content : List UInt8) :
    (apiCycleWrite d content).1.InRange := by
  have hsave := h.saveCycleGPS content
  rw [Dataflash.apiCycleWrite]
  rcases hgps : Dataflash.saveCycleGPS d content with ⟨d₁, _ | _⟩
  all_goals rw [hgps] at hsave
  · exact hsave
  · exact { hsave with cycle := bump_lt (by decide) _ }

/-- Every call keeps the write indices in range. -/
theorem perform (h : d.InRange) {call : SaveCall} (hcall : call.Admissible) :
    (call.perform d).InRange := by
  have hi := SaveCall.index_lt h hcall
  cases call with
  | apiCycleWrite c => exact h.apiCycleWrite c
  | spdpermin c =>
      have hsave := h.savePerMinContent d.avrgSpdPerMinWrite c
      rw [SaveCall.perform, apiDFdirectoryWrite]
      generalize (Dataflash.savePerMinContent d d.avrgSpdPerMinWrite c).1 = d₁ at hsave ⊢
      exact { hsave with perMin := bump_lt (by decide) _ }
  | spdWarn c =>
      have hsave := h.commonWriteContent .expSpd hi c
      rw [CommonType.type, SaveCall.index] at hsave
      rw [SaveCall.perform, apiDFdirectoryWrite]
      generalize (Dataflash.commonWriteContent d d.expSpdRecWrite c .expSpdAdd).1 = d₁
        at hsave ⊢
      exact { hsave with expSpd := bump_lt (by decide) _ }
  | tiredWarn c =>
      have hsave := h.commonWriteContent .tiredDrv hi c
      rw [CommonType.type, SaveCall.index] at hsave
      rw [SaveCall.perform, apiDFdirectoryWrite]
      generalize (Dataflash.commonWriteContent d d.tiredDrvWrite c .tiredDrvAdd).1 = d₁
        at hsave ⊢
      exact { hsave with tired := bump_lt (by decide) _ }
  | doubtData c =>
      have hsave := h.saveDrvRecoder d.recorderWrite c
      rw [SaveCall.perform, apiDFdirectoryWrite]
      generalize (Dataflash.saveDrvRecoder d d.recorderWrite c).1 = d₁ at hsave ⊢
      exact { hsave with doubt := bump_lt (by decide) _ }
  | commonWriteContent t i c => exact h.commonWriteContent t hi c
  | saveMintPosition i c => exact h.saveMintPosition i c
  | savePerSecContent i c => exact h.savePerSecContent i c

end Device.InRange

/-! ## Isolated runs -/

/-- The commands the chip received between two states. -/
def newCmds (d d' : Device) : List Cmd :=
  d'.chip.journal.drop d.chip.journal.length

/-- No command of the call touches a slot of another log. -/
def SaveCall.Isolated (d : Device) (call : SaveCall) : Prop :=
  ∀ log, log ≠ call.log → ∀ x, log.Owns x →
    Untouched sectorSize (newCmds d (call.perform d)) x

/-- Every call of the run is isolated. -/
def RunIsolated : Device → List SaveCall → Prop
  | _, [] => True
  | d, call :: calls => call.Isolated d ∧ RunIsolated (call.perform d) calls

/-- The call is safe in the state it is made in. -/
def SaveCall.Safe (d : Device) (call : SaveCall) : Prop :=
  call.log.Safe d.chip (call.index d) call.content

instance (d : Device) (call : SaveCall) : Decidable (call.Safe d) :=
  inferInstanceAs (Decidable (call.log.Safe _ _ _))

/-- Every call of the run is safe when it is made. -/
def RunSafe : Device → List SaveCall → Prop
  | _, [] => True
  | d, call :: calls => call.Safe d ∧ RunSafe (call.perform d) calls

theorem newCmds_of_issue {d d' : Device} {cmds : List Cmd}
    (h : d'.chip = d.chip.issue cmds) : newCmds d d' = cmds := by
  rw [newCmds, h, Chip.issue_journal, List.drop_left]

/-- A call is isolated exactly if it is safe. -/
theorem SaveCall.isolated_iff_safe {d : Device} {call : SaveCall}
    (hd : d.InRange) (h : call.Admissible) :
    call.Isolated d ↔ call.Safe d := by
  obtain ⟨tail, hchip, htail⟩ := SaveCall.perform_saved hd h
  rw [SaveCall.Safe, Log.safe_iff_untouched (SaveCall.index_lt hd h)
    h.length_lt, SaveCall.Isolated, newCmds_of_issue hchip]
  constructor
  · rintro hisolated x ⟨other, hne, hx⟩
    exact ((untouched_append sectorSize).mp (hisolated other hne x hx)).1
  · intro hsave other hne x hx
    have hforeign : call.log.Foreign x := ⟨other, hne, hx⟩
    exact (untouched_append sectorSize).mpr
      ⟨hsave x hforeign, htail x hforeign⟩

/-- In every run over all the logs, from any state with indices in range: no
save touches a slot of another log exactly if every save is safe when it is
made. -/
theorem runIsolated_iff_runSafe (d : Device) (hd : d.InRange)
    (calls : List SaveCall) (hcalls : ∀ call ∈ calls, call.Admissible) :
    RunIsolated d calls ↔ RunSafe d calls := by
  induction calls generalizing d with
  | nil => rfl
  | cons call calls ih =>
      have hcall := hcalls call List.mem_cons_self
      have htail : ∀ c ∈ calls, c.Admissible := fun c hc =>
        hcalls c (List.mem_cons_of_mem call hc)
      rw [RunIsolated, RunSafe, SaveCall.isolated_iff_safe hd hcall,
        ih _ (hd.perform hcall) htail]

theorem Device.inRange_initial : Device.initial.InRange := by
  constructor <;> decide

theorem admissible_mintPosition_12 :
    (SaveCall.saveMintPosition 12 (List.replicate 486 1)).Admissible :=
  ⟨by decide +kernel, by decide⟩

theorem admissible_spdpermin :
    (SaveCall.spdpermin (List.replicate 70 1)).Admissible :=
  ⟨by decide +kernel, trivial⟩

/-- A per-minute record and a position record on a new device. -/
theorem runIsolated_iff_runSafe_sample :
    let calls := [SaveCall.spdpermin (List.replicate 70 1),
      SaveCall.saveMintPosition 12 (List.replicate 486 1)]
    RunIsolated .initial calls ↔ RunSafe .initial calls := by
  refine runIsolated_iff_runSafe .initial Device.inRange_initial _ ?_
  exact List.forall_mem_cons.mpr ⟨admissible_spdpermin,
    List.forall_mem_singleton.mpr admissible_mintPosition_12⟩

/-- The position record of slot 12 is programmed over slot 0 of the error
log. -/
theorem not_runIsolated_mintPosition :
    ¬ ∀ calls : List SaveCall, (∀ call ∈ calls, call.Admissible) →
      RunIsolated .initial calls := by
  intro h
  have hrun := h [.saveMintPosition 12 (List.replicate 486 1)]
    (List.forall_mem_singleton.mpr admissible_mintPosition_12)
  have herrorLog : Log.errorLog.Owns (3420 * 512) :=
    ⟨0, by decide, by decide⟩
  have huntouched := hrun.1 .errorLog nofun (3420 * 512) herrorLog
  revert huntouched
  decide +kernel

end VehicleRecorder.Dataflash
