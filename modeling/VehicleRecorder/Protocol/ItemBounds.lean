import VehicleRecorder.Protocol.CopyBounds

/-!
# Parameter items and their destinations

`CentreSet_subService_8103H` copies the content of an item into an array, into
two of them, or into a buffer of its own, with the length the item came with.
Only the items of fixed length are sure to fit.
-/

namespace VehicleRecorder.Protocol

open Bytes

/-- The buffers of `CentreSet_subService_8103H`. -/
inductive LocalBuf
  | regIn
  | regStr
  deriving DecidableEq, Repr

/-- The size a buffer is declared with. -/
def LocalBuf.size : LocalBuf → ℕ
  | .regIn => 20
  | .regStr => 80

/-- The copies of the content of an item into these buffers, with their
lengths. -/
def localCopies (subId : ℕ) (infolen : UInt8) : List (LocalBuf × ℕ) :=
  match subId with
  | 0x0013 => [(.regIn, infolen.toNat)]
  | 0x0017 => [(.regIn, infolen.toNat)]
  | 0x0041 => if infolen = 0 then [] else [(.regStr, infolen.toNat)]
  | 0xF000 => if infolen ≠ 12 then [] else [(.regIn, 12)]
  | _ => []

/-- Every copy of an item stays inside its destination. -/
def ItemInBounds (subId : ℕ) (infolen : UInt8) (content : ℕ → UInt8)
    (s : AppState) : Prop :=
  AllFit (({ s with stores := [] } : AppState).centreSetSubService8103H subId
      infolen content).stores ∧
    ∀ c ∈ localCopies subId infolen, c.2 ≤ c.1.size

/-- The lengths the destinations of a parameter have room for. -/
def RoomFor (subId : ℕ) (infolen : UInt8) : Prop :=
  match subId with
  | 0x0010 => infolen ≤ 30
  | 0x0013 => infolen ≤ 20
  | 0x0017 => infolen ≤ 20
  | 0x0040 => infolen ≤ 30
  | 0x0041 => infolen ≤ 80
  | 0x0048 => infolen ≤ 30
  | 0x0083 => infolen ≤ 13
  | _ => True

/-! ## The stores of the services -/

section Stores

variable (infolen : UInt8) (content : ℕ → UInt8) (s : AppState)

open AppState

theorem setDword_stores {put : ℕ → AppState}
    (h : ∀ v, (put v).stores = s.stores) :
    (s.setDword infolen content put).stores = s.stores := by
  rw [setDword]
  split
  · rfl
  · exact h _

theorem setListenNum_fits :
    AllFit (s.setListenNum infolen content).stores ↔
      AllFit s.stores ∧ infolen ≤ 30 := by
  rw [setListenNum]
  split
  · rename_i h
    simp [h]
  · simp [Store.Fits, Arr.size, UInt8.le_iff_toNat_le]

theorem setApn_fits :
    AllFit (s.setApn infolen content).stores ↔
      AllFit s.stores ∧ infolen ≤ 30 := by
  rw [setApn]
  split
  · rename_i h
    simp [h]
  · have hstores (s : AppState) (c : Call) :
        (s.saveSysConf.call c).stores = s.stores := rfl
    simp [hstores, Store.Fits, Arr.size, UInt8.le_iff_toNat_le]
    omega

/-- The arrays for a name have more room than the buffer in front of them. -/
theorem setMainServer_fits (h : infolen ≤ 20) :
    AllFit (s.setMainServer infolen content).stores ↔ AllFit s.stores := by
  rw [UInt8.le_iff_toNat_le] at h
  have h : infolen.toNat ≤ 20 := h
  rw [setMainServer]
  dsimp only
  split
  · have hstores (s : AppState) (c : Call) :
        ((s.call c).setCentreCmdAck 2).stores = s.stores := rfl
    have hsave (s : AppState) : s.saveSysConf.stores = s.stores := rfl
    simp [hstores, hsave, Store.Fits, Arr.size]
    omega
  · exact Iff.rfl

theorem setAuxServer_fits (h : infolen ≤ 20) :
    AllFit (s.setAuxServer infolen content).stores ↔ AllFit s.stores := by
  rw [UInt8.le_iff_toNat_le] at h
  have h : infolen.toNat ≤ 20 := h
  rw [setAuxServer]
  dsimp only
  split
  · have hstores (s : AppState) (c : Call) :
        ((s.call c).setCentreCmdAck 2).stores = s.stores := rfl
    have hsave (s : AppState) : s.saveSysConf.stores = s.stores := rfl
    simp [hstores, hsave, Store.Fits, Arr.size]
    omega
  · exact Iff.rfl

theorem setMonitorNum_fits :
    AllFit (s.centreSetSubService8103H 0x0048 infolen content).stores ↔
      AllFit s.stores ∧ infolen ≤ 30 := by
  have hserve : s.centreSetSubService8103H 0x0048 infolen content =
      if infolen = 0 then s
      else { s.setListenNum infolen content with texts.callState := 5 } := rfl
  rw [hserve]
  split
  · rename_i h
    simp [h]
  · exact setListenNum_fits infolen content s

theorem setVechNum_fits :
    AllFit (s.centreSetSubService8103H 0x0083 infolen content).stores ↔
      AllFit s.stores ∧ infolen ≤ 13 := by
  have hserve : s.centreSetSubService8103H 0x0083 infolen content =
      if infolen < 4 then s
      else ((s.memset .vechNum 13).memcpy .vechNum content 0
        infolen.toNat).saveJT808 := rfl
  rw [hserve]
  split
  · rename_i h
    rw [UInt8.lt_iff_toNat_lt] at h
    rw [UInt8.le_iff_toNat_le]
    exact (and_iff_left (Nat.le_trans (Nat.le_of_lt h) (by decide))).symm
  · simp [Store.Fits, Arr.size, UInt8.le_iff_toNat_le]

/-- The parameters that `RoomFor` does not name store nothing, or as much as
their length check allows. -/
theorem centreSetSubService8103H_fits (subId : ℕ)
    (hapn : subId ≠ 0x0010) (hmain : subId ≠ 0x0013) (haux : subId ≠ 0x0017)
    (hcentre : subId ≠ 0x0040) (hlisten : subId ≠ 0x0048)
    (hnum : subId ≠ 0x0083) :
    AllFit (centreSetSubService8103H subId infolen content s).stores ↔
      AllFit s.stores := by
  rw [centreSetSubService8103H.eq_def]
  dsimp only
  split
  case h_6 => exact absurd rfl hapn
  case h_7 => exact absurd rfl hmain
  case h_8 => exact absurd rfl haux
  case h_20 =>
    split
    · exact Iff.rfl
    · rename_i h2
      rw [setListenNum_fits, not_not.mp h2]
      exact and_iff_left (by decide)
  case h_21 => exact absurd rfl hcentre
  case h_22 => exact absurd rfl hlisten
  case h_31 => exact absurd rfl hnum
  all_goals
    first
    | exact iff_of_eq (congrArg AllFit
        (setDword_stores infolen content s fun v => rfl))
    | exact Iff.rfl
    | split <;> exact Iff.rfl

end Stores

/-- The copies of an item stay inside their destinations exactly when its length
is one they have room for. -/
theorem itemInBounds_iff (subId : ℕ) (infolen : UInt8) (content : ℕ → UInt8)
    (s : AppState) :
    ItemInBounds subId infolen content s ↔ RoomFor subId infolen := by
  have hnil : AllFit ({ s with stores := [] } : AppState).stores := allFit_nil
  rw [ItemInBounds]
  generalize ({ s with stores := [] } : AppState) = s₀ at hnil ⊢
  rw [RoomFor.eq_def]
  split
  case h_1 =>
    have hfits := setApn_fits infolen content s₀
    exact ⟨fun h => (hfits.mp h.1).2, fun h => ⟨hfits.mpr ⟨hnil, h⟩, nofun⟩⟩
  case h_2 =>
    have hroom : (∀ c ∈ localCopies 0x0013 infolen, c.2 ≤ c.1.size) ↔
        infolen ≤ 20 := by
      simp [localCopies, LocalBuf.size, UInt8.le_iff_toNat_le]
    rw [hroom]
    exact ⟨fun h => h.2, fun h => ⟨(setMainServer_fits infolen content
      s₀ h).mpr hnil, h⟩⟩
  case h_3 =>
    have hroom : (∀ c ∈ localCopies 0x0017 infolen, c.2 ≤ c.1.size) ↔
        infolen ≤ 20 := by
      simp [localCopies, LocalBuf.size, UInt8.le_iff_toNat_le]
    rw [hroom]
    exact ⟨fun h => h.2, fun h => ⟨(setAuxServer_fits infolen content
      s₀ h).mpr hnil, h⟩⟩
  case h_4 =>
    have hfits := setListenNum_fits infolen content s₀
    exact ⟨fun h => (hfits.mp h.1).2, fun h => ⟨hfits.mpr ⟨hnil, h⟩, nofun⟩⟩
  case h_5 =>
    have hstores : AllFit (s₀.centreSetSubService8103H 0x0041 infolen
        content).stores := hnil
    rw [and_iff_right hstores, localCopies]
    split
    · rename_i h
      simp [h]
    · simp [LocalBuf.size, UInt8.le_iff_toNat_le]
  case h_6 =>
    have hfits := setMonitorNum_fits infolen content s₀
    exact ⟨fun h => (hfits.mp h.1).2, fun h => ⟨hfits.mpr ⟨hnil, h⟩, nofun⟩⟩
  case h_7 =>
    have hfits := setVechNum_fits infolen content s₀
    exact ⟨fun h => (hfits.mp h.1).2, fun h => ⟨hfits.mpr ⟨hnil, h⟩, nofun⟩⟩
  case h_8 hapn hmain haux hcentre hstr hlisten hnum =>
    have hfits := centreSetSubService8103H_fits infolen content s₀ subId
      hapn hmain haux hcentre hlisten hnum
    refine iff_of_true ⟨hfits.mpr hnil, ?_⟩ trivial
    rw [localCopies.eq_def]
    split
    · exact absurd rfl hmain
    · exact absurd rfl haux
    · exact absurd rfl hstr
    · split
      · exact nofun
      · simp [LocalBuf.size]
    · exact nofun

/-- A name of twenty characters just fits into `reg_in`, and one more does
not. -/
theorem longName_out_of_bounds :
    ¬ ItemInBounds 0x0013 21 (fun _ => 0x61) {} := by
  intro h
  exact absurd (h.2 (.regIn, 21) (by decide)) (by decide)

end VehicleRecorder.Protocol
