import VehicleRecorder.Protocol.ListBytes

/-!
# What a message depends on

The handlers of downlink messages take offsets and lengths from the message and
read behind its end when they do not fit.  For every message the number of bytes
that it is read for is given: nothing behind them matters, whatever the buffer
holds there.
-/

namespace VehicleRecorder.Protocol

open Bytes Prefix

/-! ## The bytes needed -/

section Needed

variable (rx : ℕ → UInt8)

/-- The bytes needed for the answer of the platform: its command, and its result
for three of them. -/
def needed8001 : ℕ :=
  if rx 15 ≠ 0 ∧ rx 15 ≠ 1 ∧ rx 15 ≠ 2 then 16
  else if be16 rx 15 = 0x0200 ∨ be16 rx 15 = 0x0101 ∨ be16 rx 15 = 0x0102 then
    18
  else 17

def needed8100 : ℕ :=
  if rx 15 = 0 then 16 + sizeT (infolen rx - 3) else 16

/-- A text is copied in full for the voice output and the store; the display
takes its length modulo 256. -/
def needed8300 : ℕ :=
  if rx 13 &&& 0x09 ≠ 0 ∨ rx 13 &&& 0x04 ≠ 0 ∨ rx 13 &&& 0x01 ≠ 0 then
    14 + sizeT (infolen rx - 1)
  else 14 + (((infolen rx : ℤ) - 1) % 256).toNat

/-- A list of one item is read up to the end `item`, when its type is one of the
`types` below. -/
def neededItem (types : UInt8) (item : ℕ) : ℕ :=
  if rx 13 = 0 ∨ ¬ rx 13 ≤ types then 14
  else if rx 14 ≠ 1 then 15
  else item

def needed8302 : ℕ :=
  15 + (rx 14).toNat + sizeT (infolen rx - 2 - (rx 14).toNat)

def needed8400 : ℕ :=
  if infolen rx = 0 then 13
  else if rx 13 ≤ 1 then 14 + sizeT (infolen rx - 1)
  else 14

/-- The number and the name of a phone book entry.  The record that type 2 reads
goes over a name of up to ten bytes. -/
def needed8401 : ℕ :=
  let nameStart := 18 + (rx 16).toNat
  let userLen := (rx (17 + (rx 16).toNat)).toNat
  if rx 13 = 1 ∨ rx 13 = 3 then nameStart + userLen
  else if rx 13 = 2 then
    if 10 < userLen then nameStart + userLen else nameStart
  else 14

/-- A list of one area is read up to the end `area`, unless it is empty or the
operation unknown. -/
def neededArea (area : ℕ) : ℕ :=
  if ¬ rx 13 ≤ 2 then 14
  else if rx 14 ≠ 1 then 15
  else area

/-- The numbers of a delete message lie a byte apart.  A number with a byte set
in front of its last one is out of range, whatever follows. -/
def neededDelete : ℕ :=
  let k := (rx 13).toNat
  if k = 0 then 14
  else if rx (13 + k) ≠ 0 then 14 + k
  else if rx (14 + k) ≠ 0 then 15 + k
  else if rx (15 + k) ≠ 0 then 16 + k
  else 17 + k

/-- The end of a turning point at offset `r`. -/
def pointEnd (r : ℕ) : ℕ :=
  if rx (r + 17) = 0 then r + 18
  else if rx (r + 17) = 1 then r + 20
  else r + 26

/-- The end of `n` turning points from offset `r` on. -/
def pointsEnd : ℕ → ℕ → ℕ
  | 0, r => r
  | n + 1, r => pointsEnd n (pointEnd rx r)

def needed8606 : ℕ := if be16 rx 31 < 3 then 33 else pointsEnd rx 6 33

def needed8701 : ℕ :=
  if rx 13 = 0x81 then 35
  else if rx 13 = 0x82 then 55
  else if rx 13 = 0xC3 then 17
  else 14

def needed8800 : ℕ := if infolen rx = 5 then 13 else 18 + (rx 17).toNat

def needed8900 (linkNum : ℕ) : ℕ :=
  if linkNum = 0 then 14 + sizeT (infolen rx - 1)
  else if rx 13 = 0x1F then if rx 29 = 0x93 then 34 else 30
  else 14

/-- The bytes of the buffer that the handler of a command needs, with the
header. -/
def bytesNeeded (linkNum : ℕ) : ℕ → ℕ
  | 0x8001 => needed8001 rx
  | 0x8100 => needed8100 rx
  | 0x8103 => listReach .sub8103H rx (rx 13).toNat 14
  | 0x8105 => 14
  | 0x8202 => 19
  | 0x8300 => needed8300 rx
  | 0x8301 => neededItem rx 4 (17 + (rx 16).toNat)
  | 0x8302 => needed8302 rx
  | 0x8303 => neededItem rx 3 (18 + be16 rx 16)
  | 0x8304 => 16 + sizeT (infolen rx - 3)
  | 0x8400 => needed8400 rx
  | 0x8401 => needed8401 rx
  | 0x8500 => 14
  | 0x8600 => neededArea rx 48
  | 0x8601 => neededDelete rx
  | 0x8602 => neededArea rx 52
  | 0x8603 => neededDelete rx
  | 0x8604 => neededArea rx 60
  | 0x8605 => neededDelete rx
  | 0x8606 => needed8606 rx
  | 0x8607 => neededDelete rx
  | 0x8700 => 14
  | 0x8701 => needed8701 rx
  | 0x8800 => needed8800 rx
  | 0x8801 => 19
  | 0x8802 => 16
  | 0x8803 => 14
  | 0x8804 => if rx 13 = 1 then 17 else 14
  | 0x8900 => needed8900 rx linkNum
  | 0xFF01 => listReach .subFF01H rx (rx 13).toNat 14
  | 0xFF03 => listReach .subFF03H rx (rx 13).toNat 14
  | _ => 13

end Needed

/-! ## Nothing behind them matters -/

namespace AppState

variable {rx rx' : ℕ → UInt8} {n : ℕ} (h : Agree n rx' rx) (s : AppState)
include h

theorem memcpy_agree {src : ℕ} {len : ℤ} (d : Arr)
    (hn : src + sizeT len ≤ n) :
    s.memcpy d rx' src len = s.memcpy d rx src len :=
  memcpy_congr s d (h.readBytes hn)

theorem infolen_agree (hn : 13 ≤ n) : infolen rx' = infolen rx := by
  rw [infolen, infolen, h 3 (by omega), h 4 (by omega)]

theorem case8001_congr (hn : needed8001 rx ≤ n) :
    s.case8001 rx' = s.case8001 rx := by
  rw [needed8001] at hn
  split at hn
  next hhigh =>
    have h15 := h 15 (by omega)
    have hne (f : ℕ → UInt8) (hf : f 15 = rx 15) (c : ℕ)
        (hc : c / 256 = 0 ∨ c / 256 = 1 ∨ c / 256 = 2) : be16 f 15 ≠ c := by
      intro heq
      rw [be16, hf] at heq
      have hlow := (f (15 + 1)).toNat_lt
      have hval : (rx 15).toNat = c / 256 := by omega
      obtain ⟨h0, h1, h2⟩ := hhigh
      rcases hc with hc | hc | hc
      · exact h0 (UInt8.toNat_inj.mp (hval.trans hc))
      · exact h1 (UInt8.toNat_inj.mp (hval.trans hc))
      · exact h2 (UInt8.toNat_inj.mp (hval.trans hc))
    have hsame (f : ℕ → UInt8) (hf : f 15 = rx 15) : s.case8001 f = s := by
      rw [case8001]
      split
      next heq => exact absurd heq (hne f hf _ (by decide))
      next heq => exact absurd heq (hne f hf _ (by decide))
      next heq => exact absurd heq (hne f hf _ (by decide))
      next heq => exact absurd heq (hne f hf _ (by decide))
      next => rfl
    rw [hsame rx' h15, hsame rx rfl]
  next =>
    have hid : be16 rx' 15 = be16 rx 15 := by
      split at hn <;> exact h.be16 (by omega)
    rw [case8001, case8001, hid]
    split
    next heq =>
      rw [if_pos (Or.inl heq)] at hn
      rw [h 17 (by omega)]
    next => rfl
    next heq =>
      rw [if_pos (Or.inr (Or.inl heq))] at hn
      rw [h 17 (by omega)]
    next heq =>
      rw [if_pos (Or.inr (Or.inr heq))] at hn
      rw [h 17 (by omega)]
    next => rfl

theorem case8100_congr (hn : needed8100 rx ≤ n) :
    s.case8100 rx' = s.case8100 rx := by
  rw [needed8100] at hn
  have h16 : 16 ≤ n := by split at hn <;> omega
  rw [case8100, case8100, h 15 (by omega), infolen_agree h (by omega)]
  split
  next heq =>
    rw [if_pos heq] at hn
    have hcopy (s : AppState) := memcpy_agree h s .confirmCode hn
    simp only [hcopy]
  next => rfl
  next => rfl

theorem case8105_congr (hn : 14 ≤ n) : s.case8105 rx' = s.case8105 rx := by
  rw [case8105, case8105, h 13 (by omega)]

theorem case8202_congr (hn : 19 ≤ n) : s.case8202 rx' = s.case8202 rx := by
  rw [case8202, case8202, h.be32 (by omega), h.be16 (by omega)]

/-! A text. -/

theorem playText_congr {len : ℤ} (hn : 14 + sizeT len ≤ n) :
    s.playText rx' len = s.playText rx len := by
  have hcopy (s : AppState) := memcpy_agree h s .playInfo hn
  have hspeak (s : AppState) : s.ttsGetData rx' 14 len =
      s.ttsGetData rx 14 len := by
    have hle : 14 + (len % 65536).toNat ≤ n := by
      rw [sizeT] at hn
      omega
    have hread := h.readBytes hle
    have hle' : 14 + sizeT (len % 65536).toNat ≤ n := by
      rw [sizeT_ofNat (by omega)]
      exact hle
    have hcopy (s : AppState) := memcpy_agree h s .hexBuf hle'
    simp only [ttsGetData, hcopy, hread]
  simp only [playText, hcopy, hspeak]

theorem keepText_congr {len : ℤ} (hn : 14 + sizeT len ≤ n) :
    s.keepText rx' len = s.keepText rx len := by
  have hcopy (s : AppState) := memcpy_agree h s .textContent hn
  simp only [keepText, hcopy]

theorem case8300_congr (hn : needed8300 rx ≤ n) :
    s.case8300 rx' = s.case8300 rx := by
  rw [needed8300] at hn
  have h14 : 14 ≤ n := by split at hn <;> omega
  have hshow : 14 + (((infolen rx : ℤ) - 1) % 256).toNat ≤ n := by
    split at hn
    · rw [sizeT] at hn
      omega
    · exact hn
  have hdisplay (s : AppState) := showText_congr s (h.readBytes hshow)
  simp only [case8300, infolen_agree h (by omega), h 13 (by omega), hdisplay]
  split at hn
  next =>
    simp only [playText_congr h _ hn, keepText_congr h _ hn]
  next hflag =>
    obtain ⟨h9, h4, h1⟩ : rx 13 &&& 0x09 = 0 ∧ rx 13 &&& 0x04 = 0 ∧
        rx 13 &&& 0x01 = 0 := by
      simpa only [not_or, not_not] using hflag
    have hplay (f : ℕ → UInt8) (s : AppState) (len : ℤ)
        (hs : s.texts.textFlag = rx 13) : s.playText f len = s := by
      rw [playText, hs, if_neg (not_not_intro h9)]
    have hkeep (f : ℕ → UInt8) (s : AppState) (len : ℤ)
        (hs : s.texts.textFlag = rx 13) : s.keepText f len = s := by
      rw [keepText, hs, if_neg]
      rintro (hne | hne)
      · exact hne h4
      · exact hne h1
    rw [hplay rx' _ _ rfl, hplay rx _ _ rfl, hkeep rx' _ _ rfl,
      hkeep rx _ _ rfl]

/-! Items. -/

omit h in
theorem neededItem_le {types : UInt8} {item : ℕ} (hitem : 15 ≤ item)
    (hn : neededItem rx types item ≤ n) :
    14 ≤ n ∧ (rx 13 ≠ 0 → rx 13 ≤ types →
      15 ≤ n ∧ (rx 14 = 1 → item ≤ n)) := by
  rw [neededItem] at hn
  split at hn
  next hout =>
    refine ⟨hn, fun hzero htype => ?_⟩
    rcases hout with h0 | hgt
    · exact absurd h0 hzero
    · exact absurd htype hgt
  next =>
    split at hn
    next hone => exact ⟨by omega, fun _ _ => ⟨hn, fun heq => absurd heq hone⟩⟩
    next => exact ⟨by omega, fun _ _ => ⟨by omega, fun _ => hn⟩⟩

theorem case8301_congr (hn : neededItem rx 4 (17 + (rx 16).toNat) ≤ n) :
    s.case8301 rx' = s.case8301 rx := by
  obtain ⟨h14, hlist⟩ := neededItem_le (by omega) hn
  rw [case8301, case8301, h 13 (by omega)]
  split
  · rfl
  next hzero =>
    split
    next htype =>
      obtain ⟨h15, hitem⟩ := hlist hzero htype
      rw [h 14 (by omega)]
      split
      · rfl
      next hone =>
        have hn := hitem (not_not.mp hone)
        have hlen : sizeT ((rx 16).toNat : ℕ) = (rx 16).toNat :=
          sizeT_ofNat (by have := (rx 16).toNat_lt; omega)
        have hcopy (s : AppState) : s.memcpy .eventStr rx' 17 (rx 16).toNat =
            s.memcpy .eventStr rx 17 (rx 16).toNat :=
          memcpy_agree h s .eventStr (by rw [hlen]; exact hn)
        simp only [h 15 (by omega), h 16 (by omega), hcopy]
    · rfl

theorem case8302_congr (hn : needed8302 rx ≤ n) :
    s.case8302 rx' = s.case8302 rx := by
  rw [needed8302] at hn
  have hlen : sizeT ((rx 14).toNat : ℕ) = (rx 14).toNat :=
    sizeT_ofNat (by have := (rx 14).toNat_lt; omega)
  have hask (s : AppState) : s.memcpy .askInfo rx' 15 (rx 14).toNat =
      s.memcpy .askInfo rx 15 (rx 14).toNat :=
    memcpy_agree h s .askInfo (by rw [hlen]; omega)
  have hanswer (s : AppState) := memcpy_agree h s .askAnswer hn
  simp only [case8302, h 14 (by omega), h.be16 (by omega : 11 + 2 ≤ n),
    infolen_agree h (by omega), hask, hanswer]

theorem case8303_congr (hn : neededItem rx 3 (18 + be16 rx 16) ≤ n) :
    s.case8303 rx' = s.case8303 rx := by
  obtain ⟨h14, hlist⟩ := neededItem_le (by omega) hn
  rw [case8303, case8303, h 13 (by omega)]
  split
  · rfl
  next hzero =>
    split
    next htype =>
      obtain ⟨h15, hitem⟩ := hlist hzero htype
      rw [h 14 (by omega)]
      split
      · rfl
      next hone =>
        have hn := hitem (not_not.mp hone)
        have hlen : sizeT (be16 rx 16 : ℕ) = be16 rx 16 :=
          sizeT_ofNat (by
            have hhigh := (rx 16).toNat_lt
            have hlow := (rx (16 + 1)).toNat_lt
            rw [be16]
            omega)
        have hcopy (s : AppState) : s.memcpy .infoStr rx' 18 (be16 rx 16) =
            s.memcpy .infoStr rx 18 (be16 rx 16) :=
          memcpy_agree h s .infoStr (by rw [hlen]; exact hn)
        simp only [h 15 (by omega), h.be16 (by omega : 16 + 2 ≤ n), hcopy]
    · rfl

theorem case8304_congr (hn : 16 + sizeT (infolen rx - 3) ≤ n) :
    s.case8304 rx' = s.case8304 rx := by
  have hinfo (s : AppState) := memcpy_agree h s .infoStr hn
  have htext (s : AppState) := memcpy_agree h s .textContent hn
  simp only [case8304, infolen_agree h (by omega), h 13 (by omega),
    h.be16 (by omega : 14 + 2 ≤ n), hinfo, htext]

theorem case8400_congr (hn13 : 13 ≤ n) (hn : needed8400 rx ≤ n) :
    s.case8400 rx' = s.case8400 rx := by
  rw [needed8400] at hn
  rw [case8400, case8400, infolen_agree h hn13]
  split
  · rfl
  next hlen =>
    rw [if_neg hlen] at hn
    have h14 : 14 ≤ n := by split at hn <;> omega
    rw [h 13 (by omega)]
    split
    next htype =>
      rw [if_pos htype] at hn
      have hcopy (s : AppState) := memcpy_agree h s .listenNum hn
      simp only [hcopy]
    · rfl

theorem case8500_congr (hn : 14 ≤ n) : s.case8500 rx' = s.case8500 rx := by
  rw [case8500, case8500, h 13 (by omega)]

/-! Areas and routes. -/

omit h in
theorem neededArea_le {area : ℕ} (harea : 15 ≤ area)
    (hn : neededArea rx area ≤ n) :
    14 ≤ n ∧ (rx 13 ≤ 2 → 15 ≤ n ∧ (rx 14 = 1 → area ≤ n)) := by
  rw [neededArea] at hn
  split at hn
  next hout => exact ⟨hn, fun hop => absurd hop hout⟩
  next =>
    split at hn
    next hone => exact ⟨by omega, fun _ => ⟨hn, fun heq => absurd heq hone⟩⟩
    next => exact ⟨by omega, fun _ => ⟨by omega, fun _ => hn⟩⟩

/-- The guard of the cases that set an area. -/
theorem guard_congr {area : ℕ} (harea : 15 ≤ area)
    (hn : neededArea rx area ≤ n) :
    (rx' 14 = 1 ∧ rx' 13 ≤ 2) = (rx 14 = 1 ∧ rx 13 ≤ 2) := by
  obtain ⟨h14, hop⟩ := neededArea_le harea hn
  rw [h 13 (by omega)]
  by_cases hle : rx 13 ≤ 2
  · rw [h 14 (by have := (hop hle).1; omega)]
  · simp only [hle, and_false]

theorem case8600_congr (hn : neededArea rx 48 ≤ n) :
    s.case8600 rx' = s.case8600 rx := by
  rw [case8600, case8600]
  simp only [guard_congr h (by omega) hn]
  split
  next hguard =>
    have h48 := ((neededArea_le (by omega) hn).2 hguard.2).2 hguard.1
    have hlen : sizeT 6 = 6 := rfl
    have hstart (s : AppState) := memcpy_agree h s .cycleStartTime
      (by omega : 33 + sizeT 6 ≤ n)
    have hend (s : AppState) := memcpy_agree h s .cycleEndTime
      (by omega : 39 + sizeT 6 ≤ n)
    simp only [h 13 (by omega), h 47 (by omega), hstart, hend,
      h.be32 (by omega : 15 + 4 ≤ n), h.be16 (by omega : 19 + 2 ≤ n),
      h.be32 (by omega : 21 + 4 ≤ n), h.be32 (by omega : 25 + 4 ≤ n),
      h.be32 (by omega : 29 + 4 ≤ n), h.be16 (by omega : 45 + 2 ≤ n)]
  · rfl

theorem case8602_congr (hn : neededArea rx 52 ≤ n) :
    s.case8602 rx' = s.case8602 rx := by
  rw [case8602, case8602]
  simp only [guard_congr h (by omega) hn]
  split
  next hguard =>
    have h52 := ((neededArea_le (by omega) hn).2 hguard.2).2 hguard.1
    have hlen : sizeT 6 = 6 := rfl
    have hstart (s : AppState) := memcpy_agree h s .rectStartTime
      (by omega : 37 + sizeT 6 ≤ n)
    have hend (s : AppState) := memcpy_agree h s .rectEndTime
      (by omega : 43 + sizeT 6 ≤ n)
    simp only [h 51 (by omega), hstart, hend,
      h.be32 (by omega : 15 + 4 ≤ n), h.be16 (by omega : 19 + 2 ≤ n),
      h.be32 (by omega : 21 + 4 ≤ n), h.be32 (by omega : 25 + 4 ≤ n),
      h.be32 (by omega : 29 + 4 ≤ n), h.be32 (by omega : 33 + 4 ≤ n),
      h.be16 (by omega : 49 + 2 ≤ n)]
  · rfl

theorem case8604_congr (hn : neededArea rx 60 ≤ n) :
    s.case8604 rx' = s.case8604 rx := by
  rw [case8604, case8604]
  simp only [guard_congr h (by omega) hn]
  split
  next hguard =>
    have h60 := ((neededArea_le (by omega) hn).2 hguard.2).2 hguard.1
    have hlen : sizeT 6 = 6 := rfl
    have hstart (s : AppState) := memcpy_agree h s .polygenStartTime
      (by omega : 20 + sizeT 6 ≤ n)
    have hend (s : AppState) := memcpy_agree h s .polygenEndTime
      (by omega : 26 + sizeT 6 ≤ n)
    simp only [h 34 (by omega), h 35 (by omega), hstart, hend,
      h.be32 (by omega : 15 + 4 ≤ n), h.be16 (by omega : 19 + 2 ≤ n),
      h.be16 (by omega : 32 + 2 ≤ n), h.be32 (by omega : 36 + 4 ≤ n),
      h.be32 (by omega : 40 + 4 ≤ n), h.be32 (by omega : 44 + 4 ≤ n),
      h.be32 (by omega : 48 + 4 ≤ n), h.be32 (by omega : 52 + 4 ≤ n),
      h.be32 (by omega : 56 + 4 ≤ n)]
  · rfl

/-- A number with a byte set in front of its last one is out of range. -/
theorem areaNumber_congr {max k : ℕ} (hmax : max < 256)
    (hfront : ∃ i < 3, rx (k + i) ≠ 0 ∧ k + i < n) :
    areaNumber max (be32 rx' k) = areaNumber max (be32 rx k) := by
  obtain ⟨i, hi, hne, hin⟩ := hfront
  have hpos : 0 < (rx (k + i)).toNat :=
    Nat.pos_of_ne_zero fun h0 => hne (UInt8.toNat_inj.mp h0)
  have hbig (f : ℕ → UInt8) (hf : f (k + i) = rx (k + i)) :
      max < be32 f k := by
    rw [be32]
    obtain rfl | rfl | rfl : i = 0 ∨ i = 1 ∨ i = 2 := by omega
    · rw [Nat.add_zero] at hf hpos
      rw [hf]
      omega
    · rw [hf]
      omega
    · rw [hf]
      omega
  rw [areaNumber, areaNumber, if_pos (Or.inl (hbig rx' (h _ hin))),
    if_pos (Or.inl (hbig rx rfl))]

theorem deleteLoop_congr {max : ℕ} (hmax : max < 256)
    (delete : ℕ → AppState → AppState) (hne : rx 13 ≠ 0)
    (hn : neededDelete rx ≤ n) :
    deleteLoop (fun id => delete (areaNumber max id)) rx' s =
      deleteLoop (fun id => delete (areaNumber max id)) rx s := by
  have hk : (rx 13).toNat ≠ 0 := fun h0 => hne (UInt8.toNat_inj.mp h0)
  rw [neededDelete, if_neg hk] at hn
  -- the last number read in full, or a byte that decides the numbers it is in
  obtain ⟨p, hp, hend⟩ : ∃ p ≤ n, 13 ≤ p ∧ p ≤ 17 + (rx 13).toNat ∧
      (p < 17 + (rx 13).toNat →
        13 + (rx 13).toNat < p ∧ rx (p - 1) ≠ 0) := by
    split at hn
    next h0 => exact ⟨_, hn, by omega, by omega, fun _ =>
      ⟨by omega, by rwa [show 14 + (rx 13).toNat - 1 = 13 + (rx 13).toNat by
        omega]⟩⟩
    next =>
      split at hn
      next h1 => exact ⟨_, hn, by omega, by omega, fun _ =>
        ⟨by omega, by rwa [show 15 + (rx 13).toNat - 1 = 14 + (rx 13).toNat by
          omega]⟩⟩
      next =>
        split at hn
        next h2 => exact ⟨_, hn, by omega, by omega, fun _ =>
          ⟨by omega, by rwa [show 16 + (rx 13).toNat - 1 =
            15 + (rx 13).toNat by omega]⟩⟩
        next => exact ⟨_, hn, by omega, by omega, fun hlt => by omega⟩
  rw [deleteLoop, deleteLoop, h 13 (by omega)]
  refine List.foldl_ext _ _ s fun s i hi => ?_
  have hi := List.mem_range.mp hi
  by_cases hin : 14 + i + 4 ≤ p
  · rw [h.be32 (by omega)]
  · obtain ⟨hlow, hbyte⟩ := hend.2.2 (by omega)
    rw [areaNumber_congr h hmax ⟨p - 1 - (14 + i), by omega, ?_, by omega⟩]
    rwa [show 14 + i + (p - 1 - (14 + i)) = p - 1 by omega]

omit h in
theorem le_neededDelete : 14 ≤ neededDelete rx := by
  rw [neededDelete]
  split_ifs <;> omega

theorem case8601_congr (hn : neededDelete rx ≤ n) :
    s.case8601 rx' = s.case8601 rx := by
  have h14 : 14 ≤ neededDelete rx := le_neededDelete
  rw [case8601, case8601, h 13 (by omega)]
  split
  · rfl
  next hne =>
    exact congrArg ack (deleteLoop_congr h _ (by decide : 8 < 256)
      (fun id s => writeRailCycle { s with
        records.railCycle.areaId := id
        records.railCycle.effectiveFlag := 0 }) hne hn)

theorem case8603_congr (hn : neededDelete rx ≤ n) :
    s.case8603 rx' = s.case8603 rx := by
  have h14 : 14 ≤ neededDelete rx := le_neededDelete
  rw [case8603, case8603, h 13 (by omega)]
  split
  · rfl
  next hne =>
    exact congrArg ack (deleteLoop_congr h _ (by decide : 8 < 256)
      (fun id s => writeRailRectangle { s with
        records.railRectangle.areaId := id
        records.railRectangle.effectiveFlag := 0 }) hne hn)

theorem case8605_congr (hn : neededDelete rx ≤ n) :
    s.case8605 rx' = s.case8605 rx := by
  have h14 : 14 ≤ neededDelete rx := le_neededDelete
  rw [case8605, case8605, h 13 (by omega)]
  split
  · rfl
  next hne =>
    exact congrArg ack (deleteLoop_congr h _ (by decide : 8 < 256)
      (fun id s => writeRailPolygen { s with
        records.railPolygen.areaId := id
        records.railPolygen.effectiveFlag := 0 }) hne hn)

theorem case8607_congr (hn : neededDelete rx ≤ n) :
    s.case8607 rx' = s.case8607 rx := by
  have h14 : 14 ≤ neededDelete rx := le_neededDelete
  rw [case8607, case8607, h 13 (by omega)]
  split
  · rfl
  next hne =>
    exact congrArg ack (deleteLoop_congr h _ (by decide : 16 < 256)
      (fun id s => writeRoute { s with
        records.routeObj.routeId := id
        records.routeObj.effectiveFlag := 0 }) hne hn)

omit h in
theorem le_pointEnd (r : ℕ) : r + 18 ≤ pointEnd rx r := by
  rw [pointEnd]
  split_ifs <;> omega

omit h in
theorem le_pointsEnd (k r : ℕ) : r ≤ pointsEnd rx k r := by
  induction k generalizing r with
  | zero => exact Nat.le_refl r
  | succ k ih =>
      have hpoint : r + 18 ≤ pointEnd rx r := le_pointEnd r
      have hrest := ih (pointEnd rx r)
      rw [pointsEnd]
      omega

theorem readRoutePoint_congr {r : ℕ} (hn : pointEnd rx r ≤ n)
    (old : RoutePoint) :
    readRoutePoint rx' r old = readRoutePoint rx r old := by
  have h18 : r + 18 ≤ n := (le_pointEnd r).trans hn
  rw [pointEnd] at hn
  simp only [readRoutePoint, h.be32 (by omega : r + 4 ≤ n),
    h.be32 (by omega : r + 4 + 4 ≤ n), h.be32 (by omega : r + 8 + 4 ≤ n),
    h.be32 (by omega : r + 12 + 4 ≤ n), h (r + 16) (by omega),
    h (r + 17) (by omega)]
  split
  · rfl
  next h0 =>
    rw [if_neg h0] at hn
    split
    next h1 =>
      rw [if_pos h1] at hn
      rw [h.be16 (by omega)]
    next h1 =>
      rw [if_neg h1] at hn
      simp only [h.be16 (by omega : r + 18 + 2 ≤ n),
        h.be16 (by omega : r + 20 + 2 ≤ n), h.be16 (by omega : r + 22 + 2 ≤ n),
        h.be16 (by omega : r + 24 + 2 ≤ n)]

omit h in
theorem readRoutePoint_end (r : ℕ) (old : RoutePoint) :
    (readRoutePoint rx r old).2 = pointEnd rx r := by
  rw [readRoutePoint, pointEnd]
  dsimp only
  split_ifs <;> rfl

theorem routeLoop_congr (k i r : ℕ) (hn : pointsEnd rx k r ≤ n) :
    routeLoop rx' k i r s = routeLoop rx k i r s := by
  induction k generalizing i r s with
  | zero => rfl
  | succ k ih =>
      rw [pointsEnd] at hn
      have hpoint : pointEnd rx r ≤ n := by
        have hrest : pointEnd rx r ≤ pointsEnd rx k (pointEnd rx r) :=
          le_pointsEnd k _
        omega
      have hsnd : (readRoutePoint rx r
          (s.records.routeObj.routePoints i)).2 = pointEnd rx r :=
        readRoutePoint_end r _
      rw [routeLoop, routeLoop, readRoutePoint_congr h hpoint]
      dsimp only
      rw [hsnd]
      exact ih _ _ _ hn

theorem case8606_congr (hn : needed8606 rx ≤ n) :
    s.case8606 rx' = s.case8606 rx := by
  have h33 : 33 ≤ n := by
    have hpoints : 33 ≤ pointsEnd rx 6 33 := le_pointsEnd 6 33
    rw [needed8606] at hn
    split at hn <;> omega
  have hlen : sizeT 6 = 6 := rfl
  have hstart (s : AppState) := memcpy_agree h s .routeStartTime
    (by omega : 19 + sizeT 6 ≤ n)
  have hend (s : AppState) := memcpy_agree h s .routeEndTime
    (by omega : 25 + sizeT 6 ≤ n)
  simp only [case8606, hstart, hend, h.be32 (by omega : 13 + 4 ≤ n),
    h.be16 (by omega : 17 + 2 ≤ n), h.be16 (by omega : 31 + 2 ≤ n)]
  split
  · rfl
  next hnum =>
    rw [needed8606, if_neg hnum] at hn
    simp only [routeLoop_congr h _ _ _ _ hn]

/-! The phone book. -/

theorem receivePhoneBook_congr (flag : PhoneBook → PhoneBook)
    (hn : 18 + (rx 16).toNat + (rx (17 + (rx 16).toNat)).toNat ≤ n) :
    s.receivePhoneBook rx' flag = s.receivePhoneBook rx flag := by
  have hnum := (rx 16).toNat_lt
  have huser := (rx (17 + (rx 16).toNat)).toNat_lt
  have hnumber (s : AppState) :
      s.memcpy .numberStr rx' 17 (rx 16).toNat =
        s.memcpy .numberStr rx 17 (rx 16).toNat :=
    memcpy_agree h s .numberStr (by rw [sizeT_ofNat (by omega)]; omega)
  have hname (s : AppState) :
      s.memcpy .userStr rx' (18 + (rx 16).toNat)
          (rx (17 + (rx 16).toNat)).toNat =
        s.memcpy .userStr rx (18 + (rx 16).toNat)
          (rx (17 + (rx 16).toNat)).toNat :=
    memcpy_agree h s .userStr (by rw [sizeT_ofNat (by omega)]; omega)
  simp only [receivePhoneBook, h 15 (by omega), h 16 (by omega),
    h (17 + (rx 16).toNat) (by omega), hnumber, hname]

omit h in
theorem overlay_overlay {xs ys : List UInt8} (hle : xs.length ≤ ys.length)
    (f : ℕ → UInt8) : overlay (overlay f xs) ys = overlay f ys := by
  funext i
  rw [overlay, overlay, overlay]
  by_cases hi : i < ys.length
  · rw [List.getElem?_eq_getElem hi, Option.getD_some, Option.getD_some]
  · rw [List.getElem?_eq_none (by omega), List.getElem?_eq_none (by omega)]
    rfl

omit h in
/-- What a longer string is stored over does not matter. -/
theorem store_covered {d e : Arr} (hne : e ≠ d) {xs xs' zs : List UInt8}
    (hle : xs.length ≤ zs.length) (hle' : xs'.length ≤ zs.length)
    (ys : List UInt8) (len lenY lenZ : ℤ) :
    ((s.store d xs' len).store e ys lenY).store d zs lenZ =
      ((s.store d xs len).store e ys lenY).store d zs lenZ := by
  have hmem (xs : List UInt8) (hle : xs.length ≤ zs.length) :
      (((s.store d xs len).store e ys lenY).store d zs lenZ).mem =
        Function.update (Function.update s.mem e (overlay (s.mem e) ys)) d
          (overlay (s.mem d) zs) := by
    simp only [store, Function.update_self, Function.update_of_ne hne,
      Function.update_of_ne hne.symm, overlay_overlay hle]
    rw [Function.update_comm hne.symm, Function.update_idem]
  have hcongr (m m' : Arr → ℕ → UInt8) (hm : m' = m) :
      ({ ((s.store d xs' len).store e ys lenY).store d zs lenZ with
          mem := m' } : AppState) =
        { ((s.store d xs len).store e ys lenY).store d zs lenZ with
          mem := m } := by
    rw [hm]
    rfl
  exact hcongr _ _ ((hmem xs' hle').trans (hmem xs hle).symm)

omit h in
/-- The record read goes over a name of up to ten bytes. -/
theorem readRxPhoneBook_memcpy {src : ℕ} {len : ℤ} (hlen : sizeT len ≤ 10)
    (recNum : ℕ) :
    (s.memcpy .userStr rx' src len).readRxPhoneBook recNum =
      (s.memcpy .userStr rx src len).readRxPhoneBook recNum := by
  let record := Dataflash.apiRecordNumRead s.device .phonebook recNum 34
  have hrecord : ((record.drop 24).take 10).length = 10 := by
    have hread : record.length = 34 := Dataflash.dfReadFlash_length _ _ _ _
    rw [List.length_take, List.length_drop, hread]
    rfl
  have hread (f : ℕ → UInt8) :
      (s.memcpy .userStr f src len).readRxPhoneBook recNum =
        ((({ s with
              records.rxPhoneBook := phoneBookOfBytes record } : AppState).store
          .userStr (readBytes f src (sizeT len)) len).store .numberStr
            ((record.drop 4).take 20) 20).store .userStr
              ((record.drop 24).take 10) 10 := rfl
  rw [hread, hread]
  apply store_covered
  · decide
  · rw [hrecord, readBytes_length]
    exact hlen
  · rw [hrecord, readBytes_length]
    exact hlen

theorem case8401_congr (hn : needed8401 rx ≤ n) :
    s.case8401 rx' = s.case8401 rx := by
  rw [needed8401] at hn
  have h14 : 14 ≤ n := by split_ifs at hn <;> omega
  rw [case8401, case8401, h 13 (by omega)]
  split
  next heq =>
    rw [if_pos (Or.inl heq)] at hn
    rw [receivePhoneBook_congr h _ _ hn]
  next heq =>
    rw [if_pos (Or.inr heq)] at hn
    rw [receivePhoneBook_congr h _ _ hn]
  next heq =>
    rw [heq, if_neg (by decide), if_pos rfl] at hn
    split at hn
    next =>
      rw [receivePhoneBook_congr h _ _ hn, h 14 (by omega)]
    next huser =>
      rw [receivePhoneBook, receivePhoneBook]
      simp only [h 14 (by omega), h 15 (by omega), h 16 (by omega),
        h (17 + (rx 16).toNat) (by omega)]
      have hnum := (rx 16).toNat_lt
      have hnumber (s : AppState) :
          s.memcpy .numberStr rx' 17 (rx 16).toNat =
            s.memcpy .numberStr rx 17 (rx 16).toNat :=
        memcpy_agree h s .numberStr (by rw [sizeT_ofNat (by omega)]; omega)
      have hname (s : AppState) (recNum : ℕ) :
          (s.memcpy .userStr rx' (18 + (rx 16).toNat)
            (rx (17 + (rx 16).toNat)).toNat).readRxPhoneBook recNum =
          (s.memcpy .userStr rx (18 + (rx 16).toNat)
            (rx (17 + (rx 16).toNat)).toNat).readRxPhoneBook recNum :=
        readRxPhoneBook_memcpy s (by rw [sizeT_ofNat (by omega)]; omega) recNum
      simp only [hnumber, hname]
  next => rfl

/-! The recorder, cameras, media and transparent data. -/

theorem noteRecode_congr (hn : 14 ≤ n) :
    s.noteRecode rx' = s.noteRecode rx := by
  rw [noteRecode, noteRecode, h 13 (by omega), h.be16 (by omega)]

theorem agree_body {k : ℕ} (hk : 14 + k ≤ n) :
    Agree k (fun i => rx' (14 + i)) fun i => rx (14 + i) :=
  fun i hi => h (14 + i) (by omega)

theorem case8701_congr (hn : needed8701 rx ≤ n) :
    s.case8701 rx' = s.case8701 rx := by
  have h14 : 14 ≤ n := by
    rw [needed8701] at hn
    split_ifs at hn <;> omega
  rw [case8701, case8701, noteRecode_congr h s h14, h 13 (by omega),
    centerSetSubService8701H.eq_def, centerSetSubService8701H.eq_def]
  split
  next heq =>
    rw [needed8701, if_pos heq] at hn
    have hbody := agree_body h (by omega : 14 + 21 ≤ n)
    have hcode (s : AppState) := memcpy_agree hbody s .driveCode
      (by decide : 0 + sizeT 3 ≤ 21)
    have hcard (s : AppState) := memcpy_agree hbody s .driverCardId
      (by decide : 3 + sizeT 18 ≤ 21)
    simp only [hcode, hcard]
  next heq =>
    rw [needed8701, heq, if_neg (by decide), if_pos rfl] at hn
    have hbody := agree_body h (by omega : 14 + 41 ≤ n)
    have hvin (s : AppState) := memcpy_agree hbody s .vechVin
      (by decide : 0 + sizeT 17 ≤ 41)
    have hnum (s : AppState) := memcpy_agree hbody s .vechNum
      (by decide : 17 + sizeT 12 ≤ 41)
    have htype (s : AppState) := memcpy_agree hbody s .vechType
      (by decide : 29 + sizeT 12 ≤ 41)
    simp only [hvin, hnum, htype]
  next heq =>
    rw [needed8701, heq, if_neg (by decide), if_neg (by decide), if_pos rfl]
      at hn
    have hbody := agree_body h (by omega : 14 + 3 ≤ n)
    simp only [hbody.be16 (by decide : 1 + 2 ≤ 3), h (14 + 0) (by omega)]
  next => rfl

theorem case8800_congr (hn13 : 13 ≤ n) (hn : needed8800 rx ≤ n) :
    s.case8800 rx' = s.case8800 rx := by
  rw [needed8800] at hn
  rw [case8800, case8800, infolen_agree h hn13]
  split
  · rfl
  next hlen =>
    rw [if_neg hlen] at hn
    rw [h 17 (by omega)]
    have hnum := (rx 17).toNat_lt
    have hlist (s : AppState) :
        s.memcpy .mediaReSdList rx' 18 (rx 17).toNat =
          s.memcpy .mediaReSdList rx 18 (rx 17).toNat :=
      memcpy_agree h s .mediaReSdList (by rw [sizeT_ofNat (by omega)]; omega)
    simp only [hlist]

theorem case8801_congr (hn : 19 ≤ n) : s.case8801 rx' = s.case8801 rx := by
  rw [case8801, case8801, h 13 (by omega), h 18 (by omega)]

theorem case8802_congr (hn : 16 ≤ n) : s.case8802 rx' = s.case8802 rx := by
  rw [case8802, case8802, h 13 (by omega), h 15 (by omega)]

theorem case8803_congr (hn : 14 ≤ n) : s.case8803 rx' = s.case8803 rx := by
  rw [case8803, case8803, h 13 (by omega)]

theorem case8804_congr (hn : (if rx 13 = 1 then 17 else 14) ≤ n) :
    s.case8804 rx' = s.case8804 rx := by
  have h14 : 14 ≤ n := by split at hn <;> omega
  rw [case8804, case8804, h 13 (by omega)]
  split
  next heq =>
    rw [if_pos heq] at hn
    rw [vocRecStart, vocRecStart, h.be16 (by omega), h 16 (by omega)]
  · rfl

theorem case8900_congr (linkNum : ℕ) (hn : needed8900 rx linkNum ≤ n) :
    s.case8900 linkNum rx' = s.case8900 linkNum rx := by
  rw [needed8900] at hn
  have h14 : 14 ≤ n := by split_ifs at hn <;> omega
  rw [case8900, case8900]
  split
  next hlink =>
    rw [if_pos hlink] at hn
    have hmod : 14 + (((infolen rx : ℤ) - 1) % 256).toNat ≤ n := by
      rw [sizeT] at hn
      omega
    have hdata (s : AppState) := memcpy_agree h s .dataRx hn
    have htext (s : AppState) := storeGb_congr s .textContent
      (h.readBytes hmod)
    have hdisplay (s : AppState) := showText_congr s (h.readBytes hmod)
    simp only [infolen_agree h (by omega), h 13 (by omega), hdata, htext,
      hdisplay]
  next hlink =>
    rw [if_neg hlink] at hn
    rw [h 13 (by omega)]
    split
    next heq =>
      rw [if_pos heq] at hn
      have h30 : 30 ≤ n := by split at hn <;> omega
      have h29 : rx' (14 + 15) = rx (14 + 15) := h 29 (by omega)
      rw [nullpro8900H, nullpro8900H, h29]
      split
      next => rfl
      next h93 =>
        rw [if_pos h93] at hn
        have hbody := agree_body h (by omega : 14 + 20 ≤ n)
        rw [hbody.be16 (by decide), hbody.be16 (by decide)]
      next => rfl
      next => rfl
    · rfl

/-! Parameter lists. -/

theorem parameterLoop_list (sub : SubService)
    (hn : listReach sub rx (rx 13).toNat 14 ≤ n) :
    parameterLoop sub rx' (rx 13).toNat 14 s =
      parameterLoop sub rx (rx 13).toNat 14 s :=
  parameterLoop_congr h _ _ hn rfl (Or.inr rfl)

theorem case8103_congr
    (hn : listReach .sub8103H rx (rx 13).toNat 14 ≤ n) (h14 : 14 ≤ n) :
    s.case8103 rx' = s.case8103 rx := by
  rw [case8103, case8103, h 13 (by omega), parameterLoop_list h s _ hn]

theorem caseFF01_congr
    (hn : listReach .subFF01H rx (rx 13).toNat 14 ≤ n) (h14 : 14 ≤ n) :
    s.caseFF01 rx' = s.caseFF01 rx := by
  rw [caseFF01, caseFF01, h 13 (by omega), parameterLoop_list h s _ hn]

theorem caseFF03_congr
    (hn : listReach .subFF03H rx (rx 13).toNat 14 ≤ n) (h14 : 14 ≤ n) :
    s.caseFF03 rx' = s.caseFF03 rx := by
  rw [caseFF03, caseFF03, h 13 (by omega), parameterLoop_list h s _ hn]

omit h in
theorem le_listReach (sub : SubService) (k c : ℕ) :
    14 ≤ listReach sub rx k c := by
  induction k generalizing c with
  | zero => exact Nat.le_refl 14
  | succ k ih => exact Nat.le_trans (ih _) (Nat.le_max_right _ _)

/-- The state that the handler of a command leaves depends on the bytes
needed. -/
theorem commandSwitch_congr (cmdId linkNum : ℕ) (hn13 : 13 ≤ n)
    (hn : bytesNeeded rx linkNum cmdId ≤ n) :
    s.commandSwitch cmdId linkNum rx' = s.commandSwitch cmdId linkNum rx := by
  rw [commandSwitch.eq_def, commandSwitch.eq_def]
  split
  · exact case8001_congr h s hn
  · exact case8100_congr h s hn
  · exact case8103_congr h s hn ((le_listReach _ _ _).trans hn)
  · rfl
  · exact case8105_congr h s hn
  · rfl
  · exact case8202_congr h s hn
  · exact case8300_congr h s hn
  · exact case8301_congr h s hn
  · exact case8302_congr h s hn
  · exact case8303_congr h s hn
  · exact case8304_congr h s hn
  · exact case8400_congr h s hn13 hn
  · exact case8401_congr h s hn
  · exact case8500_congr h s hn
  · exact case8600_congr h s hn
  · exact case8601_congr h s hn
  · exact case8602_congr h s hn
  · exact case8603_congr h s hn
  · exact case8604_congr h s hn
  · exact case8605_congr h s hn
  · exact case8606_congr h s hn
  · exact case8607_congr h s hn
  · exact noteRecode_congr h s hn
  · exact case8701_congr h s hn
  · exact case8800_congr h s hn13 hn
  · exact case8801_congr h s hn
  · exact case8802_congr h s hn
  · exact case8803_congr h s hn
  · exact case8804_congr h s hn
  · rfl
  · exact case8900_congr h s linkNum hn
  · rfl
  · exact caseFF01_congr h s hn ((le_listReach _ _ _).trans hn)
  · rfl
  · exact caseFF03_congr h s hn ((le_listReach _ _ _).trans hn)
  · rfl

end AppState

end VehicleRecorder.Protocol
