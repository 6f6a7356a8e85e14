import VehicleRecorder.Gsm.HexCodec
import VehicleRecorder.Protocol.CopyBounds
import VehicleRecorder.Protocol.ListBytes

/-!
# The conversion of texts

A text for the display goes through `AsciiToGb`, which stores letters and digits
as characters of two bytes and takes a length of eight bits.  A text for the
voice output goes through `TTS_Get_Data`, which keeps it or stores its
hexadecimal digits.  Neither knows the size of its destination.

The module says how long the converted text is, and which messages keep it
inside.
-/

namespace VehicleRecorder.Protocol

open Bytes Gsm

/-! ## Converted lengths -/

/-- A letter or a digit. -/
def isAlnum (b : UInt8) : Bool :=
  decide ((0x30 ≤ b ∧ b ≤ 0x39) ∨ (0x41 ≤ b ∧ b ≤ 0x5A) ∨
    (0x61 ≤ b ∧ b ≤ 0x7A))

/-- The number of bytes of a text of `n` bytes after the conversion. -/
def gbLen (f : ℕ → UInt8) (src n : ℕ) : ℕ :=
  n + (readBytes f src n).countP isAlnum

theorem gbEntry_length_eq {table : List UInt8} {i : ℕ}
    (h : i * 2 + 2 ≤ table.length) : (gbEntry table i).length = 2 := by
  rw [gbEntry, List.length_take, List.length_drop]
  omega

theorem isAlnum_iff (b : UInt8) : isAlnum b = true ↔
    (0x30 ≤ b.toNat ∧ b.toNat ≤ 0x39) ∨ (0x41 ≤ b.toNat ∧ b.toNat ≤ 0x5A) ∨
      (0x61 ≤ b.toNat ∧ b.toNat ≤ 0x7A) := by
  rw [isAlnum, decide_eq_true_eq]
  simp only [UInt8.le_iff_toNat_le, UInt8.reduceToNat]

/-- The tables have an entry for every letter and digit. -/
theorem gbChar_length_of_alnum {b : UInt8} (h : isAlnum b = true) :
    (gbChar b).length = 2 := by
  rw [isAlnum_iff] at h
  rw [gbChar]
  split_ifs with hdigit hA hP ha hp
  · have hlen : arrA3B0.length = 20 := rfl
    exact gbEntry_length_eq (by omega)
  · have hlen : arrA3C0.length = 32 := rfl
    exact gbEntry_length_eq (by omega)
  · have hlen : arrA3D0.length = 22 := rfl
    exact gbEntry_length_eq (by omega)
  · have hlen : arrA3E0.length = 32 := rfl
    exact gbEntry_length_eq (by omega)
  · have hlen : arrA3F0.length = 22 := rfl
    exact gbEntry_length_eq (by omega)
  · omega

theorem gbChar_of_not_alnum {b : UInt8} (h : ¬ isAlnum b = true) :
    gbChar b = [b] := by
  rw [isAlnum_iff] at h
  rw [gbChar, if_neg (by omega), if_neg (by omega), if_neg (by omega),
    if_neg (by omega), if_neg (by omega)]

theorem gbChar_length_eq (b : UInt8) :
    (gbChar b).length = 1 + if isAlnum b then 1 else 0 := by
  by_cases h : isAlnum b = true
  · rw [gbChar_length_of_alnum h, if_pos h]
  · rw [gbChar_of_not_alnum h, if_neg h]
    rfl

theorem length_flatMap_gbChar (bs : List UInt8) :
    (bs.flatMap gbChar).length = bs.length + bs.countP isAlnum := by
  induction bs with
  | nil => rfl
  | cons b bs ih =>
      rw [List.flatMap_cons, List.length_append, gbChar_length_eq, ih,
        List.length_cons, List.countP_cons]
      omega

section Lengths

variable (f : ℕ → UInt8) (src : ℕ)

/-- The length parameter keeps the low eight bits. -/
theorem asciiToGb_length_eq (n : ℕ) :
    (asciiToGb f src n).length = gbLen f src (n % 256) := by
  have hlen : ((n : ℤ) % 256).toNat = n % 256 := by omega
  rw [asciiToGb, hlen, length_flatMap_gbChar, readBytes_length, gbLen]

theorem gbLen_lt {m n : ℕ} (h : m < n) : gbLen f src m < gbLen f src n := by
  have hsplit : n = m + (n - m) := by omega
  rw [gbLen, gbLen, hsplit, readBytes_add, List.countP_append]
  omega

theorem asciiToGb_exact_iff (n : ℕ) :
    (asciiToGb f src n).length = gbLen f src n ↔ n < 256 := by
  rw [asciiToGb_length_eq]
  constructor
  · intro h
    by_contra hn
    have hlt := gbLen_lt f src (by omega : n % 256 < n)
    omega
  · intro h
    rw [Nat.mod_eq_of_lt h]

theorem gsmHextoAscii_length (bs : List UInt8) :
    (gsmHextoAscii bs).length =
      2 * bs.length + if bs = [] then 0 else 1 := by
  have hdigits := digits_length bs
  rw [gsmHextoAscii, List.length_append]
  rw [digits] at hdigits
  rw [hdigits]
  split <;> rfl

end Lengths

/-! ## Calls -/

/-- A call of `AsciiToGb`, or of `TTS_Get_Data` while a text is played or
not. -/
inductive TextCall
  | gb (dest : Arr) (src : ℕ) (len : ℤ)
  | tts (playing : Bool) (src : ℕ) (len : ℤ)

namespace TextCall

/-- The number of bytes of the text. -/
def len : TextCall → ℤ
  | gb _ _ len => len
  | tts _ _ len => len

/-- The stores of a call, and of the `memset` that clears its destination. -/
def stores (rx : ℕ → UInt8) : TextCall → List Store
  | gb dest src len =>
      [⟨dest, 0, dest.size⟩, ⟨dest, 0, (asciiToGb rx src len).length⟩]
  | tts true _ len => [⟨.hexBuf, 0, 4⟩, ⟨.hexBuf, 0, (len % 65536).toNat⟩]
  | tts false src len =>
      [⟨.asciiBuf, 0, 4⟩, ⟨.asciiBuf, 0,
        (gsmHextoAscii (readBytes rx src (len % 65536).toNat)).length⟩]

/-- `AsciiToGb` writes a byte for each byte of the text and one more for each
letter and digit. -/
def Exact (rx : ℕ → UInt8) : TextCall → Prop
  | gb _ src len => (asciiToGb rx src len).length = gbLen rx src len.toNat
  | tts .. => True

/-- A call converts its text whole and into its destination. -/
structure Sound (rx : ℕ → UInt8) (call : TextCall) : Prop where
  exact : call.Exact rx
  fits : AllFit (call.stores rx)

section Sound

variable (rx : ℕ → UInt8) (src n : ℕ)

theorem gb_sound_iff (dest : Arr) :
    (gb dest src n).Sound rx ↔ n < 256 ∧ gbLen rx src n ≤ dest.size := by
  have hexact : (gb dest src n).Exact rx ↔ n < 256 :=
    asciiToGb_exact_iff rx src n
  have hfits : AllFit ((gb dest src n).stores rx) ↔
      (asciiToGb rx src n).length ≤ dest.size := by
    simp [stores, Store.Fits]
  constructor
  · intro h
    have hlt := hexact.mp h.exact
    have hle := hfits.mp h.fits
    rw [(asciiToGb_exact_iff rx src n).mpr hlt] at hle
    exact ⟨hlt, hle⟩
  · rintro ⟨hlt, hle⟩
    rw [← (asciiToGb_exact_iff rx src n).mpr hlt] at hle
    exact ⟨hexact.mpr hlt, hfits.mpr hle⟩

theorem tts_sound_iff (hn : n < 65536) (playing : Bool) :
    (tts playing src n).Sound rx ↔ n ≤ if playing then 400 else 399 := by
  have hmod : ((n : ℤ) % 65536).toNat = n := by omega
  have hexact : (tts playing src n).Exact rx := trivial
  have hfits : AllFit ((tts playing src n).stores rx) ↔
      n ≤ if playing then 400 else 399 := by
    cases playing with
    | true => simp [stores, Store.Fits, Arr.size, hmod]
    | false =>
        have hlen := gsmHextoAscii_length (readBytes rx src n)
        rw [readBytes_length] at hlen
        have hdigits : (gsmHextoAscii (readBytes rx src n)).length ≤ 800 ↔
            n ≤ 399 := by
          rw [hlen]
          split
          · rename_i hempty
            have hzero : n = 0 := by
              rw [← readBytes_length rx src n, hempty, List.length_nil]
            omega
          · omega
        simpa [stores, Store.Fits, Arr.size, hmod] using hdigits
  constructor
  · intro h
    exact hfits.mp h.fits
  · intro h
    exact ⟨hexact, hfits.mpr h⟩

end Sound

end TextCall

namespace AppState

/-- A text for the display is converted into two arrays. -/
def shownTexts (src : ℕ) (len : ℤ) : List TextCall :=
  [.gb .textContent src len, .gb .txtContent src len]

/-- The offsets of `n` items from `c` on. -/
def itemStarts (rx : ℕ → UInt8) : ℕ → ℕ → List ℕ
  | 0, _ => []
  | n + 1, c => c :: itemStarts rx n (nextItem rx c)

/-- The calls made for the item at `c`. -/
def itemTexts (rx : ℕ → UInt8) (c : ℕ) : List TextCall :=
  if be32 rx c = 2 then shownTexts (c + 7) ((rx (c + 4)).toNat - 2) else []

/-- The calls that the handler of a command makes. -/
def textCalls (linkNum : ℕ) (rx : ℕ → UInt8) (s : AppState) :
    ℕ → List TextCall
  | 0x8300 =>
      (if rx 13 &&& 0x09 ≠ 0 then
        [.tts (s.texts.tts.playing ≠ 0) 14 (infolen rx - 1)]
      else []) ++ [.gb .txtContent 14 (infolen rx - 1)]
  | 0x8900 => if linkNum = 0 then shownTexts 14 (infolen rx - 1) else []
  | 0xFF03 => (itemStarts rx (rx 13).toNat 14).flatMap (itemTexts rx)
  | _ => []

/-- The destinations of the conversions of a command.  `0x8300` copies its text
to `TEXT_Content` as it is. -/
def convDests : ℕ → List Arr
  | 0x8300 => [.hexBuf, .asciiBuf, .txtContent]
  | _ => [.hexBuf, .asciiBuf, .txtContent, .textContent]

/-- The stores into these destinations. -/
def conversions (cmdId : ℕ) (l : List Store) : List Store :=
  l.filter fun st => st.dest ∈ convDests cmdId

@[simp] theorem conversions_append (cmdId : ℕ) (l l' : List Store) :
    conversions cmdId (l ++ l') = conversions cmdId l ++ conversions cmdId l' :=
  List.filter_append ..

/-! ## The log of stores -/

section Log

variable (rx : ℕ → UInt8) (s : AppState)

theorem ttsGetData_stores (src : ℕ) (len : ℤ) :
    (s.ttsGetData rx src len).stores = s.stores ++
      (TextCall.tts (s.texts.tts.playing ≠ 0) src len).stores rx := by
  rw [ttsGetData]
  by_cases hplaying : s.texts.tts.playing ≠ 0
  · rw [if_pos hplaying, decide_eq_true hplaying]
    simp [TextCall.stores]
  · rw [if_neg hplaying, decide_eq_false hplaying]
    simp [TextCall.stores]

theorem showText_stores (src : ℕ) (len : ℤ) :
    (s.showText rx src len).stores = s.stores ++
      (TextCall.gb .txtContent src len).stores rx := by
  simp [showText, TextCall.stores, Arr.size]

theorem textStoresAt_eq (c : ℕ) :
    textStoresAt rx c = (itemTexts rx c).flatMap (TextCall.stores rx) := by
  rw [textStoresAt, itemTexts]
  split
  · have hsrc : c + 7 = c + 5 + 2 := rfl
    rw [textStores, asciiToGb_shift, ← hsrc]
    rfl
  · rfl

theorem loopStores_eq (n c : ℕ) :
    loopStores rx n c =
      ((itemStarts rx n c).flatMap (itemTexts rx)).flatMap
        (TextCall.stores rx) := by
  induction n generalizing c with
  | zero => rfl
  | succ n ih =>
      rw [loopStores, itemStarts, List.flatMap_cons, List.flatMap_append,
        textStoresAt_eq, ih]

theorem tts_conversions (playing : Bool) (src : ℕ) (len : ℤ) :
    conversions 0x8300 ((TextCall.tts playing src len).stores rx) =
      (TextCall.tts playing src len).stores rx := by
  cases playing with
  | true => simp [conversions, TextCall.stores, convDests]
  | false => simp [conversions, TextCall.stores, convDests]

theorem itemTexts_conversions (c : ℕ) :
    conversions 0xFF03 ((itemTexts rx c).flatMap (TextCall.stores rx)) =
      (itemTexts rx c).flatMap (TextCall.stores rx) := by
  rw [itemTexts]
  split
  · simp [shownTexts, TextCall.stores, conversions, convDests]
  · rfl

/-! ## The handlers -/

theorem playText_stores {len : ℤ} (hflag : s.texts.textFlag &&& 0x09 ≠ 0) :
    (s.playText rx len).stores =
      s.stores ++ [⟨.playInfo, 0, 100⟩] ++ [⟨.playInfo, 0, len⟩] ++
        (TextCall.tts (s.texts.tts.playing ≠ 0) 14 len).stores rx := by
  rw [playText, if_pos hflag]
  exact ttsGetData_stores rx _ 14 len

theorem playText_conversions (len : ℤ) :
    conversions 0x8300 (s.playText rx len).stores =
      conversions 0x8300 s.stores ++
        (if s.texts.textFlag &&& 0x09 ≠ 0 then
          [TextCall.tts (s.texts.tts.playing ≠ 0) 14 len]
        else []).flatMap (TextCall.stores rx) := by
  split
  next hflag =>
    have hvoice (n : ℤ) : conversions 0x8300 [⟨.playInfo, 0, n⟩] = [] := by
      simp [conversions, convDests]
    rw [playText_stores rx s hflag, conversions_append, conversions_append,
      conversions_append, tts_conversions, hvoice, hvoice, List.append_nil,
      List.append_nil, List.flatMap_singleton]
  next hflag =>
    rw [playText, if_neg hflag]
    exact (List.append_nil _).symm

theorem keepText_conversions (len : ℤ) :
    conversions 0x8300 (s.keepText rx len).stores =
      conversions 0x8300 s.stores := by
  rw [keepText]
  split
  · simp [textmsgWrite, conversions, convDests]
  · rfl

theorem case8300_conversions (linkNum : ℕ) :
    conversions 0x8300 (s.case8300 rx).stores =
      conversions 0x8300 s.stores ++
        (textCalls linkNum rx s 0x8300).flatMap (TextCall.stores rx) := by
  rw [case8300]
  dsimp only
  rw [ack_stores, showText_stores, conversions_append, keepText_conversions,
    playText_conversions, List.append_assoc, textCalls, List.flatMap_append]
  simp [TextCall.stores, conversions, convDests]

theorem case8900_conversions (linkNum : ℕ) :
    conversions 0x8900 (s.case8900 linkNum rx).stores =
      conversions 0x8900 s.stores ++
        (textCalls linkNum rx s 0x8900).flatMap (TextCall.stores rx) := by
  rw [case8900, textCalls]
  split
  · dsimp only
    rw [ack_stores, showText_stores]
    simp [shownTexts, TextCall.stores, conversions, convDests, Arr.size]
  · split
    · rw [nullpro8900H_stores]
      exact (List.append_nil _).symm
    · exact (List.append_nil _).symm

theorem loopStores_conversions (n c : ℕ) :
    conversions 0xFF03 (loopStores rx n c) = loopStores rx n c := by
  induction n generalizing c with
  | zero => rfl
  | succ n ih =>
      rw [loopStores, conversions_append, ih, textStoresAt_eq,
        itemTexts_conversions]

theorem caseFF03_conversions (linkNum : ℕ) :
    conversions 0xFF03 (s.caseFF03 rx).stores =
      conversions 0xFF03 s.stores ++
        (textCalls linkNum rx s 0xFF03).flatMap (TextCall.stores rx) := by
  rw [caseFF03, ack_stores, parameterLoop_stores, conversions_append,
    loopStores_conversions, loopStores_eq, textCalls]

/-- The commands whose handlers convert a text. -/
def textCmds : List ℕ := [0x8300, 0x8900, 0xFF03]

theorem commandSwitch_conversions {cmdId : ℕ} (hcmd : cmdId ∈ textCmds)
    (linkNum : ℕ) :
    conversions cmdId (s.commandSwitch cmdId linkNum rx).stores =
      conversions cmdId s.stores ++
        (textCalls linkNum rx s cmdId).flatMap (TextCall.stores rx) := by
  simp only [textCmds, List.mem_cons, List.not_mem_nil, or_false] at hcmd
  rcases hcmd with rfl | rfl | rfl
  · exact case8300_conversions rx s linkNum
  · exact case8900_conversions rx s linkNum
  · exact caseFF03_conversions rx s linkNum

end Log

/-! ## Which calls are sound -/

section Calls

variable (rx : ℕ → UInt8)

/-- The texts of a message that are converted whole and into their
destinations: at most 255 bytes for the display alone, and with the second bytes
of its letters and digits not more than the smallest array takes. -/
def TextsFit (linkNum : ℕ) (rx : ℕ → UInt8) : ℕ → Prop
  | 0x8300 =>
      1 ≤ infolen rx → infolen rx ≤ 256 ∧ gbLen rx 14 (infolen rx - 1) ≤ 256
  | 0x8900 =>
      linkNum = 0 → 1 ≤ infolen rx → gbLen rx 14 (infolen rx - 1) ≤ 100
  | 0xFF03 =>
      ∀ c ∈ itemStarts rx (rx 13).toNat 14, be32 rx c = 2 →
        2 ≤ (rx (c + 4)).toNat →
          gbLen rx (c + 7) ((rx (c + 4)).toNat - 2) ≤ 100
  | _ => True

/-- Every call of a list for a text of some length is sound. -/
def CallsSound (calls : List TextCall) : Prop :=
  ∀ call ∈ calls, 0 ≤ call.len → call.Sound rx

theorem callsSound_shownTexts (src n : ℕ) :
    CallsSound rx (shownTexts src n) ↔ gbLen rx src n ≤ 100 := by
  have hn : n ≤ gbLen rx src n := Nat.le_add_right _ _
  have htext := TextCall.gb_sound_iff rx src n .textContent
  have htxt := TextCall.gb_sound_iff rx src n .txtContent
  constructor
  · intro h
    have hsound := h (.gb .textContent src n) (by simp [shownTexts])
      (Int.natCast_nonneg n)
    exact (htext.mp hsound).2
  · intro h call hcall _
    rw [shownTexts, List.mem_pair] at hcall
    rcases hcall with rfl | rfl
    · exact htext.mpr ⟨by omega, h⟩
    · exact htxt.mpr ⟨by omega, by rw [Arr.size]; omega⟩

/-- A length below zero is none of a text. -/
theorem callsSound_of_neg {calls : List TextCall}
    (h : ∀ call ∈ calls, call.len < 0) : CallsSound rx calls :=
  fun call hcall hlen => absurd (h call hcall) (Int.not_lt.mpr hlen)

theorem callsSound_shownTexts_sub (src k m : ℕ) :
    CallsSound rx (shownTexts src ((k : ℤ) - m)) ↔
      (m ≤ k → gbLen rx src (k - m) ≤ 100) := by
  by_cases hle : m ≤ k
  · rw [← Nat.cast_sub hle, callsSound_shownTexts]
    exact (imp_iff_right hle).symm
  · refine iff_of_true (callsSound_of_neg rx ?_) fun h => absurd h hle
    intro call hcall
    rw [shownTexts, List.mem_pair] at hcall
    rcases hcall with rfl | rfl
    · rw [TextCall.len]
      omega
    · rw [TextCall.len]
      omega

theorem mem_textCalls_case8300 {linkNum : ℕ} {s : AppState} {call : TextCall}
    (h : call ∈ textCalls linkNum rx s 0x8300) :
    call = .tts (s.texts.tts.playing ≠ 0) 14 (infolen rx - 1) ∨
      call = .gb .txtContent 14 (infolen rx - 1) := by
  rw [textCalls, List.mem_append, List.mem_singleton] at h
  rcases h with h | h
  · split at h
    · exact Or.inl (List.mem_singleton.mp h)
    · exact absurd h List.not_mem_nil
  · exact Or.inr h

/-- What the display can take, the voice output can. -/
theorem callsSound_case8300 (linkNum : ℕ) (s : AppState) :
    CallsSound rx (textCalls linkNum rx s 0x8300) ↔
      TextsFit linkNum rx 0x8300 := by
  rw [TextsFit]
  by_cases hbody : 1 ≤ infolen rx
  · have hlen : (infolen rx : ℤ) - 1 = (infolen rx - 1 : ℕ) := by omega
    have hgb := TextCall.gb_sound_iff rx 14 (infolen rx - 1) .txtContent
    rw [imp_iff_right hbody]
    constructor
    · intro h
      have hmem : .gb .txtContent 14 ((infolen rx : ℤ) - 1) ∈
          textCalls linkNum rx s 0x8300 := by
        rw [textCalls]
        exact List.mem_append_right _ (List.mem_singleton_self _)
      have hsound := h _ hmem (by rw [TextCall.len]; omega)
      rw [hlen, hgb] at hsound
      exact ⟨by omega, hsound.2⟩
    · rintro ⟨hle, hfit⟩ call hcall -
      rcases mem_textCalls_case8300 rx hcall with rfl | rfl
      · rw [hlen, TextCall.tts_sound_iff rx 14 _ (by omega)]
        split
        · omega
        · omega
      · rw [hlen, hgb]
        exact ⟨by omega, hfit⟩
  · refine iff_of_true (callsSound_of_neg rx ?_) fun h => absurd h hbody
    intro call hcall
    rcases mem_textCalls_case8300 rx hcall with rfl | rfl
    · rw [TextCall.len]
      omega
    · rw [TextCall.len]
      omega

theorem callsSound_itemTexts (c : ℕ) :
    CallsSound rx (itemTexts rx c) ↔
      (be32 rx c = 2 → 2 ≤ (rx (c + 4)).toNat →
        gbLen rx (c + 7) ((rx (c + 4)).toNat - 2) ≤ 100) := by
  rw [itemTexts]
  by_cases hid : be32 rx c = 2
  · rw [if_pos hid, imp_iff_right hid]
    exact callsSound_shownTexts_sub rx (c + 7) (rx (c + 4)).toNat 2
  · rw [if_neg hid]
    exact iff_of_true nofun fun h => absurd h hid

theorem callsSound_iff {cmdId : ℕ} (hcmd : cmdId ∈ textCmds) (linkNum : ℕ)
    (s : AppState) :
    CallsSound rx (textCalls linkNum rx s cmdId) ↔
      TextsFit linkNum rx cmdId := by
  simp only [textCmds, List.mem_cons, List.not_mem_nil, or_false] at hcmd
  rcases hcmd with rfl | rfl | rfl
  · exact callsSound_case8300 rx linkNum s
  · rw [textCalls, TextsFit]
    by_cases hlink : linkNum = 0
    · rw [if_pos hlink, imp_iff_right hlink]
      exact callsSound_shownTexts_sub rx 14 (infolen rx) 1
    · rw [if_neg hlink]
      exact iff_of_true nofun fun h => absurd h hlink
  · rw [textCalls, TextsFit, CallsSound, List.forall_mem_flatMap]
    exact forall₂_congr fun c _ => callsSound_itemTexts rx c

end Calls

/-- The stores of the conversions for a frame: what the handler adds to an empty
log. -/
def conversionsFor (linkNum : ℕ) (r : RxState) (s : AppState) : List Store :=
  conversions (tcpRxCheck r).1.centreCmdID
    (tcpRxProcess linkNum r { s with stores := [] }).2.stores

/-- The calls made for an accepted frame. -/
def callsFor (linkNum : ℕ) (r : RxState) (s : AppState) : List TextCall :=
  textCalls linkNum (tcpRxCheck r).1.hexRx s (tcpRxCheck r).1.centreCmdID

/-- The log holds the stores of the calls, and every call for a text is
sound. -/
structure TextsConverted (linkNum : ℕ) (r : RxState) (s : AppState) : Prop where
  log : conversionsFor linkNum r s =
    (callsFor linkNum r s).flatMap (TextCall.stores (tcpRxCheck r).1.hexRx)
  sound : CallsSound (tcpRxCheck r).1.hexRx (callsFor linkNum r s)

theorem conversionsFor_of_accepted {r : RxState}
    (haccept : (tcpRxCheck r).2 = true)
    (hcmd : (tcpRxCheck r).1.centreCmdID ∈ textCmds) (linkNum : ℕ)
    (s : AppState) :
    conversionsFor linkNum r s =
      (callsFor linkNum r s).flatMap
        (TextCall.stores (tcpRxCheck r).1.hexRx) := by
  rw [conversionsFor, tcpRxProcess_of_accepted haccept,
    commandSwitch_conversions _ _ hcmd]
  rfl

/-- The body of a message with the text `A...A` of `n` letters. -/
def letters (n : ℕ) : List UInt8 := 0 :: List.replicate n 0x41

theorem gbLen_letters (cmdId n : ℕ) :
    gbLen (tcpRxCheck (received (message cmdId (letters n)) 0)).1.hexRx 14 n =
      2 * n := by
  have hbody := received_body cmdId (letters n) 0
  rw [letters, List.length_cons, List.length_replicate, readBytes,
    List.cons.injEq] at hbody
  rw [gbLen, letters, hbody.2, List.countP_replicate]
  rw [if_pos (by decide)]
  omega

end AppState

open AppState in
/-- A text of 51 letters is longer than `TEXT_Content` after the conversion. -/
theorem letters_not_converted :
    (tcpRxCheck (received (message 0x8900 (letters 51)) 0)).2 = true ∧
      (tcpRxCheck (received (message 0x8900 (letters 51)) 0)).1.centreCmdID =
        0x8900 ∧
      ¬ TextsConverted 0 (received (message 0x8900 (letters 51)) 0) {} := by
  refine ⟨received_accepted _ 0, received_centreCmdID (by decide) _ 0, ?_⟩
  intro h
  have hsound := h.sound
  rw [callsFor, received_centreCmdID (by decide), callsSound_iff _ (by decide),
    TextsFit, received_infolen (by decide)] at hsound
  have hfit := hsound rfl (by decide)
  have hlen : (letters 51).length - 1 = 51 := rfl
  rw [hlen, gbLen_letters] at hfit
  exact absurd hfit (by decide)

open AppState in
/-- The texts of a message are converted whole and into their destinations
exactly if they are short enough with the second bytes of their letters and
digits. -/
theorem textsConverted_iff {r : RxState} (haccept : (tcpRxCheck r).2 = true)
    (hcmd : (tcpRxCheck r).1.centreCmdID ∈ textCmds) (linkNum : ℕ)
    (s : AppState) :
    TextsConverted linkNum r s ↔
      TextsFit linkNum (tcpRxCheck r).1.hexRx
        (tcpRxCheck r).1.centreCmdID := by
  rw [← callsSound_iff _ hcmd linkNum s]
  constructor
  · intro h
    exact h.sound
  · intro h
    exact ⟨conversionsFor_of_accepted haccept hcmd linkNum s, h⟩

open AppState in
/-- Fifty letters just fit. -/
theorem textsConverted_letters :
    TextsConverted 0 (received (message 0x8900 (letters 50)) 0) {} := by
  have hcmdId : (tcpRxCheck (received (message 0x8900 (letters 50))
      0)).1.centreCmdID = 0x8900 := received_centreCmdID (by decide) _ 0
  refine (textsConverted_iff (received_accepted _ 0) ?_ 0 {}).mpr ?_
  · rw [hcmdId]
    decide
  · rw [hcmdId, TextsFit, received_infolen (by decide)]
    intro _ _
    exact (gbLen_letters 0x8900 50).le

end VehicleRecorder.Protocol
