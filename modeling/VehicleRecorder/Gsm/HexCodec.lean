import VehicleRecorder.Protocol.Framing
import VehicleRecorder.Protocol.Services

/-!
# Hexadecimal text on the modem line

Frames go to the modem and come from it as hexadecimal digits.
`GSM_HextoAscii_Convert` writes two digits for a byte; `GSM_AsciitoHEX_Convert`
puts a byte together in two steps and moves its index at the second one only.

A character that is no digit is noticed where it stands for the low half of a
byte.  In front of a low digit it is taken for an `F`.
-/

namespace VehicleRecorder.Gsm

open Bytes Protocol

/-! ## The two functions -/

/-- `HexValue`. -/
def hexValue : UInt8 → UInt8
  | 0x30 => 0
  | 0x31 => 1
  | 0x32 => 2
  | 0x33 => 3
  | 0x34 => 4
  | 0x35 => 5
  | 0x36 => 6
  | 0x37 => 7
  | 0x38 => 8
  | 0x39 => 9
  | 0x41 => 0x0A
  | 0x42 => 0x0B
  | 0x43 => 0x0C
  | 0x44 => 0x0D
  | 0x45 => 0x0E
  | 0x46 => 0x0F
  | _ => 0xFF

/-- `GSM_HextoAscii_Convert`: what lies in `Dest` and the length returned, from
a `u16`. -/
def gsmHextoAsciiConvert (hex : List UInt8) : List UInt8 × ℕ :=
  (gsmHextoAscii hex, 2 * hex.length % 65536)

/-- A turn of the loop of `GSM_AsciitoHEX_Convert`, with `Out_Str_Len` at
`n`. -/
def asciitoHexTurn (counter : ℕ) (c : UInt8) (out : ℕ → UInt8) (n : ℕ) :
    (ℕ → UInt8) × ℕ :=
  if counter % 2 = 1 then
    if hexValue c ≠ 0xFF then
      (Function.update out n (out n + hexValue c), n + 1)
    else (out, n)
  else
    let out := Function.update out n (hexValue c <<< 4)
    -- the marker has been shifted, so that the test never fails
    if hexValue c <<< 4 ≠ 0xFF then
      (Function.update out n (hexValue c <<< 4), n)
    else (out, n)

/-- The loop of `GSM_AsciitoHEX_Convert`. -/
def asciitoHexLoop : List UInt8 → ℕ → (ℕ → UInt8) → ℕ → (ℕ → UInt8) × ℕ
  | [], _, out, n => (out, n)
  | c :: cs, counter, out, n =>
      asciitoHexLoop cs (counter + 1) (asciitoHexTurn counter c out n).1
        (asciitoHexTurn counter c out n).2

/-- `GSM_AsciitoHEX_Convert`: the memory from `Out_Str` on and the length
returned. -/
def gsmAsciitoHexConvert (src : List UInt8) (out : ℕ → UInt8) :
    (ℕ → UInt8) × ℕ :=
  asciitoHexLoop src 0 out 0

/-- The bytes the decoder reports. -/
def decodedBytes (src : List UInt8) (out : ℕ → UInt8) : List UInt8 :=
  readBytes (gsmAsciitoHexConvert src out).1 0 (gsmAsciitoHexConvert src out).2

/-- The digits the encoder reports. -/
def encodedDigits (hex : List UInt8) : List UInt8 :=
  (gsmHextoAsciiConvert hex).1.take (gsmHextoAsciiConvert hex).2

/-! ## Digits -/

/-- A hexadecimal digit. -/
def IsDigit (c : UInt8) : Prop :=
  (0x30 ≤ c ∧ c ≤ 0x39) ∨ (0x41 ≤ c ∧ c ≤ 0x46)

instance (c : UInt8) : Decidable (IsDigit c) :=
  inferInstanceAs (Decidable ((0x30 ≤ c ∧ c ≤ 0x39) ∨ (0x41 ≤ c ∧ c ≤ 0x46)))

/-- A statement about a byte holds if it holds of the 256 values. -/
theorem forall_byte {P : UInt8 → Prop}
    (h : ∀ n < 256, P (UInt8.ofNat n)) (c : UInt8) : P c := by
  have hc := h c.toNat c.toNat_lt
  rwa [UInt8.ofNat_toNat] at hc

theorem hexValue_ne_iff (c : UInt8) : hexValue c ≠ 0xFF ↔ IsDigit c :=
  forall_byte (P := fun c => hexValue c ≠ 0xFF ↔ IsDigit c) (by decide +kernel)
    c

theorem hexValue_shift_ne (c : UInt8) : hexValue c <<< 4 ≠ 0xFF :=
  forall_byte (P := fun c => hexValue c <<< 4 ≠ 0xFF) (by decide +kernel) c

/-- The byte of two characters. -/
def pairByte (hi lo : UInt8) : UInt8 := hexValue hi <<< 4 + hexValue lo

theorem isDigit_hexDigit {d : ℕ} (h : d < 16) : IsDigit (hexDigit d) :=
  (by decide : ∀ d < 16, IsDigit (hexDigit d)) d h

theorem pairByte_hexDigit (c : UInt8) :
    pairByte (hexDigit (c.toNat / 16)) (hexDigit (c.toNat % 16)) = c :=
  forall_byte (P := fun c =>
    pairByte (hexDigit (c.toNat / 16)) (hexDigit (c.toNat % 16)) = c)
      (by decide +kernel) c

theorem hexDigit_pairByte {hi lo : UInt8} (hhi : IsDigit hi)
    (hlo : IsDigit lo) :
    hexDigit ((pairByte hi lo).toNat / 16) = hi ∧
      hexDigit ((pairByte hi lo).toNat % 16) = lo := by
  have hdigit (c : UInt8) : IsDigit c →
      (hexValue c).toNat < 16 ∧ hexDigit (hexValue c).toNat = c :=
    forall_byte (P := fun c => IsDigit c →
      (hexValue c).toNat < 16 ∧ hexDigit (hexValue c).toNat = c)
        (by decide +kernel) c
  obtain ⟨hhi, hhi'⟩ := hdigit hi hhi
  obtain ⟨hlo, hlo'⟩ := hdigit lo hlo
  have hval : (pairByte hi lo).toNat =
      (hexValue hi).toNat * 16 + (hexValue lo).toNat := by
    have hshift (a : UInt8) : a.toNat < 16 → (a <<< 4).toNat = a.toNat * 16 :=
      forall_byte (P := fun a => a.toNat < 16 →
        (a <<< 4).toNat = a.toNat * 16) (by decide +kernel) a
    rw [pairByte, UInt8.toNat_add, hshift _ hhi]
    omega
  rw [hval]
  constructor
  · rw [show ((hexValue hi).toNat * 16 + (hexValue lo).toNat) / 16 =
      (hexValue hi).toNat by omega]
    exact hhi'
  · rw [show ((hexValue hi).toNat * 16 + (hexValue lo).toNat) % 16 =
      (hexValue lo).toNat by omega]
    exact hlo'

/-! ## What the decoder reports -/

/-- The bytes of the pairs whose second character is a digit. -/
def pairBytes : List UInt8 → List UInt8
  | hi :: lo :: cs =>
      if IsDigit lo then pairByte hi lo :: pairBytes cs else pairBytes cs
  | _ => []

/-- A string of even length without a pair. -/
theorem eq_nil_of_short {s : List UInt8} (heven : Even s.length)
    (hshort : ∀ hi lo cs, s = hi :: lo :: cs → False) : s = [] := by
  match s, heven with
  | [], _ => rfl
  | [c], heven =>
      rw [List.length_singleton] at heven
      exact absurd heven (by decide)
  | hi :: lo :: cs, _ => exact absurd rfl (hshort hi lo cs)

/-- Two turns put the byte of a pair behind those there are, or leave their
number as it is. -/
theorem asciitoHexTurn_pair {counter : ℕ} (heven : counter % 2 = 0)
    (hi lo : UInt8) (out : ℕ → UInt8) (n : ℕ) :
    asciitoHexTurn (counter + 1) lo (asciitoHexTurn counter hi out n).1
        (asciitoHexTurn counter hi out n).2 =
      if IsDigit lo then (Function.update out n (pairByte hi lo), n + 1)
      else (Function.update out n (hexValue hi <<< 4), n) := by
  have hodd : (counter + 1) % 2 = 1 := by omega
  have hfirst : asciitoHexTurn counter hi out n =
      (Function.update out n (hexValue hi <<< 4), n) := by
    rw [asciitoHexTurn, if_neg (by omega)]
    dsimp only
    rw [if_pos (hexValue_shift_ne hi), Function.update_idem]
  rw [hfirst, asciitoHexTurn, if_pos hodd]
  dsimp only
  by_cases hlo : IsDigit lo
  · rw [if_pos ((hexValue_ne_iff lo).mpr hlo), if_pos hlo, Function.update_idem,
      Function.update_self, pairByte]
  · rw [if_neg fun h => hlo ((hexValue_ne_iff lo).mp h), if_neg hlo]

/-- The loop leaves the bytes of the pairs behind what was there.  The
induction goes over pairs, at an even position. -/
theorem asciitoHexLoop_written (s : List UInt8) (heven : Even s.length) :
    ∀ counter, counter % 2 = 0 → ∀ out n,
      (asciitoHexLoop s counter out n).2 = n + (pairBytes s).length ∧
        Written out (asciitoHexLoop s counter out n).1 n (pairBytes s) := by
  fun_induction pairBytes s with
  | case1 hi lo cs hlo ih =>
      intro counter hcounter out n
      have hrest : Even cs.length := by
        simpa [Nat.even_add_one] using heven
      rw [asciitoHexLoop, asciitoHexLoop, asciitoHexTurn_pair hcounter,
        if_pos hlo]
      obtain ⟨hlen, hwritten⟩ := ih hrest (counter + 1 + 1) (by omega)
        (Function.update out n (pairByte hi lo)) (n + 1)
      refine ⟨?_, hwritten.cons⟩
      rw [hlen, List.length_cons, Nat.add_right_comm, Nat.add_assoc]
  | case2 hi lo cs hlo ih =>
      intro counter hcounter out n
      have hrest : Even cs.length := by
        simpa [Nat.even_add_one] using heven
      rw [asciitoHexLoop, asciitoHexLoop, asciitoHexTurn_pair hcounter,
        if_neg hlo]
      obtain ⟨hlen, hwritten⟩ := ih hrest (counter + 1 + 1) (by omega)
        (Function.update out n (hexValue hi <<< 4)) n
      refine ⟨hlen, hwritten.read, fun j hj => ?_⟩
      rw [hwritten.front j hj, Function.update_of_ne (Nat.ne_of_lt hj)]
  | case3 s hshort =>
      obtain rfl := eq_nil_of_short heven hshort
      exact fun _ _ _ _ => ⟨rfl, rfl, fun _ _ => rfl⟩

theorem decodedBytes_eq {s : List UInt8} (heven : Even s.length)
    (out : ℕ → UInt8) : decodedBytes s out = pairBytes s := by
  obtain ⟨hlen, hwritten⟩ := asciitoHexLoop_written s heven 0 rfl out 0
  rw [decodedBytes, gsmAsciitoHexConvert, hlen, Nat.zero_add]
  exact hwritten.read

theorem gsmAsciitoHexConvert_length {s : List UInt8} (heven : Even s.length)
    (out : ℕ → UInt8) :
    (gsmAsciitoHexConvert s out).2 = (pairBytes s).length := by
  rw [gsmAsciitoHexConvert, (asciitoHexLoop_written s heven 0 rfl out 0).1,
    Nat.zero_add]

/-! ## Round trips -/

/-- The two digits of every byte. -/
def digits (hex : List UInt8) : List UInt8 :=
  hex.flatMap fun c => [hexDigit (c.toNat / 16), hexDigit (c.toNat % 16)]

theorem digits_cons (c : UInt8) (hex : List UInt8) :
    digits (c :: hex) =
      hexDigit (c.toNat / 16) :: hexDigit (c.toNat % 16) :: digits hex := rfl

theorem digits_length (hex : List UInt8) :
    (digits hex).length = 2 * hex.length := by
  induction hex with
  | nil => rfl
  | cons c hex ih =>
      rw [digits_cons, List.length_cons, List.length_cons, ih,
        List.length_cons]
      omega

theorem encodedDigits_eq {hex : List UInt8} (h : hex.length < 32768) :
    encodedDigits hex = digits hex := by
  have hlen : 2 * hex.length % 65536 = (digits hex).length := by
    rw [digits_length]
    omega
  rw [encodedDigits, gsmHextoAsciiConvert, hlen]
  exact List.take_left

theorem pairBytes_digits (hex : List UInt8) : pairBytes (digits hex) = hex := by
  induction hex with
  | nil => rfl
  | cons c hex ih =>
      have hlow : IsDigit (hexDigit (c.toNat % 16)) :=
        isDigit_hexDigit (Nat.mod_lt _ (by decide))
      rw [digits_cons, pairBytes, if_pos hlow, pairByte_hexDigit, ih]

theorem digits_pairBytes (s : List UInt8) (heven : Even s.length)
    (h : ∀ c ∈ s, IsDigit c) : digits (pairBytes s) = s := by
  fun_induction pairBytes s with
  | case1 hi lo cs hlo ih =>
      have hrest : Even cs.length := by
        simpa [Nat.even_add_one] using heven
      obtain ⟨hfirst, hsecond⟩ :=
        hexDigit_pairByte (h hi List.mem_cons_self) hlo
      rw [digits_cons, hfirst, hsecond, ih hrest fun c hc =>
        h c (List.mem_cons_of_mem _ (List.mem_cons_of_mem _ hc))]
  | case2 hi lo cs hlo ih =>
      exact absurd (h lo (List.mem_cons_of_mem _ List.mem_cons_self)) hlo
  | case3 s hshort =>
      obtain rfl := eq_nil_of_short heven hshort
      rfl

/-! ## Corrupted characters -/

/-- The characters for the low halves are digits. -/
def LowDigits (s : List UInt8) : Prop :=
  ∀ i c, s[2 * i + 1]? = some c → IsDigit c

/-- The characters for the high halves are digits. -/
def HighDigits (s : List UInt8) : Prop :=
  ∀ i c, s[2 * i]? = some c → IsDigit c

theorem lowDigits_cons (hi lo : UInt8) (cs : List UInt8) :
    LowDigits (hi :: lo :: cs) ↔ IsDigit lo ∧ LowDigits cs := by
  constructor
  · intro h
    exact ⟨h 0 lo rfl, fun i c hc => h (i + 1) c hc⟩
  · rintro ⟨hlo, hcs⟩ i c hc
    cases i with
    | zero => exact (Option.some.inj hc) ▸ hlo
    | succ i => exact hcs i c hc

theorem all_digits_iff (s : List UInt8) :
    (∀ c ∈ s, IsDigit c) ↔ LowDigits s ∧ HighDigits s := by
  constructor
  · intro h
    exact ⟨fun _ c hc => h c (List.mem_of_getElem? hc),
      fun _ c hc => h c (List.mem_of_getElem? hc)⟩
  · rintro ⟨hlow, hhigh⟩ c hc
    obtain ⟨i, hi⟩ := List.getElem?_of_mem hc
    rcases Nat.even_or_odd' i with ⟨k, rfl | rfl⟩
    · exact hhigh k c hi
    · exact hlow k c hi

/-- The full length is reported exactly if the low halves are digits. -/
theorem pairBytes_length_le (s : List UInt8) :
    (pairBytes s).length ≤ s.length / 2 := by
  fun_induction pairBytes s with
  | case1 hi lo cs hlo ih =>
      simp only [List.length_cons]
      omega
  | case2 hi lo cs hlo ih =>
      simp only [List.length_cons]
      omega
  | case3 s hshort => exact Nat.zero_le _

theorem pairBytes_full_iff (s : List UInt8) (heven : Even s.length) :
    (pairBytes s).length = s.length / 2 ↔ LowDigits s := by
  fun_induction pairBytes s with
  | case1 hi lo cs hlo ih =>
      have hrest : Even cs.length := by
        simpa [Nat.even_add_one] using heven
      rw [lowDigits_cons, ← ih hrest]
      simp only [List.length_cons]
      constructor
      · intro h
        exact ⟨hlo, by omega⟩
      · rintro ⟨-, h⟩
        omega
  | case2 hi lo cs hlo ih =>
      have hle := pairBytes_length_le cs
      rw [lowDigits_cons]
      simp only [List.length_cons]
      constructor
      · intro h
        omega
      · rintro ⟨h, -⟩
        exact absurd h hlo
  | case3 s hshort =>
      obtain rfl := eq_nil_of_short heven hshort
      exact ⟨fun _ _ _ hc => absurd hc (by simp), fun _ => rfl⟩

/-- A string that is reported as data of full length consists of digits, and
the data encode it. -/
def AcceptedAsDigits (s : List UInt8) (out : ℕ → UInt8) : Prop :=
  (gsmAsciitoHexConvert s out).2 = s.length / 2 →
    (∀ c ∈ s, IsDigit c) ∧ encodedDigits (decodedBytes s out) = s

theorem acceptedAsDigits_iff {s : List UInt8} (hlen : s.length < 65536)
    (heven : Even s.length) (out : ℕ → UInt8) :
    AcceptedAsDigits s out ↔ (LowDigits s → HighDigits s) := by
  rw [AcceptedAsDigits, gsmAsciitoHexConvert_length heven,
    pairBytes_full_iff s heven, all_digits_iff, decodedBytes_eq heven]
  constructor
  · intro h hlow
    exact (h hlow).1.2
  · intro h hlow
    have hdigits := (all_digits_iff s).mpr ⟨hlow, h hlow⟩
    have hshort : (pairBytes s).length < 32768 := by
      have hle := pairBytes_length_le s
      omega
    refine ⟨⟨hlow, h hlow⟩, ?_⟩
    rw [encodedDigits_eq hshort, digits_pairBytes s heven hdigits]

/-- `G0` is reported as one byte. -/
theorem not_acceptedAsDigits : ¬ AcceptedAsDigits [0x47, 0x30] fun _ => 0 := by
  intro h
  exact absurd ((h rfl).1 0x47 List.mem_cons_self) (by decide)

/-- Every frame comes back from its digits; and a string reported as data of
full length is one of digits exactly if no bad character stands for a high half
only. -/
theorem hexTransport_iff {hex s : List UInt8} (hhex : hex.length ≤ 1023)
    (hlen : s.length < 65536) (heven : Even s.length) (out : ℕ → UInt8) :
    ((gsmAsciitoHexConvert (encodedDigits hex) out).2 = hex.length ∧
      decodedBytes (encodedDigits hex) out = hex) ∧
        (AcceptedAsDigits s out ↔ (LowDigits s → HighDigits s)) := by
  constructor
  · have hdigits : Even (digits hex).length := by
      rw [digits_length]
      exact even_two_mul _
    rw [encodedDigits_eq (by omega), gsmAsciitoHexConvert_length hdigits,
      decodedBytes_eq hdigits, pairBytes_digits]
    exact ⟨rfl, rfl⟩
  · exact acceptedAsDigits_iff hlen heven out

/-- A frame of seven bytes. -/
def flagFrame : List UInt8 := [0x7e, 0x00, 0x02, 0x9a, 0xcf, 0xff, 0x7e]

/-- The digits `7E9ACF`. -/
def sixDigits : List UInt8 := [0x37, 0x45, 0x39, 0x41, 0x43, 0x46]

theorem hexTransport_iff_flag :
    decodedBytes (encodedDigits flagFrame) (fun _ => 0) = flagFrame ∧
      AcceptedAsDigits sixDigits fun _ => 0 := by
  have hhex : flagFrame.length ≤ 1023 := by decide
  have hlen : sixDigits.length < 65536 := by decide
  have heven : Even sixDigits.length := ⟨3, rfl⟩
  have hiff := hexTransport_iff hhex hlen heven fun _ => 0
  have hdigits : ∀ c ∈ sixDigits, IsDigit c := by decide +kernel
  exact ⟨hiff.1.2, hiff.2.mpr fun _ => ((all_digits_iff _).mp hdigits).2⟩

end VehicleRecorder.Gsm
