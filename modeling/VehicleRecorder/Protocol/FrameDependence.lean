import VehicleRecorder.Protocol.FrameLocality

/-!
# Messages read behind their end

Of the bytes that a message is read for the last one always matters: another
byte there leaves another state, at least from one state before.  A message is
thus handled by its own bytes alone exactly if it has all the bytes needed.
-/

namespace VehicleRecorder.Protocol

open Bytes Prefix

namespace AppState

variable {rx : ℕ → UInt8} {p : ℕ}

/-- A byte of a copy in its destination. -/
theorem memcpy_mem (s : AppState) (d : Arr) (f : ℕ → UInt8) (src : ℕ) {i : ℕ}
    {len : ℤ} (hi : i < sizeT len) :
    (s.memcpy d f src len).mem d i = f (src + i) := by
  simp only [memcpy, store, Function.update_self]
  exact overlay_readBytes hi

theorem store_mem_of_ne (s : AppState) {d e : Arr} (h : d ≠ e)
    (xs : List UInt8) (len : ℤ) : (s.store e xs len).mem d = s.mem d :=
  Function.update_of_ne h _ _

theorem memset_mem_of_ne (s : AppState) {d e : Arr} (h : d ≠ e) (len : ℕ) :
    (s.memset e len).mem d = s.mem d :=
  s.store_mem_of_ne h _ _

theorem memcpy_mem_of_ne (s : AppState) {d e : Arr} (h : d ≠ e)
    (f : ℕ → UInt8) (src : ℕ) (len : ℤ) :
    (s.memcpy e f src len).mem d = s.mem d :=
  s.store_mem_of_ne h _ _

theorem ack_mem (s : AppState) : s.ack.mem = s.mem := rfl

theorem saveJT808_mem (s : AppState) : s.saveJT808.mem = s.mem := rfl

theorem recordNumWrite_mem (s : AppState) (name : Dataflash.RecordName)
    (recNum : ℕ) (record : List UInt8) :
    (s.recordNumWrite name recNum record).mem = s.mem := by
  rw [recordNumWrite]

/-! ## Answers and control -/

/-- The word at 15 of a buffer with one of two rests. -/
theorem be16_splice (g : ℕ → UInt8) (hp : p ≤ 15) :
    be16 (splice p rx g) 15 = be16 g 15 := by
  rw [be16, be16, splice_of_le hp, splice_of_le (by omega)]

theorem be16_splice_low {high : UInt8} (h : rx 15 = high) (g : ℕ → UInt8) :
    be16 (splice 16 rx g) 15 = high.toNat * 256 + (g 16).toNat := by
  rw [be16, splice_of_lt (by omega), splice_of_le (by omega), h]

theorem case8001_needs (hn : needed8001 rx = p + 1) :
    ¬ Determined (fun f (s : AppState) => s.case8001 f) rx p := by
  rw [needed8001] at hn
  split at hn
  next =>
    obtain rfl : p = 15 := by omega
    apply not_determined_splice
      (fun step => (step { conf.duration.tcpAckDurCnter := 1
        }).conf.duration.tcpAckDurCnter)
      (fun i => if i = 16 then 2 else 0) fun _ => 0xff
    have hack : be16 (splice 15 rx fun i => if i = 16 then 2 else 0) 15 = 2 :=
      be16_splice _ (Nat.le_refl 15)
    have hother : be16 (splice 15 rx fun _ => 0xff) 15 = 65535 :=
      be16_splice _ (Nat.le_refl 15)
    simp only [case8001, hack, hother]
    decide
  next hhigh =>
    split at hn
    next hid =>
      obtain rfl : p = 17 := by omega
      have hcode (g : ℕ → UInt8) : be16 (splice 17 rx g) 15 = be16 rx 15 := by
        rw [be16, be16, splice_of_lt (by omega), splice_of_lt (by omega)]
      rcases hid with hid | hid | hid
      · apply not_determined_splice
          (fun step => (step { vehicle.warnStatus1 := 0x10
            }).vehicle.warnStatus1) (fun _ => 0) fun _ => 1
        simp only [case8001, hcode, hid]
        change (0 : UInt8) ≠ 0x10
        decide
      · apply not_determined_splice
          (fun step => (step { conf.regsiterStatus := 1
            }).conf.regsiterStatus) (fun _ => 0) fun _ => 1
        simp only [case8001, hcode, hid]
        change (0 : UInt8) ≠ 1
        decide
      · apply not_determined_splice
          (fun step => (step {}).link.devLoginOperateEnable) (fun _ => 0)
          fun _ => 1
        simp only [case8001, hcode, hid]
        change (2 : UInt8) ≠ 0
        decide
    next =>
      obtain rfl : p = 16 := by omega
      by_cases h0 : rx 15 = 0
      · apply not_determined_splice
          (fun step => (step { conf.duration.tcpAckDurCnter := 1
            }).conf.duration.tcpAckDurCnter) (fun _ => 2) fun _ => 0xff
        have hack := be16_splice_low h0 fun _ => 2
        have hother := be16_splice_low h0 fun _ => 0xff
        change _ = 2 at hack
        change _ = 255 at hother
        simp only [case8001, hack, hother]
        decide
      by_cases h1 : rx 15 = 1
      · apply not_determined_splice
          (fun step => (step { conf.regsiterStatus := 1
            }).conf.regsiterStatus)
          (fun i => if i = 16 then 1 else 0) fun _ => 0xff
        have hack := be16_splice_low h1 fun i => if i = 16 then 1 else 0
        have hother := be16_splice_low h1 fun _ => 0xff
        change _ = 257 at hack
        change _ = 511 at hother
        simp only [case8001, hack, hother]
        change (0 : UInt8) ≠ 1
        decide
      · have h2 : rx 15 = 2 := by
          by_contra h2
          exact hhigh ⟨h0, h1, h2⟩
        apply not_determined_splice
          (fun step => (step { vehicle.warnStatus1 := 0x10
            }).vehicle.warnStatus1) (fun _ => 0) fun _ => 0xff
        have hack := be16_splice_low h2 fun _ => 0
        have hother := be16_splice_low h2 fun _ => 0xff
        change _ = 512 at hack
        change _ = 767 at hother
        simp only [case8001, hack, hother]
        change (0 : UInt8) ≠ 0x10
        decide

theorem case8100_needs (hn : needed8100 rx = p + 1) :
    ¬ Determined (fun f (s : AppState) => s.case8100 f) rx p := by
  by_cases hp : p = 15
  · subst hp
    refine not_determined_splice
      (fun step => (step {}).link.devLoginOperateEnable)
      (fun _ => 0) (fun _ => 1) ?_
    change (1 : UInt8) ≠ 0
    decide
  · rw [needed8100] at hn
    split at hn
    next hok =>
      obtain ⟨i, rfl⟩ : ∃ i, p = 16 + i := ⟨p - 16, by omega⟩
      refine not_determined_byte (fun step => (step {}).mem .confirmCode i)
        fun f hf => ?_
      have h15 : f 15 = 0 := (hf 15 (by omega)).trans hok
      have hlen : i < sizeT (infolen f - 3) := by
        rw [infolen_agree hf (by omega)]
        omega
      rw [case8100, h15]
      exact memcpy_mem _ .confirmCode f 16 hlen
    next => omega

theorem case8105_needs :
    ¬ Determined (fun f (s : AppState) => s.case8105 f) rx 13 := by
  refine not_determined_splice
    (fun step => (step {}).sdAckFlag.centreCmdAck0001H)
    (fun _ => 3) (fun _ => 0) ?_
  change (5 : UInt8) ≠ 1
  decide

theorem case8202_needs :
    ¬ Determined (fun f (s : AppState) => s.case8202 f) rx 18 :=
  not_determined_be32 (fun step => (step {}).conf.rtLock.lockKeepDur)
    fun _ _ => rfl

theorem case8500_needs :
    ¬ Determined (fun f (s : AppState) => s.case8500 f) rx 13 :=
  not_determined_byte (fun step => (step {}).vehicle.controlFlag)
    fun _ _ => rfl

/-! ## Texts and items -/

theorem showText_mem_of_ne (s : AppState) {d : Arr} (h : d ≠ .txtContent)
    (f : ℕ → UInt8) (src : ℕ) (len : ℤ) :
    (s.showText f src len).mem d = s.mem d := by
  rw [showText, storeGb]
  dsimp only
  rw [store_mem_of_ne _ h, memset_mem_of_ne _ h]

theorem keepText_mem_playInfo (s : AppState) (f : ℕ → UInt8) (len : ℤ) :
    (s.keepText f len).mem .playInfo = s.mem .playInfo := by
  rw [keepText]
  split
  · simp only [textmsgWrite, recordNumWrite_mem]
    rw [memcpy_mem_of_ne _ (by decide), memset_mem_of_ne _ (by decide)]
    dsimp only
    rw [memcpy_mem_of_ne _ (by decide), memset_mem_of_ne _ (by decide)]
  · rfl

theorem ttsGetData_mem_playInfo (s : AppState) (f : ℕ → UInt8) (src : ℕ)
    (len : ℤ) : (s.ttsGetData f src len).mem .playInfo = s.mem .playInfo := by
  simp only [ttsGetData]
  split
  · dsimp only
    rw [memcpy_mem_of_ne _ (by decide), memset_mem_of_ne _ (by decide)]
  · dsimp only
    rw [store_mem_of_ne _ (by decide), memset_mem_of_ne _ (by decide)]

theorem playText_mem (s : AppState) (f : ℕ → UInt8) {len : ℤ} {i : ℕ}
    (hflag : s.texts.textFlag &&& 0x09 ≠ 0) (hi : i < sizeT len) :
    (s.playText f len).mem .playInfo i = f (14 + i) := by
  rw [playText, if_pos hflag, ttsGetData_mem_playInfo]
  exact memcpy_mem _ .playInfo f 14 hi

theorem keepText_mem (s : AppState) (f : ℕ → UInt8) {len : ℤ} {i : ℕ}
    (hflag : s.texts.textFlag &&& 0x04 ≠ 0 ∨ s.texts.textFlag &&& 0x01 ≠ 0)
    (hi : i < sizeT len) :
    (s.keepText f len).mem .textContent i = f (14 + i) := by
  rw [keepText, if_pos hflag]
  simp only [textmsgWrite, recordNumWrite_mem]
  rw [memcpy_mem_of_ne _ (by decide), memset_mem_of_ne _ (by decide)]
  exact memcpy_mem _ .textContent f 14 hi

theorem keepText_textFlag (s : AppState) (f : ℕ → UInt8) (len : ℤ) :
    (s.keepText f len).texts.textFlag = s.texts.textFlag := by
  rw [keepText]
  split
  · rw [textmsgWrite, recordNumWrite]
    rfl
  · rfl

theorem case8300_needs (hn : needed8300 rx = p + 1) :
    ¬ Determined (fun f (s : AppState) => s.case8300 f) rx p := by
  by_cases hp : p = 13
  · subst hp
    refine not_determined_byte (fun step => (step {}).texts.textFlag)
      fun f _ => ?_
    change (keepText f _ (playText f _ _)).texts.textFlag = f 13
    rw [keepText_textFlag, playText_textFlag]
  · rw [needed8300] at hn
    obtain ⟨i, rfl⟩ : ∃ i, p = 14 + i := by
      refine ⟨p - 14, ?_⟩
      split at hn <;> omega
    split at hn
    next hflag =>
      have hlen (f : ℕ → UInt8) (hf : Agree (14 + i) f rx) :
          i < sizeT ((infolen f : ℤ) - 1) := by
        rw [infolen_agree hf (by omega)]
        omega
      rcases hflag with hplay | hkeep
      · refine not_determined_byte (fun step => (step {}).mem .playInfo i)
          fun f hf => ?_
        simp only [case8300, ack_mem]
        rw [showText_mem_of_ne _ (by decide), keepText_mem_playInfo]
        refine playText_mem _ f ?_ (hlen f hf)
        dsimp only
        rwa [hf 13 (by omega)]
      · by_cases hplay : rx 13 &&& 0x09 = 0
        · refine not_determined_byte
            (fun step => (step {}).mem .textContent i) fun f hf => ?_
          simp only [case8300, ack_mem, playText]
          rw [hf 13 (by omega), if_neg (not_not_intro hplay),
            showText_mem_of_ne _ (by decide)]
          exact keepText_mem _ f hkeep (hlen f hf)
        · refine not_determined_byte (fun step => (step {}).mem .playInfo i)
            fun f hf => ?_
          simp only [case8300, ack_mem]
          rw [showText_mem_of_ne _ (by decide), keepText_mem_playInfo]
          refine playText_mem _ f ?_ (hlen f hf)
          dsimp only
          rwa [hf 13 (by omega)]
    next =>
      intro hdet
      have hagree : Agree (14 + i) (alter rx (14 + i)) rx :=
        agree_update (Nat.le_refl _) _ _
      have hsame := congrArg
        (fun step : AppState → AppState => (step {}).texts.lcdTxtContentLen)
        (hdet _ hagree)
      simp only [case8300, infolen_agree hagree (by omega)] at hsame
      exact asciiToGb_alter_ne (by omega) (by omega) hsame

/-- A length of a copy that is a byte of the message. -/
theorem sizeT_toNat (b : UInt8) : sizeT (b.toNat : ℕ) = b.toNat := by
  have hlt := b.toNat_lt
  exact sizeT_ofNat (by omega)

theorem sizeT_be16 (f : ℕ → UInt8) (a : ℕ) :
    sizeT (be16 f a : ℕ) = be16 f a := by
  have hhigh := (f a).toNat_lt
  have hlow := (f (a + 1)).toNat_lt
  apply sizeT_ofNat
  rw [be16]
  omega

/-- The item that a set with a type and a count of items begins with; `q` is
where it ends. -/
theorem needs_of_item {F : (ℕ → UInt8) → AppState → AppState} {max : UInt8}
    (hmax : 1 ≤ max) {q : (ℕ → UInt8) → ℕ} (hq : ∀ g, 14 ≤ q g)
    (hitem : ∀ g : ℕ → UInt8, g 13 ≠ 0 → g 13 ≤ max → g 14 = 1 →
      ¬ Determined F g (q g))
    (hn : neededItem rx max (q rx + 1) = p + 1) : ¬ Determined F rx p := by
  rw [neededItem] at hn
  split at hn
  next =>
    obtain rfl : p = 13 := by omega
    have h13 : splice 13 rx (fun _ => 1) 13 = 1 := splice_of_le (by omega)
    have h14 : splice 13 rx (fun _ => 1) 14 = 1 := splice_of_le (by omega)
    exact not_determined_of_agree agree_splice (Nat.le_of_succ_le (hq _))
      (hitem _ (by rw [h13]; decide) (by rw [h13]; exact hmax) h14)
  next hin =>
    obtain ⟨hzero, htype⟩ := not_or.mp hin
    split at hn
    next =>
      obtain rfl : p = 14 := by omega
      have h13 : splice 14 rx (fun _ => 1) 13 = rx 13 :=
        splice_of_lt (by omega)
      have h14 : splice 14 rx (fun _ => 1) 14 = 1 := splice_of_le (by omega)
      rw [← h13] at hzero htype
      exact not_determined_of_agree agree_splice (hq _)
        (hitem _ hzero (not_not.mp htype) h14)
    next hone =>
      obtain rfl : p = q rx := by omega
      exact hitem rx hzero (not_not.mp htype) (not_not.mp hone)

/-- The item of an event set. -/
theorem case8301_item (hzero : rx 13 ≠ 0) (htype : rx 13 ≤ 4)
    (hone : rx 14 = 1) :
    ¬ Determined (fun f (s : AppState) => s.case8301 f) rx
      (16 + (rx 16).toNat) := by
  by_cases hlen : (rx 16).toNat = 0
  · rw [hlen]
    refine not_determined_byte
      (fun step => (step {}).records.eventObj.eventLen) fun f hf => ?_
    rw [case8301, hf 13 (by omega), hf 14 (by omega), if_neg hzero,
      if_pos htype, if_neg (not_not_intro hone)]
    rfl
  · obtain ⟨i, hi⟩ : ∃ i, 16 + (rx 16).toNat = 17 + i :=
      ⟨(rx 16).toNat - 1, by omega⟩
    rw [hi]
    refine not_determined_byte (fun step => (step {}).mem .eventStr i)
      fun f hf => ?_
    have hin : i < sizeT ((f 16).toNat : ℕ) := by
      rw [sizeT_toNat, hf 16 (by omega)]
      omega
    rw [case8301, hf 13 (by omega), hf 14 (by omega), if_neg hzero,
      if_pos htype, if_neg (not_not_intro hone)]
    simp only [ack_mem, writeEvent, recordNumWrite_mem]
    exact memcpy_mem _ .eventStr f 17 hin

theorem case8301_needs
    (hn : neededItem rx 4 (17 + (rx 16).toNat) = p + 1) :
    ¬ Determined (fun f (s : AppState) => s.case8301 f) rx p := by
  have hend : 17 + (rx 16).toNat = 16 + (rx 16).toNat + 1 := by omega
  rw [hend] at hn
  exact needs_of_item (q := fun g => 16 + (g 16).toNat) (by decide)
    (fun g => by omega) (fun _ => case8301_item) hn

theorem case8302_needs (hn : needed8302 rx = p + 1) :
    ¬ Determined (fun f (s : AppState) => s.case8302 f) rx p := by
  rw [needed8302] at hn
  by_cases hanswer : 15 + (rx 14).toNat ≤ p
  · obtain ⟨i, rfl⟩ : ∃ i, p = 15 + (rx 14).toNat + i :=
      ⟨p - (15 + (rx 14).toNat), by omega⟩
    refine not_determined_byte (fun step => (step {}).mem .askAnswer i)
      fun f hf => ?_
    have h14 : f 14 = rx 14 := hf 14 (by omega)
    have hlen : i < sizeT ((infolen f : ℤ) - 2 - (f 14).toNat) := by
      rw [infolen_agree hf (by omega), h14]
      omega
    simp only [case8302, ack_mem, recordNumWrite_mem]
    rw [← h14]
    exact memcpy_mem _ .askAnswer f _ hlen
  · by_cases hask : (rx 14).toNat = 0
    · obtain rfl : p = 14 := by omega
      refine not_determined_byte
        (fun step => (step {}).records.askCentre.askInfolen) fun f _ => ?_
      rw [case8302, recordNumWrite]
      rfl
    · obtain ⟨i, rfl⟩ : ∃ i, p = 15 + i := ⟨p - 15, by omega⟩
      refine not_determined_byte (fun step => (step {}).mem .askInfo i)
        fun f hf => ?_
      have hlen : i < sizeT ((f 14).toNat : ℕ) := by
        rw [sizeT_toNat, hf 14 (by omega)]
        omega
      simp only [case8302, ack_mem, recordNumWrite_mem]
      rw [memcpy_mem_of_ne _ (by decide), memset_mem_of_ne _ (by decide)]
      exact memcpy_mem _ .askInfo f 15 hlen

/-- The item of a menu set. -/
theorem case8303_item (hzero : rx 13 ≠ 0) (htype : rx 13 ≤ 3)
    (hone : rx 14 = 1) :
    ¬ Determined (fun f (s : AppState) => s.case8303 f) rx
      (17 + be16 rx 16) := by
  by_cases hlen : be16 rx 16 = 0
  · rw [hlen]
    refine not_determined_be16
      (fun step => (step {}).records.msgBroadCastObj.infoLen) fun f hf => ?_
    rw [case8303, hf 13 (by omega), hf 14 (by omega), if_neg hzero,
      if_pos htype, if_neg (not_not_intro hone)]
    rfl
  · obtain ⟨i, hi⟩ : ∃ i, 17 + be16 rx 16 = 18 + i :=
      ⟨be16 rx 16 - 1, by omega⟩
    rw [hi]
    refine not_determined_byte (fun step => (step {}).mem .infoStr i)
      fun f hf => ?_
    have hin : i < sizeT (be16 f 16 : ℕ) := by
      rw [hf.be16 (by omega), sizeT_be16]
      omega
    rw [case8303, hf 13 (by omega), hf 14 (by omega), if_neg hzero,
      if_pos htype, if_neg (not_not_intro hone)]
    simp only [ack_mem, writeMsgBroadCast, recordNumWrite_mem]
    exact memcpy_mem _ .infoStr f 18 hin

theorem case8303_needs (hn : neededItem rx 3 (18 + be16 rx 16) = p + 1) :
    ¬ Determined (fun f (s : AppState) => s.case8303 f) rx p := by
  have hend : 18 + be16 rx 16 = 17 + be16 rx 16 + 1 := by omega
  rw [hend] at hn
  exact needs_of_item (q := fun g => 17 + be16 g 16) (by decide)
    (fun g => by omega) (fun _ => case8303_item) hn

theorem case8304_needs (hn : 16 + sizeT (infolen rx - 3) = p + 1) :
    ¬ Determined (fun f (s : AppState) => s.case8304 f) rx p := by
  by_cases hp : p = 15
  · subst hp
    exact not_determined_be16
      (fun step => (step {}).records.msgBroadCastObj.infoLen) fun _ _ => rfl
  · obtain ⟨i, rfl⟩ : ∃ i, p = 16 + i := ⟨p - 16, by omega⟩
    refine not_determined_byte (fun step => (step {}).mem .infoStr i)
      fun f hf => ?_
    have hlen : i < sizeT ((infolen f : ℤ) - 3) := by
      rw [infolen_agree hf (by omega)]
      omega
    simp only [case8304, ack_mem]
    rw [memcpy_mem_of_ne _ (by decide), memset_mem_of_ne _ (by decide)]
    exact memcpy_mem _ .infoStr f 16 hlen

/-! ## Telephone -/

theorem case8400_needs (hn : needed8400 rx = p + 1) (hp : 13 ≤ p) :
    ¬ Determined (fun f (s : AppState) => s.case8400 f) rx p := by
  rw [needed8400] at hn
  split at hn
  · omega
  next hlen =>
    by_cases hp13 : p = 13
    · subst hp13
      have hinfo (g : ℕ → UInt8) : infolen (splice 13 rx g) = infolen rx :=
        infolen_agree agree_splice (Nat.le_refl 13)
      refine not_determined_splice (fun step => (step {}).texts.callState)
        (fun _ => 0) (fun _ => 2) ?_
      simp only [case8400, hinfo, if_neg hlen]
      change (5 : UInt8) ≠ 0
      decide
    · split at hn
      next htype =>
        obtain ⟨i, rfl⟩ : ∃ i, p = 14 + i := ⟨p - 14, by omega⟩
        refine not_determined_byte (fun step => (step {}).mem .listenNum i)
          fun f hf => ?_
        have hinfo : infolen f = infolen rx := infolen_agree hf (by omega)
        have hin : i < sizeT ((infolen f : ℤ) - 1) := by
          rw [hinfo]
          omega
        rw [case8400, if_neg (by rwa [hinfo]), hf 13 (by omega),
          if_pos htype]
        exact memcpy_mem _ .listenNum f 14 hin
      next => omega

/-- The search for an entry leaves the received one alone. -/
theorem replacePhoneBook_keeps (n i : ℕ) (s : AppState) :
    (replacePhoneBook n i s).records.rxPhoneBook = s.records.rxPhoneBook ∧
      (replacePhoneBook n i s).mem .userStr = s.mem .userStr := by
  induction n generalizing i s with
  | zero => exact ⟨rfl, rfl⟩
  | succ n ih =>
      obtain ⟨t, hturn, hbook, hname⟩ : ∃ t : AppState,
          replacePhoneBook (n + 1) i s =
            (if strncmpEq (t.mem .bookUserStr) (t.mem .userStr) 0
                t.records.rxPhoneBook.userLen.toNat then
              t.recordNumWrite .phonebook (i + 1)
                (phoneBookBytes t.records.rxPhoneBook (t.bytes .numberStr)
                  (t.bytes .userStr))
            else replacePhoneBook n (i + 1) t) ∧
          t.records.rxPhoneBook = s.records.rxPhoneBook ∧
          t.mem .userStr = s.mem .userStr := ⟨_, rfl, rfl, rfl⟩
      rw [hturn]
      split
      · rw [recordNumWrite]
        exact ⟨hbook, hname⟩
      · exact ⟨(ih _ t).1.trans hbook, (ih _ t).2.trans hname⟩

theorem receivePhoneBook_userLen (s : AppState) (f : ℕ → UInt8) :
    (s.receivePhoneBook f id).records.rxPhoneBook.userLen =
      f (17 + (f 16).toNat) := rfl

theorem receivePhoneBook_userStr (s : AppState) (f : ℕ → UInt8)
    (flag : PhoneBook → PhoneBook) {i : ℕ}
    (hi : i < (f (17 + (f 16).toNat)).toNat) :
    (s.receivePhoneBook f flag).mem .userStr i =
      f (18 + (f 16).toNat + i) := by
  rw [← sizeT_toNat] at hi
  exact memcpy_mem _ .userStr f _ hi

theorem readRxPhoneBook_userStr (s : AppState) (recNum : ℕ) {i : ℕ}
    (hi : 10 ≤ i) :
    (s.readRxPhoneBook recNum).mem .userStr i = s.mem .userStr i := by
  rw [readRxPhoneBook]
  simp only [store, Function.update_self]
  rw [overlay, List.getElem?_eq_none, Option.getD_none]
  · rfl
  · rw [List.length_take]
    omega

/-- The entry of types 1 and 3. -/
theorem case8401_entry (htype : rx 13 = 1 ∨ rx 13 = 3) :
    ¬ Determined (fun f (s : AppState) => s.case8401 f) rx
      (17 + (rx 16).toNat + (rx (17 + (rx 16).toNat)).toNat) := by
  have hcase (f : ℕ → UInt8) (hf : f 13 = rx 13) (s : AppState) :
      s.case8401 f = (replacePhoneBook 8 0 (s.receivePhoneBook f id)).ack := by
    rw [case8401, hf]
    rcases htype with h1 | h3
    · rw [h1]
      rfl
    · rw [h3]
      rfl
  by_cases huser : (rx (17 + (rx 16).toNat)).toNat = 0
  · rw [huser]
    refine not_determined_byte
      (fun step => (step {}).records.rxPhoneBook.userLen) fun f hf => ?_
    have hbook := (replacePhoneBook_keeps 8 0
      (({} : AppState).receivePhoneBook f id)).1
    have h16 : f 16 = rx 16 := hf 16 (by omega)
    rw [hcase f (hf 13 (by omega))]
    refine (congrArg PhoneBook.userLen hbook).trans ?_
    rw [receivePhoneBook_userLen, h16]
    rfl
  · obtain ⟨i, hi⟩ : ∃ i, 17 + (rx 16).toNat +
        (rx (17 + (rx 16).toNat)).toNat = 18 + (rx 16).toNat + i :=
      ⟨(rx (17 + (rx 16).toNat)).toNat - 1, by omega⟩
    rw [hi]
    refine not_determined_byte (fun step => (step {}).mem .userStr i)
      fun f hf => ?_
    have h16 : f 16 = rx 16 := hf 16 (by omega)
    have hname := (replacePhoneBook_keeps 8 0
      (({} : AppState).receivePhoneBook f id)).2
    have hlen : i < (f (17 + (f 16).toNat)).toNat := by
      rw [h16, hf (17 + (rx 16).toNat) (by omega)]
      omega
    rw [hcase f (hf 13 (by omega)), ack_mem, hname,
      receivePhoneBook_userStr _ _ _ hlen, h16]

theorem case8401_needs (hn : needed8401 rx = p + 1) :
    ¬ Determined (fun f (s : AppState) => s.case8401 f) rx p := by
  rw [needed8401] at hn
  split at hn
  next htype =>
    obtain rfl : p = 17 + (rx 16).toNat +
      (rx (17 + (rx 16).toNat)).toNat := by omega
    exact case8401_entry htype
  next =>
    split at hn
    next htwo =>
      have hcase (f : ℕ → UInt8) (hf : f 13 = rx 13) (s : AppState) :
          s.case8401 f = ((s.receivePhoneBook f
            fun o => { o with effectiveFlag := 1 }).readRxPhoneBook
              (f 14).toNat).ack := by
        rw [case8401, hf, htwo]
        rfl
      split at hn
      next huser =>
        obtain ⟨i, rfl⟩ : ∃ i, p = 18 + (rx 16).toNat + i :=
          ⟨p - (18 + (rx 16).toNat), by omega⟩
        refine not_determined_byte (fun step => (step {}).mem .userStr i)
          fun f hf => ?_
        have h16 : f 16 = rx 16 := hf 16 (by omega)
        have hlen : i < (f (17 + (f 16).toNat)).toNat := by
          rw [h16, hf (17 + (rx 16).toNat) (by omega)]
          omega
        rw [hcase f (hf 13 (by omega)), ack_mem,
          readRxPhoneBook_userStr _ _ (by omega),
          receivePhoneBook_userStr _ _ _ hlen, h16]
      next huser =>
        obtain rfl : p = 17 + (rx 16).toNat := by omega
        refine not_determined_byte
          (fun step => UInt8.ofNat
            ((step {}).stores.getD 3 ⟨.userStr, 0, 0⟩).len.toNat)
          fun f hf => ?_
        have h16 : f 16 = rx 16 := hf 16 (by omega)
        rw [hcase f (hf 13 (by omega))]
        change UInt8.ofNat (f (17 + (f 16).toNat)).toNat = _
        rw [h16, UInt8.ofNat_toNat]
    next =>
      obtain rfl : p = 13 := by omega
      have h13 : splice 13 rx (fun i => if i = 13 then 1 else 0) 13 = 1 :=
        splice_of_le (by omega)
      exact not_determined_of_agree agree_splice (by omega)
        (case8401_entry (Or.inl h13))

/-! ## Areas and routes -/

/-- The area that a message with an operation sets; `shown` is a byte of it in
the state afterwards. -/
theorem needs_of_area {F : (ℕ → UInt8) → AppState → AppState} {q : ℕ}
    (hq : 14 ≤ q)
    (hitem : ∀ g : ℕ → UInt8, g 13 ≤ 2 → g 14 = 1 → ¬ Determined F g q)
    (hn : neededArea rx (q + 1) = p + 1) : ¬ Determined F rx p := by
  rw [neededArea] at hn
  split at hn
  next =>
    obtain rfl : p = 13 := by omega
    have h13 : splice 13 rx (fun _ => 1) 13 = 1 := splice_of_le (by omega)
    have h14 : splice 13 rx (fun _ => 1) 14 = 1 := splice_of_le (by omega)
    exact not_determined_of_agree agree_splice (by omega)
      (hitem _ (by rw [h13]; decide) h14)
  next hop =>
    split at hn
    next =>
      obtain rfl : p = 14 := by omega
      have h13 : splice 14 rx (fun _ => 1) 13 = rx 13 :=
        splice_of_lt (by omega)
      have h14 : splice 14 rx (fun _ => 1) 14 = 1 := splice_of_le (by omega)
      rw [← h13] at hop
      exact not_determined_of_agree agree_splice hq
        (hitem _ (not_not.mp hop) h14)
    next hone =>
      obtain rfl : p = q := by omega
      exact hitem rx (not_not.mp hop) (not_not.mp hone)

theorem case8600_needs (hn : neededArea rx 48 = p + 1) :
    ¬ Determined (fun f (s : AppState) => s.case8600 f) rx p := by
  refine needs_of_area (by omega) (fun g hop hone => ?_) hn
  refine not_determined_byte (fun step => (step {}).records.railCycle.keepDur)
    fun f hf => ?_
  have hguard : f 14 = 1 ∧ f 13 ≤ 2 := by
    rw [hf 13 (by omega), hf 14 (by omega)]
    exact ⟨hone, hop⟩
  rw [case8600, if_pos hguard]
  rfl

theorem case8602_needs (hn : neededArea rx 52 = p + 1) :
    ¬ Determined (fun f (s : AppState) => s.case8602 f) rx p := by
  refine needs_of_area (by omega) (fun g hop hone => ?_) hn
  refine not_determined_byte
    (fun step => (step {}).records.railRectangle.keepDur) fun f hf => ?_
  have hguard : f 14 = 1 ∧ f 13 ≤ 2 := by
    rw [hf 13 (by omega), hf 14 (by omega)]
    exact ⟨hone, hop⟩
  rw [case8602, if_pos hguard]
  rfl

theorem case8604_needs (hn : neededArea rx 60 = p + 1) :
    ¬ Determined (fun f (s : AppState) => s.case8604 f) rx p := by
  refine needs_of_area (by omega) (fun g hop hone => ?_) hn
  refine not_determined_be32
    (fun step => (step {}).records.railPolygen.acme3Longitude) fun f hf => ?_
  have hguard : f 14 = 1 ∧ f 13 ≤ 2 := by
    rw [hf 13 (by omega), hf 14 (by omega)]
    exact ⟨hone, hop⟩
  rw [case8604, if_pos hguard]
  rfl

/-- The number a delete message ends with is left in the state.  A byte of it
with nothing set in front matters. -/
theorem needs_of_last {F : (ℕ → UInt8) → AppState → AppState} {max : ℕ}
    (hmax : 2 ≤ max) (id : AppState → ℕ)
    (hlast : ∀ g : ℕ → UInt8, g 13 ≠ 0 →
      id (F g {}) = areaNumber max (be32 g (13 + (g 13).toNat)))
    (hcount : rx 13 ≠ 0) (hlo : 13 + (rx 13).toNat ≤ p)
    (hhi : p ≤ 16 + (rx 13).toNat)
    (hzero : ∀ i < p, 13 + (rx 13).toNat ≤ i → rx i = 0) :
    ¬ Determined F rx p := by
  have hk : (rx 13).toNat ≠ 0 := fun h0 => hcount (UInt8.toNat_inj.mp h0)
  let rest (b : UInt8) (i : ℕ) : UInt8 :=
    if i = 16 + (rx 13).toNat then b else 0
  have h13 (b : UInt8) : splice p rx (rest b) 13 = rx 13 :=
    splice_of_lt (by omega)
  have hfront (b : UInt8) (i : ℕ) (hi : i < 3) :
      splice p rx (rest b) (13 + (rx 13).toNat + i) = 0 := by
    by_cases hlt : 13 + (rx 13).toNat + i < p
    · rw [splice_of_lt hlt]
      exact hzero _ hlt (by omega)
    · rw [splice_of_le (by omega)]
      exact if_neg (by omega)
  have hlow (b : UInt8) :
      splice p rx (rest b) (13 + (rx 13).toNat + 3) = b := by
    rw [splice_of_le (by omega)]
    exact if_pos (by omega)
  have hid (b : UInt8) : id (F (splice p rx (rest b)) {}) =
      areaNumber max b.toNat := by
    have h0 := hfront b 0 (by decide)
    rw [Nat.add_zero] at h0
    rw [hlast _ (by rwa [h13]), h13, be32, h0, hfront b 1 (by decide),
      hfront b 2 (by decide), hlow]
    simp
  refine not_determined_splice (fun step => id (step {})) (rest 2) (rest 0) ?_
  rw [hid, hid]
  change (if 2 > max ∨ 2 = 0 then 1 else 2) ≠
    (if 0 > max ∨ 0 = 0 then 1 else 0)
  rw [if_neg (by omega), if_pos (Or.inr rfl)]
  decide

theorem needs_of_delete {F : (ℕ → UInt8) → AppState → AppState} {max : ℕ}
    (hmax : 2 ≤ max) (id : AppState → ℕ)
    (hlast : ∀ g : ℕ → UInt8, g 13 ≠ 0 →
      id (F g {}) = areaNumber max (be32 g (13 + (g 13).toNat)))
    (hn : neededDelete rx = p + 1) : ¬ Determined F rx p := by
  by_cases hcount : rx 13 = 0
  · have hp : p = 13 := by
      rw [neededDelete, hcount] at hn
      exact (Nat.succ.inj hn).symm
    subst hp
    have h13 : splice 13 rx (fun _ => 1) 13 = 1 := splice_of_le (by omega)
    have hlen : (splice 13 rx (fun _ => 1) 13).toNat = 1 := by
      rw [h13]
      rfl
    refine not_determined_of_agree agree_splice (Nat.le_succ 13)
      (needs_of_last hmax id hlast (by rw [h13]; decide) ?_ ?_ ?_)
    · rw [hlen]
    · rw [hlen]
      decide
    · intro i hi hge
      rw [hlen] at hge
      omega
  · have hk : (rx 13).toNat ≠ 0 := fun h0 => hcount (UInt8.toNat_inj.mp h0)
    rw [neededDelete, if_neg hk] at hn
    split at hn
    next =>
      exact needs_of_last hmax id hlast hcount (by omega) (by omega)
        fun i hi hge => by omega
    next h0 =>
      have h0 := not_not.mp h0
      split at hn
      next =>
        refine needs_of_last hmax id hlast hcount (by omega) (by omega)
          fun i hi hge => ?_
        obtain rfl : i = 13 + (rx 13).toNat := by omega
        exact h0
      next h1 =>
        have h1 := not_not.mp h1
        have hzero (i : ℕ) (hi : i < 15 + (rx 13).toNat)
            (hge : 13 + (rx 13).toNat ≤ i) : rx i = 0 := by
          obtain rfl | rfl : i = 13 + (rx 13).toNat ∨
            i = 14 + (rx 13).toNat := by omega
          · exact h0
          · exact h1
        split at hn
        next =>
          exact needs_of_last hmax id hlast hcount (by omega) (by omega)
            fun i hi hge => hzero i (by omega) hge
        next h2 =>
          have h2 := not_not.mp h2
          refine needs_of_last hmax id hlast hcount (by omega) (by omega)
            fun i hi hge => ?_
          by_cases hi2 : i = 15 + (rx 13).toNat
          · rw [hi2]
            exact h2
          · exact hzero i (by omega) hge

/-- The state behind a delete loop is that of the last number. -/
theorem deleteLoop_last (delete : ℕ → AppState → AppState) (f : ℕ → UInt8)
    (hne : f 13 ≠ 0) (s : AppState) : ∃ t,
      deleteLoop delete f s = delete (be32 f (13 + (f 13).toNat)) t := by
  obtain ⟨k, hk⟩ : ∃ k, (f 13).toNat = k + 1 :=
    Nat.exists_eq_succ_of_ne_zero fun h0 => hne (UInt8.toNat_inj.mp h0)
  rw [deleteLoop, hk, List.range_succ, List.foldl_append, List.foldl_cons,
    List.foldl_nil]
  refine ⟨(List.range k).foldl (fun s i => delete (be32 f (14 + i)) s) s, ?_⟩
  rw [show 13 + (k + 1) = 14 + k by omega]

/-- A message whose delete loop stores the number it comes to. -/
theorem needs_of_deleteLoop {F : (ℕ → UInt8) → AppState → AppState} {max : ℕ}
    (hmax : 2 ≤ max) (id : AppState → ℕ) (delete : ℕ → AppState → AppState)
    (s₀ : AppState)
    (hcase : ∀ g : ℕ → UInt8, g 13 ≠ 0 → F g {} = (deleteLoop delete g s₀).ack)
    (hstored : ∀ n t, id (delete n t).ack = areaNumber max n)
    (hn : neededDelete rx = p + 1) : ¬ Determined F rx p := by
  refine needs_of_delete hmax id (fun g hne => ?_) hn
  obtain ⟨t, ht⟩ := deleteLoop_last delete g hne s₀
  rw [hcase g hne, ht, hstored]

theorem case8601_needs (hn : neededDelete rx = p + 1) :
    ¬ Determined (fun f (s : AppState) => s.case8601 f) rx p := by
  refine needs_of_deleteLoop (by decide : 2 ≤ 8)
    (fun s => s.records.railCycle.areaId)
    (fun id s => writeRailCycle { s with
      records.railCycle.areaId := areaNumber 8 id
      records.railCycle.effectiveFlag := 0 })
    (clearRailCycle {}) (fun g hne => ?_) (fun n t => ?_) hn
  · rw [case8601, if_neg hne]
  · rw [writeRailCycle, recordNumWrite]
    rfl

theorem case8603_needs (hn : neededDelete rx = p + 1) :
    ¬ Determined (fun f (s : AppState) => s.case8603 f) rx p := by
  refine needs_of_deleteLoop (by decide : 2 ≤ 8)
    (fun s => s.records.railRectangle.areaId)
    (fun id s => writeRailRectangle { s with
      records.railRectangle.areaId := areaNumber 8 id
      records.railRectangle.effectiveFlag := 0 })
    (clearRailRectangle {}) (fun g hne => ?_) (fun n t => ?_) hn
  · rw [case8603, if_neg hne]
  · rw [writeRailRectangle, recordNumWrite]
    rfl

theorem case8605_needs (hn : neededDelete rx = p + 1) :
    ¬ Determined (fun f (s : AppState) => s.case8605 f) rx p := by
  refine needs_of_deleteLoop (by decide : 2 ≤ 8)
    (fun s => s.records.railPolygen.areaId)
    (fun id s => writeRailPolygen { s with
      records.railPolygen.areaId := areaNumber 8 id
      records.railPolygen.effectiveFlag := 0 })
    (clearRailPolygen {}) (fun g hne => ?_) (fun n t => ?_) hn
  · rw [case8605, if_neg hne]
  · rw [writeRailPolygen, recordNumWrite]
    rfl

theorem case8607_needs (hn : neededDelete rx = p + 1) :
    ¬ Determined (fun f (s : AppState) => s.case8607 f) rx p := by
  refine needs_of_deleteLoop (by decide : 2 ≤ 16)
    (fun s => s.records.routeObj.routeId)
    (fun id s => writeRoute { s with
      records.routeObj.routeId := areaNumber 16 id
      records.routeObj.effectiveFlag := 0 })
    (clearRoute {}) (fun g hne => ?_) (fun n t => ?_) hn
  · rw [case8607, if_neg hne]
  · rw [writeRoute, recordNumWrite]
    rfl

theorem pointEnd_congr {f : ℕ → UInt8} {n r : ℕ} (hf : Agree n f rx)
    (hn : pointEnd rx r ≤ n) : pointEnd f r = pointEnd rx r := by
  have h18 : r + 18 ≤ n := (le_pointEnd r).trans hn
  rw [pointEnd, pointEnd, hf (r + 17) (by omega)]

theorem pointsEnd_congr {f : ℕ → UInt8} {n : ℕ} (hf : Agree n f rx) (k r : ℕ)
    (hn : pointsEnd rx k r ≤ n) : pointsEnd f k r = pointsEnd rx k r := by
  induction k generalizing r with
  | zero => rfl
  | succ k ih =>
      rw [pointsEnd] at hn
      have hpoint : pointEnd rx r ≤ n := (le_pointsEnd k _).trans hn
      rw [pointsEnd, pointsEnd, pointEnd_congr hf hpoint, ih _ hn]

theorem pointsEnd_succ (k r : ℕ) :
    pointsEnd rx (k + 1) r = pointEnd rx (pointsEnd rx k r) := by
  induction k generalizing r with
  | zero => rfl
  | succ k ih =>
      rw [pointsEnd, ih]
      rfl

/-- The last turning point of a loop in the state. -/
theorem routeLoop_last (f : ℕ → UInt8) (k i r : ℕ) (s : AppState) : ∃ old,
    (routeLoop f (k + 1) i r s).records.routeObj.routePoints (i + k) =
      (readRoutePoint f (pointsEnd f k r) old).1 := by
  induction k generalizing i r s with
  | zero => exact ⟨_, Function.update_self i _ _⟩
  | succ k ih =>
      obtain ⟨old, hold⟩ := ih (i + 1) (pointEnd f r) { s with
        records.routeObj.routePoints :=
          Function.update s.records.routeObj.routePoints i
            (readRoutePoint f r (s.records.routeObj.routePoints i)).1
        stores := s.stores ++ [⟨.routePoints, i, 1⟩] }
      refine ⟨old, ?_⟩
      rw [routeLoop]
      dsimp only
      rw [readRoutePoint_end, show i + (k + 1) = i + 1 + k by omega]
      exact hold

theorem case8606_needs (hn : needed8606 rx = p + 1) :
    ¬ Determined (fun f (s : AppState) => s.case8606 f) rx p := by
  rw [needed8606] at hn
  split at hn
  next hnum =>
    obtain rfl : p = 32 := by omega
    have h31 : (rx 31).toNat = 0 := by
      rw [be16] at hnum
      omega
    have hword (b : UInt8) :
        be16 (splice 32 rx fun _ => b) 31 = b.toNat := by
      rw [be16, splice_of_lt (by omega), splice_of_le (by omega), h31]
      omega
    have hshown (b : UInt8) (hb : b.toNat < 3) :
        (case8606 (splice 32 rx fun _ => b) {}).records.routeObj.pointsNum =
          b.toNat := by
      rw [case8606]
      dsimp only
      rw [hword, if_pos hb]
      rfl
    refine not_determined_splice
      (fun step => (step {}).records.routeObj.pointsNum) (fun _ => 0)
      (fun _ => 1) ?_
    rw [hshown 0 (by decide), hshown 1 (by decide)]
    decide
  next hnum =>
    rw [pointsEnd_succ] at hn
    have h33 : 33 ≤ pointsEnd rx 5 33 := le_pointsEnd 5 33
    generalize hr : pointsEnd rx 5 33 = r at hn h33
    have h18 : r + 18 ≤ pointEnd rx r := le_pointEnd r
    have hpoint (f : ℕ → UInt8) (hf : Agree p f rx) : ∃ old,
        (case8606 f {}).records.routeObj.routePoints 5 =
          (readRoutePoint f r old).1 := by
      have hr' : pointsEnd f 5 33 = r :=
        (pointsEnd_congr hf 5 33 (by omega)).trans hr
      rw [case8606]
      dsimp only
      rw [hf.be16 (by omega), if_neg hnum, ← hr']
      simp only [ack, writeRoute, recordNumWrite]
      exact routeLoop_last f 5 0 33 _
    rw [pointEnd] at hn
    split at hn
    next =>
      obtain rfl : p = r + 17 := by omega
      refine not_determined_byte
        (fun step => ((step {}).records.routeObj.routePoints 5).atribute)
        fun f hf => ?_
      obtain ⟨old, hold⟩ := hpoint f hf
      rw [hold, readRoutePoint]
      dsimp only
      split_ifs <;> rfl
    next h0 =>
      split at hn
      next h1 =>
        obtain rfl : p = r + 18 + 1 := by omega
        refine not_determined_be16
          (fun step => ((step {}).records.routeObj.routePoints 5).maxSpd)
          fun f hf => ?_
        obtain ⟨old, hold⟩ := hpoint f hf
        have h17 : f (r + 17) = 1 := (hf _ (by omega)).trans h1
        rw [hold, readRoutePoint]
        dsimp only
        rw [h17]
        rfl
      next h1 =>
        obtain rfl : p = r + 24 + 1 := by omega
        refine not_determined_byte
          (fun step => ((step {}).records.routeObj.routePoints 5).keepDur)
          fun f hf => ?_
        obtain ⟨old, hold⟩ := hpoint f hf
        have h17 : f (r + 17) = rx (r + 17) := hf _ (by omega)
        rw [hold, readRoutePoint]
        dsimp only
        rw [h17, if_neg h0, if_neg h1]
        exact ofNat_be16 f (r + 24)

/-! ## The recorder, cameras, media and transparent data -/

theorem case8700_needs :
    ¬ Determined (fun f (s : AppState) => s.case8700 f) rx 13 :=
  not_determined_byte (fun step => (step {}).media.recodeCmd) fun _ _ => rfl

theorem case8701_needs (hn : needed8701 rx = p + 1) :
    ¬ Determined (fun f (s : AppState) => s.case8701 f) rx p := by
  rw [needed8701] at hn
  split at hn
  next h81 =>
    obtain rfl : p = 34 := by omega
    refine not_determined_byte (fun step => (step {}).mem .driverCardId 17)
      fun f hf => ?_
    rw [case8701, hf 13 (by omega), h81]
    simp only [centerSetSubService8701H, saveJT808_mem]
    exact memcpy_mem _ .driverCardId (fun i => f (14 + i)) 3
      (by decide : 17 < sizeT 18)
  next =>
    split at hn
    next h82 =>
      obtain rfl : p = 54 := by omega
      refine not_determined_byte (fun step => (step {}).mem .vechType 11)
        fun f hf => ?_
      rw [case8701, hf 13 (by omega), h82]
      simp only [centerSetSubService8701H, saveJT808_mem]
      exact memcpy_mem _ .vechType (fun i => f (14 + i)) 29
        (by decide : 11 < sizeT 12)
    next =>
      split at hn
      next hC3 =>
        obtain rfl : p = 16 := by omega
        refine not_determined_byte
          (fun step => UInt8.ofNat (step {}).conf.vechCharacterValue)
          fun f hf => ?_
        rw [case8701, hf 13 (by omega), hC3]
        change UInt8.ofNat ((f 14).toNat * 65536 +
          ((f 15).toNat * 256 + (f 16).toNat)) = f 16
        apply UInt8.toNat_inj.mp
        have hlow := (f 16).toNat_lt
        rw [UInt8.toNat_ofNat']
        omega
      next =>
        obtain rfl : p = 13 := by omega
        refine not_determined_byte (fun step => (step {}).media.recodeCmd)
          fun f _ => ?_
        rw [case8701, centerSetSubService8701H.eq_def]
        split <;> rfl

theorem case8800_needs (hn : needed8800 rx = p + 1) (hp : 13 ≤ p) :
    ¬ Determined (fun f (s : AppState) => s.case8800 f) rx p := by
  rw [needed8800] at hn
  split at hn
  · omega
  next hlen =>
    by_cases hp17 : p = 17
    · subst hp17
      have hinfo (g : ℕ → UInt8) : infolen (splice 17 rx g) = infolen rx :=
        infolen_agree agree_splice (by omega)
      refine not_determined_splice
        (fun step => (step {}).media.mediaObj.rsdTotal) (fun _ => 1)
        (fun _ => 2) ?_
      simp only [case8800, hinfo, if_neg hlen]
      change (1 : UInt8) ≠ 2
      decide
    · obtain ⟨i, rfl⟩ : ∃ i, p = 18 + i := ⟨p - 18, by omega⟩
      refine not_determined_byte (fun step => (step {}).mem .mediaReSdList i)
        fun f hf => ?_
      have h17 : f 17 = rx 17 := hf 17 (by omega)
      have hin : i < sizeT ((f 17).toNat : ℕ) := by
        rw [sizeT_toNat, h17]
        omega
      have hne : f 17 ≠ 0 := by
        rw [h17]
        intro h0
        rw [h0] at hn
        change 18 = _ at hn
        omega
      rw [case8800, infolen_agree hf (by omega), if_neg hlen, if_pos hne]
      exact memcpy_mem _ .mediaReSdList f 18 hin

theorem case8801_needs :
    ¬ Determined (fun f (s : AppState) => s.case8801 f) rx 18 := by
  refine not_determined_byte (fun step => (step {}).media.cameraOperateState)
    fun f _ => ?_
  simp only [case8801]
  split
  · split <;> rfl
  · rfl

theorem case8802_needs :
    ¬ Determined (fun f (s : AppState) => s.case8802 f) rx 15 := by
  refine not_determined_byte (fun step => (step {}).sdAckFlag.queryEventCode)
    fun f _ => ?_
  rw [case8802]
  split <;> rfl

theorem case8803_needs :
    ¬ Determined (fun f (s : AppState) => s.case8803 f) rx 13 := by
  refine not_determined_splice (fun step => (step {}).media.mp3Sendstate)
    (fun _ => 1) (fun _ => 0) ?_
  change (1 : UInt8) ≠ 0
  decide

theorem case8804_needs (hn : (if rx 13 = 1 then 17 else 14) = p + 1) :
    ¬ Determined (fun f (s : AppState) => s.case8804 f) rx p := by
  split at hn
  next hone =>
    obtain rfl : p = 16 := by omega
    refine not_determined_byte
      (fun step => (step { link.gsmPowerOver := 1
        }).media.vocRec.jt808SaveOrNot) fun f hf => ?_
    rw [case8804, hf 13 (by omega), if_pos hone]
    rfl
  next =>
    obtain rfl : p = 13 := by omega
    refine not_determined_splice
      (fun step => (step { link.gsmPowerOver := 1 }).media.vocRec.running)
      (fun _ => 1) (fun _ => 0) ?_
    change (1 : UInt8) ≠ 0
    decide

theorem case8900_needs (linkNum : ℕ) (hn : needed8900 rx linkNum = p + 1) :
    ¬ Determined (fun f (s : AppState) => s.case8900 linkNum f) rx p := by
  rw [needed8900] at hn
  split at hn
  next hlink =>
    by_cases hp : p = 13
    · subst hp
      refine not_determined_byte
        (fun step => (step {}).texts.dataTransType) fun f _ => ?_
      rw [case8900, if_pos hlink]
      rfl
    · obtain ⟨i, rfl⟩ : ∃ i, p = 14 + i := ⟨p - 14, by omega⟩
      refine not_determined_byte (fun step => (step {}).mem .dataRx i)
        fun f hf => ?_
      have hin : i < sizeT ((infolen f : ℤ) - 1) := by
        rw [infolen_agree hf (by omega)]
        omega
      simp only [case8900, if_pos hlink, ack_mem]
      rw [showText_mem_of_ne _ (by decide)]
      dsimp only
      rw [storeGb, store_mem_of_ne _ (by decide),
        memset_mem_of_ne _ (by decide)]
      exact memcpy_mem _ .dataRx f 14 hin
  next hlink =>
    split at hn
    next h1F =>
      have hcase (f : ℕ → UInt8) (hf : f 13 = rx 13) (s : AppState) :
          s.case8900 linkNum f = nullpro8900H (fun i => f (14 + i)) s := by
        rw [case8900, if_neg hlink, hf, if_pos h1F]
      split at hn
      next h93 =>
        obtain rfl : p = 32 + 1 := by omega
        refine not_determined_be16 (fun step => (step {}).isp.totalPacknum)
          fun f hf => ?_
        rw [hcase f (hf 13 (by omega)), nullpro8900H.eq_def,
          hf 29 (by omega), h93]
        rfl
      next =>
        obtain rfl : p = 29 := by omega
        have h13 (g : ℕ → UInt8) : splice 29 rx g 13 = rx 13 :=
          splice_of_lt (by omega)
        refine not_determined_splice (fun step => (step {}).isp.ack)
          (fun _ => 0x91) (fun _ => 0) ?_
        rw [hcase _ (h13 _), hcase _ (h13 _)]
        change (1 : UInt8) ≠ 0
        decide
    next =>
      obtain rfl : p = 13 := by omega
      refine not_determined_splice (fun step => (step {}).isp.ack)
        (fun i => if i = 13 then 0x1F else 0x91) (fun _ => 0) ?_
      simp only [case8900, if_neg hlink]
      change (1 : UInt8) ≠ 0
      decide

/-! ## Parameter lists -/

theorem loopCalls_length (sub : SubService) (f : ℕ → UInt8) (n c : ℕ) :
    (loopCalls sub f n c).length = n := by
  induction n generalizing c with
  | zero => rfl
  | succ n ih => rw [loopCalls, List.length_cons, ih]

/-- A handler that serves the items of a list; `hloop` names what it leaves of
the loop. -/
theorem needs_of_list {F : (ℕ → UInt8) → AppState → AppState}
    (sub : SubService)
    (hloop : ∀ (f : ℕ → UInt8) (s : AppState),
      (F f s).serviceCalls =
          (parameterLoop sub f (f 13).toNat 14 s).serviceCalls ∧
        (sub = .subFF03H →
          (F f s).calls = (parameterLoop sub f (f 13).toNat 14 s).calls ∧
          (F f s).stores = (parameterLoop sub f (f 13).toNat 14 s).stores ∧
          (F f s).bdExt.can1Duration =
            (parameterLoop sub f (f 13).toNat 14 s).bdExt.can1Duration))
    (hn : listReach sub rx (rx 13).toNat 14 = p + 1) :
    ¬ Determined F rx p := by
  have hcalls (f : ℕ → UInt8) : (F f {}).serviceCalls =
      loopCalls sub f (f 13).toNat 14 := by
    rw [(hloop f {}).1, parameterLoop_serviceCalls, List.nil_append]
  have h14 : 14 ≤ listReach sub rx (rx 13).toNat 14 := le_listReach _ _ _
  by_cases hp : p = 13
  · subst hp
    refine not_determined_splice
      (fun step => (step {}).serviceCalls.length) (fun _ => 0) (fun _ => 1) ?_
    rw [hcalls, hcalls, loopCalls_length, loopCalls_length]
    change (0 : ℕ) ≠ 1
    decide
  · intro hdet
    have hagree : Agree p (alter rx p) rx := agree_update (Nat.le_refl p) _ _
    have hstep (s : AppState) : F (alter rx p) s = F rx s :=
      congrFun (hdet _ hagree) s
    have h13 : alter rx p 13 = rx 13 := hagree 13 (by omega)
    have hcan1 (hsub : sub = .subFF03H) :
        (parameterLoop .subFF03H (alter rx p) (rx 13).toNat 14
          ({} : AppState)).bdExt.can1Duration =
        (parameterLoop .subFF03H rx (rx 13).toNat 14
          ({} : AppState)).bdExt.can1Duration := by
      subst hsub
      have hsame := congrArg (fun s : AppState => s.bdExt.can1Duration)
        (hstep {})
      rw [((hloop _ _).2 rfl).2.2, ((hloop _ _).2 rfl).2.2, h13] at hsame
      exact hsame
    refine listReach_ne (by omega) (rx 13).toNat 14 ?_ ?_ ?_ hcan1 hn
    · have hsame := congrArg AppState.serviceCalls (hstep {})
      rwa [hcalls, hcalls, h13] at hsame
    · intro hsub
      subst hsub
      have hsame := congrArg AppState.calls (hstep {})
      rw [((hloop _ _).2 rfl).1, ((hloop _ _).2 rfl).1, h13,
        parameterLoop_calls, parameterLoop_calls] at hsame
      exact hsame
    · intro hsub
      subst hsub
      have hsame := congrArg AppState.stores (hstep {})
      rw [((hloop _ _).2 rfl).2.1, ((hloop _ _).2 rfl).2.1, h13,
        parameterLoop_stores, parameterLoop_stores] at hsame
      exact hsame

theorem case8103_needs
    (hn : listReach .sub8103H rx (rx 13).toNat 14 = p + 1) :
    ¬ Determined (fun f (s : AppState) => s.case8103 f) rx p := by
  refine needs_of_list .sub8103H (fun f s => ⟨?_, fun h => nomatch h⟩) hn
  simp only [case8103]
  split
  · rfl
  · split <;> rfl

theorem caseFF01_needs
    (hn : listReach .subFF01H rx (rx 13).toNat 14 = p + 1) :
    ¬ Determined (fun f (s : AppState) => s.caseFF01 f) rx p :=
  needs_of_list .subFF01H (fun _ _ => ⟨rfl, fun h => nomatch h⟩) hn

theorem caseFF03_needs
    (hn : listReach .subFF03H rx (rx 13).toNat 14 = p + 1) :
    ¬ Determined (fun f (s : AppState) => s.caseFF03 f) rx p :=
  needs_of_list .subFF03H (fun _ _ => ⟨rfl, fun _ => ⟨rfl, rfl, rfl⟩⟩) hn

/-! ## The command switch -/

/-- The last of the bytes needed matters. -/
theorem commandSwitch_needs (cmdId linkNum : ℕ)
    (hn : bytesNeeded rx linkNum cmdId = p + 1) (hp : 13 ≤ p) :
    ¬ Determined (fun f (s : AppState) => s.commandSwitch cmdId linkNum f)
      rx p := by
  have hlit {k : ℕ} (h : k + 1 = p + 1) : k = p := Nat.succ.inj h
  rw [bytesNeeded.eq_def] at hn
  split at hn
  · exact case8001_needs hn
  · exact case8100_needs hn
  · exact case8103_needs hn
  · exact hlit hn ▸ case8105_needs
  · exact hlit hn ▸ case8202_needs
  · exact case8300_needs hn
  · exact case8301_needs hn
  · exact case8302_needs hn
  · exact case8303_needs hn
  · exact case8304_needs hn
  · exact case8400_needs hn hp
  · exact case8401_needs hn
  · exact hlit hn ▸ case8500_needs
  · exact case8600_needs hn
  · exact case8601_needs hn
  · exact case8602_needs hn
  · exact case8603_needs hn
  · exact case8604_needs hn
  · exact case8605_needs hn
  · exact case8606_needs hn
  · exact case8607_needs hn
  · exact hlit hn ▸ case8700_needs
  · exact case8701_needs hn
  · exact case8800_needs hn hp
  · exact hlit hn ▸ case8801_needs
  · exact hlit hn ▸ case8802_needs
  · exact hlit hn ▸ case8803_needs
  · exact case8804_needs hn
  · exact case8900_needs linkNum hn
  · exact caseFF01_needs hn
  · exact caseFF03_needs hn
  · omega

/-- The header is always needed. -/
theorem le_bytesNeeded (cmdId linkNum : ℕ) :
    13 ≤ bytesNeeded rx linkNum cmdId := by
  have hitem (types : UInt8) (item : ℕ) (h : 13 ≤ item) :
      13 ≤ neededItem rx types item := by
    rw [neededItem]
    split_ifs <;> omega
  have harea (area : ℕ) (h : 13 ≤ area) : 13 ≤ neededArea rx area := by
    rw [neededArea]
    split_ifs <;> omega
  have hdelete : 13 ≤ neededDelete rx := Nat.le_of_succ_le le_neededDelete
  have hlist (sub : SubService) : 13 ≤ listReach sub rx (rx 13).toNat 14 :=
    Nat.le_of_succ_le (le_listReach _ _ _)
  have hroute : 33 ≤ pointsEnd rx 6 33 := le_pointsEnd 6 33
  rw [bytesNeeded.eq_def]
  split
  · rw [needed8001]
    split_ifs <;> omega
  · rw [needed8100]
    split_ifs <;> omega
  · exact hlist _
  · omega
  · omega
  · rw [needed8300]
    split_ifs <;> omega
  · exact hitem _ _ (by omega)
  · rw [needed8302]
    omega
  · exact hitem _ _ (by omega)
  · omega
  · rw [needed8400]
    split_ifs <;> omega
  · rw [needed8401]
    split_ifs <;> omega
  · omega
  · exact harea _ (by omega)
  · exact hdelete
  · exact harea _ (by omega)
  · exact hdelete
  · exact harea _ (by omega)
  · exact hdelete
  · rw [needed8606]
    split_ifs <;> omega
  · exact hdelete
  · omega
  · rw [needed8701]
    split_ifs <;> omega
  · rw [needed8800]
    split_ifs <;> omega
  · omega
  · omega
  · omega
  · split_ifs <;> omega
  · rw [needed8900]
    split_ifs <;> omega
  · exact hlist _
  · exact hlist _
  · omega

end AppState

/-! ## Messages handled by their own bytes -/

/-- `TCP_RX_Process` behind the test of the checksum. -/
def processDecoded (linkNum : ℕ) (r : RxState) (s : AppState) :
    RxState × AppState :=
  (r.noteHead, s.commandSwitch r.noteHead.centreCmdID linkNum r.hexRx)

theorem tcpRxProcess_eq_processDecoded {r : RxState}
    (haccept : (tcpRxCheck r).2 = true) (linkNum : ℕ) (s : AppState) :
    tcpRxProcess linkNum r s =
      processDecoded linkNum (protocol808Decode r) s := by
  rw [tcpRxProcess_of_accepted haccept, tcpRxCheck_fst haccept]
  rfl

/-- The same command, serial number and state of the application. -/
def SameResult (x y : RxState × AppState) : Prop :=
  x.1.centreCmdID = y.1.centreCmdID ∧
    x.1.centreFloatID = y.1.centreFloatID ∧ x.2 = y.2

/-- Whatever the buffer holds behind the bytes decoded, and from every state,
the message has the result it has. -/
def FrameLocal (linkNum : ℕ) (r : RxState) : Prop :=
  ∀ rx', Agree (protocol808Decode r).decodeHexLen rx'
      (protocol808Decode r).hexRx →
    ∀ s, SameResult
      (processDecoded linkNum { protocol808Decode r with hexRx := rx' } s)
      (tcpRxProcess linkNum r s)

section Decoded

variable {linkNum : ℕ} {d : RxState}

/-- The bytes needed are enough. -/
theorem processDecoded_congr
    (hlen : bytesNeeded d.hexRx linkNum d.noteHead.centreCmdID ≤
      d.decodeHexLen) {rx' : ℕ → UInt8}
    (hagree : Agree d.decodeHexLen rx' d.hexRx) (s : AppState) :
    SameResult (processDecoded linkNum { d with hexRx := rx' } s)
      (processDecoded linkNum d s) := by
  have h13 : 13 ≤ d.decodeHexLen :=
    (AppState.le_bytesNeeded d.noteHead.centreCmdID linkNum).trans hlen
  have hcmd : ({ d with hexRx := rx' } : RxState).noteHead.centreCmdID =
      d.noteHead.centreCmdID := hagree.be16 (by omega : 1 + 2 ≤ _)
  have hserial : ({ d with hexRx := rx' } : RxState).noteHead.centreFloatID =
      d.noteHead.centreFloatID := hagree.be16 (by omega : 11 + 2 ≤ _)
  refine ⟨hcmd, hserial, ?_⟩
  rw [processDecoded, processDecoded, hcmd]
  exact AppState.commandSwitch_congr hagree s _ linkNum h13 hlen

/-- A message with fewer bytes has another result in some buffer. -/
theorem le_decodeHexLen
    (hlocal : ∀ rx', Agree d.decodeHexLen rx' d.hexRx → ∀ s,
      SameResult (processDecoded linkNum { d with hexRx := rx' } s)
        (processDecoded linkNum d s)) :
    bytesNeeded d.hexRx linkNum d.noteHead.centreCmdID ≤ d.decodeHexLen := by
  by_contra hshort
  have hneeded : 13 ≤ bytesNeeded d.hexRx linkNum d.noteHead.centreCmdID :=
    AppState.le_bytesNeeded _ linkNum
  by_cases hhead : 13 ≤ d.decodeHexLen
  · obtain ⟨p, hp⟩ : ∃ p,
        bytesNeeded d.hexRx linkNum d.noteHead.centreCmdID = p + 1 :=
      ⟨_, (Nat.succ_pred_eq_of_pos (by omega)).symm⟩
    have hdet : Determined (fun f (s : AppState) =>
        s.commandSwitch d.noteHead.centreCmdID linkNum f) d.hexRx
          d.decodeHexLen := by
      intro rx' hagree
      funext s
      have hcmd : ({ d with hexRx := rx' } : RxState).noteHead.centreCmdID =
          d.noteHead.centreCmdID := (hlocal rx' hagree s).1
      have hstate := (hlocal rx' hagree s).2.2
      rw [processDecoded, processDecoded, hcmd] at hstate
      exact hstate
    exact AppState.commandSwitch_needs _ linkNum hp (by omega)
      (hdet.mono (by omega))
  · have hagree : Agree d.decodeHexLen (bump d.hexRx 12) d.hexRx :=
      agree_bump (by omega)
    have hserial : be16 (bump d.hexRx (11 + 1)) 11 = be16 d.hexRx 11 :=
      (hlocal _ hagree {}).2.1
    exact be16_bump 11 hserial

end Decoded

/-- Two frames decoded to the same bytes. -/
theorem FrameLocal.same {linkNum : ℕ} {r r' : RxState}
    (h : FrameLocal linkNum r) (haccept : (tcpRxCheck r').2 = true)
    (hagree : Agree (protocol808Decode r).decodeHexLen
      (protocol808Decode r').hexRx (protocol808Decode r).hexRx)
    (s : AppState) :
    SameResult (tcpRxProcess linkNum r' s) (tcpRxProcess linkNum r s) := by
  rw [tcpRxProcess_eq_processDecoded haccept]
  exact h _ hagree s

/-- A message that asks to follow the position, with two bytes of its six. -/
def shortFollow : List UInt8 := message 0x8202 [0, 0]

/-- The time to follow the position is taken from the checksum, the flag and two
bytes behind the frame. -/
theorem shortFollow_not_local :
    (protocol808Decode (received shortFollow 0x41)).decoded =
        (protocol808Decode (received shortFollow 0x42)).decoded ∧
      ¬ FrameLocal 0 (received shortFollow 0x42) := by
  refine ⟨by decide +kernel, fun h => ?_⟩
  have hagree : Agree
      (protocol808Decode (received shortFollow 0x42)).decodeHexLen
      (protocol808Decode (received shortFollow 0x41)).hexRx
      (protocol808Decode (received shortFollow 0x42)).hexRx := by
    unfold Agree
    decide +kernel
  have hsame := (h.same (received_accepted shortFollow 0x41) hagree {}).2.2
  have hduration := congrArg
    (fun s : AppState => s.conf.rtLock.lockKeepDur) hsame
  revert hduration
  decide +kernel

/-- An accepted message is handled by its own bytes alone exactly if it has all
the bytes that its handler needs. -/
theorem frameLocal_iff {r : RxState} (haccept : (tcpRxCheck r).2 = true)
    (linkNum : ℕ) :
    FrameLocal linkNum r ↔
      bytesNeeded (tcpRxCheck r).1.hexRx linkNum
        (tcpRxCheck r).1.centreCmdID ≤ (tcpRxCheck r).1.decodeHexLen := by
  have hresult := tcpRxProcess_eq_processDecoded haccept linkNum
  rw [tcpRxCheck_fst haccept]
  change _ ↔ bytesNeeded (protocol808Decode r).hexRx linkNum
    (protocol808Decode r).noteHead.centreCmdID ≤
      (protocol808Decode r).decodeHexLen
  constructor
  · intro hlocal
    apply le_decodeHexLen
    intro rx' hagree s
    rw [← hresult]
    exact hlocal rx' hagree s
  · intro hlen rx' hagree s
    rw [hresult]
    exact processDecoded_congr hlen hagree s

/-- The whole message to follow the position. -/
theorem frameLocal_iff_follow :
    FrameLocal 0 (received (message 0x8202 [0, 30, 0, 0, 0, 60]) 0) :=
  (frameLocal_iff (received_accepted _ 0) 0).mpr (by decide +kernel)

end VehicleRecorder.Protocol
