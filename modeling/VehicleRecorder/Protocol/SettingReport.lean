import VehicleRecorder.Protocol.ParameterFrame

/-!
# Settings that are reported and kept

A setting is reported by the message `0x0104` and, after a restart, by the next
one.  Most parameters live in a structure that is saved with the setting and
loaded again.  The addresses of the servers and the port are reported from
variables that are loaded from entries of `SysConf_struct`, and of these the
settings store some only.
-/

namespace VehicleRecorder.Protocol

open Bytes Footprint

/-! ## The reply `0x0104` -/

/-- A number as `%u` prints it. -/
def decimal (n : ℕ) : List UInt8 :=
  (toString n).toList.map fun c => UInt8.ofNat c.toNat

/-- A character as a byte. -/
def charByte (c : Char) : UInt8 := UInt8.ofNat c.toNat

theorem decimal_eq (n : ℕ) : decimal n = (Nat.toDigits 10 n).map charByte := by
  rw [decimal, ← Nat.toList_repr]
  rfl

theorem toNat_of_isDigit {c : Char} (h : c.isDigit = true) :
    0x30 ≤ c.toNat ∧ c.toNat ≤ 0x39 := by
  rw [Char.isDigit, Bool.and_eq_true, decide_eq_true_eq, decide_eq_true_eq] at h
  exact ⟨h.1, h.2⟩

theorem charByte_toNat {c : Char} (h : c.isDigit = true) :
    (charByte c).toNat = c.toNat := by
  have hc := toNat_of_isDigit h
  rw [charByte, UInt8.toNat_ofNat']
  exact Nat.mod_eq_of_lt (by omega)

theorem isDigit_charByte {c : Char} (h : c.isDigit = true) :
    isDigit (charByte c) = true := by
  have hc := toNat_of_isDigit h
  have hbyte := charByte_toNat h
  rw [isDigit, decide_eq_true_eq, UInt8.le_iff_toNat_le,
    UInt8.le_iff_toNat_le, hbyte]
  exact hc

theorem isDigit_of_mem_decimal {n : ℕ} {c : UInt8} (h : c ∈ decimal n) :
    isDigit c = true := by
  rw [decimal_eq] at h
  obtain ⟨ch, hch, rfl⟩ := List.mem_map.mp h
  exact isDigit_charByte
    (Nat.isDigit_of_mem_toDigits (by decide) (by decide) hch)

theorem decValue_decimal (n : ℕ) : decValue (decimal n) = n := by
  have hfold (cs : List Char) (hcs : ∀ c ∈ cs, c.isDigit = true) (v : ℕ) :
      (cs.map charByte).foldl (fun n d => n * 10 + (d.toNat - 0x30)) v =
        Nat.ofDigitChars 10 cs v := by
    induction cs generalizing v with
    | nil => rfl
    | cons c cs ih =>
        have hc := charByte_toNat (hcs c List.mem_cons_self)
        rw [List.map_cons, List.foldl_cons, Nat.ofDigitChars_cons, hc,
          Nat.mul_comm 10 v]
        exact ih (fun c hc => hcs c (List.mem_cons_of_mem _ hc)) _
  rw [decimal_eq, decValue, hfold _ fun c hc =>
    Nat.isDigit_of_mem_toDigits (by decide) (by decide) hc]
  exact Nat.ofDigitChars_ten_toDigits

theorem decimal_ne_nil (n : ℕ) : decimal n ≠ [] := by
  rw [decimal_eq]
  exact fun h => Nat.toDigits_ne_nil (List.map_eq_nil_iff.mp h)

theorem length_decimal_le {n k : ℕ} (hk : 0 < k) (h : n < 10 ^ k) :
    (decimal n).length ≤ k := by
  rw [decimal_eq, List.length_map]
  exact (Nat.length_toDigits_le_iff (by decide) hk).mpr h

theorem notMem_decimal {n : ℕ} {c : UInt8} (hc : isDigit c = false) :
    c ∉ decimal n := by
  intro h
  rw [isDigit_of_mem_decimal h] at hc
  exact Bool.noConfusion hc

/-- `IP_Str`. -/
def ipStr (ip : List UInt8) : List UInt8 :=
  [0x2e].intercalate
    ((List.range 4).map fun k => decimal (ip.getD k 0).toNat)

/-- A parameter of the reply. -/
structure Pram where
  id : ℕ
  content : List UInt8

/-- The parameter in the reply. -/
def Pram.bytes (p : Pram) : List UInt8 :=
  beBytes4 p.id ++ UInt8.ofNat p.content.length :: p.content

namespace AppState

/-- The list of `Stuff_SettingPram_0104H`.  The name of the main server goes
through `reg_str`, which has room for 30 bytes. -/
def settingPrams (s : AppState) (deviceNumberId : List UInt8) : List Pram :=
  [⟨0x0083, cString (s.bytes .vechNum)⟩,
    ⟨0x0013, cString (s.bytes .domainNameStr)⟩,
    ⟨0x0018, [0, 0, UInt8.ofNat (s.link.remotePortMain / 256),
      UInt8.ofNat s.link.remotePortMain]⟩,
    ⟨0x0010, cString (s.bytes .apnString)⟩,
    ⟨0x0017, ipStr s.link.remoteIpAux⟩,
    ⟨0x0029, beBytes4 s.conf.duration.defaultDur⟩,
    ⟨0x0040, cString (s.bytes .listenNum)⟩,
    ⟨0x0055, beBytes4 s.conf.speedWarnMax⟩,
    ⟨0x0057, beBytes4 s.tiredConf.tiredDoor.drvKeepingSec⟩,
    ⟨0x0059, beBytes4 s.tiredConf.tiredDoor.minSleepSec⟩,
    ⟨0xF000, deviceNumberId⟩]

/-- The body of `Stuff_SettingPram_0104H`. -/
def stuffSettingPram0104H (s : AppState) (centreFloatId : ℕ)
    (deviceNumberId : List UInt8) : List UInt8 :=
  [UInt8.ofNat (centreFloatId / 256), UInt8.ofNat centreFloatId, 11] ++
    (s.settingPrams deviceNumberId).flatMap Pram.bytes

/-- The content the reply has for a parameter. -/
def reported (s : AppState) (deviceNumberId : List UInt8) (id : ℕ) :
    Option (List UInt8) :=
  ((s.settingPrams deviceNumberId).find? fun p => p.id = id).map Pram.content

/-- What is reported for a parameter is an item of the reply. -/
theorem reported_infix {s : AppState} {deviceNumberId : List UInt8} {id : ℕ}
    {content : List UInt8}
    (h : s.reported deviceNumberId id = some content) (centreFloatId : ℕ) :
    Pram.bytes ⟨id, content⟩ <:+:
      s.stuffSettingPram0104H centreFloatId deviceNumberId := by
  obtain ⟨p, hp, rfl⟩ := Option.map_eq_some_iff.mp h
  have hfound := List.find?_some hp
  have hid : p.id = id := of_decide_eq_true hfound
  have hmem := List.mem_of_find?_eq_some hp
  subst hid
  have hitem : p.bytes <:+:
      (s.settingPrams deviceNumberId).flatMap Pram.bytes :=
    List.infix_of_mem_flatten (List.mem_map_of_mem hmem)
  exact hitem.trans (List.suffix_append _ _).isInfix

/-! ## The restart -/

/-- The arrays of a structure read from the flash. -/
def loadArrays (s : AppState) (ds : List Arr) (contents : List (List UInt8)) :
    AppState :=
  (ds.zip contents).foldl (fun s p => s.store p.1 p.2 p.2.length) s

/-- `memset(d,0,sizeof(d))` and `memcpy(d,src,strlen(src))`. -/
def copyString (s : AppState) (d src : Arr) : AppState :=
  let xs := cString (s.bytes src)
  (s.memset d d.size).store d xs xs.length

/-- `SysConfig_Read`.  The length given to `Api_Config_read` is the result of a
comparison, zero, so that nothing is read here. -/
def sysConfigRead (s : AppState) : AppState :=
  let s := s.copyString .apnString .apnStr
  let s := s.copyString .domainNameStr .dnsr
  let s := s.copyString .domainNameStrAux .dnsrAux
  { s with
    link.remoteIpMain := s.sysConf.ipMain
    link.remotePortMain := s.sysConf.portMain
    link.remoteIpAux := s.sysConf.ipAux
    link.remotePortAux := s.sysConf.portAux }

/-- `TIRED_DoorValue_Read`. -/
def tiredDoorValueRead (s : AppState) : AppState :=
  { s with tiredConf := { s.saved.tired with
      tiredDrive := { s.saved.tired.tiredDrive with
        tgvoicePlay := 0
        voicePlyCounter := 0
        voicePlyTimer := 0 } } }

/-- `SetConfig`, with the version saved that the program has. -/
def setConfig (s : AppState) : AppState :=
  { s.loadArrays SysConf.arrays s.saved.sysArrays with sysConf := s.saved.sys }

/-- `ReadConfig`, as far as the parameters go. -/
def readConfig (s : AppState) : AppState :=
  { s.loadArrays JT808Conf.arrays s.saved.jt808Arrays with
    conf := s.saved.jt808 }.sysConfigRead.tiredDoorValueRead

/-- A restart: only the flash is left of the state before. -/
def restart (ram s : AppState) : AppState :=
  { ram with saved := s.saved }.setConfig.readConfig

end AppState

/-! ## What the restart brings back -/

section Restart

open AppState

theorem length_cString_le (xs : List UInt8) :
    (cString xs).length ≤ xs.length :=
  (List.takeWhile_prefix _).length_le

theorem zero_notMem_cString (xs : List UInt8) : 0 ∉ cString xs := by
  intro h
  have hne := List.all_eq_true.mp List.all_takeWhile 0 h
  simp at hne

/-- The string of an array that is filled up with zeros. -/
theorem cString_append_zeros {xs : List UInt8} (h : 0 ∉ xs) (k : ℕ) :
    cString (xs ++ List.replicate k 0) = xs := by
  have hxs : ∀ b ∈ xs, (b ≠ 0 : Bool) = true := by
    intro b hb
    rw [decide_eq_true_iff]
    rintro rfl
    exact h hb
  rw [cString, List.takeWhile_append_of_pos hxs, List.takeWhile_replicate]
  simp

/-- A whole array stored. -/
theorem bytes_store_whole (s : AppState) {d : Arr} {xs : List UInt8}
    (hlen : xs.length = d.size) (n : ℤ) : (s.store d xs n).bytes d = xs := by
  have hstore : (s.store d xs n).mem d = overlay (s.mem d) xs :=
    Function.update_self d _ s.mem
  rw [AppState.bytes, hstore, ← hlen]
  refine readBytes_of_getElem? fun i hi => ?_
  rw [Nat.zero_add, overlay, List.getElem?_eq_getElem hi, Option.getD_some]

theorem cString_copyString (s : AppState) {d src : Arr}
    (hsize : (cString (s.bytes src)).length ≤ d.size) :
    cString ((s.copyString d src).bytes d) = cString (s.bytes src) := by
  rw [copyString, bytes_store_of_zero (s.memset_zero d) hsize,
    cString_append_zeros (zero_notMem_cString _)]

theorem bytes_copyString_of_ne (s : AppState) {d src d' : Arr} (h : d' ≠ d) :
    (s.copyString d src).bytes d' = s.bytes d' := by
  rw [copyString, bytes_store_of_ne _ h, memset, bytes_store_of_ne _ h]

/-- Loading arrays changes nothing else. -/
theorem loadArrays_keeps {α : Type*} (g : AppState → α)
    (hg : ∀ s d xs n, g (s.store d xs n) = g s) (s : AppState) (ds : List Arr)
    (contents : List (List UInt8)) : g (s.loadArrays ds contents) = g s := by
  rw [loadArrays]
  generalize ds.zip contents = ps
  induction ps generalizing s with
  | nil => rfl
  | cons p ps ih =>
      rw [List.foldl_cons, ih]
      exact hg s p.1 p.2 p.2.length

theorem bytes_loadArrays_of_notMem {d : Arr} {ds : List Arr} (hd : d ∉ ds)
    (contents : List (List UInt8)) (s : AppState) :
    (s.loadArrays ds contents).bytes d = s.bytes d := by
  induction ds generalizing s contents with
  | nil => rfl
  | cons d' ds ih =>
      rw [List.mem_cons, not_or] at hd
      cases contents with
      | nil => rfl
      | cons xs contents =>
          have hstep : s.loadArrays (d' :: ds) (xs :: contents) =
              (s.store d' xs xs.length).loadArrays ds contents := rfl
          rw [hstep, ih hd.2, bytes_store_of_ne s hd.1]

/-- An array that was saved is loaded as it was. -/
theorem bytes_loadArrays (s s' : AppState) {d : Arr} {ds : List Arr}
    (hnodup : ds.Nodup) (hd : d ∈ ds) :
    (s.loadArrays ds (ds.map s'.bytes)).bytes d = s'.bytes d := by
  induction ds generalizing s with
  | nil => exact absurd hd List.not_mem_nil
  | cons d' ds ih =>
      obtain ⟨hnotMem, hnodup⟩ := List.nodup_cons.mp hnodup
      have hstep : s.loadArrays (d' :: ds) ((d' :: ds).map s'.bytes) =
          (s.store d' (s'.bytes d') (s'.bytes d').length).loadArrays ds
            (ds.map s'.bytes) := rfl
      rw [hstep]
      rcases List.mem_cons.mp hd with rfl | hmem
      · rw [bytes_loadArrays_of_notMem hnotMem,
          bytes_store_whole s (s'.bytes_length d)]
      · exact ih _ hnodup hmem

section Loaded

variable (ram s : AppState)

theorem setConfig_saved (s : AppState) : s.setConfig.saved = s.saved :=
  loadArrays_keeps AppState.saved (fun _ _ _ _ => rfl) s _ _

theorem restart_conf : (restart ram s).conf = s.saved.jt808 :=
  congrArg SavedConf.jt808 (setConfig_saved { ram with saved := s.saved })

theorem restart_tiredDoor :
    (restart ram s).tiredConf.tiredDoor = s.saved.tired.tiredDoor := by
  have hsaved := setConfig_saved { ram with saved := s.saved }
  have hload := loadArrays_keeps AppState.saved (fun _ _ _ _ => rfl)
    ({ ram with saved := s.saved } : AppState).setConfig JT808Conf.arrays
    ({ ram with saved := s.saved } : AppState).setConfig.saved.jt808Arrays
  exact congrArg (fun c : SavedConf => c.tired.tiredDoor) (hload.trans hsaved)

/-- `SysConf_struct` as `SysConfig_Read` finds it. -/
theorem restart_sysConf : (restart ram s).sysConf = s.saved.sys :=
  loadArrays_keeps AppState.sysConf (fun _ _ _ _ => rfl)
    ({ ram with saved := s.saved } : AppState).setConfig JT808Conf.arrays
    ({ ram with saved := s.saved } : AppState).setConfig.saved.jt808Arrays

theorem restart_link :
    (restart ram s).link.remotePortMain = s.saved.sys.portMain ∧
      (restart ram s).link.remoteIpAux = s.saved.sys.ipAux :=
  ⟨congrArg SysConf.portMain (restart_sysConf ram s),
    congrArg SysConf.ipAux (restart_sysConf ram s)⟩

variable {s' : AppState}

/-- The arrays that `SysConfig_Read` leaves as they were. -/
theorem bytes_readConfig (b : AppState) {d : Arr} (hapn : d ≠ .apnString)
    (hmain : d ≠ .domainNameStr) (haux : d ≠ .domainNameStrAux) :
    b.readConfig.bytes d =
      (b.loadArrays JT808Conf.arrays b.saved.jt808Arrays).bytes d := by
  have hread (s : AppState) :
      s.sysConfigRead.tiredDoorValueRead.bytes d = s.bytes d := by
    have hcopies : s.sysConfigRead.tiredDoorValueRead.bytes d =
        (((s.copyString .apnString .apnStr).copyString .domainNameStr
          .dnsr).copyString .domainNameStrAux .dnsrAux).bytes d := rfl
    rw [hcopies, bytes_copyString_of_ne _ haux, bytes_copyString_of_ne _ hmain,
      bytes_copyString_of_ne _ hapn]
  rw [readConfig, hread]
  rfl

theorem restart_bytes_jt808
    (h : s.saved.jt808Arrays = JT808Conf.arrays.map s'.bytes) {d : Arr}
    (hd : d ∈ JT808Conf.arrays) : (restart ram s).bytes d = s'.bytes d := by
  have hne {d' : Arr} (hd' : d' ∉ JT808Conf.arrays) : d ≠ d' := by
    rintro rfl
    exact hd' hd
  have hsaved := setConfig_saved { ram with saved := s.saved }
  rw [restart, bytes_readConfig _ (hne (by decide)) (hne (by decide))
    (hne (by decide)), hsaved, h]
  exact bytes_loadArrays _ s' (by decide) hd

/-- The arrays of `SysConf_struct` as `SysConfig_Read` finds them. -/
theorem bytes_setConfig
    (h : s.saved.sysArrays = SysConf.arrays.map s'.bytes) {d : Arr}
    (hd : d ∈ SysConf.arrays) (contents : List (List UInt8)) :
    (({ ram with saved := s.saved } : AppState).setConfig.loadArrays
      JT808Conf.arrays contents).bytes d = s'.bytes d := by
  have hnotMem : d ∉ JT808Conf.arrays := by
    intro hmem
    have hboth : ∀ d ∈ SysConf.arrays, d ∉ JT808Conf.arrays := by decide
    exact hboth d hd hmem
  have hload : ({ ram with saved := s.saved } : AppState).setConfig.bytes d =
      (({ ram with saved := s.saved } : AppState).loadArrays SysConf.arrays
        s.saved.sysArrays).bytes d := rfl
  rw [bytes_loadArrays_of_notMem hnotMem, hload, h]
  exact bytes_loadArrays _ s' (by decide) hd

theorem apnString_sysConfigRead (b : AppState)
    (hlen : (cString (b.bytes .apnStr)).length ≤ 30) :
    cString (b.sysConfigRead.tiredDoorValueRead.bytes .apnString) =
      cString (b.bytes .apnStr) := by
  have hcopies : b.sysConfigRead.tiredDoorValueRead.bytes .apnString =
      (((b.copyString .apnString .apnStr).copyString .domainNameStr
        .dnsr).copyString .domainNameStrAux .dnsrAux).bytes .apnString := rfl
  rw [hcopies, bytes_copyString_of_ne _ (by decide),
    bytes_copyString_of_ne _ (by decide), cString_copyString b hlen]

theorem domainNameStr_sysConfigRead (b : AppState) :
    cString (b.sysConfigRead.tiredDoorValueRead.bytes .domainNameStr) =
      cString (b.bytes .dnsr) := by
  have hcopies : b.sysConfigRead.tiredDoorValueRead.bytes .domainNameStr =
      (((b.copyString .apnString .apnStr).copyString .domainNameStr
        .dnsr).copyString .domainNameStrAux .dnsrAux).bytes .domainNameStr :=
    rfl
  have hsrc : (b.copyString .apnString .apnStr).bytes .dnsr = b.bytes .dnsr :=
    bytes_copyString_of_ne b (by decide)
  have hlen : (cString ((b.copyString .apnString .apnStr).bytes .dnsr)).length ≤
      Arr.domainNameStr.size := by
    have hle := length_cString_le
      ((b.copyString .apnString .apnStr).bytes .dnsr)
    rw [AppState.bytes_length] at hle
    exact hle
  rw [hcopies, bytes_copyString_of_ne _ (by decide), cString_copyString _ hlen,
    hsrc]

/-- `APN_String` is what was saved in `APN_str`, if it is short enough. -/
theorem restart_apnString
    (h : s.saved.sysArrays = SysConf.arrays.map s'.bytes)
    (hlen : (cString (s'.bytes .apnStr)).length ≤ 30) :
    cString ((restart ram s).bytes .apnString) =
      cString (s'.bytes .apnStr) := by
  have hstr := bytes_setConfig ram s h (d := .apnStr) (by decide)
    ({ ram with saved := s.saved } : AppState).setConfig.saved.jt808Arrays
  rw [restart, readConfig]
  rw [← hstr] at hlen ⊢
  exact apnString_sysConfigRead _ hlen

theorem restart_domainNameStr
    (h : s.saved.sysArrays = SysConf.arrays.map s'.bytes) :
    cString ((restart ram s).bytes .domainNameStr) =
      cString (s'.bytes .dnsr) := by
  have hstr := bytes_setConfig ram s h (d := .dnsr) (by decide)
    ({ ram with saved := s.saved } : AppState).setConfig.saved.jt808Arrays
  rw [restart, readConfig, ← hstr]
  exact domainNameStr_sysConfigRead _

end Loaded

end Restart

/-! ## The settings -/

open AppState

/-- The content of the item. -/
def Setting.bytes (k : Setting) : List UInt8 :=
  readBytes k.content 0 k.infolen.toNat

/-- A string without a terminator, of a length in bounds. -/
def Setting.StringOf (k : Setting) (lo hi : UInt8) : Prop :=
  lo ≤ k.infolen ∧ k.infolen < hi ∧ 0 ∉ k.bytes

/-- The settings of the reported parameters with a content that is valid for
them. -/
def Setting.Valid (k : Setting) : Prop :=
  match k.id with
  | 0x0010 => k.StringOf 1 30
  | 0x0013 => k.StringOf 1 50
  | 0x0017 => k.StringOf 1 50
  | 0x0018 => k.infolen = 4
  | 0x0029 => k.infolen = 4
  | 0x0048 => k.StringOf 1 30
  | 0x0055 => k.infolen = 4
  | 0x0057 => k.infolen = 4
  | 0x0059 => k.infolen = 4
  | 0x0083 => k.StringOf 4 13
  | _ => False

/-- The monitor number is reported under another number. -/
def Setting.replyId (k : Setting) : ℕ :=
  if k.id = 0x0048 then 0x0040 else k.id

/-- The setting is reported, and reported again after a restart, and no copy
runs beyond its destination. -/
structure Survives (s : AppState) (k : Setting) : Prop where
  inBounds : ItemInBounds k.id k.infolen k.content s
  now : ∀ deviceNumberId,
    (k.apply s).reported deviceNumberId k.replyId = some k.bytes
  restarted : ∀ ram deviceNumberId,
    (restart ram (k.apply s)).reported deviceNumberId k.replyId = some k.bytes

/-- The item has room, and where the setting does not store what is reported,
it is there already. -/
structure FindsReported (s : AppState) (k : Setting) : Prop where
  room : RoomFor k.id k.infolen
  main : k.id = 0x0013 → 3 < (str2ip (regIn k.infolen k.content)).1 →
    cString (s.bytes .domainNameStr) = k.bytes ∧
      cString (s.bytes .dnsr) = k.bytes
  port : k.id = 0x0018 → s.sysConf.portMain % 65536 = be32 k.content 0
  aux : k.id = 0x0017 →
    ipStr (str2ip (regIn k.infolen k.content)).2 = k.bytes ∧
      ipStr s.sysConf.ipAux = k.bytes

/-! ## The parameters of the reply -/

/-- A parameter is followed through the variable that it is reported from. -/
theorem survives_iff_of_reported {s : AppState} (k : Setting) {n : ℕ}
    (hid : k.replyId = n) {g : AppState → List UInt8}
    (hreply : ∀ (s : AppState) (deviceNumberId : List UInt8),
      s.reported deviceNumberId n = some (g s)) :
    Survives s k ↔ RoomFor k.id k.infolen ∧ g (k.apply s) = k.bytes ∧
      ∀ ram, g (restart ram (k.apply s)) = k.bytes := by
  subst hid
  constructor
  · intro h
    refine ⟨(itemInBounds_iff _ _ _ _).mp h.inBounds, ?_, ?_⟩
    · exact Option.some_inj.mp ((hreply _ []).symm.trans (h.now []))
    · intro ram
      exact Option.some_inj.mp ((hreply _ []).symm.trans (h.restarted ram []))
  · rintro ⟨hroom, hnow, hrestarted⟩
    refine ⟨(itemInBounds_iff _ _ _ _).mpr hroom, ?_, ?_⟩
    · intro deviceNumberId
      rw [hreply, hnow]
    · intro ram deviceNumberId
      rw [hreply, hrestarted ram]

section Words

variable (s : AppState) (content : ℕ → UInt8)

/-- The content of an item of four bytes. -/
theorem Setting.bytes_word (id : ℕ) :
    (⟨id, 4, content⟩ : Setting).bytes = beBytes4 (be32 content 0) :=
  (beBytes4_be32 content 0).symm

/-- A word is kept when the variable it is reported from is saved and loaded. -/
theorem survives_word {s : AppState} {id : ℕ} {content : ℕ → UInt8}
    {g : AppState → ℕ} (hroom : RoomFor id 4)
    (hid : (⟨id, 4, content⟩ : Setting).replyId = id)
    (hreply : ∀ (s : AppState) (deviceNumberId : List UInt8),
      s.reported deviceNumberId id = some (beBytes4 (g s)))
    (hnow : g ((⟨id, 4, content⟩ : Setting).apply s) = be32 content 0)
    (hrestarted : ∀ ram, g (restart ram
      ((⟨id, 4, content⟩ : Setting).apply s)) = be32 content 0) :
    Survives s ⟨id, 4, content⟩ := by
  refine (survives_iff_of_reported _ hid hreply).mpr ⟨hroom, ?_, ?_⟩
  · rw [hnow, Setting.bytes_word]
  · intro ram
    rw [hrestarted, Setting.bytes_word]

theorem survives_defaultDur : Survives s ⟨0x0029, 4, content⟩ := by
  refine survives_word (g := fun s => s.conf.duration.defaultDur)
    trivial rfl (fun _ _ => rfl) rfl fun ram => ?_
  rw [restart_conf]
  rfl

theorem survives_speedWarnMax : Survives s ⟨0x0055, 4, content⟩ := by
  refine survives_word (g := fun s => s.conf.speedWarnMax)
    trivial rfl (fun _ _ => rfl) rfl fun ram => ?_
  rw [restart_conf]
  rfl

theorem survives_drvKeepingSec : Survives s ⟨0x0057, 4, content⟩ := by
  refine survives_word (g := fun s => s.tiredConf.tiredDoor.drvKeepingSec)
    trivial rfl (fun _ _ => rfl) rfl fun ram => ?_
  rw [restart_tiredDoor]
  rfl

theorem survives_minSleepSec : Survives s ⟨0x0059, 4, content⟩ := by
  refine survives_word (g := fun s => s.tiredConf.tiredDoor.minSleepSec)
    trivial rfl (fun _ _ => rfl) rfl fun ram => ?_
  rw [restart_tiredDoor]
  rfl

/-- The port is reported with two bytes. -/
theorem port_bytes (p : ℕ) :
    [0, 0, UInt8.ofNat (p / 256), UInt8.ofNat p] = beBytes4 (p % 65536) := by
  have hhigh : UInt8.ofNat (p / 256) = UInt8.ofNat (p % 65536 / 256) := by
    rw [← UInt8.toNat_inj, UInt8.toNat_ofNat', UInt8.toNat_ofNat']
    omega
  have hlow : UInt8.ofNat p = UInt8.ofNat (p % 65536) := by
    rw [← UInt8.toNat_inj, UInt8.toNat_ofNat', UInt8.toNat_ofNat']
    omega
  have hzero : UInt8.ofNat (p % 65536 / 256 / 256) = 0 := by
    rw [← UInt8.toNat_inj, UInt8.toNat_ofNat']
    have hsmall : p % 65536 / 256 / 256 = 0 := by omega
    rw [hsmall]
    rfl
  have hzero' : UInt8.ofNat (p % 65536 / 256 / 256 / 256) = 0 := by
    rw [← UInt8.toNat_inj, UInt8.toNat_ofNat']
    have hsmall : p % 65536 / 256 / 256 / 256 = 0 := by omega
    rw [hsmall]
    rfl
  rw [hhigh, hlow]
  simp [beBytes4, leBytes, hzero, hzero']

theorem port_bytes_eq_iff {p v : ℕ} (hv : v < 4294967296) :
    [0, 0, UInt8.ofNat (p / 256), UInt8.ofNat p] = beBytes4 v ↔
      p % 65536 = v := by
  rw [port_bytes]
  exact ⟨beBytes4_inj (by omega) hv, fun h => congrArg beBytes4 h⟩

/-- The port that the restart finds is the one of `SysConf_struct`, which the
setting does not store. -/
theorem survives_port_iff :
    Survives s ⟨0x0018, 4, content⟩ ↔
      s.sysConf.portMain % 65536 = be32 content 0 := by
  have hreply (s : AppState) (deviceNumberId : List UInt8) :
      s.reported deviceNumberId 0x0018 =
        some [0, 0, UInt8.ofNat (s.link.remotePortMain / 256),
          UInt8.ofNat s.link.remotePortMain] := rfl
  have hlt := be32_lt content 0
  have hnow : ((⟨0x0018, 4, content⟩ : Setting).apply s).link.remotePortMain =
      be32 content 0 % 65536 := rfl
  have hrestarted (ram : AppState) :
      (restart ram ((⟨0x0018, 4, content⟩ : Setting).apply
        s)).link.remotePortMain = s.sysConf.portMain :=
    (restart_link ram _).1
  rw [survives_iff_of_reported ⟨0x0018, 4, content⟩ rfl hreply]
  simp only [hnow, hrestarted, Setting.bytes_word, port_bytes_eq_iff hlt]
  constructor
  · rintro ⟨-, -, h⟩
    exact h {}
  · intro h
    exact ⟨trivial, by omega, fun _ => h⟩

end Words

section Strings

variable (s : AppState) {infolen : UInt8} {content : ℕ → UInt8}

/-- The string of a memory with a terminator. -/
theorem cString_readBytes {f : ℕ → UInt8} {n size : ℕ} (hn : n < size)
    (hstr : 0 ∉ readBytes f 0 n) (hend : f n = 0) :
    cString (readBytes f 0 size) = readBytes f 0 n := by
  have hpos : ∀ b ∈ readBytes f 0 n, (b ≠ 0 : Bool) = true := by
    intro b hb
    rw [decide_eq_true_iff]
    rintro rfl
    exact hstr hb
  obtain ⟨m, rfl⟩ : ∃ m, size = n + (m + 1) := ⟨size - n - 1, by omega⟩
  rw [readBytes_add, cString, List.takeWhile_append_of_pos hpos, readBytes,
    Nat.zero_add, hend]
  simp

theorem mem_store_self (d : Arr) (xs : List UInt8) (n : ℤ) :
    (s.store d xs n).mem d = overlay (s.mem d) xs :=
  Function.update_self d _ s.mem

theorem mem_store_of_ne {d d' : Arr} (h : d' ≠ d) (xs : List UInt8) (n : ℤ) :
    (s.store d xs n).mem d' = s.mem d' :=
  Function.update_of_ne h _ s.mem

/-- The string of an array that was cleared and filled with it. -/
theorem cString_of_filled {d : Arr} {f : ℕ → UInt8} {n len : ℕ}
    (hmem : s.mem d = overlay (overlay f (List.replicate n 0))
      (readBytes content 0 len))
    (hlen : len < n) (hn : n ≤ d.size) (hstr : 0 ∉ readBytes content 0 len) :
    cString (s.bytes d) = readBytes content 0 len := by
  have hcontent : readBytes (s.mem d) 0 len = readBytes content 0 len := by
    apply readBytes_congr
    intro i _ hi
    rw [hmem, overlay, getElem?_readBytes, if_pos (by omega), Option.getD_some,
      Nat.zero_add]
  have hend : s.mem d len = 0 := by
    rw [hmem, overlay, getElem?_readBytes, if_neg (Nat.lt_irrefl len),
      Option.getD_none, overlay, List.getElem?_replicate_of_lt hlen,
      Option.getD_some]
  rw [← hcontent] at hstr
  rw [AppState.bytes, cString_readBytes (Nat.lt_of_lt_of_le hlen hn) hstr hend,
    hcontent]

theorem cString_fill (d : Arr) {n len : ℕ} (hlen : len < n)
    (hn : n ≤ d.size) (hsize : len < 4294967296)
    (hstr : 0 ∉ readBytes content 0 len) :
    cString (((s.memset d n).memcpy d content 0 len).bytes d) =
      readBytes content 0 len := by
  apply cString_of_filled _ _ hlen hn hstr (f := s.mem d)
  rw [memcpy, sizeT_natCast hsize, mem_store_self, memset, mem_store_self]

theorem Setting.StringOf.infolen_ne_zero {k : Setting} {hi : UInt8}
    (h : k.StringOf 1 hi) : k.infolen ≠ 0 := by
  intro hzero
  have hlo := h.1
  rw [hzero] at hlo
  exact absurd hlo (by decide)

/-- A string of `JT808Conf_struct` is saved and loaded with it. -/
theorem survives_jt808String {s : AppState} {k : Setting} {n : ℕ} {d : Arr}
    (hroom : RoomFor k.id k.infolen) (hid : k.replyId = n)
    (hreply : ∀ (s : AppState) (deviceNumberId : List UInt8),
      s.reported deviceNumberId n = some (cString (s.bytes d)))
    (hd : d ∈ JT808Conf.arrays)
    (hsaved : (k.apply s).saved.jt808Arrays =
      JT808Conf.arrays.map (k.apply s).bytes)
    (hnow : cString ((k.apply s).bytes d) = k.bytes) : Survives s k := by
  refine (survives_iff_of_reported k hid hreply).mpr ⟨hroom, hnow, ?_⟩
  intro ram
  rw [restart_bytes_jt808 ram _ hsaved hd]
  exact hnow

theorem survives_listenNum (h : (⟨0x0048, infolen, content⟩ :
    Setting).StringOf 1 30) : Survives s ⟨0x0048, infolen, content⟩ := by
  have hne := h.infolen_ne_zero
  obtain ⟨-, hhi, hstr⟩ := h
  have happly : (⟨0x0048, infolen, content⟩ : Setting).apply s =
      { ((s.memset .listenNum 30).memcpy .listenNum content 0
          infolen.toNat).saveJT808 with texts.callState := 5 } := by
    have hserve : (⟨0x0048, infolen, content⟩ : Setting).apply s =
        if infolen = 0 then s
        else { s.setListenNum infolen content with
          texts.callState := 5 } := rfl
    rw [hserve, if_neg hne, setListenNum, if_neg hne]
  apply survives_jt808String (k := ⟨0x0048, infolen, content⟩)
    (d := .listenNum) (UInt8.le_of_lt hhi) rfl (fun _ _ => rfl) (by decide)
  · rw [happly]
    rfl
  · rw [happly]
    exact cString_fill s .listenNum (n := 30) (UInt8.lt_iff_toNat_lt.mp hhi)
      (by decide) (by have := infolen.toNat_lt; omega) hstr

theorem survives_vechNum (h : (⟨0x0083, infolen, content⟩ :
    Setting).StringOf 4 13) : Survives s ⟨0x0083, infolen, content⟩ := by
  obtain ⟨hlo, hhi, hstr⟩ := h
  have hge : ¬ infolen < 4 := UInt8.not_lt.mpr hlo
  have happly : (⟨0x0083, infolen, content⟩ : Setting).apply s =
      ((s.memset .vechNum 13).memcpy .vechNum content 0
        infolen.toNat).saveJT808 := if_neg hge
  apply survives_jt808String (k := ⟨0x0083, infolen, content⟩)
    (d := .vechNum) (UInt8.le_of_lt hhi) rfl (fun _ _ => rfl) (by decide)
  · rw [happly]
    rfl
  · rw [happly]
    exact cString_fill s .vechNum (n := 13) (UInt8.lt_iff_toNat_lt.mp hhi)
      (by decide) (by have := infolen.toNat_lt; omega) hstr

theorem survives_apn (h : (⟨0x0010, infolen, content⟩ :
    Setting).StringOf 1 30) : Survives s ⟨0x0010, infolen, content⟩ := by
  have hne := h.infolen_ne_zero
  obtain ⟨-, hhi, hstr⟩ := h
  have hlt : infolen.toNat < 30 := UInt8.lt_iff_toNat_lt.mp hhi
  have hreply (s : AppState) (deviceNumberId : List UInt8) :
      s.reported deviceNumberId 0x0010 = some (cString (s.bytes .apnString)) :=
    rfl
  have happly : (⟨0x0010, infolen, content⟩ : Setting).apply s =
      let s := (s.memset .apnString 30).memcpy .apnString content 0
        infolen.toNat
      let s := (s.memset .apnStr 30).memcpy .apnStr content 0 infolen.toNat
      s.saveSysConf.call (.dataLinkApnSet (s.bytes .apnString)) := if_neg hne
  have hstring : cString (((⟨0x0010, infolen, content⟩ : Setting).apply
      s).bytes .apnString) = readBytes content 0 infolen.toNat := by
    have hother (t : AppState) :
        ((t.memset .apnStr 30).memcpy .apnStr content 0
          infolen.toNat).bytes .apnString = t.bytes .apnString := by
      rw [memcpy, bytes_store_of_ne _ (by decide), memset,
        bytes_store_of_ne _ (by decide)]
    have hbytes : ((⟨0x0010, infolen, content⟩ : Setting).apply s).bytes
        .apnString = ((s.memset .apnString 30).memcpy .apnString content 0
          infolen.toNat).bytes .apnString := by
      rw [happly]
      exact hother _
    rw [hbytes]
    exact cString_fill s .apnString hlt (by decide) (by omega) hstr
  have hstr' : cString (((⟨0x0010, infolen, content⟩ : Setting).apply
      s).bytes .apnStr) = readBytes content 0 infolen.toNat := by
    rw [happly]
    exact cString_fill _ .apnStr hlt (by decide) (by omega) hstr
  have hsaved : ((⟨0x0010, infolen, content⟩ : Setting).apply
      s).saved.sysArrays = SysConf.arrays.map
        ((⟨0x0010, infolen, content⟩ : Setting).apply s).bytes := by
    rw [happly]
    rfl
  have hlen : (cString (((⟨0x0010, infolen, content⟩ : Setting).apply
      s).bytes .apnStr)).length ≤ 30 := by
    rw [hstr', readBytes_length]
    omega
  refine (survives_iff_of_reported ⟨0x0010, infolen, content⟩ rfl hreply).mpr
    ⟨UInt8.le_of_lt hhi, hstring, ?_⟩
  intro ram
  exact (restart_apnString ram _ hsaved hlen).trans hstr'

/-- A name goes into both arrays. -/
theorem bytes_setMainServer_name
    (hname : (str2ip (regIn infolen content)).1 ≤ 3)
    (hlt : infolen.toNat < 50)
    (hstr : 0 ∉ readBytes content 0 infolen.toNat) :
    cString ((s.setMainServer infolen content).bytes .domainNameStr) =
        readBytes content 0 infolen.toNat ∧
      cString ((s.setMainServer infolen content).bytes .dnsr) =
        readBytes content 0 infolen.toNat := by
  have hset : (s.setMainServer infolen content).mem =
      ((((s.memset .domainNameStr 50).memset .dnsr 50).memcpy .domainNameStr
        content 0 infolen.toNat).memcpy .dnsr content 0
          infolen.toNat).mem := by
    rw [setMainServer]
    dsimp only
    rw [if_pos hname]
    rfl
  have hsize : infolen.toNat < 4294967296 := by omega
  constructor
  · apply cString_of_filled _ _ hlt (by decide) hstr
      (f := s.mem .domainNameStr)
    rw [hset, memcpy, mem_store_of_ne _ (by decide), memcpy,
      sizeT_natCast hsize, mem_store_self, memset,
      mem_store_of_ne _ (by decide), memset, mem_store_self]
  · apply cString_of_filled _ _ hlt (by decide) hstr (f := s.mem .dnsr)
    rw [hset, memcpy, sizeT_natCast hsize, mem_store_self, memcpy,
      mem_store_of_ne _ (by decide), memset, mem_store_self, memset,
      mem_store_of_ne _ (by decide)]

/-- A name is stored in both arrays; an address is not, and the name that was
there before is still reported. -/
theorem survives_mainServer_iff (h : (⟨0x0013, infolen, content⟩ :
    Setting).StringOf 1 50) :
    Survives s ⟨0x0013, infolen, content⟩ ↔ infolen ≤ 20 ∧
      (3 < (str2ip (regIn infolen content)).1 →
        cString (s.bytes .domainNameStr) = readBytes content 0 infolen.toNat ∧
          cString (s.bytes .dnsr) = readBytes content 0 infolen.toNat) := by
  obtain ⟨-, hhi, hstr⟩ := h
  have hlt : infolen.toNat < 50 := UInt8.lt_iff_toNat_lt.mp hhi
  have hreply (s : AppState) (deviceNumberId : List UInt8) :
      s.reported deviceNumberId 0x0013 =
        some (cString (s.bytes .domainNameStr)) := rfl
  rw [survives_iff_of_reported ⟨0x0013, infolen, content⟩ rfl hreply]
  have hsaved : ((⟨0x0013, infolen, content⟩ : Setting).apply
      s).saved.sysArrays = SysConf.arrays.map
        ((⟨0x0013, infolen, content⟩ : Setting).apply s).bytes := by
    have hserve : (⟨0x0013, infolen, content⟩ : Setting).apply s =
        s.setMainServer infolen content := rfl
    rw [hserve, setMainServer]
    dsimp only
    split <;> rfl
  have hrestarted (ram : AppState) :=
    restart_domainNameStr ram _ hsaved
  simp only [hrestarted]
  by_cases hip : (str2ip (regIn infolen content)).1 ≤ 3
  · have hnames := bytes_setMainServer_name s hip hlt hstr
    have hnot : ¬ 3 < (str2ip (regIn infolen content)).1 := by omega
    exact ⟨fun h => ⟨h.1, fun hgt => absurd hgt hnot⟩,
      fun h => ⟨h.1, hnames.1, fun _ => hnames.2⟩⟩
  · have hbytes (d : Arr) : ((⟨0x0013, infolen, content⟩ :
        Setting).apply s).bytes d = s.bytes d := by
      rw [Setting.apply, service_address content hip]
      rfl
    simp only [hbytes]
    exact ⟨fun h => ⟨h.1, fun _ => ⟨h.2.1, h.2.2 {}⟩⟩,
      fun h => ⟨h.1, (h.2 (by omega)).1, fun _ => (h.2 (by omega)).2⟩⟩

/-- The address is not stored in `SysConf_struct`. -/
theorem survives_auxServer_iff :
    Survives s ⟨0x0017, infolen, content⟩ ↔ infolen ≤ 20 ∧
      ipStr (str2ip (regIn infolen content)).2 =
          readBytes content 0 infolen.toNat ∧
        ipStr s.sysConf.ipAux = readBytes content 0 infolen.toNat := by
  have hreply (s : AppState) (deviceNumberId : List UInt8) :
      s.reported deviceNumberId 0x0017 = some (ipStr s.link.remoteIpAux) := rfl
  have hserve : (⟨0x0017, infolen, content⟩ : Setting).apply s =
      s.setAuxServer infolen content := rfl
  have hnow : ((⟨0x0017, infolen, content⟩ : Setting).apply
      s).link.remoteIpAux = (str2ip (regIn infolen content)).2 := by
    rw [hserve, setAuxServer]
    dsimp only
    split <;> rfl
  have hrestarted (ram : AppState) :
      (restart ram ((⟨0x0017, infolen, content⟩ : Setting).apply
        s)).link.remoteIpAux = s.sysConf.ipAux := by
    rw [(restart_link ram _).2, hserve, setAuxServer]
    dsimp only
    split <;> rfl
  rw [survives_iff_of_reported ⟨0x0017, infolen, content⟩ rfl hreply]
  simp only [hnow, hrestarted]
  constructor
  · rintro ⟨hroom, hnow, hrestarted⟩
    exact ⟨hroom, hnow, hrestarted {}⟩
  · rintro ⟨hroom, hnow, haux⟩
    exact ⟨hroom, hnow, fun _ => haux⟩

end Strings

/-! ## The settings that survive -/

/-- Where the setting stores what is reported. -/
theorem findsReported_of_survives {s : AppState} {k : Setting}
    (hsurvives : Survives s k) (hmain : k.id ≠ 0x0013) (hport : k.id ≠ 0x0018)
    (haux : k.id ≠ 0x0017) : FindsReported s k where
  room := (itemInBounds_iff _ _ _ _).mp hsurvives.inBounds
  main := fun hid => absurd hid hmain
  port := fun hid => absurd hid hport
  aux := fun hid => absurd hid haux

/-- A valid setting is reported and kept exactly when its item has room and what
the setting does not store is there already. -/
theorem setting_survives_iff (s : AppState) (k : Setting) (hk : k.Valid) :
    Survives s k ↔ FindsReported s k := by
  obtain ⟨id, infolen, content⟩ := k
  rw [Setting.Valid.eq_def] at hk
  dsimp only at hk
  split at hk
  · have h := survives_apn s hk
    exact iff_of_true h (findsReported_of_survives h nofun nofun nofun)
  · rw [survives_mainServer_iff s hk]
    exact ⟨fun h => ⟨h.1, fun _ => h.2, nofun, nofun⟩,
      fun h => ⟨h.room, h.main rfl⟩⟩
  · rw [survives_auxServer_iff s]
    exact ⟨fun h => ⟨h.1, nofun, nofun, fun _ => h.2⟩,
      fun h => ⟨h.room, h.aux rfl⟩⟩
  · subst hk
    rw [survives_port_iff s]
    exact ⟨fun h => ⟨trivial, nofun, fun _ => h, nofun⟩, fun h => h.port rfl⟩
  · subst hk
    have h := survives_defaultDur s content
    exact iff_of_true h (findsReported_of_survives h nofun nofun nofun)
  · have h := survives_listenNum s hk
    exact iff_of_true h (findsReported_of_survives h nofun nofun nofun)
  · subst hk
    have h := survives_speedWarnMax s content
    exact iff_of_true h (findsReported_of_survives h nofun nofun nofun)
  · subst hk
    have h := survives_drvKeepingSec s content
    exact iff_of_true h (findsReported_of_survives h nofun nofun nofun)
  · subst hk
    have h := survives_minSleepSec s content
    exact iff_of_true h (findsReported_of_survives h nofun nofun nofun)
  · have h := survives_vechNum s hk
    exact iff_of_true h (findsReported_of_survives h nofun nofun nofun)
  · exact hk.elim

/-- The port 8080. -/
def port8080 : Setting where
  id := 0x0018
  infolen := 4
  content
    | 2 => 0x1f
    | 3 => 0x90
    | _ => 0

/-- The port is kept if it is the saved one. -/
theorem port_survives :
    Survives { ({} : AppState) with
        link.remotePortMain := 8201
        sysConf.portMain := 8080 } port8080 :=
  (setting_survives_iff _ port8080 rfl).mpr
    ⟨trivial, nofun, fun _ => rfl, nofun⟩

/-- The port 8080 is lost at the restart, which goes back to 8201. -/
theorem port_lost :
    port8080.Valid ∧
      ¬ Survives { ({} : AppState) with
          link.remotePortMain := 8201
          sysConf.portMain := 8201 } port8080 := by
  refine ⟨rfl, fun h => ?_⟩
  have hport := (survives_port_iff _ _).mp h
  exact absurd hport (by decide)

end VehicleRecorder.Protocol
