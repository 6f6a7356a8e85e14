import VehicleRecorder.Lib.Footprint
import VehicleRecorder.Protocol.ItemBounds

/-!
# What a parameter setting touches

The configuration is looked at field by field: the members of the three
configuration structures that parameters denote, and the variables the link
works with.  A setting that keeps to the fields of its parameter can be
exchanged with the settings of other parameters.

Three settings do not.  `0x0031` has no `break` and goes on into the monitor
number, `0x0082` stores the city into the member of the province, and `0x0013`
saves the current port together with an address.
-/

namespace VehicleRecorder.Protocol

open Bytes Footprint

/-! ## Fields -/

/-- The members of `JT808Conf_struct.DURATION`. -/
inductive DurMember
  | heartDur
  | tcpAckDur
  | tcpAckDurCnter
  | tcpSdState
  | tcpReSdNum
  | udpAckDur
  | udpReSdNum
  | noDrvLoginDur
  | sleepDur
  | emegenceDur
  | defaultDur
  | sdDeltaMaxAngle
  | illgleMovoDisttance
  deriving DecidableEq, Repr

def DurMember.get (d : SendDur) : DurMember → ℕ
  | .heartDur => d.heartDur
  | .tcpAckDur => d.tcpAckDur
  | .tcpAckDurCnter => d.tcpAckDurCnter
  | .tcpSdState => d.tcpSdState.toNat
  | .tcpReSdNum => d.tcpReSdNum
  | .udpAckDur => d.udpAckDur
  | .udpReSdNum => d.udpReSdNum
  | .noDrvLoginDur => d.noDrvLoginDur
  | .sleepDur => d.sleepDur
  | .emegenceDur => d.emegenceDur
  | .defaultDur => d.defaultDur
  | .sdDeltaMaxAngle => d.sdDeltaMaxAngle
  | .illgleMovoDisttance => d.illgleMovoDisttance

def DurMember.put (d : SendDur) (v : ℕ) : DurMember → SendDur
  | .heartDur => { d with heartDur := v }
  | .tcpAckDur => { d with tcpAckDur := v }
  | .tcpAckDurCnter => { d with tcpAckDurCnter := v }
  | .tcpSdState => { d with tcpSdState := UInt8.ofNat v }
  | .tcpReSdNum => { d with tcpReSdNum := v }
  | .udpAckDur => { d with udpAckDur := v }
  | .udpReSdNum => { d with udpReSdNum := v }
  | .noDrvLoginDur => { d with noDrvLoginDur := v }
  | .sleepDur => { d with sleepDur := v }
  | .emegenceDur => { d with emegenceDur := v }
  | .defaultDur => { d with defaultDur := v }
  | .sdDeltaMaxAngle => { d with sdDeltaMaxAngle := v }
  | .illgleMovoDisttance => { d with illgleMovoDisttance := v }

theorem DurMember.get_put {m : DurMember} (hm : m ≠ .tcpSdState) (d : SendDur)
    (v : ℕ) : m.get (m.put d v) = v := by
  cases m
  case tcpSdState => exact absurd rfl hm
  all_goals rfl

theorem DurMember.get_put_of_ne {m m' : DurMember} (h : m' ≠ m) (d : SendDur)
    (v : ℕ) : m'.get (m.put d v) = m'.get d := by
  cases m <;> cases m' <;> first | rfl | exact absurd rfl h

/-- The members of `JT808Conf_struct.DISTANCE`. -/
inductive DistMember
  | defalutDistDelta
  | noDrvLoginDist
  | sleepDist
  | emergenDist
  deriving DecidableEq, Repr

def DistMember.get (d : SendDist) : DistMember → ℕ
  | .defalutDistDelta => d.defalutDistDelta
  | .noDrvLoginDist => d.noDrvLoginDist
  | .sleepDist => d.sleepDist
  | .emergenDist => d.emergenDist

def DistMember.put (d : SendDist) (v : ℕ) : DistMember → SendDist
  | .defalutDistDelta => { d with defalutDistDelta := v }
  | .noDrvLoginDist => { d with noDrvLoginDist := v }
  | .sleepDist => { d with sleepDist := v }
  | .emergenDist => { d with emergenDist := v }

theorem DistMember.get_put (m : DistMember) (d : SendDist) (v : ℕ) :
    m.get (m.put d v) = v := by
  cases m <;> rfl

theorem DistMember.get_put_of_ne {m m' : DistMember} (h : m' ≠ m) (d : SendDist)
    (v : ℕ) : m'.get (m.put d v) = m'.get d := by
  cases m <;> cases m' <;> first | rfl | exact absurd rfl h

/-- The other members of `JT808Conf_struct`. -/
inductive ConfMember
  | durTotalMode
  | durDefaultMode
  | regsiterStatus
  | vechCharacterValue
  | speedWarnMax
  | spdExdLimitSeconds
  | dfKAdjustState
  | lockState
  | lockDur
  | lockKeepDur
  | lockKeepCnter
  | devProvinceId
  | devCityId
  | devColor
  deriving DecidableEq, Repr

def ConfMember.get (c : JT808Conf) : ConfMember → ℕ
  | .durTotalMode => c.durTotalMode.toNat
  | .durDefaultMode => c.durDefaultMode.toNat
  | .regsiterStatus => c.regsiterStatus.toNat
  | .vechCharacterValue => c.vechCharacterValue
  | .speedWarnMax => c.speedWarnMax
  | .spdExdLimitSeconds => c.spdExdLimitSeconds
  | .dfKAdjustState => c.dfKAdjustState.toNat
  | .lockState => c.rtLock.lockState.toNat
  | .lockDur => c.rtLock.lockDur
  | .lockKeepDur => c.rtLock.lockKeepDur
  | .lockKeepCnter => c.rtLock.lockKeepCnter
  | .devProvinceId => c.devProvinceId
  | .devCityId => c.devCityId
  | .devColor => c.devColor.toNat

/-- The thresholds in `TiredConf_struct`. -/
inductive DoorMember
  | drvKeepingSec
  | dayAccumlateDrvSec
  | minSleepSec
  | maxParkingSec
  deriving DecidableEq, Repr

def DoorMember.get (d : TiredDoor) : DoorMember → ℕ
  | .drvKeepingSec => d.drvKeepingSec
  | .dayAccumlateDrvSec => d.dayAccumlateDrvSec
  | .minSleepSec => d.minSleepSec
  | .maxParkingSec => d.maxParkingSec

def DoorMember.put (d : TiredDoor) (v : ℕ) : DoorMember → TiredDoor
  | .drvKeepingSec => { d with drvKeepingSec := v }
  | .dayAccumlateDrvSec => { d with dayAccumlateDrvSec := v }
  | .minSleepSec => { d with minSleepSec := v }
  | .maxParkingSec => { d with maxParkingSec := v }

theorem DoorMember.get_put (m : DoorMember) (d : TiredDoor) (v : ℕ) :
    m.get (m.put d v) = v := by
  cases m <;> rfl

theorem DoorMember.get_put_of_ne {m m' : DoorMember} (h : m' ≠ m)
    (d : TiredDoor) (v : ℕ) : m'.get (m.put d v) = m'.get d := by
  cases m <;> cases m' <;> first | rfl | exact absurd rfl h

/-- The variables of the link. -/
inductive LinkMember
  | remoteIpMain
  | remotePortMain
  | remoteIpAux
  | remotePortAux
  deriving DecidableEq, Repr

/-- A field of the configuration; the arrays count whole. -/
inductive Field
  | dur (m : DurMember)
  | dist (m : DistMember)
  | conf (m : ConfMember)
  | door (m : DoorMember)
  | ipMain
  | portMain
  | ipAux
  | portAux
  | link (m : LinkMember)
  | arr (d : Arr)
  deriving DecidableEq, Repr

/-- The value of a field. -/
inductive FieldValue
  | num (n : ℕ)
  | str (bs : List UInt8)
  deriving DecidableEq, Repr

def LinkMember.get (l : Link) : LinkMember → FieldValue
  | .remoteIpMain => .str l.remoteIpMain
  | .remotePortMain => .num l.remotePortMain
  | .remoteIpAux => .str l.remoteIpAux
  | .remotePortAux => .num l.remotePortAux

def AppState.field (s : AppState) : Field → FieldValue
  | .dur m => .num (m.get s.conf.duration)
  | .dist m => .num (m.get s.conf.distance)
  | .conf m => .num (m.get s.conf)
  | .door m => .num (m.get s.tiredConf.tiredDoor)
  | .ipMain => .str s.sysConf.ipMain
  | .portMain => .num s.sysConf.portMain
  | .ipAux => .str s.sysConf.ipAux
  | .portAux => .num s.sysConf.portAux
  | .link m => m.get s.link
  | .arr d => .str (s.bytes d)

/-- The parameter numbers that denote a field: its own entry of a configuration
structure, or the copy the program works with. -/
def Field.ids : Field → List ℕ
  | .dur .heartDur => [0x0001]
  | .dur .tcpAckDur => [0x0002]
  | .dur .tcpReSdNum => [0x0003]
  | .dur .udpAckDur => [0x0004]
  | .dur .udpReSdNum => [0x0005]
  | .dur .noDrvLoginDur => [0x0022]
  | .dur .sleepDur => [0x0027]
  | .dur .emegenceDur => [0x0028]
  | .dur .defaultDur => [0x0029]
  | .dur .sdDeltaMaxAngle => [0x0030]
  | .dur .illgleMovoDisttance => [0x0031]
  | .dist .defalutDistDelta => [0x002C]
  | .dist .noDrvLoginDist => [0x002D]
  | .dist .sleepDist => [0x002E]
  | .dist .emergenDist => [0x002F]
  | .conf .speedWarnMax => [0x0055]
  | .conf .spdExdLimitSeconds => [0x0056]
  | .conf .devProvinceId => [0x0081]
  | .conf .devCityId => [0x0082]
  | .conf .devColor => [0x0084]
  | .door .drvKeepingSec => [0x0057]
  | .door .dayAccumlateDrvSec => [0x0058]
  | .door .minSleepSec => [0x0059]
  | .door .maxParkingSec => [0x005A]
  | .ipMain => [0x0013]
  | .portMain => [0x0018]
  | .ipAux => [0x0017]
  | .portAux => [0x0019]
  | .link .remoteIpMain => [0x0013]
  | .link .remotePortMain => [0x0018]
  | .link .remoteIpAux => [0x0017]
  | .link .remotePortAux => [0x0019]
  | .arr .apnString => [0x0010]
  | .arr .apnStr => [0x0010]
  | .arr .domainNameStr => [0x0013]
  | .arr .dnsr => [0x0013]
  | .arr .domainNameStrAux => [0x0017]
  | .arr .dnsrAux => [0x0017]
  | .arr .listenNum => [0x0040, 0x0048]
  | .arr .vechNum => [0x0083]
  | _ => []

/-- The fields a parameter denotes. -/
def fieldsOf (subId : ℕ) : Set Field := {f | subId ∈ f.ids}

instance (f : Field) (subId : ℕ) : Decidable (f ∈ fieldsOf subId) :=
  inferInstanceAs (Decidable (subId ∈ f.ids))

/-! ## Building blocks -/

section Blocks

open AppState

variable {S : Set Field}

/-- An operation that leaves every field alone. -/
theorem within_of_field_eq {op : AppState → AppState}
    (h : ∀ s f, (op s).field f = s.field f) : Within AppState.field S op where
  frame := fun s f _ => h s f
  local_ := by
    intro s t hst f hf
    rw [h, h, hst f hf]

/-- A setting of one field to a value that does not depend on the state. -/
theorem within_set {c : Field} {v : FieldValue} {op : AppState → AppState}
    (hc : c ∈ S) (hset : ∀ s, (op s).field c = v)
    (hframe : ∀ s f, f ≠ c → (op s).field f = s.field f) :
    Within AppState.field S op where
  frame := by
    intro s f hf
    refine hframe s f ?_
    rintro rfl
    exact hf hc
  local_ := by
    intro s t hst f hf
    by_cases hne : f = c
    · rw [hne, hset, hset]
    · rw [hframe s f hne, hframe t f hne, hst f hf]

theorem bytes_store_of_ne (s : AppState) {d d' : Arr} (h : d' ≠ d)
    (xs : List UInt8) (n : ℤ) : (s.store d xs n).bytes d' = s.bytes d' := by
  rw [AppState.bytes, AppState.bytes, store]
  dsimp only
  rw [Function.update_of_ne h]

/-- The content of an array after a store depends on its content before. -/
theorem bytes_store_congr {s t : AppState} {d : Arr} (h : s.bytes d = t.bytes d)
    (xs : List UInt8) (n : ℤ) :
    (s.store d xs n).bytes d = (t.store d xs n).bytes d := by
  rw [AppState.bytes, AppState.bytes, store, store]
  dsimp only
  rw [Function.update_self, Function.update_self]
  apply readBytes_congr
  intro i hlo hhi
  have hi : s.mem d i = t.mem d i := readBytes_inj h hlo hhi
  simp only [overlay, hi]

/-- A store into an array of the set. -/
theorem within_store {d : Arr} (hd : Field.arr d ∈ S) (xs : List UInt8)
    (n : ℤ) : Within AppState.field S fun s => s.store d xs n := by
  have hne (s : AppState) {f : Field} (hf : f ≠ .arr d) :
      (s.store d xs n).field f = s.field f := by
    cases f with
    | arr d' =>
        have hd' : d' ≠ d := fun h => hf (congrArg Field.arr h)
        exact congrArg FieldValue.str (bytes_store_of_ne s hd' xs n)
    | _ => rfl
  constructor
  · intro s f hf
    refine hne s ?_
    rintro rfl
    exact hf hd
  · intro s t hst f hf
    by_cases heq : f = .arr d
    · subst heq
      exact congrArg FieldValue.str
        (bytes_store_congr (FieldValue.str.inj (hst (.arr d) hd)) xs n)
    · rw [hne s heq, hne t heq, hst f hf]

/-- A word stored into one field. -/
theorem within_setDword {c : Field} {v : ℕ → FieldValue}
    {g : AppState → ℕ → AppState} (infolen : UInt8) (content : ℕ → UInt8)
    (hc : c ∈ S) (hset : ∀ s n, (g s n).field c = v n)
    (hframe : ∀ s n f, f ≠ c → (g s n).field f = s.field f) :
    Within AppState.field S fun s => s.setDword infolen content (g s) :=
  Within.ite (within_of_field_eq fun _ _ => rfl)
    (within_set hc (fun s => hset s _) fun s => hframe s _)

theorem within_setDuration (infolen : UInt8) (content : ℕ → UInt8)
    {m : DurMember} (hm : m ≠ .tcpSdState) (hf : Field.dur m ∈ S) :
    Within AppState.field S fun s => s.setDword infolen content fun v =>
      s.putDuration (m.put s.conf.duration v) := by
  apply within_setDword infolen content hf
    (g := fun s v => s.putDuration (m.put s.conf.duration v))
  · intro s n
    exact congrArg FieldValue.num (DurMember.get_put hm _ n)
  · intro s n f hne
    cases f with
    | dur m' =>
        have hm' : m' ≠ m := fun h => hne (congrArg Field.dur h)
        exact congrArg FieldValue.num (DurMember.get_put_of_ne hm' _ n)
    | conf m' => cases m' <;> rfl
    | _ => rfl

theorem within_setDistance (infolen : UInt8) (content : ℕ → UInt8)
    {m : DistMember} (hf : Field.dist m ∈ S) :
    Within AppState.field S fun s => s.setDword infolen content fun v =>
      s.putDistance (m.put s.conf.distance v) := by
  apply within_setDword infolen content hf
    (g := fun s v => s.putDistance (m.put s.conf.distance v))
  · intro s n
    exact congrArg FieldValue.num (m.get_put _ n)
  · intro s n f hne
    cases f with
    | dist m' =>
        have hm' : m' ≠ m := fun h => hne (congrArg Field.dist h)
        exact congrArg FieldValue.num (DistMember.get_put_of_ne hm' _ n)
    | conf m' => cases m' <;> rfl
    | _ => rfl

/-- A threshold of the driving times, with what is reset besides. -/
theorem within_setDoor (infolen : UInt8) (content : ℕ → UInt8) {m : DoorMember}
    (hf : Field.door m ∈ S) {a : AppState → AppState}
    (hafter : ∀ s f, (a s).field f = s.field f) :
    Within AppState.field S fun s => s.setDword infolen content fun v =>
      a (s.putTiredDoor (m.put s.tiredConf.tiredDoor v)) := by
  apply within_setDword infolen content hf
    (g := fun s v => a (s.putTiredDoor (m.put s.tiredConf.tiredDoor v)))
  · intro s n
    rw [hafter]
    exact congrArg FieldValue.num (m.get_put _ n)
  · intro s n f hne
    rw [hafter]
    cases f with
    | door m' =>
        have hm' : m' ≠ m := fun h => hne (congrArg Field.door h)
        exact congrArg FieldValue.num (DoorMember.get_put_of_ne hm' _ n)
    | _ => rfl

/-- An array cleared and filled. -/
theorem within_fill {d : Arr} (hd : Field.arr d ∈ S) (n : ℕ)
    (content : ℕ → UInt8) (len : ℤ) :
    Within AppState.field S fun s => (s.memset d n).memcpy d content 0 len :=
  (within_store hd _ _).comp (within_store hd _ _)

theorem within_setListenNum (infolen : UInt8) (content : ℕ → UInt8)
    (hf : Field.arr .listenNum ∈ S) :
    Within AppState.field S fun s => s.setListenNum infolen content :=
  Within.ite (within_of_field_eq fun _ _ => rfl)
    ((within_fill hf 30 content _).comp (within_of_field_eq fun _ _ => rfl))

theorem within_setApn (infolen : UInt8) (content : ℕ → UInt8)
    (hstring : Field.arr .apnString ∈ S) (hstr : Field.arr .apnStr ∈ S) :
    Within AppState.field S fun s => s.setApn infolen content := by
  have hfill := (within_fill hstring 30 content infolen.toNat).comp
    (within_fill hstr 30 content infolen.toNat)
  have hsave : Within AppState.field S fun s =>
      s.saveSysConf.call (.dataLinkApnSet (s.bytes .apnString)) := by
    apply within_of_field_eq
    intro s f
    cases f <;> rfl
  exact Within.ite (within_of_field_eq fun _ _ => rfl) (hfill.comp hsave)

/-- A variable of the link. -/
theorem within_putLink {m : LinkMember} (hm : Field.link m ∈ S)
    {v : FieldValue} {g : Link → Link} (hset : ∀ l, m.get (g l) = v)
    (hother : ∀ l m', m' ≠ m → m'.get (g l) = m'.get l) :
    Within AppState.field S fun s => { s with link := g s.link } := by
  have hcell (s : AppState) :
      ({ s with link := g s.link } : AppState).field (.link m) = v :=
    hset s.link
  apply within_set hm hcell
  intro s f hne
  cases f with
  | link m' => exact hother s.link m' fun h => hne (congrArg Field.link h)
  | _ => rfl

/-- A domain name for the main server. -/
theorem within_setMainServer {infolen : UInt8} {content : ℕ → UInt8}
    (hname : (str2ip (regIn infolen content)).1 ≤ 3)
    (hip : Field.link .remoteIpMain ∈ S)
    (hstr : Field.arr .domainNameStr ∈ S) (hdnsr : Field.arr .dnsr ∈ S) :
    Within AppState.field S fun s => s.setMainServer infolen content := by
  simp only [setMainServer, if_pos hname]
  have hlink : Within AppState.field S fun s : AppState =>
      { s with link.remoteIpMain := (str2ip (regIn infolen content)).2 } := by
    apply within_putLink (m := .remoteIpMain) hip
      (v := .str (str2ip (regIn infolen content)).2)
      (g := fun l =>
        { l with remoteIpMain := (str2ip (regIn infolen content)).2 })
      fun _ => rfl
    intro l m' hm'
    cases m'
    case remoteIpMain => exact absurd rfl hm'
    all_goals rfl
  have hclear := (within_store hstr (List.replicate 50 0) 50).comp
    (within_store hdnsr (List.replicate 50 0) 50)
  have hfill := (within_store hstr (readBytes content 0
    (sizeT infolen.toNat)) infolen.toNat).comp (within_store hdnsr
    (readBytes content 0 (sizeT infolen.toNat)) infolen.toNat)
  have hsave : Within AppState.field S fun s =>
      (s.saveSysConf.call (.dataLinkDnsrSet
        (s.saveSysConf.bytes .dnsr))).setCentreCmdAck 2 := by
    apply within_of_field_eq
    intro s f
    cases f <;> rfl
  exact ((hlink.comp hclear).comp hfill).comp hsave

/-- The other server, by name or by address. -/
theorem within_setAuxServer (infolen : UInt8) (content : ℕ → UInt8)
    (hip : Field.link .remoteIpAux ∈ S)
    (hstr : Field.arr .domainNameStrAux ∈ S) (hdnsr : Field.arr .dnsrAux ∈ S) :
    Within AppState.field S fun s => s.setAuxServer infolen content := by
  have hlink : Within AppState.field S fun s : AppState =>
      { s with link.remoteIpAux := (str2ip (regIn infolen content)).2 } := by
    apply within_putLink (m := .remoteIpAux) hip
      (v := .str (str2ip (regIn infolen content)).2)
      (g := fun l =>
        { l with remoteIpAux := (str2ip (regIn infolen content)).2 })
      fun _ => rfl
    intro l m' hm'
    cases m'
    case remoteIpAux => exact absurd rfl hm'
    all_goals rfl
  have hclear := (within_store hstr (List.replicate 50 0) 50).comp
    (within_store hdnsr (List.replicate 50 0) 50)
  have hfill := (within_store hstr (readBytes content 0
    (sizeT infolen.toNat)) infolen.toNat).comp (within_store hdnsr
    (readBytes content 0 (sizeT infolen.toNat)) infolen.toNat)
  have hsave : Within AppState.field S fun s =>
      (s.saveSysConf.call (.dataLinkDnsr2Set
        (s.saveSysConf.bytes .dnsrAux))).setCentreCmdAck 2 := by
    apply within_of_field_eq
    intro s f
    cases f <;> rfl
  have hsocket : Within AppState.field S fun s => s.saveSysConf.call
      (.dataLinkAuxSocketSet s.link.remoteIpAux s.link.remotePortAux) := by
    apply within_of_field_eq
    intro s f
    cases f <;> rfl
  exact Within.ite (((hlink.comp hclear).comp hfill).comp hsave)
    (hlink.comp hsocket)

theorem within_putMainPort (v : ℕ) (hm : Field.link .remotePortMain ∈ S) :
    Within AppState.field S fun s : AppState =>
      { s with link.remotePortMain := v } := by
  apply within_putLink (m := .remotePortMain) hm (v := .num v)
    (g := fun l => { l with remotePortMain := v }) fun _ => rfl
  intro l m' hm'
  cases m'
  case remotePortMain => exact absurd rfl hm'
  all_goals rfl

theorem within_putAuxPort (v : ℕ) (hm : Field.link .remotePortAux ∈ S) :
    Within AppState.field S fun s : AppState =>
      { s with link.remotePortAux := v } := by
  apply within_putLink (m := .remotePortAux) hm (v := .num v)
    (g := fun l => { l with remotePortAux := v }) fun _ => rfl
  intro l m' hm'
  cases m'
  case remotePortAux => exact absurd rfl hm'
  all_goals rfl

/-- The port of the main server, with what is done besides. -/
theorem within_setMainPort (infolen : UInt8) (content : ℕ → UInt8)
    (hm : Field.link .remotePortMain ∈ S) :
    Within AppState.field S fun s => s.setDword infolen content fun v =>
      let s := { s with link.remotePortMain := v % 65536 }.saveSysConf
      (s.call (.dataLinkMainSocketSet s.link.remoteIpMain
        s.link.remotePortMain)).setCentreCmdAck 2 := by
  have hsave : Within AppState.field S fun s => (s.saveSysConf.call
      (.dataLinkMainSocketSet s.link.remoteIpMain
        s.link.remotePortMain)).setCentreCmdAck 2 := by
    apply within_of_field_eq
    intro s f
    cases f <;> rfl
  exact Within.ite (within_of_field_eq fun _ _ => rfl)
    ((within_putMainPort _ hm).comp hsave)

/-- A member of `JT808Conf_struct` apart from the durations and distances. -/
theorem within_putConf {m : ConfMember} (hm : Field.conf m ∈ S) {v : ℕ}
    {g : JT808Conf → JT808Conf} (hset : ∀ c, m.get (g c) = v)
    (hother : ∀ c m', m' ≠ m → m'.get (g c) = m'.get c)
    (hdur : ∀ c, (g c).duration = c.duration)
    (hdist : ∀ c, (g c).distance = c.distance) :
    Within AppState.field S fun s => s.putConf (g s.conf) := by
  have hcell (s : AppState) : (s.putConf (g s.conf)).field (.conf m) = .num v :=
    congrArg FieldValue.num (hset s.conf)
  apply within_set hm hcell
  intro s f hne
  cases f with
  | conf m' =>
      have hm' : m' ≠ m := fun h => hne (congrArg Field.conf h)
      exact congrArg FieldValue.num (hother s.conf m' hm')
  | dur m' =>
      exact congrArg (fun d => FieldValue.num (m'.get d)) (hdur s.conf)
  | dist m' =>
      exact congrArg (fun d => FieldValue.num (m'.get d)) (hdist s.conf)
  | _ => rfl

theorem within_putProvince (v : ℕ) (hm : Field.conf .devProvinceId ∈ S) :
    Within AppState.field S fun s =>
      s.putConf { s.conf with devProvinceId := v } := by
  apply within_putConf hm (g := fun c => { c with devProvinceId := v })
    (v := v) (fun _ => rfl) _ (fun _ => rfl) (fun _ => rfl)
  intro c m' hm'
  cases m'
  case devProvinceId => exact absurd rfl hm'
  all_goals rfl

theorem within_putColor (v : UInt8) (hm : Field.conf .devColor ∈ S) :
    Within AppState.field S fun s =>
      s.putConf { s.conf with devColor := v } := by
  apply within_putConf hm (g := fun c => { c with devColor := v })
    (v := v.toNat) (fun _ => rfl) _ (fun _ => rfl) (fun _ => rfl)
  intro c m' hm'
  cases m'
  case devColor => exact absurd rfl hm'
  all_goals rfl

/-- The watch on the speed starts again. -/
theorem within_spdExpInit : Within AppState.field S AppState.spdExpInit := by
  apply within_of_field_eq
  intro s f
  cases f <;> rfl

theorem within_setSpeedWarnMax (infolen : UInt8) (content : ℕ → UInt8)
    (hm : Field.conf .speedWarnMax ∈ S) :
    Within AppState.field S
      (centreSetSubService8103H 0x0055 infolen content) := by
  have hput : Within AppState.field S fun s : AppState =>
      s.putConf { s.conf with speedWarnMax := be32 content 0 } := by
    apply within_putConf hm
      (g := fun c => { c with speedWarnMax := be32 content 0 })
      (v := be32 content 0) (fun _ => rfl) _ (fun _ => rfl) (fun _ => rfl)
    intro c m' hm'
    cases m'
    case speedWarnMax => exact absurd rfl hm'
    all_goals rfl
  exact Within.ite (within_of_field_eq fun _ _ => rfl)
    (hput.comp within_spdExpInit)

theorem within_setSpdExdLimitSeconds (infolen : UInt8) (content : ℕ → UInt8)
    (hm : Field.conf .spdExdLimitSeconds ∈ S) :
    Within AppState.field S
      (centreSetSubService8103H 0x0056 infolen content) := by
  have hput : Within AppState.field S fun s : AppState =>
      s.putConf { s.conf with spdExdLimitSeconds := be32 content 0 } := by
    apply within_putConf hm
      (g := fun c => { c with spdExdLimitSeconds := be32 content 0 })
      (v := be32 content 0) (fun _ => rfl) _ (fun _ => rfl) (fun _ => rfl)
    intro c m' hm'
    cases m'
    case spdExdLimitSeconds => exact absurd rfl hm'
    all_goals rfl
  exact Within.ite (within_of_field_eq fun _ _ => rfl)
    (hput.comp within_spdExpInit)

end Blocks

/-! ## The services -/

/-- The parameters that `CentreSet_subService_8103H` does something for. -/
def servedIds : List ℕ :=
  [0x0001, 0x0002, 0x0003, 0x0004, 0x0005, 0x0010, 0x0013, 0x0017, 0x0018,
    0x0019, 0x0022, 0x0027, 0x0028, 0x0029, 0x002C, 0x002D, 0x002E, 0x002F,
    0x0030, 0x0031, 0x0040, 0x0048, 0x0055, 0x0056, 0x0057, 0x0058, 0x0059,
    0x005A, 0x0081, 0x0082, 0x0083, 0x0084, 0xF000]

theorem service_of_not_served {subId : ℕ} (h : subId ∉ servedIds)
    (infolen : UInt8) (content : ℕ → UInt8) (s : AppState) :
    s.centreSetSubService8103H subId infolen content = s := by
  rw [AppState.centreSetSubService8103H.eq_def]
  split
  case h_34 => rfl
  all_goals exact absurd (by decide) h

/-- The items whose setting works on the fields of its parameter alone. -/
structure Plain (subId : ℕ) (infolen : UInt8) (content : ℕ → UInt8) : Prop where
  noBreak : ¬ (subId = 0x0031 ∧ infolen = 2)
  province : ¬ (subId = 0x0082 ∧ infolen = 2)
  port : subId = 0x0013 → (str2ip (AppState.regIn infolen content)).1 ≤ 3

theorem within_service {subId : ℕ} {infolen : UInt8} {content : ℕ → UInt8}
    (h : Plain subId infolen content) :
    Within AppState.field (fieldsOf subId)
      (AppState.centreSetSubService8103H subId infolen content) := by
  by_cases hserved : subId ∈ servedIds
  case neg =>
    apply within_of_field_eq
    intro s f
    rw [service_of_not_served hserved]
  simp only [servedIds, List.mem_cons, List.not_mem_nil, or_false] at hserved
  have hself {n : ℕ} : n ∈ [n] := List.mem_singleton_self n
  rcases hserved with
    rfl | rfl | rfl | rfl | rfl | rfl | rfl | rfl | rfl | rfl | rfl | rfl |
    rfl | rfl | rfl | rfl | rfl | rfl | rfl | rfl | rfl | rfl | rfl | rfl |
    rfl | rfl | rfl | rfl | rfl | rfl | rfl | rfl | rfl
  · exact within_setDuration infolen content (m := .heartDur) nofun hself
  · exact within_setDuration infolen content (m := .tcpAckDur) nofun hself
  · exact within_setDuration infolen content (m := .tcpReSdNum) nofun hself
  · exact within_setDuration infolen content (m := .udpAckDur) nofun hself
  · exact within_setDuration infolen content (m := .udpReSdNum) nofun hself
  · exact within_setApn infolen content hself hself
  · exact within_setMainServer (h.port rfl) hself hself hself
  · exact within_setAuxServer infolen content hself hself hself
  · exact within_setMainPort infolen content hself
  · exact Within.ite (within_of_field_eq fun _ _ => rfl)
      ((within_putAuxPort _ hself).comp (within_of_field_eq fun _ _ => rfl))
  · exact within_setDuration infolen content (m := .noDrvLoginDur) nofun hself
  · exact within_setDuration infolen content (m := .sleepDur) nofun hself
  · exact within_setDuration infolen content (m := .emegenceDur) nofun hself
  · exact within_setDuration infolen content (m := .defaultDur) nofun hself
  · exact within_setDistance infolen content (m := .defalutDistDelta) hself
  · exact within_setDistance infolen content (m := .noDrvLoginDist) hself
  · exact within_setDistance infolen content (m := .sleepDist) hself
  · exact within_setDistance infolen content (m := .emergenDist) hself
  · exact within_setDuration infolen content (m := .sdDeltaMaxAngle) nofun hself
  · have hlen : infolen ≠ 2 := fun h2 => h.noBreak ⟨rfl, h2⟩
    apply within_of_field_eq
    intro s f
    have hskip : s.centreSetSubService8103H 0x0031 infolen content = s :=
      if_pos hlen
    rw [hskip]
  · exact within_setListenNum infolen content List.mem_cons_self
  · have hlisten := within_setListenNum infolen content
      (S := fieldsOf 0x0048) (List.mem_cons_of_mem _ hself)
    have hcall : Within AppState.field (fieldsOf 0x0048) fun s : AppState =>
        { s with texts.callState := 5 } := by
      apply within_of_field_eq
      intro s f
      cases f <;> rfl
    exact Within.ite (within_of_field_eq fun _ _ => rfl) (hlisten.comp hcall)
  · exact within_setSpeedWarnMax infolen content hself
  · exact within_setSpdExdLimitSeconds infolen content hself
  · apply within_setDoor infolen content (m := .drvKeepingSec) hself
      (a := fun s => AppState.tiredDriveInit { s with
        vehicle.warnStatus3 := s.vehicle.warnStatus3 &&& 0xfb })
    intro s f
    cases f <;> rfl
  · apply within_setDoor infolen content (m := .dayAccumlateDrvSec) hself
      (a := fun s => AppState.saveJT808 { s with
        tiredConf := { s.tiredConf with
          tiredDrive := { s.tiredConf.tiredDrive with
            accOnStateCounter := 0
            accOffStateCounter := 0 } } })
    intro s f
    cases f <;> rfl
  · exact within_setDoor infolen content (m := .minSleepSec) hself
      (a := fun s => s) fun _ _ => rfl
  · apply within_setDoor infolen content (m := .maxParkingSec) hself
      (a := fun s => { s with
        tiredConf := { s.tiredConf with
          tiredDoor := { s.tiredConf.tiredDoor with parkingCurrentcnt := 0 } }
        vehicle.warnStatus1 := s.vehicle.warnStatus1 &&& 0xf7 })
    intro s f
    cases f with
    | door m => cases m <;> rfl
    | _ => rfl
  · exact Within.ite (within_of_field_eq fun _ _ => rfl)
      (within_putProvince _ hself)
  · have hlen : infolen ≠ 2 := fun h2 => h.province ⟨rfl, h2⟩
    apply within_of_field_eq
    intro s f
    have hskip : s.centreSetSubService8103H 0x0082 infolen content = s :=
      if_pos hlen
    rw [hskip]
  · exact Within.ite (within_of_field_eq fun _ _ => rfl)
      ((within_fill (d := .vechNum) hself 13 content infolen.toNat).comp
        (within_of_field_eq fun _ _ => rfl))
  · exact Within.ite (within_of_field_eq fun _ _ => rfl)
      (within_putColor _ hself)
  · refine Within.ite (within_of_field_eq fun _ _ => rfl)
      (within_of_field_eq ?_)
    intro s f
    cases f <;> rfl

/-! ## The settings that stray -/

section Strays

open AppState

theorem sizeT_natCast {n : ℕ} (h : n < 4294967296) : sizeT (n : ℤ) = n := by
  rw [sizeT]
  omega

/-- What is stored into a cleared array is followed by zeros. -/
theorem bytes_store_of_zero {s : AppState} {d : Arr}
    (hclear : ∀ i < d.size, s.mem d i = 0) {xs : List UInt8}
    (hlen : xs.length ≤ d.size) (n : ℤ) :
    (s.store d xs n).bytes d = xs ++ List.replicate (d.size - xs.length) 0 := by
  have hstore : (s.store d xs n).mem d = overlay (s.mem d) xs :=
    Function.update_self d _ s.mem
  apply List.ext_getElem?
  intro i
  rw [AppState.bytes, hstore, getElem?_readBytes, Nat.zero_add, overlay]
  by_cases hxs : i < xs.length
  · rw [if_pos (by omega), List.getElem?_append_left hxs,
      List.getElem?_eq_getElem hxs, Option.getD_some]
  · rw [List.getElem?_append_right (by omega), List.getElem?_replicate,
      List.getElem?_eq_none (by omega), Option.getD_none]
    by_cases hi : i < d.size
    · rw [if_pos hi, if_pos (by omega), hclear i hi]
    · rw [if_neg hi, if_neg (by omega)]

theorem AppState.memset_zero (s : AppState) (d : Arr) :
    ∀ i < d.size, (s.memset d d.size).mem d i = 0 := by
  intro i hi
  have hmem : (s.memset d d.size).mem d =
      overlay (s.mem d) (List.replicate d.size 0) :=
    Function.update_self d _ s.mem
  rw [hmem, overlay, List.getElem?_replicate_of_lt hi, Option.getD_some]

/-- An array cleared and filled holds the content and zeros behind it. -/
theorem bytes_fill (s : AppState) (d : Arr) (content : ℕ → UInt8) {len : ℕ}
    (hlen : len ≤ d.size) (hsize : d.size < 4294967296) :
    ((s.memset d d.size).memcpy d content 0 len).bytes d =
      readBytes content 0 len ++ List.replicate (d.size - len) 0 := by
  have hread : (readBytes content 0 len).length = len :=
    readBytes_length content 0 len
  rw [memcpy, sizeT_natCast (Nat.lt_of_le_of_lt hlen hsize),
    bytes_store_of_zero (s.memset_zero d) (by rw [hread]; exact hlen), hread]

variable (content : ℕ → UInt8)

/-- The setting of `0x0031` as the source has it, with the monitor number. -/
theorem keepsTo_noBreak (s : AppState) :
    KeepsTo AppState.field (insert (Field.arr .listenNum) (fieldsOf 0x0031))
      (centreSetSubService8103H 0x0031 2 content) s := by
  have hdur : Within AppState.field
      (insert (Field.arr .listenNum) (fieldsOf 0x0031)) fun s : AppState =>
        s.putDuration
          { s.conf.duration with illgleMovoDisttance := be16 content 0 } := by
    apply within_set (c := .dur .illgleMovoDisttance)
      (v := .num (be16 content 0))
    · exact Set.mem_insert_of_mem _ (List.mem_singleton_self _)
    · exact fun _ => rfl
    · intro s f hne
      cases f with
      | dur m =>
          cases m
          case illgleMovoDisttance => exact absurd rfl hne
          all_goals rfl
      | conf m => cases m <;> rfl
      | _ => rfl
  exact (hdur.comp (within_setListenNum 2 content
    (Set.mem_insert _ _))).frame s

/-- The setting of `0x0082` stores into the member of the province. -/
theorem keepsTo_province (s : AppState) :
    KeepsTo AppState.field (insert (Field.conf .devProvinceId)
      (fieldsOf 0x0082)) (centreSetSubService8103H 0x0082 2 content) s := by
  have hput := within_putProvince (S := insert (Field.conf .devProvinceId)
    (fieldsOf 0x0082)) (be16 content 0) (Set.mem_insert _ _)
  exact hput.frame s

/-- The setting of `0x0013` to an address. -/
theorem service_address {infolen : UInt8}
    (haddr : ¬ (str2ip (regIn infolen content)).1 ≤ 3) (s : AppState) :
    s.centreSetSubService8103H 0x0013 infolen content =
      let ip := (str2ip (regIn infolen content)).2
      let s := { s with
        link.remoteIpMain := ip
        sysConf.ipMain := ip
        sysConf.portMain := s.link.remotePortMain }.saveSysConf
      (s.call (.dataLinkMainSocketSet ip
        s.link.remotePortMain)).setCentreCmdAck 2 := by
  have hserve : s.centreSetSubService8103H 0x0013 infolen content =
      s.setMainServer infolen content := rfl
  rw [hserve, setMainServer]
  exact if_neg haddr

/-- An address stores the port of the link besides. -/
theorem keepsTo_address {infolen : UInt8}
    (haddr : ¬ (str2ip (regIn infolen content)).1 ≤ 3) (s : AppState) :
    KeepsTo AppState.field (insert Field.portMain (fieldsOf 0x0013))
      (centreSetSubService8103H 0x0013 infolen content) s := by
  have hid : 0x0013 ∈ [0x0013] := List.mem_singleton_self _
  intro f hf
  rw [service_address content haddr]
  cases f with
  | ipMain => exact absurd (.inr hid) hf
  | portMain => exact absurd (.inl rfl) hf
  | link m =>
      cases m
      case remoteIpMain => exact absurd (.inr hid) hf
      all_goals rfl
  | _ => rfl

/-! What these settings make of the fields of their parameters does not depend
on anything else. -/

theorem dependsOn_noBreak :
    DependsOn AppState.field (fieldsOf 0x0031)
      (centreSetSubService8103H 0x0031 2 content) := by
  apply dependsOn_of_const_or_unchanged
  intro f hf
  change 0x0031 ∈ f.ids at hf
  cases f with
  | dur m =>
      cases m
      case illgleMovoDisttance =>
        exact .inl ⟨.num (be16 content 0), fun _ => rfl⟩
      all_goals exact absurd hf (by decide)
  | dist m => cases m <;> exact absurd hf (by decide)
  | conf m => cases m <;> exact absurd hf (by decide)
  | door m => cases m <;> exact absurd hf (by decide)
  | link m => cases m <;> exact absurd hf (by decide)
  | arr d => cases d <;> exact absurd hf (by decide)
  | ipMain => exact absurd hf (by decide)
  | portMain => exact absurd hf (by decide)
  | ipAux => exact absurd hf (by decide)
  | portAux => exact absurd hf (by decide)

theorem dependsOn_province :
    DependsOn AppState.field (fieldsOf 0x0082)
      (centreSetSubService8103H 0x0082 2 content) := by
  apply dependsOn_of_const_or_unchanged
  intro f hf
  refine .inr fun s => ?_
  have hne : f ≠ .conf .devProvinceId := by
    rintro rfl
    exact absurd hf (by decide)
  cases f with
  | conf m =>
      cases m
      case devProvinceId => exact absurd rfl hne
      all_goals rfl
  | _ => rfl

theorem dependsOn_address {infolen : UInt8}
    (haddr : ¬ (str2ip (regIn infolen content)).1 ≤ 3) :
    DependsOn AppState.field (fieldsOf 0x0013)
      (centreSetSubService8103H 0x0013 infolen content) := by
  apply dependsOn_of_const_or_unchanged
  intro f hf
  have hserve := service_address content haddr
  by_cases hip : f = .ipMain ∨ f = .link .remoteIpMain
  · left
    refine ⟨.str (str2ip (regIn infolen content)).2, fun s => ?_⟩
    rw [hserve]
    rcases hip with rfl | rfl <;> rfl
  · right
    intro s
    rw [hserve]
    cases f with
    | ipMain => exact absurd (.inl rfl) hip
    | portMain => exact absurd hf (by decide)
    | link m =>
        cases m
        case remoteIpMain => exact absurd (.inr rfl) hip
        all_goals rfl
    | _ => rfl

end Strays

/-! ## Settings that keep to their parameter -/

/-- A setting as an item of a message carries it. -/
structure Setting where
  id : ℕ
  infolen : UInt8
  content : ℕ → UInt8

/-- The configuration after a setting. -/
def Setting.apply (k : Setting) (s : AppState) : AppState :=
  s.centreSetSubService8103H k.id k.infolen k.content

/-- The setting changes no field but those its parameter denotes, and no copy
runs beyond its destination. -/
def SetsOnlyOwn (s : AppState) (k : Setting) : Prop :=
  KeepsTo AppState.field (fieldsOf k.id) k.apply s ∧
    ItemInBounds k.id k.infolen k.content s

/-- The destinations have room, and where the setting strays it finds there what
it would store. -/
structure FindsStray (s : AppState) (k : Setting) : Prop where
  room : RoomFor k.id k.infolen
  noBreak : k.id = 0x0031 → k.infolen = 2 →
    s.bytes .listenNum = readBytes k.content 0 2 ++ List.replicate 28 0
  province : k.id = 0x0082 → k.infolen = 2 →
    s.conf.devProvinceId = be16 k.content 0
  port : k.id = 0x0013 →
    3 < (str2ip (AppState.regIn k.infolen k.content)).1 →
    s.sysConf.portMain = s.link.remotePortMain

theorem plain_or_stray (id : ℕ) (infolen : UInt8) (content : ℕ → UInt8) :
    (id = 0x0031 ∧ infolen = 2) ∨ (id = 0x0082 ∧ infolen = 2) ∨
      (id = 0x0013 ∧ ¬ (str2ip (AppState.regIn infolen content)).1 ≤ 3) ∨
        Plain id infolen content := by
  by_cases hbreak : id = 0x0031 ∧ infolen = 2
  · exact .inl hbreak
  by_cases hprov : id = 0x0082 ∧ infolen = 2
  · exact .inr (.inl hprov)
  by_cases haddr : id = 0x0013 ∧
      ¬ (str2ip (AppState.regIn infolen content)).1 ≤ 3
  · exact .inr (.inr (.inl haddr))
  refine .inr (.inr (.inr ⟨hbreak, hprov, fun hid => ?_⟩))
  by_contra hip
  exact haddr ⟨hid, hip⟩

/-- A setting that stores into one field beside those of its parameter. -/
theorem setsOnlyOwn_iff_of_stray {s : AppState} {k : Setting} {c : Field}
    {v : FieldValue}
    (hkeeps : KeepsTo AppState.field (insert c (fieldsOf k.id)) k.apply s)
    (hc : c ∉ fieldsOf k.id) (hstray : (k.apply s).field c = v) :
    SetsOnlyOwn s k ↔ RoomFor k.id k.infolen ∧ s.field c = v := by
  rw [SetsOnlyOwn, keepsTo_iff_of_insert hkeeps hc, hstray, itemInBounds_iff,
    eq_comm, and_comm]

theorem setsOnlyOwn_noBreak_iff (s : AppState) (content : ℕ → UInt8) :
    SetsOnlyOwn s ⟨0x0031, 2, content⟩ ↔
      s.bytes .listenNum =
        readBytes content 0 2 ++ List.replicate 28 0 := by
  have hfill := bytes_fill (s.putDuration { s.conf.duration with
    illgleMovoDisttance := be16 content 0 }) .listenNum content
    (show 2 ≤ 30 by decide) (by decide)
  have hstray : (s.centreSetSubService8103H 0x0031 2 content).field
      (.arr .listenNum) =
        .str (readBytes content 0 2 ++ List.replicate 28 0) :=
    congrArg FieldValue.str hfill
  have hown : Field.arr .listenNum ∉ fieldsOf 0x0031 := by decide
  rw [setsOnlyOwn_iff_of_stray (k := ⟨0x0031, 2, content⟩)
    (keepsTo_noBreak content s) hown hstray]
  exact ⟨fun h => FieldValue.str.inj h.2,
    fun h => ⟨trivial, congrArg FieldValue.str h⟩⟩

theorem setsOnlyOwn_province_iff (s : AppState) (content : ℕ → UInt8) :
    SetsOnlyOwn s ⟨0x0082, 2, content⟩ ↔
      s.conf.devProvinceId = be16 content 0 := by
  have hstray : (s.centreSetSubService8103H 0x0082 2 content).field
      (.conf .devProvinceId) = .num (be16 content 0) := rfl
  have hown : Field.conf .devProvinceId ∉ fieldsOf 0x0082 := by decide
  rw [setsOnlyOwn_iff_of_stray (k := ⟨0x0082, 2, content⟩)
    (keepsTo_province content s) hown hstray]
  exact ⟨fun h => FieldValue.num.inj h.2,
    fun h => ⟨trivial, congrArg FieldValue.num h⟩⟩

theorem setsOnlyOwn_address_iff (s : AppState) {infolen : UInt8}
    {content : ℕ → UInt8}
    (hip : ¬ (str2ip (AppState.regIn infolen content)).1 ≤ 3) :
    SetsOnlyOwn s ⟨0x0013, infolen, content⟩ ↔
      RoomFor 0x0013 infolen ∧ s.sysConf.portMain = s.link.remotePortMain := by
  have hstray : (s.centreSetSubService8103H 0x0013 infolen content).field
      .portMain = .num s.link.remotePortMain := by
    rw [service_address content hip]
    rfl
  have hown : Field.portMain ∉ fieldsOf 0x0013 := by decide
  rw [setsOnlyOwn_iff_of_stray (k := ⟨0x0013, infolen, content⟩)
    (keepsTo_address content hip s) hown hstray]
  exact ⟨fun h => ⟨h.1, FieldValue.num.inj h.2⟩,
    fun h => ⟨h.1, congrArg FieldValue.num h.2⟩⟩

theorem setsOnlyOwn_iff (s : AppState) (k : Setting) :
    SetsOnlyOwn s k ↔ FindsStray s k := by
  obtain ⟨id, infolen, content⟩ := k
  obtain ⟨rfl, rfl⟩ | ⟨rfl, rfl⟩ | ⟨rfl, hip⟩ | hplain :=
    plain_or_stray id infolen content
  · rw [setsOnlyOwn_noBreak_iff]
    exact ⟨fun h => ⟨trivial, fun _ _ => h, nofun, nofun⟩,
      fun h => h.noBreak rfl rfl⟩
  · rw [setsOnlyOwn_province_iff]
    exact ⟨fun h => ⟨trivial, nofun, fun _ _ => h, nofun⟩,
      fun h => h.province rfl rfl⟩
  · rw [setsOnlyOwn_address_iff s hip]
    exact ⟨fun h => ⟨h.1, nofun, nofun, fun _ _ => h.2⟩,
      fun h => ⟨h.room, h.port rfl (Nat.lt_of_not_le hip)⟩⟩
  · have hroom : ItemInBounds id infolen content s ↔ RoomFor id infolen :=
      itemInBounds_iff id infolen content s
    constructor
    · rintro ⟨-, hin⟩
      refine ⟨hroom.mp hin, ?_, ?_, ?_⟩
      · exact fun hid hlen => absurd ⟨hid, hlen⟩ hplain.noBreak
      · exact fun hid hlen => absurd ⟨hid, hlen⟩ hplain.province
      · exact fun hid hip => absurd (hplain.port hid) (Nat.not_le_of_lt hip)
    · intro h
      exact ⟨(within_service hplain).frame s, hroom.mpr h.room⟩

theorem dependsOn_apply (k : Setting) :
    DependsOn AppState.field (fieldsOf k.id) k.apply := by
  obtain ⟨id, infolen, content⟩ := k
  obtain ⟨rfl, rfl⟩ | ⟨rfl, rfl⟩ | ⟨rfl, hip⟩ | hplain :=
    plain_or_stray id infolen content
  · exact dependsOn_noBreak content
  · exact dependsOn_province content
  · exact dependsOn_address content hip
  · exact (within_service hplain).local_

/-! ## Settings in any order -/

/-- The parameters whose settings can be exchanged. -/
def SettingId (n : ℕ) : Prop :=
  0x0001 ≤ n ∧ n ≤ 0x0005 ∨ 0x0010 ≤ n ∧ n ≤ 0x0019 ∨
    0x0022 ≤ n ∧ n ≤ 0x0031 ∨ n = 0x0048 ∨ 0x0055 ≤ n ∧ n ≤ 0x005A ∨
    0x0081 ≤ n ∧ n ≤ 0x0084

instance (n : ℕ) : Decidable (SettingId n) :=
  inferInstanceAs (Decidable (_ ∨ _))

/-- A field belongs to one parameter, except for the monitor number. -/
theorem ids_length_le_one {f : Field} (hf : f ≠ .arr .listenNum) :
    f.ids.length ≤ 1 := by
  cases f with
  | dur m => cases m <;> decide
  | dist m => cases m <;> decide
  | conf m => cases m <;> decide
  | door m => cases m <;> decide
  | link m => cases m <;> decide
  | arr d =>
      cases d
      case listenNum => exact absurd rfl hf
      all_goals decide
  | ipMain => decide
  | portMain => decide
  | ipAux => decide
  | portAux => decide

theorem fieldsOf_disjoint {a b : ℕ} (ha : SettingId a) (hb : SettingId b)
    (hne : a ≠ b) : Disjoint (fieldsOf a) (fieldsOf b) := by
  rw [Set.disjoint_left]
  intro f hfa hfb
  change a ∈ f.ids at hfa
  change b ∈ f.ids at hfb
  by_cases hf : f = .arr .listenNum
  · subst hf
    have hlisten {n : ℕ} (hn : SettingId n)
        (hmem : n ∈ (Field.arr .listenNum).ids) : n = 0x0048 := by
      rcases List.mem_pair.mp hmem with rfl | rfl
      · exact absurd hn (by decide)
      · rfl
    exact hne ((hlisten ha hfa).trans (hlisten hb hfb).symm)
  · obtain ⟨i, hi, rfl⟩ := List.mem_iff_getElem.mp hfa
    obtain ⟨j, hj, rfl⟩ := List.mem_iff_getElem.mp hfb
    have hlen := ids_length_le_one hf
    have hij : i = j := by omega
    subst hij
    exact hne rfl

/-- Whatever the order, every setting keeps to the fields of its parameter, and
the configuration comes out the same. -/
def AnyOrder (s : AppState) (ks : List Setting) : Prop :=
  ∀ ks' : List Setting, ks'.Perm ks →
    Runs.Throughout (fun s k => k.apply s) SetsOnlyOwn s ks' ∧
      (runOps Setting.apply ks' s).field = (runOps Setting.apply ks s).field

/-- Settings of different parameters. -/
structure SettingList where
  items : List Setting
  settable : ∀ k ∈ items, SettingId k.id
  distinct : (items.map Setting.id).Nodup

theorem SettingList.pairwise_disjoint (l : SettingList) :
    l.items.Pairwise fun k k' => Disjoint (fieldsOf k.id) (fieldsOf k'.id) := by
  have hne : l.items.Pairwise fun k k' => k.id ≠ k'.id :=
    List.pairwise_map.mp l.distinct
  refine hne.imp_of_mem ?_
  intro k k' hk hk' hid
  exact fieldsOf_disjoint (l.settable k hk) (l.settable k' hk') hid

/-- A run whose settings find what they stray into keeps every setting to its
own fields. -/
theorem keepingRun_of_meeting {s : AppState} {ks : List Setting}
    (h : Runs.Meeting (fun s k => k.apply s) FindsStray s ks) :
    KeepingRun AppState.field (fun k => fieldsOf k.id) Setting.apply s ks := by
  induction ks generalizing s with
  | nil => trivial
  | cons k ks ih => exact ⟨((setsOnlyOwn_iff s k).mpr h.1).1, ih h.2⟩

theorem anyOrder_iff (s : AppState) (l : SettingList) :
    AnyOrder s l.items ↔ ∀ ks : List Setting, ks.Perm l.items →
      Runs.Meeting (fun s k => k.apply s) FindsStray s ks := by
  have hsteps (ks : List Setting) :
      Runs.Throughout (fun s k => k.apply s) SetsOnlyOwn s ks ↔
        Runs.Meeting (fun s k => k.apply s) FindsStray s ks :=
    Runs.throughout_iff_meeting setsOnlyOwn_iff s ks
  constructor
  · intro h ks hperm
    exact (hsteps ks).mp (h ks hperm).1
  · intro h ks hperm
    refine ⟨(hsteps ks).mpr (h ks hperm), ?_⟩
    exact view_runOps_perm dependsOn_apply hperm
      (keepingRun_of_meeting (h l.items (List.Perm.refl _)))
      (keepingRun_of_meeting (h ks hperm)) l.pairwise_disjoint

/-- A setting changes its own fields only, exactly when what it would stray into
already holds what it stores; and settings of different parameters give the same
configuration in any order, each of them changing its own fields only, exactly
when this is so for every step of every order. -/
theorem parameterSetting_frame (s : AppState) (k : Setting)
    (l : SettingList) :
    (SetsOnlyOwn s k ↔ FindsStray s k) ∧
      (AnyOrder s l.items ↔ ∀ ks : List Setting, ks.Perm l.items →
        Runs.Meeting (fun s k => k.apply s) FindsStray s ks) :=
  ⟨setsOnlyOwn_iff s k, anyOrder_iff s l⟩

/-- The distance of `0x0031` overwrites the monitor number. -/
theorem noBreak_writes_listenNum :
    ¬ SetsOnlyOwn {} ⟨0x0031, 2, fun _ => 0x61⟩ := by
  intro h
  have hfound := ((setsOnlyOwn_iff _ _).mp h).noBreak rfl rfl
  exact absurd hfound (by decide)

end VehicleRecorder.Protocol
