import VehicleRecorder.Lib.PriorityServer
import VehicleRecorder.Protocol.Terminal
import VehicleRecorder.Protocol.RecorderAck
import VehicleRecorder.Dataflash.CycleStore

/-!
# What the application sends next

`Do_SendGPSReport_GPRS` is a chain of branches.  Each looks at the flags of one
message; the first one that finds them set sends the message, clears its flag and
returns.  The chain is a server with fixed priorities whose requests are the
messages, and a branch is its guard and its body.

The value the function returns is not used by its caller.  What a message
contains is not part of the module, nor is what the end of a remote update does
with the file it has received.
-/

namespace VehicleRecorder.Protocol

open Dataflash

/-- `Max_SystemCounter`. -/
def maxSystemCounter : ℕ := 28800

/-- The branches, in their order. -/
def Request.order : List Request :=
  [.login0102, .media0801, .register0100, .deregister0101, .heart0002,
    .sleepConfig, .position0201, .event0301, .ask0302, .takeAck0805,
    .control0500, .recorder0700, .msg0303, .mediaInfo0800, .dataTrans0900,
    .mediaIndex0802, .driverInfo0702, .worklist0701, .commonAck0001,
    .setting0104, .isp92, .isp96, .isp94, .ispHeart, .current0200, .normal0200]

namespace Terminal

/-- `DEV_Login.Operate_enable==2`. -/
def loggedIn (t : Terminal) : Bool := t.app.link.devLoginOperateEnable = 2

/-- A message given to the modem thread. -/
def send (t : Terminal) (r : Request) : Terminal :=
  { t with sent := t.sent ++ [r] }

/-- The condition of a branch. -/
def guard (t : Terminal) : Request → Bool
  | .login0102 => !t.loggedIn && t.login.enableSd = 1
  | .media0801 => t.app.media.mediaObj.mediaTransmittingFlag = 2 && t.loggedIn
  | .register0100 => t.regist.enableSd = 1
  | .deregister0101 => t.regist.deRegstSd = 1
  | .heart0002 =>
      t.flags.heartSdFlag = 1 && t.dataLinkStatus && t.flags.sleepState = 0
  | .sleepConfig =>
      t.flags.sleepConfigFlag = 1 && t.dataLinkStatus && t.flags.sleepState = 1
  | .position0201 => t.app.sdAckFlag.currentPosition0201H = 1
  | .event0301 => t.flags.currentEventAck0301H = 1
  | .ask0302 => t.app.records.askCentre.askSdFlag = 2
  | .takeAck0805 => t.flags.centreTakeAck0805H = 1
  | .control0500 => t.app.vehicle.controlAckSdFlag = 1
  | .recorder0700 => t.app.media.recodeSdDataFlag = 1
  | .msg0303 => t.flags.msgBroadCast0303H = 1
  | .mediaInfo0800 => t.app.media.mediaObj.sdMediaFlag = 1 && t.loggedIn
  | .dataTrans0900 => t.flags.dataTxLen ≠ 0
  | .mediaIndex0802 => t.app.sdAckFlag.mediaIndexAck0802H ≠ 0
  | .driverInfo0702 => t.flags.driverInfoSd0702H ≠ 0
  | .worklist0701 => t.flags.worklistSd0701H ≠ 0
  | .commonAck0001 => t.app.sdAckFlag.centreCmdAck0001H ≠ 0
  | .setting0104 => t.app.sdAckFlag.settingPram0104H ≠ 0
  | .isp92 => t.app.isp.ack = 1 && t.modem.tcp2Connect = 1
  | .isp96 => t.app.isp.ack23 = 1 && t.modem.tcp2Connect = 1
  | .isp94 => t.app.isp.ack88 = 1 && t.modem.tcp2Connect = 1
  | .ispHeart =>
      t.modem.tcp2Connect = 1 && t.modem.tcp2SdFlag = 1 &&
        t.app.isp.runningState = 0
  | .current0200 =>
      -- `&&` binds tighter than `||`: only the first case asks for the login
      t.app.device.positionSdEnable && t.loggedIn &&
          (t.flags.transGnssFlag = 1 || t.flags.dispContent = 6) ||
        t.app.device.currentUdpSd ≠ 0 && t.app.device.positionSdEnable ||
        t.flags.dfLock = 1 && t.app.device.positionSdEnable
  | .normal0200 =>
      t.app.device.readCycleStatus = .rdyToSd && t.app.isp.runningState = 0 &&
        t.dataLinkStatus && t.loggedIn

/-- What follows the general answer `0x0001`, by the value of its flag. -/
def afterCommonAck (t : Terminal) : Terminal :=
  match t.app.sdAckFlag.centreCmdAck0001H with
  | 2 => t.closeDataLink
  | 3 => { t with flags.systermResetCounter := maxSystemCounter }
  | 5 => t.closeDataLink
  | _ => t

/-- The body of a branch. -/
def serve (t : Terminal) : Request → Terminal
  | .login0102 => { t.send .login0102 with login.enableSd := 0 }
  | .media0801 =>
      -- nothing else may be sent while media are transferred
      if t.app.media.mediaObj.sdDataFlag = 1 then
        { t.send .media0801 with app.media.mediaObj.sdDataFlag := 0 }
      else t
  | .register0100 =>
      { t.send .register0100 with
        app := t.app.saveJT808
        regist.enableSd := 0 }
  | .deregister0101 => { t.send .deregister0101 with regist.deRegstSd := 0 }
  | .heart0002 =>
      { t.send .heart0002 with
        flags.heartSdFlag := 0
        app.conf.duration.tcpSdState := 1 }
  | .sleepConfig => { t with flags.sleepConfigFlag := 0 }
  | .position0201 =>
      { t.send .position0201 with app.sdAckFlag.currentPosition0201H := 0 }
  | .event0301 => { t.send .event0301 with flags.currentEventAck0301H := 0 }
  | .ask0302 => { t.send .ask0302 with app.records.askCentre.askSdFlag := 0 }
  | .takeAck0805 => { t.send .takeAck0805 with flags.centreTakeAck0805H := 0 }
  | .control0500 => { t.send .control0500 with app.vehicle.controlAckSdFlag := 0 }
  | .recorder0700 =>
      -- for a command that is not answered the flag is cleared all the same
      if t.app.media.recodeCmd ∈ AppState.recorderCommands then
        { t.send .recorder0700 with app.media.recodeSdDataFlag := 0 }
      else { t with app.media.recodeSdDataFlag := 0 }
  | .msg0303 => { t.send .msg0303 with flags.msgBroadCast0303H := 0 }
  | .mediaInfo0800 =>
      { t.send .mediaInfo0800 with app.media.mediaObj.sdMediaFlag := 2 }
  | .dataTrans0900 => { t.send .dataTrans0900 with flags.dataTxLen := 0 }
  | .mediaIndex0802 =>
      { t.send .mediaIndex0802 with app.sdAckFlag.mediaIndexAck0802H := 0 }
  | .driverInfo0702 => { t.send .driverInfo0702 with flags.driverInfoSd0702H := 0 }
  | .worklist0701 => { t.send .worklist0701 with flags.worklistSd0701H := 0 }
  | .commonAck0001 =>
      { (t.send .commonAck0001).afterCommonAck with
        app.sdAckFlag.centreCmdAck0001H := 0
        app.sdAckFlag.centreCmdAckResualt := 0 }
  | .setting0104 =>
      { t.send .setting0104 with app.sdAckFlag.settingPram0104H := 0 }
  | .isp92 => { t.send .isp92 with app.isp.ack := 0 }
  | .isp96 => { t.send .isp96 with app.isp.ack23 := 0 }
  | .isp94 => { t.send .isp94 with app.isp.ack88 := 0 }
  | .ispHeart => { t.send .ispHeart with modem.tcp2SdFlag := 0 }
  | .current0200 =>
      { t.send .current0200 with
        app.device.positionSdEnable := false
        app.device.currentUdpSd := 0
        app.device.readFailSdCurrent := 0 }
  | .normal0200 =>
      match sendSavedReport t.app.device with
      | (d, some _) =>
          { t.send .normal0200 with app.device := d, flags.sendRdy4ok := 1 }
      | (d, none) => { t with app.device := d }

/-- The chain of branches. -/
def sendServer : PriorityServer Request Terminal where
  order := Request.order
  guard := fun r t => t.guard r
  serve := fun r t => t.serve r

/-- `Do_SendGPSReport_GPRS`. -/
def doSendGpsReport (t : Terminal) : Terminal := sendServer.call t

/-- `CallState==CallState_Idle`. -/
def callIdle (t : Terminal) : Bool := t.app.texts.callState = 0

/-- The second part of the loop of `App808_thread_entry`: a report if the link is
online and no call is made, or the call to the monitoring centre. -/
def appReport (t : Terminal) : Terminal :=
  if t.dataLinkStatus && t.callIdle then t.doSendGpsReport
  else if t.app.texts.callState = 5 then
    { t.output (.atd (cString (t.app.bytes .listenNum))) with
      app.texts.callState := 8 }
  else t

/-! ## What a branch changes -/

theorem guard_afterCommonAck (t : Terminal) (r : Request) :
    t.afterCommonAck.guard r = t.guard r := by
  rw [afterCommonAck]
  split <;> cases r <;> rfl

/-- A branch changes the condition of no other branch in front of the stored
reports. -/
theorem guard_serve_of_ne (t : Terminal) {i j : Request} (hij : i ≠ j)
    (hj : j ≠ .normal0200) : (t.serve j).guard i = t.guard i := by
  cases j with
  | media0801 =>
      rw [serve]
      split
      · cases i with
        | media0801 => exact absurd rfl hij
        | _ => rfl
      · rfl
  | recorder0700 =>
      rw [serve]
      split <;> cases i <;> first | rfl | exact absurd rfl hij
  | commonAck0001 =>
      have hsame := guard_afterCommonAck (t.send .commonAck0001) i
      cases i with
      | commonAck0001 => exact absurd rfl hij
      | _ => exact hsame
  | normal0200 => exact absurd rfl hj
  | _ =>
      cases i <;> first | rfl | exact absurd rfl hij

/-- The body of a branch leaves its condition false, but for the transfer of
media and the stored reports. -/
theorem guard_serve_self (t : Terminal) {r : Request} (hmedia : r ≠ .media0801)
    (hnormal : r ≠ .normal0200) : (t.serve r).guard r = false := by
  cases r with
  | media0801 => exact absurd rfl hmedia
  | normal0200 => exact absurd rfl hnormal
  | commonAck0001 => rfl
  | recorder0700 =>
      rw [serve]
      split <;> rfl
  | _ => simp [serve, guard, send]

end Terminal

end VehicleRecorder.Protocol
