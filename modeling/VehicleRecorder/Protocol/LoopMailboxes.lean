import VehicleRecorder.Lib.Mailbox
import VehicleRecorder.Protocol.Framing

/-!
# The mailboxes between the application and the modem

The loops of `App808_thread_entry` and `gsm_thread_entry` pass frames and
messages to each other through one buffer and one flag in either direction:
`GPRS_info` with `Send_DataFlag`, and `GSM_HEX` with `Receive_DataFlag`.

A step is one turn of one of the loops.  The module says in which runs nothing
is lost.
-/

namespace VehicleRecorder.Protocol

/-- What a turn of the GSM loop finds in the queue of the modem. -/
inductive ModemLine
  | none
  | ipData (content : List UInt8)
  | linkUp
  | linkDown
  deriving DecidableEq, Repr

/-- One turn of a loop; the application sends a message of the given type or
nothing. -/
inductive LoopTurn
  | app (message : Option (PacketType × List UInt8))
  | gsm (line : ModemLine)
  deriving DecidableEq, Repr

/-- The buffers, the flags and the link, with what has passed through them. -/
structure Loops where
  tx : TxState := { originalInfo := [] }
  sendDataFlag : Bool := false
  /-- `GSM_HEX`, up to its length. -/
  gsmHex : List UInt8 := []
  receiveDataFlag : Bool := false
  dataLinkOnline : Bool := false
  /-- The frames built with the link online. -/
  built : List (List UInt8) := []
  transmitted : List (List UInt8) := []
  received : List (List UInt8) := []
  /-- What `TCP_RX_Process` was called with. -/
  processed : List (List UInt8) := []

namespace Loops

/-- The head of the loop of `App808_thread_entry`. -/
def receive (l : Loops) : Loops :=
  if l.receiveDataFlag then
    { l with
      processed := l.processed ++ [l.gsmHex]
      receiveDataFlag := false }
  else l

/-- `Do_SendGPSReport_GPRS`, called with the link online. -/
def send (l : Loops) (message : Option (PacketType × List UInt8)) : Loops :=
  if l.dataLinkOnline then
    match message with
    | some (type, info) =>
        let tx := protocolEnd { l.tx with originalInfo := info } type 0
        { l with
          tx := tx
          sendDataFlag := true
          built := l.built ++ [tx.gprsInfo] }
    | none => l
  else l

/-- `GSM_Buffer_Read_Process` and `DataLink_Process`. -/
def readLine (l : Loops) : ModemLine → Loops
  | .none => l
  | .ipData content =>
      { l with
        gsmHex := content
        receiveDataFlag := true
        received := l.received ++ [content] }
  | .linkUp => { l with dataLinkOnline := true }
  | .linkDown => { l with dataLinkOnline := false }

/-- The end of the loop of `gsm_thread_entry`. -/
def transmit (l : Loops) : Loops :=
  if l.sendDataFlag then
    { l with
      transmitted :=
        if l.dataLinkOnline then l.transmitted ++ [l.tx.gprsInfo]
        else l.transmitted
      sendDataFlag := false }
  else l

def step (l : Loops) : LoopTurn → Loops
  | .app message => l.receive.send message
  | .gsm line => (l.readLine line).transmit

def run (l : Loops) (turns : List LoopTurn) : Loops := turns.foldl step l

/-- The frame that waits in `GPRS_info`. -/
def frameWaiting (l : Loops) : Option (List UInt8) :=
  if l.sendDataFlag then some l.tx.gprsInfo else none

/-- The message that waits in `GSM_HEX`. -/
def messageWaiting (l : Loops) : Option (List UInt8) :=
  if l.receiveDataFlag then some l.gsmHex else none

/-- Every frame built with the link online has been transmitted once and
unaltered, and every message received has been processed once and unaltered,
unless it is the one that waits. -/
structure NothingLost (l : Loops) : Prop where
  frames : l.built = l.transmitted ++ l.frameWaiting.toList
  messages : l.received = l.processed ++ l.messageWaiting.toList

instance (l : Loops) : Decidable l.NothingLost :=
  decidable_of_iff
    (l.built = l.transmitted ++ l.frameWaiting.toList ∧
      l.received = l.processed ++ l.messageWaiting.toList)
    ⟨fun h => ⟨h.1, h.2⟩, fun h => ⟨h.frames, h.messages⟩⟩

/-- A frame is built only when none waits, a message comes only when none waits,
and the link is online in the turn that transmits. -/
def Meets (l : Loops) : LoopTurn → Prop
  | .app message =>
      message ≠ none → l.dataLinkOnline = true → l.sendDataFlag = false
  | .gsm line =>
      (∀ content, line = .ipData content → l.receiveDataFlag = false) ∧
        (l.sendDataFlag = true → (l.readLine line).dataLinkOnline = true)

/-- Every turn of a run meets the condition. -/
def RunMeets (l : Loops) : List LoopTurn → Prop
  | [] => True
  | turn :: turns => l.Meets turn ∧ (l.step turn).RunMeets turns

/-! ## The two mailboxes -/

/-- The mailbox of the frames. -/
def frames (l : Loops) : Mailbox (List UInt8) :=
  ⟨l.frameWaiting, l.built, l.transmitted⟩

/-- The mailbox of the messages. -/
def messages (l : Loops) : Mailbox (List UInt8) :=
  ⟨l.messageWaiting, l.received, l.processed⟩

theorem nothingLost_iff (l : Loops) :
    l.NothingLost ↔ l.frames.Lossless ∧ l.messages.Lossless :=
  ⟨fun h => ⟨h.frames, h.messages⟩, fun h => ⟨h.1, h.2⟩⟩

theorem messages_send (l : Loops)
    (message : Option (PacketType × List UInt8)) :
    (l.send message).messages = l.messages := by
  cases message with
  | none =>
      rw [send.eq_def]
      split_ifs <;> rfl
  | some message =>
      rw [send.eq_def]
      split_ifs <;> rfl

theorem frames_receive (l : Loops) : l.receive.frames = l.frames := by
  rw [receive]
  split_ifs <;> rfl

theorem messages_receive (l : Loops) :
    l.receive.messages = l.messages.step .take := by
  rw [receive]
  by_cases hflag : l.receiveDataFlag = true
  · rw [if_pos hflag]
    simp [messages, messageWaiting, Mailbox.step, hflag]
  · rw [if_neg hflag]
    simp [messages, messageWaiting, Mailbox.step, hflag]

/-- The application posts the frame it builds. -/
theorem frames_send {l : Loops} (honline : l.dataLinkOnline = true)
    (type : PacketType) (info : List UInt8) :
    ∃ frame, (l.send (some (type, info))).frames =
      l.frames.step (.post frame) := by
  rw [send.eq_def, if_pos honline]
  exact ⟨_, rfl⟩

theorem messages_transmit (l : Loops) : l.transmit.messages = l.messages := by
  rw [transmit]
  split_ifs <;> rfl

theorem frames_readLine (l : Loops) (line : ModemLine) :
    (l.readLine line).frames = l.frames := by
  cases line <;> rfl

/-- The GSM loop takes the frame, or discards it when the link is down. -/
theorem frames_transmit (l : Loops) :
    l.transmit.frames =
      l.frames.step (if l.dataLinkOnline then .take else .discard) := by
  rw [transmit]
  cases hflag : l.sendDataFlag <;> cases honline : l.dataLinkOnline <;>
    simp [frames, frameWaiting, Mailbox.step, hflag]

theorem frames_slot (l : Loops) :
    l.frames.slot = none ↔ l.sendDataFlag = false := by
  rw [frames, frameWaiting]
  cases l.sendDataFlag <;> simp

theorem messages_slot (l : Loops) :
    l.messages.slot = none ↔ l.receiveDataFlag = false := by
  rw [messages, messageWaiting]
  cases l.receiveDataFlag <;> simp

/-! ## One turn -/

theorem app_iff {l : Loops} (h : l.NothingLost)
    (message : Option (PacketType × List UInt8)) :
    (l.step (.app message)).NothingLost ↔ l.Meets (.app message) := by
  obtain ⟨hframes, hmessages⟩ := l.nothingLost_iff.mp h
  have htake : (l.step (.app message)).messages.Lossless := by
    rw [step, messages_send, messages_receive]
    exact (hmessages.step_iff .take).mpr trivial
  have honline : l.receive.dataLinkOnline = l.dataLinkOnline := by
    rw [receive]
    split_ifs <;> rfl
  rw [nothingLost_iff, and_iff_left htake]
  by_cases hlink : l.dataLinkOnline = true
  · cases message with
    | none =>
        have hsame : (l.step (.app none)).frames = l.frames := by
          rw [step, send.eq_def, if_pos (honline.trans hlink), frames_receive]
        rw [hsame]
        exact iff_of_true hframes fun hne => absurd rfl hne
    | some message =>
        obtain ⟨frame, hpost⟩ :=
          frames_send (honline.trans hlink) message.1 message.2
        have hstep : (l.step (.app (some message))).frames =
            l.frames.step (.post frame) := by
          rw [step, hpost, frames_receive]
        rw [hstep, hframes.step_iff]
        change l.frames.slot = none ↔ _
        rw [frames_slot]
        exact ⟨fun hflag _ _ => hflag, fun hmeets => hmeets (by simp) hlink⟩
  · have hsame : (l.step (.app message)).frames = l.frames := by
      rw [step, send.eq_def, if_neg (by rw [honline]; exact hlink),
        frames_receive]
    rw [hsame]
    exact iff_of_true hframes fun _ hup => absurd hup hlink

theorem gsm_iff {l : Loops} (h : l.NothingLost) (line : ModemLine) :
    (l.step (.gsm line)).NothingLost ↔ l.Meets (.gsm line) := by
  obtain ⟨hframes, hmessages⟩ := l.nothingLost_iff.mp h
  have hmsg : (l.step (.gsm line)).messages.Lossless ↔
      ∀ content, line = .ipData content → l.receiveDataFlag = false := by
    rw [step, messages_transmit]
    cases line with
    | none => exact iff_of_true hmessages fun _ heq => nomatch heq
    | linkUp => exact iff_of_true hmessages fun _ heq => nomatch heq
    | linkDown => exact iff_of_true hmessages fun _ heq => nomatch heq
    | ipData content =>
        have hpost : (l.readLine (.ipData content)).messages =
            l.messages.step (.post content) := rfl
        rw [hpost, hmessages.step_iff]
        change l.messages.slot = none ↔ _
        rw [messages_slot]
        exact ⟨fun hflag _ _ => hflag, fun hall => hall content rfl⟩
  have hfrm : (l.step (.gsm line)).frames.Lossless ↔
      (l.sendDataFlag = true → (l.readLine line).dataLinkOnline = true) := by
    rw [step, frames_transmit, frames_readLine, hframes.step_iff]
    cases honline : (l.readLine line).dataLinkOnline with
    | true => exact iff_of_true trivial fun _ => rfl
    | false =>
        change l.frames.slot = none ↔ _
        rw [frames_slot]
        cases l.sendDataFlag <;> simp
  rw [nothingLost_iff, hmsg, hfrm]
  exact And.comm

/-- A turn loses nothing exactly if it meets the condition. -/
theorem step_iff {l : Loops} (h : l.NothingLost) (turn : LoopTurn) :
    (l.step turn).NothingLost ↔ l.Meets turn := by
  cases turn with
  | app message => exact app_iff h message
  | gsm line => exact gsm_iff h line

/-! ## Runs -/

theorem run_iff {l : Loops} (h : l.NothingLost) (turns : List LoopTurn) :
    (∀ turns₁, turns₁ <+: turns → (l.run turns₁).NothingLost) ↔
      l.RunMeets turns := by
  induction turns generalizing l with
  | nil =>
      refine iff_of_true ?_ trivial
      intro turns₁ hpre
      rw [List.prefix_nil.mp hpre]
      exact h
  | cons turn turns ih =>
      constructor
      · intro hall
        have hstep : (l.step turn).NothingLost :=
          hall [turn] (List.cons_prefix_cons.mpr ⟨rfl, List.nil_prefix⟩)
        refine ⟨(step_iff h turn).mp hstep, (ih hstep).mp ?_⟩
        intro turns₁ hpre
        exact hall (turn :: turns₁) (List.cons_prefix_cons.mpr ⟨rfl, hpre⟩)
      · rintro ⟨hmeets, hrest⟩ turns₁ hpre
        have hstep := (step_iff h turn).mpr hmeets
        cases turns₁ with
        | nil => exact h
        | cons turn₁ turns₁ =>
            obtain ⟨rfl, htail⟩ := List.cons_prefix_cons.mp hpre
            exact (ih hstep).mpr hrest turns₁ htail

end Loops

end VehicleRecorder.Protocol
