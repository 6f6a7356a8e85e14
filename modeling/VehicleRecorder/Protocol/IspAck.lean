import VehicleRecorder.Protocol.RecorderAck
import VehicleRecorder.Protocol.TcpRxProcess

/-!
# The acknowledgements of the remote update

The remote update has a protocol of its own within the transparent messages:
`*GB`, two reserved bytes, the SIM code, a length, a number, a type, a command,
the information and the XOR of all from the SIM code's reserved bytes on.
`Stuff_DataTrans_0900_ISP_ACK` stuffs such a frame into a message `0x0900`, and
`DataTrans_ISPService_8900H` checks one.

The reader counts from the frame, the writer sums from byte 3 of the message.
The module says for which SIM codes and float numbers the two agree.
-/

namespace VehicleRecorder.Protocol

open Bytes

/-! ## The reader -/

/-- `"*GB"`. -/
def gbStart : List UInt8 := [0x2A, 0x47, 0x42]

/-- The length field of a frame. -/
def gbInfolen (instr : ℕ → UInt8) : ℕ := be16 instr 11

/-- `FCS_RX_UDP_sub`: the XOR over the length of the frame less one. -/
def gbFcs (instr : ℕ → UInt8) : UInt8 :=
  xorSum (readBytes instr 3 (gbInfolen instr - 1))

namespace AppState

/-- `DataTrans_ISPService_8900H`.  What it does with the packets of the command
`0x93` is switched off in the source. -/
def dataTransIspService8900H (instr : ℕ → UInt8) (s : AppState) : AppState :=
  if strncmpEq instr (overlay (fun _ => 0) gbStart) 0 3 = false then s
  else if instr (gbInfolen instr + 2) ≠ gbFcs instr then s
  else
    match instr 15 with
    | 0x91 =>
        { s with
          isp.rxCmd := instr 15
          isp.ack := 1
          isp.runningState := 1
          isp.runningCounter := 0
          isp.repeatCounter := 0 }
    | 0x93 =>
        { s with
          isp.runningState := 1
          isp.runningCounter := 0
          isp.ack88 := 1 }
    | 0x95 =>
        { s with
          isp.ack23 := 1
          isp.runningState := 1
          isp.runningCounter := 0
          isp.repeatCounter := 0 }
    | _ => s

end AppState

/-- A frame passes the checks of the reader. -/
structure GbChecks (instr : ℕ → UInt8) : Prop where
  start : strncmpEq instr (overlay (fun _ => 0) gbStart) 0 3 = true
  fcs : instr (gbInfolen instr + 2) = gbFcs instr

/-- A frame of `n` bytes that passes the checks and ends in `0x0D 0x0A` behind
its XOR. -/
structure GbFrame (instr : ℕ → UInt8) (n : ℕ) : Prop
    extends GbChecks instr where
  cr : instr (gbInfolen instr + 3) = 0x0D
  lf : instr (gbInfolen instr + 4) = 0x0A
  length : n = gbInfolen instr + 5

/-- A frame whose start, length and end are right is checked by its XOR
alone. -/
theorem gbFrame_iff {instr : ℕ → UInt8} {len : ℕ} {fcs : UInt8}
    {content : List UInt8} (hstart : readBytes instr 0 3 = gbStart)
    (hlen : gbInfolen instr = len)
    (hcontent : readBytes instr 3 (len - 1) = content)
    (hend : readBytes instr (len + 2) 3 = [fcs, 0x0D, 0x0A]) :
    GbFrame instr (len + 5) ↔ fcs = xorSum content := by
  simp only [readBytes, gbStart, List.cons.injEq, Nat.zero_add] at hstart hend
  obtain ⟨h0, h1, h2, -⟩ := hstart
  obtain ⟨hfcs, hcr, hlf, -⟩ := hend
  have hcmp : strncmpEq instr (overlay (fun _ => 0) gbStart) 0 3 = true := by
    rw [strncmpEq_iff (by decide)]
    intro j hj
    obtain rfl | rfl | rfl : j = 0 ∨ j = 1 ∨ j = 2 := by omega
    · exact h0
    · exact h1
    · exact h2
  have hsum : gbFcs instr = xorSum content := by
    rw [gbFcs, hlen, hcontent]
  rw [← hlen] at hfcs hcr hlf ⊢
  rw [← hsum]
  constructor
  · intro h
    exact hfcs.symm.trans h.fcs
  · intro h
    exact { start := hcmp, fcs := hfcs.trans h, cr := hcr, lf := hlf,
            length := rfl }

/-- A frame that fails the checks changes nothing. -/
theorem AppState.dataTransIspService8900H_of_not {instr : ℕ → UInt8}
    (h : ¬ GbChecks instr) (s : AppState) :
    s.dataTransIspService8900H instr = s := by
  rw [AppState.dataTransIspService8900H]
  split
  · rfl
  · rename_i hstart
    rw [if_pos]
    intro hfcs
    exact h ⟨Bool.eq_true_of_not_eq_false hstart, hfcs⟩

/-! ## The writer -/

namespace AppState

variable (s : AppState)

/-- The information of an acknowledgement: none, or the packet and its
result. -/
def ispInfo (ackType : UInt8) : Option (List UInt8) :=
  match ackType with
  | 0x92 => some []
  | 0x96 => some []
  | 0x94 => some
      [UInt8.ofNat (s.isp.currentPacknum / 256),
        UInt8.ofNat s.isp.currentPacknum,
        UInt8.ofNat (s.isp.totalPacknum / 256), UInt8.ofNat s.isp.totalPacknum,
        s.isp.ackResualt]
  | _ => none

/-- The frame up to its command.  The two bytes of the length are passed
over. -/
def putGbHead (simCode : ℕ → UInt8) (ackType : UInt8) (w : CursorWriter) :
    CursorWriter :=
  let w := (w.copy gbStart).advance 3
  let w := w.puts [0, 0]
  let w := (w.copy (readBytes simCode 0 6)).advance 6
  let w := (w.advance 2).put 0
  (w.patch 1 1).puts [0x30, ackType]

/-- The length of a frame at `recNum`, without its first two bytes. -/
def putGbLen (recNum : ℕ) (w : CursorWriter) : CursorWriter :=
  let txNum := w.wr - recNum
  let w := w.store (recNum + 11) (UInt8.ofNat ((txNum - 2) / 256))
  w.store (recNum + 12) (UInt8.ofNat (txNum - 2))

/-- `Stuff_DataTrans_0900_ISP_ACK` up to `Protocol_End`: the message stuffed,
unless it returns `false`. -/
def stuffDataTrans0900IspAck (simCode : ℕ → UInt8) (msgFloatId : ℕ)
    (ackType : UInt8) (w : CursorWriter) : Option CursorWriter :=
  let w := (protocolHead 0x0900 simCode msgFloatId w).put 1
  let recNum := w.wr
  let w := putGbHead simCode ackType w
  match s.ispInfo ackType with
  | none => none
  | some info =>
      let w := putGbLen recNum (w.puts info)
      -- The sum is taken from byte 3 of the message on.
      let gfcs := xorSum (w.writtenFrom 3)
      some (w.puts [gfcs, 0x0D, 0x0A])

/-- The position of the frame: twelve bytes of header and the kind of
transparent data lie in front of it. -/
abbrev gbPos : ℕ := 13

/-- The buffer from the frame on. -/
def gbSub (w : CursorWriter) : ℕ → UInt8 := fun i => w.buf (gbPos + i)

/-- The frame in a message is one that the reader takes. -/
def GbAccepted (w : CursorWriter) : Prop := GbFrame (gbSub w) (w.wr - gbPos)

/-! ## What is stuffed -/

/-- The message in front of the frame. -/
def ispFront (simCode : ℕ → UInt8) (msgFloatId : ℕ) : List UInt8 :=
  headBytes 0x0900 simCode msgFloatId ++ [1]

/-- The reserved bytes and the SIM code of a frame. -/
def gbSim (simCode : ℕ → UInt8) : List UInt8 := [0, 0] ++ readBytes simCode 0 6

/-- The bytes of a frame that its XOR is of. -/
def gbContent (simCode : ℕ → UInt8) (len : ℕ) (ackType : UInt8)
    (info : List UInt8) : List UInt8 :=
  gbSim simCode ++ ([UInt8.ofNat (len / 256), UInt8.ofNat len] ++
    ([1, 0x30, ackType] ++ info))

section Stuffed

variable {s} {simCode : ℕ → UInt8} {msgFloatId : ℕ} {ackType : UInt8}
  {w : CursorWriter} {info : List UInt8}

/-- The length of a frame holds what lay in the buffer. -/
theorem putGbHead_holds (simCode : ℕ → UInt8) (ackType : UInt8) {start : ℕ}
    {xs : List UInt8} (h : w.Holds start xs) :
    ∃ a b, (putGbHead simCode ackType w).Holds start
      (xs ++ gbStart ++ gbSim simCode ++ [a, b] ++ [1, 0x30, ackType]) := by
  have hstart := (h.copy gbStart (n := 3) rfl).puts [0, 0]
  have hsim := hstart.copy (readBytes simCode 0 6) (n := 6) rfl
  have hnum := ((hsim.advance 2).put 0).patch_last 1
  have hcmd := hnum.puts [0x30, ackType]
  rw [List.append_assoc _ [1], List.append_assoc (xs ++ gbStart)] at hcmd
  exact ⟨_, _, hcmd⟩

theorem putGbLen_holds {front rest : List UInt8} {a b : UInt8}
    (h : w.Holds 0 (front ++ gbStart ++ gbSim simCode ++ [a, b] ++ rest)) :
    (putGbLen front.length w).Holds 0
      (front ++ gbStart ++ gbSim simCode ++
        [UInt8.ofNat ((11 + rest.length) / 256),
          UInt8.ofNat (11 + rest.length)] ++ rest) := by
  have hpos :
      (front ++ gbStart ++ gbSim simCode).length = front.length + 11 := by
    simp only [List.length_append, gbStart, gbSim, List.length_cons,
      List.length_nil, readBytes_length]
  have htxNum : w.wr - front.length - 2 = 11 + rest.length := by
    rw [h.wr, List.length_append, List.length_append, hpos]
    simp only [List.length_cons, List.length_nil]
    omega
  have hlast (x : UInt8) :
      (front ++ gbStart ++ gbSim simCode ++ [x]).length =
        front.length + 12 := by
    rw [List.length_append, hpos]
    rfl
  rw [List.append_assoc] at h
  have hhi := h.store_behind (UInt8.ofNat ((11 + rest.length) / 256))
  rw [hpos, Nat.zero_add, List.append_cons] at hhi
  have hlo := hhi.store_behind (UInt8.ofNat (11 + rest.length))
  rw [hlast, Nat.zero_add, ← List.append_cons] at hlo
  rw [putGbLen, htxNum, List.append_assoc]
  exact hlo

/-- The message up to the XOR of the frame. -/
theorem stuffed_holds (simCode : ℕ → UInt8) (msgFloatId : ℕ) (w : CursorWriter)
    (hinfo : s.ispInfo ackType = some info) :
    ∃ w' : CursorWriter,
      s.stuffDataTrans0900IspAck simCode msgFloatId ackType w =
        some (w'.puts [xorSum (w'.writtenFrom 3), 0x0D, 0x0A]) ∧
      w'.Holds 0 (ispFront simCode msgFloatId ++
        (gbStart ++ gbContent simCode (14 + info.length) ackType info)) := by
  have hfront := (protocolHead_holds simCode msgFloatId w 0x0900).put 1
  obtain ⟨a, b, hhead⟩ := putGbHead_holds simCode ackType hfront
  have hbody := hhead.puts info
  rw [List.append_assoc _ [1, 0x30, ackType]] at hbody
  have hlen := putGbLen_holds hbody
  rw [stuffDataTrans0900IspAck, hinfo]
  refine ⟨_, rfl, ?_⟩
  rw [hfront.wr, Nat.zero_add]
  have hrest : 11 + ([1, 0x30, ackType] ++ info).length = 14 + info.length := by
    rw [List.length_append]
    simp only [List.length_cons, List.length_nil]
    omega
  rw [hrest] at hlen
  simp only [gbContent, ispFront, ← List.append_assoc] at hlen ⊢
  exact hlen

theorem gbContent_length (len : ℕ) :
    (gbContent simCode len ackType info).length = 13 + info.length := by
  simp only [gbContent, gbSim, List.length_append, List.length_cons,
    List.length_nil, readBytes_length]
  omega

/-- A frame in the buffer, as the reader sees it. -/
theorem gbAccepted_iff_of_holds {len : ℕ} {fcs : UInt8} {front : List UInt8}
    (hfront : front.length = gbPos) (hlen : len = 14 + info.length)
    (hlt : len < 65536)
    (h : w.Holds 0 (front ++ (gbStart ++ (gbContent simCode len ackType info ++
      [fcs, 0x0D, 0x0A])))) :
    GbAccepted w ↔ fcs = xorSum (gbContent simCode len ackType info) := by
  have hframe := h.drop
  rw [hfront, Nat.zero_add] at hframe
  have hcontent : w.Holds 16 _ := hframe.drop
  have hend := hcontent.drop
  rw [gbContent_length] at hend
  have hcontent' := hcontent
  rw [gbContent, List.append_assoc, List.append_assoc] at hcontent'
  have hfield : w.Holds 24 _ := hcontent'.drop
  have hwr : w.wr - gbPos = len + 5 := by
    rw [hend.wr, hlen, gbPos]
    simp only [List.length_cons, List.length_nil]
    omega
  rw [GbAccepted, hwr]
  apply gbFrame_iff
  · exact (readBytes_shift _ _ _ _).trans hframe.read_front
  · have hread := hfield.read_front
    simp only [List.length_cons, List.length_nil, readBytes,
      List.cons.injEq] at hread
    obtain ⟨hhi, hlo, -⟩ := hread
    change (w.buf 24).toNat * 256 + (w.buf 25).toNat = len
    rw [hhi, hlo, UInt8.toNat_ofNat', UInt8.toNat_ofNat']
    omega
  · have hcount : len - 1 = (gbContent simCode len ackType info).length := by
      rw [gbContent_length, hlen]
      omega
    rw [hcount]
    exact (readBytes_shift _ _ _ _).trans hcontent.read_front
  · have hpos : gbPos + (len + 2) = 16 + (13 + info.length) := by
      rw [hlen, gbPos]
      omega
    refine (readBytes_shift _ _ _ _).trans ?_
    rw [hpos]
    exact hend.read

/-- The message in front of the frame from its fourth byte on. -/
def summedFront (simCode : ℕ → UInt8) (msgFloatId : ℕ) : List UInt8 :=
  [28] ++ readBytes simCode 0 6 ++
    [UInt8.ofNat (msgFloatId / 256), UInt8.ofNat msgFloatId] ++ [1]

theorem ispFront_eq : ispFront simCode msgFloatId =
    [0x09, 0x00, 0] ++ summedFront simCode msgFloatId := rfl

/-- What the writer sums beyond the bytes that the XOR is of. -/
def excess (simCode : ℕ → UInt8) (msgFloatId : ℕ) : UInt8 :=
  xorSum (summedFront simCode msgFloatId ++ gbStart)

/-- `ISPACK_92`, `ISPinfoACK_94` and `ISPoverACK_96`. -/
abbrev ackTypes : List UInt8 := [0x92, 0x94, 0x96]

theorem ispInfo_cases (h : s.ispInfo ackType = some info) :
    ackType ∈ ackTypes ∧ info.length ≤ 5 := by
  rw [ispInfo.eq_def] at h
  split at h
  · rw [← Option.some.inj h]
    decide
  · rw [← Option.some.inj h]
    decide
  · rw [← Option.some.inj h]
    exact ⟨by decide, le_rfl⟩
  · exact absurd h (by simp)

theorem stuffed_iff :
    (∃ w', s.stuffDataTrans0900IspAck simCode msgFloatId ackType w = some w') ↔
      ackType ∈ ackTypes := by
  constructor
  · rintro ⟨w', h⟩
    cases hinfo : s.ispInfo ackType with
    | none =>
        rw [stuffDataTrans0900IspAck, hinfo] at h
        exact absurd h (by simp)
    | some info => exact (ispInfo_cases hinfo).1
  · intro h
    have hinfo : ∃ info, s.ispInfo ackType = some info := by
      simp only [ackTypes, List.mem_cons, List.not_mem_nil, or_false] at h
      rcases h with rfl | rfl | rfl
      · exact ⟨_, rfl⟩
      · exact ⟨_, rfl⟩
      · exact ⟨_, rfl⟩
    obtain ⟨info, hinfo⟩ := hinfo
    obtain ⟨v, hv, -⟩ := stuffed_holds simCode msgFloatId w hinfo
    exact ⟨_, hv⟩

/-- A frame is taken exactly if what the writer sums in front of it cancels. -/
theorem gbAccepted_iff {w' : CursorWriter}
    (h : s.stuffDataTrans0900IspAck simCode msgFloatId ackType w = some w') :
    GbAccepted w' ↔ excess simCode msgFloatId = 0 := by
  cases hinfo : s.ispInfo ackType with
  | none =>
      rw [stuffDataTrans0900IspAck, hinfo] at h
      exact absurd h (by simp)
  | some info =>
      obtain ⟨v, hv, hholds⟩ := stuffed_holds simCode msgFloatId w hinfo
      obtain rfl := Option.some.inj (h.symm.trans hv)
      have hle := (ispInfo_cases hinfo).2
      have hall := hholds.puts
        [xorSum (v.writtenFrom 3), 0x0D, 0x0A]
      rw [List.append_assoc, List.append_assoc] at hall
      rw [gbAccepted_iff_of_holds rfl rfl (by omega) hall]
      have hsum : xorSum (v.writtenFrom 3) = excess simCode msgFloatId ^^^
          xorSum (gbContent simCode (14 + info.length) ackType info) := by
        rw [ispFront_eq, List.append_assoc, ← List.append_assoc _ gbStart]
          at hholds
        have hwritten : v.Holds 3 _ := hholds.drop
        rw [hwritten.writtenFrom_eq, xorSum_append, excess]
      rw [hsum]
      constructor
      · intro h
        have hzero := h.trans UInt8.zero_xor.symm
        exact (UInt8.xor_left_inj _).mp hzero
      · intro h
        rw [h, UInt8.zero_xor]

theorem excess_eq : excess simCode msgFloatId =
    xorSum (readBytes simCode 0 6) ^^^ UInt8.ofNat (msgFloatId / 256) ^^^
      UInt8.ofNat msgFloatId ^^^ 0x32 := by
  have hfloat (a b : UInt8) : xorSum [a, b] = a ^^^ b := by
    have hzero : xorSum [a, b] = 0 ^^^ a ^^^ b := rfl
    rw [hzero, UInt8.zero_xor]
  have hconst : (0x32 : UInt8) = 28 ^^^ 1 ^^^ 0x2F := by decide
  have hhead : xorSum [28] = 28 := by decide
  have hkind : xorSum [1] = 1 := by decide
  have hstart : xorSum gbStart = 0x2F := by decide
  rw [excess, summedFront, xorSum_append, xorSum_append, xorSum_append,
    xorSum_append, hfloat, hhead, hkind, hstart, hconst]
  ac_rfl

theorem excess_eq_zero_iff : excess simCode msgFloatId = 0 ↔
    xorSum (readBytes simCode 0 6) ^^^ UInt8.ofNat (msgFloatId / 256) ^^^
      UInt8.ofNat msgFloatId = 0x32 := by
  rw [excess_eq, UInt8.xor_eq_zero_iff]

end Stuffed

/-- A SIM code that the sum in front of the frame does not cancel for. -/
def simRefused : ℕ → UInt8 := overlay (fun _ => 0) [0x01, 0x38]

/-- A SIM code that cancels the rest of the sum if the float number is zero. -/
def simTaken : ℕ → UInt8 := overlay (fun _ => 0) [0x01, 0x33]

end AppState

open AppState in
/-- The reader refuses the first acknowledgement of the update. -/
theorem not_ispAck_accepted :
    ∃ w', ({} : AppState).stuffDataTrans0900IspAck simRefused 0 0x92
      ⟨fun _ => 0, 0⟩ = some w' ∧ ¬ GbAccepted w' := by
  have hack : (0x92 : UInt8) ∈ ackTypes := by decide
  obtain ⟨w', hw⟩ := stuffed_iff.mpr hack
  refine ⟨w', hw, ?_⟩
  rw [gbAccepted_iff hw]
  decide

open AppState in
/-- The reader takes an acknowledgement exactly if the SIM code and the float
number cancel what the writer sums in front of the frame. -/
theorem ispAck_iff (s : AppState) (simCode : ℕ → UInt8) (msgFloatId : ℕ)
    (ackType : UInt8) (w w' : CursorWriter)
    (h : s.stuffDataTrans0900IspAck simCode msgFloatId ackType w = some w') :
    GbAccepted w' ↔
      xorSum (readBytes simCode 0 6) ^^^ UInt8.ofNat (msgFloatId / 256) ^^^
        UInt8.ofNat msgFloatId = 0x32 := by
  rw [gbAccepted_iff h, excess_eq_zero_iff]

open AppState in
theorem ispAck_simTaken :
    ∃ w', ({} : AppState).stuffDataTrans0900IspAck simTaken 0 0x94
      ⟨fun _ => 0, 0⟩ = some w' ∧ GbAccepted w' := by
  have hack : (0x94 : UInt8) ∈ ackTypes := by decide
  obtain ⟨w', hw⟩ := stuffed_iff.mpr hack
  exact ⟨w', hw, (ispAck_iff _ _ _ _ _ _ hw).mpr (by decide)⟩

end VehicleRecorder.Protocol
