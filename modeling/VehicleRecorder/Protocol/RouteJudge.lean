import VehicleRecorder.Protocol.RecordFrame

/-!
# Routes and their judge

The message `0x8606` stores a route under its number; `RouteRail_Judge` reads
sixteen pages, and compares the position of the vehicle with the segments of
every effective route.

The module says which of the stored routes the judge evaluates in full, within
the arrays it works on.
-/

namespace VehicleRecorder.Protocol

open Bytes Dataflash

/-! ## The judge -/

/-- `Route_Mum`. -/
abbrev routeMum : ℕ := 16

/-- `ROUTE_DIS_Default`. -/
abbrev routeDisDefault : ℕ := 0x3F000000

/-- `sizeof(ROUTE_Obj)`. -/
abbrev routeSize : ℕ := 108

/-! `ROUTE_Obj` is the memory from its first byte on. -/

section Route

variable (m : ℕ → UInt8)

/-- `ROUTE_Obj.Points_Num`. -/
def routePointsNum : ℕ := leValue (readBytes m 6 2)

/-- `ROUTE_Obj.Effective_flag`. -/
def routeEffectiveFlag : UInt8 := m 8

/-- `ROUTE_Obj.RoutePoints[i].POINT_Latitude`. -/
def pointLatitude (i : ℕ) : ℕ := leValue (readBytes m (24 + 28 * i + 8) 4)

/-- `ROUTE_Obj.RoutePoints[i].POINT_Longitude`. -/
def pointLongitude (i : ℕ) : ℕ := leValue (readBytes m (24 + 28 * i + 12) 4)

/-- `ROUTE_Obj.RoutePoints[i].Width`. -/
def pointWidth (i : ℕ) : UInt8 := m (24 + 28 * i + 16)

/-- The point at the origin, which ends no segment. -/
def PointZero (i : ℕ) : Prop := pointLatitude m i = 0 ∧ pointLongitude m i = 0

instance (i : ℕ) : Decidable (PointZero m i) :=
  inferInstanceAs (Decidable (_ ∧ _))

end Route

/-- An element of `Distance_Array` or `RoutePoints` that the judge uses. -/
inductive Access
  | distanceArray (i : ℕ)
  | routePoints (i : ℕ)
  deriving DecidableEq, Repr

/-- The element lies in its array. -/
def Access.InBounds : Access → Prop
  | distanceArray i => i < 6
  | routePoints i => i < 3

/-- The distances, the elements used and the segments examined so far. -/
structure SegmentLoop where
  distances : ℕ → ℕ
  accesses : List Access
  examined : List ℕ

/-- `Distance_Point2Line` from the position of the vehicle to the segment
between two points. -/
abbrev Distance := ℕ → ℕ → ℕ → ℕ → ℕ

/-- A turn of the loop over the segments. -/
def judgeSegment (distance : Distance) (m : ℕ → UInt8) (l : SegmentLoop)
    (segCount : ℕ) : SegmentLoop :=
  let l := { l with
    accesses := l.accesses ++ [.routePoints (segCount + 1)] }
  if PointZero m (segCount + 1) then l
  else
    let d := distance (pointLatitude m segCount) (pointLongitude m segCount)
      (pointLatitude m (segCount + 1)) (pointLongitude m (segCount + 1))
    { distances := Function.update l.distances segCount d
      accesses :=
        l.accesses ++ [.routePoints segCount, .distanceArray segCount]
      examined := l.examined ++ [segCount] }

/-- The uses of all elements of `Distance_Array`. -/
def allDistances : List Access := (List.range 6).map .distanceArray

/-- `seg_num`, a `u8`. -/
def segNum (m : ℕ → UInt8) : ℕ := (routePointsNum m - 1) % 256

/-- The loop over the segments; `stack` is what lies in and behind
`Distance_Array`. -/
def judgeSegments (distance : Distance) (m : ℕ → UInt8) (stack : ℕ → ℕ) :
    SegmentLoop :=
  (List.range (segNum m)).foldl (judgeSegment distance m)
    ⟨fun i => if i < 6 then routeDisDefault else stack i, allDistances, []⟩

/-- What the judge makes of an effective route: `Segment_Status`, the elements
used and the segments examined. -/
structure RouteResult where
  segmentStatus : ℕ
  accesses : List Access
  examined : List ℕ

/-- The judgement of an effective route. -/
def judgeRoute (distance : Distance) (m : ℕ → UInt8) (stack : ℕ → ℕ) :
    RouteResult :=
  let l := judgeSegments distance m stack
  let least := (List.range 6).foldl
    (fun d i => if d ≥ l.distances i then l.distances i else d) (l.distances 0)
  let deviates :=
    least < routeDisDefault ∧ least > (pointWidth m (segNum m)).toNat / 2
  { segmentStatus := if deviates then 2 ^ segNum m % 4294967296 else 0
    accesses := l.accesses ++ allDistances ++ [.routePoints (segNum m)]
    examined := l.examined }

/-- The variables of the loop over the routes, and the routes evaluated, by
their pages. -/
structure RouteLoop where
  segmentStatus : ℕ := 0
  routeStatus : ℕ := 0
  pagesRead : List ℕ := []
  evaluated : List (ℕ × RouteResult) := []

/-- A turn of the loop over the routes; `rest` is what lies in and behind
`ROUTE_Obj`. -/
def judgeTurn (distance : Distance) (chip : Chip) (rest : ℕ → UInt8)
    (stack : ℕ → ℕ) (l : RouteLoop) (routeCout : ℕ) : RouteLoop :=
  let page := dfRoutePage + routeCout
  let m := overlay rest (dfReadFlash chip page 0 routeSize)
  let l : RouteLoop := { l with pagesRead := l.pagesRead ++ [page] }
  let l : RouteLoop :=
    if routeEffectiveFlag m = 1 ∧ routePointsNum m > 1 then
      let r := judgeRoute distance m stack
      { l with
        segmentStatus := r.segmentStatus
        evaluated := l.evaluated ++ [(page, r)] }
    else l
  -- `Segment_Status` of an earlier route counts for the routes behind it
  if l.segmentStatus ≠ 0 then
    { l with routeStatus := l.routeStatus ||| 2 ^ routeCout }
  else l

/-- The loop over the routes. -/
def judgeRoutes (distance : Distance) (chip : Chip) (rest : ℕ → UInt8)
    (stack : ℕ → ℕ) : RouteLoop :=
  (List.range routeMum).foldl (judgeTurn distance chip rest stack) {}

namespace AppState

/-- A position is reported at once. -/
def reportNow (s : AppState) : AppState :=
  { s with device := { s.device with
      positionSdEnable := true
      currentUdpSd := 1 } }

/-- `RouteRail_Judge`. -/
def routeRailJudge (distance : Distance) (rest : ℕ → UInt8) (stack : ℕ → ℕ)
    (s : AppState) : AppState :=
  let old := s.vehicle.warnStatus1
  if (judgeRoutes distance s.device.chip rest stack).routeStatus ≠ 0 then
    let s := if old &&& 0x80 = 0 then s.reportNow else s
    { s with vehicle.warnStatus1 := old ||| 0x80 }
  else
    let s := if old &&& 0x80 ≠ 0 then s.reportNow else s
    { s with vehicle.warnStatus1 := old &&& 0x7f }

end AppState

/-! ## The warning -/

/-- The warning is set exactly if a route is left, the other bits stay, and a
position is reported at once exactly if the warning changes. -/
theorem routeRailJudge_warning (distance : Distance) (rest : ℕ → UInt8)
    (stack : ℕ → ℕ) (s : AppState) :
    let left :=
      (judgeRoutes distance s.device.chip rest stack).routeStatus ≠ 0
    let s' := s.routeRailJudge distance rest stack
    (s'.vehicle.warnStatus1 &&& 0x80 ≠ 0 ↔ left) ∧
      s'.vehicle.warnStatus1 &&& 0x7f = s.vehicle.warnStatus1 &&& 0x7f ∧
      s'.device =
        if s.vehicle.warnStatus1 &&& 0x80 ≠ 0 ↔ left then s.device
        else s.reportNow.device := by
  intro left s'
  have hset (w : UInt8) : (w ||| 0x80) &&& 0x80 ≠ 0 ∧
      (w ||| 0x80) &&& 0x7f = w &&& 0x7f := by
    simp only [ne_eq, ← UInt8.toBitVec_inj, UInt8.toBitVec_and,
      UInt8.toBitVec_or, BitVec.and_or_distrib_right]
    constructor
    · intro hzero
      exact absurd (BitVec.or_eq_zero_iff.mp hzero).2 (by decide)
    · exact BitVec.or_zero
  have hclear (w : UInt8) : w &&& 0x7f &&& 0x80 = 0 ∧
      w &&& 0x7f &&& 0x7f = w &&& 0x7f := by
    rw [UInt8.and_assoc, UInt8.and_assoc]
    exact ⟨UInt8.and_zero, rfl⟩
  by_cases hleft : left
  · have hjudge : s' =
        { (if s.vehicle.warnStatus1 &&& 0x80 = 0 then s.reportNow else s) with
          vehicle.warnStatus1 := s.vehicle.warnStatus1 ||| 0x80 } := if_pos hleft
    have hset := hset s.vehicle.warnStatus1
    rw [hjudge]
    refine ⟨iff_of_true hset.1 hleft, hset.2, ?_⟩
    by_cases hwarned : s.vehicle.warnStatus1 &&& 0x80 = 0
    · rw [if_pos hwarned, if_neg fun h => h.mpr hleft hwarned]
    · rw [if_neg hwarned, if_pos (iff_of_true hwarned hleft)]
  · have hjudge : s' =
        { (if s.vehicle.warnStatus1 &&& 0x80 ≠ 0 then s.reportNow else s) with
          vehicle.warnStatus1 := s.vehicle.warnStatus1 &&& 0x7f } := if_neg hleft
    have hclear := hclear s.vehicle.warnStatus1
    rw [hjudge]
    refine ⟨iff_of_false (not_not.mpr hclear.1) hleft, hclear.2, ?_⟩
    by_cases hwarned : s.vehicle.warnStatus1 &&& 0x80 ≠ 0
    · rw [if_pos hwarned, if_neg fun h => hleft (h.mp hwarned)]
    · rw [if_neg hwarned, if_pos (iff_of_false hwarned hleft)]

/-! ## Which routes are evaluated in full -/

section Judge

variable (distance : Distance) (m : ℕ → UInt8) (stack : ℕ → ℕ)

theorem judgeSegments_examined :
    (judgeSegments distance m stack).examined =
      (List.range (segNum m)).filter fun i => ¬ PointZero m (i + 1) := by
  rw [judgeSegments]
  induction segNum m with
  | zero => rfl
  | succ n ih =>
      rw [List.range_succ, List.foldl_append, List.filter_append, ← ih,
        List.foldl_cons, List.foldl_nil, judgeSegment]
      by_cases hzero : PointZero m (n + 1)
      · simp [hzero]
      · simp [hzero]

/-- The loop stays within as many elements as there are segments. -/
theorem mem_judgeSegments_accesses {a : Access}
    (ha : a ∈ (judgeSegments distance m stack).accesses) :
    a ∈ allDistances ∨ ∃ i < segNum m,
      a = .routePoints (i + 1) ∨ a = .routePoints i ∨
        a = .distanceArray i := by
  rw [judgeSegments] at ha
  revert ha
  induction segNum m with
  | zero => exact Or.inl
  | succ n ih =>
      intro ha
      rw [List.range_succ, List.foldl_append, List.foldl_cons, List.foldl_nil,
        judgeSegment] at ha
      generalize List.foldl _ _ (List.range n) = l at ha ih
      have hold (h : a ∈ l.accesses) : a ∈ allDistances ∨ ∃ i < n + 1,
          a = .routePoints (i + 1) ∨ a = .routePoints i ∨
            a = .distanceArray i := by
        rcases ih h with hall | ⟨i, hi, ha⟩
        · exact Or.inl hall
        · exact Or.inr ⟨i, Nat.lt_succ_of_lt hi, ha⟩
      by_cases hzero : PointZero m (n + 1)
      · simp only [hzero, if_true, List.mem_append, List.mem_singleton] at ha
        rcases ha with h | h
        · exact hold h
        · exact Or.inr ⟨n, Nat.lt_succ_self n, Or.inl h⟩
      · simp only [hzero, if_false, List.mem_append, List.mem_cons,
          List.not_mem_nil, or_false] at ha
        rcases ha with (h | h) | h
        · exact hold h
        · exact Or.inr ⟨n, Nat.lt_succ_self n, Or.inl h⟩
        · exact Or.inr ⟨n, Nat.lt_succ_self n, Or.inr h⟩

/-- The judge examines every segment between the points of a route, and only
elements of its arrays. -/
def JudgedInFull : Prop :=
  (∀ a ∈ (judgeRoute distance m stack).accesses, a.InBounds) ∧
  (judgeRoute distance m stack).examined = List.range (routePointsNum m - 1)

theorem allDistances_inBounds {a : Access} (ha : a ∈ allDistances) :
    a.InBounds := by
  obtain ⟨i, hi, rfl⟩ := List.mem_map.mp ha
  exact List.mem_range.mp hi

/-- Only routes of three points are judged in full, and only if the second and
the third do not lie at the origin. -/
theorem judgedInFull_iff (hnum : 3 ≤ routePointsNum m) :
    JudgedInFull distance m stack ↔
      routePointsNum m = 3 ∧ ¬ PointZero m 1 ∧ ¬ PointZero m 2 := by
  have hseg : segNum m = (routePointsNum m - 1) % 256 := rfl
  constructor
  · rintro ⟨hbounds, hexamined⟩
    have hwidth : Access.InBounds (.routePoints (segNum m)) :=
      hbounds _ (List.mem_append_right _ (List.mem_singleton_self _))
    have hlt : segNum m < 3 := hwidth
    change (judgeSegments distance m stack).examined = _ at hexamined
    rw [judgeSegments_examined] at hexamined
    have hlen := congrArg List.length hexamined
    have hle := List.length_filter_le
      (fun i => decide ¬ PointZero m (i + 1)) (List.range (segNum m))
    rw [hlen, List.length_range, List.length_range] at hle
    have hthree : routePointsNum m = 3 := by omega
    have hmem (i : ℕ) (hi : i < 2) : ¬ PointZero m (i + 1) := by
      have h : i ∈ List.range (routePointsNum m - 1) := by
        rw [hthree]
        exact List.mem_range.mpr hi
      rw [← hexamined] at h
      exact of_decide_eq_true (List.mem_filter.mp h).2
    exact ⟨hthree, hmem 0 (by decide), hmem 1 (by decide)⟩
  · rintro ⟨hthree, hone, htwo⟩
    rw [hthree] at hseg
    change segNum m = 2 at hseg
    constructor
    · intro a ha
      simp only [judgeRoute, List.mem_append, List.mem_singleton] at ha
      rcases ha with (h | h) | rfl
      · rcases mem_judgeSegments_accesses distance m stack h with
          hall | ⟨i, hi, rfl | rfl | rfl⟩
        · exact allDistances_inBounds hall
        · change i + 1 < 3
          omega
        · change i < 3
          omega
        · change i < 6
          omega
      · exact allDistances_inBounds h
      · change segNum m < 3
        omega
    · change (judgeSegments distance m stack).examined = _
      rw [judgeSegments_examined, hseg, hthree]
      apply List.filter_eq_self.mpr
      intro i hi
      have hi := List.mem_range.mp hi
      obtain rfl | rfl : i = 0 ∨ i = 1 := by omega
      · exact decide_eq_true hone
      · exact decide_eq_true htwo

/-- The judge evaluates the effective routes of the sixteen pages from
`DF_Route_Page` on. -/
theorem mem_judgeRoutes_evaluated (chip : Chip) (rest : ℕ → UInt8) {page : ℕ}
    {r : RouteResult} :
    (page, r) ∈ (judgeRoutes distance chip rest stack).evaluated ↔
      (dfRoutePage ≤ page ∧ page < dfRoutePage + routeMum) ∧
        let m := overlay rest (dfReadFlash chip page 0 routeSize)
        (routeEffectiveFlag m = 1 ∧ routePointsNum m > 1) ∧
          r = judgeRoute distance m stack := by
  rw [judgeRoutes]
  induction routeMum with
  | zero =>
      constructor
      · exact nofun
      · rintro ⟨h, -⟩
        omega
  | succ n ih =>
      rw [List.range_succ, List.foldl_append, List.foldl_cons, List.foldl_nil]
      generalize List.foldl _ _ (List.range n) = l at ih ⊢
      have hstep : (judgeTurn distance chip rest stack l n).evaluated =
          let m := overlay rest (dfReadFlash chip (dfRoutePage + n) 0 routeSize)
          if routeEffectiveFlag m = 1 ∧ routePointsNum m > 1 then
            l.evaluated ++ [(dfRoutePage + n, judgeRoute distance m stack)]
          else l.evaluated := by
        rw [judgeTurn]
        dsimp only
        split_ifs <;> rfl
      rw [hstep]
      dsimp only
      by_cases hpage : page = dfRoutePage + n
      · subst hpage
        have hold : (dfRoutePage + n, r) ∉ l.evaluated := fun h =>
          Nat.lt_irrefl _ (ih.mp h).1.2
        split
        next heff => simp [hold, heff]
        next heff => simp [hold, heff]
      · have hnew (m : ℕ → UInt8) :
            (page, r) ∉ [(dfRoutePage + n, judgeRoute distance m stack)] :=
          fun h => hpage (Prod.mk.inj (List.mem_singleton.mp h)).1
        have hlt : page < dfRoutePage + (n + 1) ↔ page < dfRoutePage + n := by
          omega
        rw [hlt, ← ih]
        split
        next => simp [hnew]
        next => rfl

end Judge

/-! ## The route in a message -/

section Message

variable (rx : ℕ → UInt8)

/-- The offset of a point in the message. -/
def pointOffset : ℕ → ℕ
  | 0 => 33
  | i + 1 => (AppState.readRoutePoint rx (pointOffset i) {}).2

/-- A point of the message. -/
def receivedPoint (i : ℕ) : RoutePoint :=
  (AppState.readRoutePoint rx (pointOffset rx i) {}).1

/-- What precedes the points in the record of a route. -/
def routeHead : List UInt8 :=
  leBytes 4 (be32 rx 13) ++ leBytes 2 (be16 rx 17) ++
    leBytes 2 (be16 rx 31) ++ [1] ++ readBytes rx 19 6 ++ readBytes rx 25 6 ++
    [0, 0, 0]

/-- The record of the route in a message. -/
def routeRecord : List UInt8 :=
  routeHead rx ++
    (List.range 3).flatMap fun i =>
      AppState.routePointBytes (receivedPoint rx i)

end Message

namespace AppState

variable (rx : ℕ → UInt8) (s : AppState)

theorem readRoutePoint_snd (r : ℕ) (old old' : RoutePoint) :
    (readRoutePoint rx r old).2 = (readRoutePoint rx r old').2 := by
  rw [readRoutePoint, readRoutePoint]
  dsimp only
  split_ifs <;> rfl

theorem routeLoop_mem (n i r : ℕ) : (routeLoop rx n i r s).mem = s.mem := by
  induction n generalizing i r s with
  | zero => rfl
  | succ n ih => rw [routeLoop, ih]

theorem routeLoop_routeAttribute (n i r : ℕ) :
    (routeLoop rx n i r s).records.routeObj.routeAttribute =
      s.records.routeObj.routeAttribute := by
  induction n generalizing i r s with
  | zero => rfl
  | succ n ih => rw [routeLoop, ih]

theorem routeLoop_pointsNum (n i r : ℕ) :
    (routeLoop rx n i r s).records.routeObj.pointsNum =
      s.records.routeObj.pointsNum := by
  induction n generalizing i r s with
  | zero => rfl
  | succ n ih => rw [routeLoop, ih]

/-- The loop puts the points of the message over those there were. -/
theorem routeLoop_routePoints (n i j : ℕ) :
    (routeLoop rx n i (pointOffset rx i) s).records.routeObj.routePoints j =
      if i ≤ j ∧ j < i + n then
        (readRoutePoint rx (pointOffset rx j)
          (s.records.routeObj.routePoints j)).1
      else s.records.routeObj.routePoints j := by
  induction n generalizing i s with
  | zero => exact (if_neg (by omega)).symm
  | succ n ih =>
      have hnext (old : RoutePoint) :
          (readRoutePoint rx (pointOffset rx i) old).2 =
            pointOffset rx (i + 1) := readRoutePoint_snd rx _ old {}
      rw [routeLoop]
      dsimp only
      rw [hnext, ih]
      dsimp only
      by_cases hji : j = i
      · subst hji
        rw [Function.update_self, if_neg (by omega), if_pos (by omega)]
      · rw [Function.update_of_ne hji]
        by_cases hj : i + 1 ≤ j ∧ j < i + 1 + n
        · rw [if_pos hj, if_pos (by omega)]
        · rw [if_neg hj, if_neg (by omega)]

theorem writeRoute_device {t : AppState} {d : Device} (hd : t.device = d)
    (hid : t.records.routeObj.routeId = be32 rx 13)
    (hattribute : t.records.routeObj.routeAttribute = be16 rx 17)
    (hnum : t.records.routeObj.pointsNum = be16 rx 31)
    (hflag : t.records.routeObj.effectiveFlag = 1)
    (hpoints : ∀ i < 3, t.records.routeObj.routePoints i = receivedPoint rx i)
    (hst : t.bytes .routeStartTime = readBytes rx 19 6)
    (het : t.bytes .routeEndTime = readBytes rx 25 6) :
    t.writeRoute.device =
      apiRecordNumWrite d .routeLine (be32 rx 13) (routeRecord rx) := by
  have hrows : ((List.range 3).flatMap fun i =>
        routePointBytes (t.records.routeObj.routePoints i)) =
      (List.range 3).flatMap fun i => routePointBytes (receivedPoint rx i) := by
    apply List.flatMap_congr
    intro i hi
    rw [hpoints i (List.mem_range.mp hi)]
  rw [writeRoute, recordNumWrite, routeBytes, hd, hid, hattribute, hnum, hflag,
    hst, het, hrows, routeRecord, routeHead]

/-- The end of the handler, from the state in front of the loop. -/
theorem storeRoute_device {v : AppState} {d : Device} (hd : v.device = d)
    (hid : v.records.routeObj.routeId = be32 rx 13) (hlo : 1 ≤ be32 rx 13)
    (hhi : be32 rx 13 ≤ routeMum)
    (hattribute : v.records.routeObj.routeAttribute = be16 rx 17)
    (hnum : v.records.routeObj.pointsNum = be16 rx 31)
    (hclear : ∀ i < 3, v.records.routeObj.routePoints i = {})
    (hst : v.bytes .routeStartTime = readBytes rx 19 6)
    (het : v.bytes .routeEndTime = readBytes rx 25 6) :
    ({ routeLoop rx 6 0 33 v with
      records.routeObj.routeId :=
        areaNumber 16 (routeLoop rx 6 0 33 v).records.routeObj.routeId
      records.routeObj.effectiveFlag := 1 } : AppState).writeRoute.device =
      apiRecordNumWrite d .routeLine (be32 rx 13) (routeRecord rx) := by
  have hid' := (routeLoop_routeId rx v 6 0 33).trans hid
  have hpoints (i : ℕ) (hi : i < 3) :
      (routeLoop rx 6 0 33 v).records.routeObj.routePoints i =
        receivedPoint rx i := by
    have hloop := routeLoop_routePoints rx v 6 0 i
    rw [show pointOffset rx 0 = 33 from rfl] at hloop
    rw [hloop, if_pos (by omega), hclear i hi, receivedPoint]
  have hbytes (a : Arr) : (routeLoop rx 6 0 33 v).bytes a = v.bytes a := by
    rw [bytes, routeLoop_mem, bytes]
  have hd' := (routeLoop_device rx v 6 0 33).trans hd
  have hattribute' := (routeLoop_routeAttribute rx v 6 0 33).trans hattribute
  have hnum' := (routeLoop_pointsNum rx v 6 0 33).trans hnum
  generalize routeLoop rx 6 0 33 v = w at *
  refine writeRoute_device rx hd' ?_ hattribute' hnum' rfl hpoints ?_ ?_
  · rw [hid']
    exact areaNumber_of_mem hlo hhi
  · rw [bytes_records, hbytes, hst]
  · rw [bytes_records, hbytes, het]

/-- A route of three or more points is stored under its number. -/
theorem case8606_device (hlo : 1 ≤ be32 rx 13) (hhi : be32 rx 13 ≤ routeMum)
    (hnum : 3 ≤ be16 rx 31) :
    (s.case8606 rx).device =
      apiRecordNumWrite s.device .routeLine (be32 rx 13) (routeRecord rx) := by
  have hst : ((s.clearRoute.memcpy .routeStartTime rx 19 6).memcpy
      .routeEndTime rx 25 6).bytes .routeStartTime = readBytes rx 19 6 := by
    rw [bytes_memcpy_of_ne _ (by decide), bytes_memcpy _ _ rx 19 rfl]
  have het : ((s.clearRoute.memcpy .routeStartTime rx 19 6).memcpy
      .routeEndTime rx 25 6).bytes .routeEndTime = readBytes rx 25 6 :=
    bytes_memcpy _ _ rx 25 rfl
  rw [case8606]
  dsimp only
  rw [if_neg (by omega), ack_device]
  generalize hu : (s.clearRoute.memcpy .routeStartTime rx 19 6).memcpy
    .routeEndTime rx 25 6 = u at hst het ⊢
  have hd : u.device = s.device := hu ▸ rfl
  have hclear : ∀ i < 3, u.records.routeObj.routePoints i = {} := by
    subst hu
    exact fun i hi => if_pos hi
  clear hu
  refine storeRoute_device rx ?_ ?_ hlo hhi ?_ ?_ ?_ ?_ ?_
  · exact hd
  · rfl
  · rfl
  · rfl
  · exact hclear
  · exact (bytes_records _ _ _).trans hst
  · exact (bytes_records _ _ _).trans het

end AppState

/-! ## The route in the memory of the judge -/

/-- The bytes of a row that lies in a memory. -/
theorem readBytes_row {m : ℕ → UInt8} {base : ℕ} {row : List UInt8}
    (h : ∀ k < row.length, m (base + k) = row.getD k 0) {k n : ℕ}
    (hk : k + n ≤ row.length) :
    readBytes m (base + k) n = (row.drop k).take n := by
  apply List.ext_getElem?
  intro i
  rw [getElem?_readBytes, List.getElem?_take, List.getElem?_drop]
  by_cases hi : i < n
  · have hki : k + i < row.length := by omega
    rw [if_pos hi, if_pos hi, Nat.add_assoc, h _ hki,
      List.getD_eq_getElem?_getD, List.getElem?_eq_getElem hki,
      Option.getD_some]
  · rw [if_neg hi, if_neg hi]

section Memory

variable (rx rest : ℕ → UInt8)

theorem routeHead_length : (routeHead rx).length = 24 := by
  simp only [routeHead, List.length_append, leBytes_length, readBytes_length,
    List.length_cons, List.length_nil]

theorem routeRecord_length : (routeRecord rx).length = routeSize := by
  simp only [routeRecord, List.length_append, routeHead_length,
    List.length_flatMap, AppState.routePointBytes_length]
  rfl

theorem overlay_routeRecord_head {k : ℕ} (hk : k < (routeHead rx).length) :
    overlay rest (routeRecord rx) (0 + k) = (routeHead rx).getD k 0 := by
  rw [Nat.zero_add, overlay, routeRecord, List.getElem?_append_left hk,
    List.getD_eq_getElem?_getD, List.getElem?_eq_getElem hk,
    Option.getD_some, Option.getD_some]

theorem overlay_routeRecord_point {i k : ℕ} (hi : i < 3)
    (hk : k < (AppState.routePointBytes (receivedPoint rx i)).length) :
    overlay rest (routeRecord rx) (24 + 28 * i + k) =
      (AppState.routePointBytes (receivedPoint rx i)).getD k 0 := by
  have hlen := AppState.routePointBytes_length (receivedPoint rx i)
  have hindex : 24 + 28 * i + k - 24 = i * 28 + k := by omega
  rw [overlay, routeRecord, List.getElem?_append_right (by
    rw [routeHead_length]; omega), routeHead_length, hindex,
    getElem?_flatMap_range _ (fun j => AppState.routePointBytes_length _) hi
      (hlen ▸ hk), List.getD_eq_getElem?_getD, List.getElem?_eq_getElem hk,
    Option.getD_some, Option.getD_some]

theorem routeEffectiveFlag_routeRecord :
    routeEffectiveFlag (overlay rest (routeRecord rx)) = 1 := by
  have hk : 8 < (routeHead rx).length := by
    rw [routeHead_length]
    decide
  have hhead := overlay_routeRecord_head rx rest hk
  have hflag : (routeHead rx).getD 8 0 = 1 := rfl
  rw [Nat.zero_add, hflag] at hhead
  exact hhead

theorem routePointsNum_routeRecord :
    routePointsNum (overlay rest (routeRecord rx)) = be16 rx 31 := by
  have hrow : readBytes (overlay rest (routeRecord rx)) (0 + 6) 2 =
      ((routeHead rx).drop 6).take 2 :=
    readBytes_row (fun k => overlay_routeRecord_head rx rest) (by
      rw [routeHead_length]
      decide)
  have hnum : ((routeHead rx).drop 6).take 2 = leBytes 2 (be16 rx 31) := rfl
  have hlt : be16 rx 31 < 256 ^ 2 := by
    have hhigh := (rx 31).toNat_lt
    have hlow := (rx (31 + 1)).toNat_lt
    rw [be16]
    omega
  change leValue (readBytes _ (0 + 6) 2) = _
  rw [hrow, hnum, leValue_leBytes, Nat.mod_eq_of_lt hlt]

theorem receivedPoint_pointLatitude (i : ℕ) :
    (receivedPoint rx i).pointLatitude = be32 rx (pointOffset rx i + 8) := by
  rw [receivedPoint, AppState.readRoutePoint]
  dsimp only
  split_ifs <;> rfl

theorem receivedPoint_pointLongitude (i : ℕ) :
    (receivedPoint rx i).pointLongitude = be32 rx (pointOffset rx i + 12) := by
  rw [receivedPoint, AppState.readRoutePoint]
  dsimp only
  split_ifs <;> rfl

theorem pointLatitude_routeRecord {i : ℕ} (hi : i < 3) :
    pointLatitude (overlay rest (routeRecord rx)) i =
      (receivedPoint rx i).pointLatitude := by
  have hrow : readBytes (overlay rest (routeRecord rx)) (24 + 28 * i + 8) 4 =
      leBytes 4 (receivedPoint rx i).pointLatitude :=
    readBytes_row (fun k => overlay_routeRecord_point rx rest hi) (by
      rw [AppState.routePointBytes_length]
      decide)
  rw [pointLatitude, hrow, leValue_leBytes, receivedPoint_pointLatitude,
    Nat.mod_eq_of_lt (be32_lt rx _)]

theorem pointLongitude_routeRecord {i : ℕ} (hi : i < 3) :
    pointLongitude (overlay rest (routeRecord rx)) i =
      (receivedPoint rx i).pointLongitude := by
  have hrow : readBytes (overlay rest (routeRecord rx)) (24 + 28 * i + 12) 4 =
      leBytes 4 (receivedPoint rx i).pointLongitude :=
    readBytes_row (fun k => overlay_routeRecord_point rx rest hi) (by
      rw [AppState.routePointBytes_length]
      decide)
  rw [pointLongitude, hrow, leValue_leBytes, receivedPoint_pointLongitude,
    Nat.mod_eq_of_lt (be32_lt rx _)]

end Memory

/-! ## Runs -/

/-- A message of the platform, as it lies in the buffer. -/
structure Downlink where
  cmdId : ℕ
  linkNum : ℕ
  rx : ℕ → UInt8

/-- The state behind a sequence of messages. -/
def runMessages (s : AppState) (ms : List Downlink) : AppState :=
  ms.foldl (fun s m => s.commandSwitch m.cmdId m.linkNum m.rx) s

theorem messagePages_lt (rx : ℕ → UInt8) (cmdId page : ℕ)
    (h : AppState.messagePages rx cmdId page) : page < 8192 := by
  have hlt := (rx 15).toNat_lt
  rw [AppState.messagePages.eq_def] at h
  split at h
  case h_2 =>
    rw [AppState.eventPages] at h
    split at h
    · rw [pages] at h
      omega
    · omega
  case h_4 =>
    rw [AppState.msgBroadCastPages] at h
    split at h
    · rw [pages] at h
      omega
    · omega
  case h_12 =>
    have hpages : pages (7400 + 1) (7400 + 16) _ :=
      AppState.areaNumber_pages (by decide) (be32 rx 13)
    rw [AppState.setRoutePage] at h
    rw [← h, pages] at hpages
    omega
  case h_13 =>
    rw [AppState.deleteRoutePages] at h
    split at h
    · rw [pages] at h
      omega
    · obtain ⟨i, -, rfl⟩ := h
      have hpages : pages (7400 + 1) (7400 + 16) _ :=
        AppState.areaNumber_pages (by decide) (be32 rx (14 + i))
      rw [pages] at hpages
      omega
  all_goals
    first
    | exact absurd h id
    | omega
    | (rw [pages] at h; omega)

/-- A page of the routes stays as it is while no message writes it. -/
theorem pageTable_runMessages (s : AppState) {page : ℕ} (hpage : 1448 ≤ page)
    {ms : List Downlink}
    (hms : ∀ m ∈ ms, ¬ AppState.messagePages m.rx m.cmdId page) {i : ℕ}
    (hi : i < dfBakSize) :
    pageTable (runMessages s ms).device.chip page i =
      pageTable s.device.chip page i := by
  induction ms using List.reverseRecOn with
  | nil => rfl
  | append_singleton ms m ih =>
      rw [List.forall_mem_append, List.forall_mem_singleton] at hms
      rw [runMessages, List.foldl_append, List.foldl_cons, List.foldl_nil,
        ← ih hms.1]
      exact WritesPages.pageTable_eq
        (AppState.commandSwitch_writes m.rx _ m.cmdId m.linkNum) hi hpage hms.2
        (messagePages_lt m.rx m.cmdId)

/-- The judge evaluates the route of a message, and in full. -/
def RouteJudged (distance : Distance) (rest : ℕ → UInt8) (stack : ℕ → ℕ)
    (rx : ℕ → UInt8) (s : AppState) : Prop :=
  let m := overlay rest (routeRecord rx)
  (dfRoutePage + be32 rx 13, judgeRoute distance m stack) ∈
      (judgeRoutes distance s.device.chip rest stack).evaluated ∧
    JudgedInFull distance m stack

/-- The judge can evaluate the route of a message in full: it is not the last
one, and has three points with none but the first at the origin. -/
structure Judgeable (rx : ℕ → UInt8) : Prop where
  number : be32 rx 13 < routeMum
  points : be16 rx 31 = 3
  second : ¬ ((receivedPoint rx 1).pointLatitude = 0 ∧
    (receivedPoint rx 1).pointLongitude = 0)
  third : ¬ ((receivedPoint rx 2).pointLatitude = 0 ∧
    (receivedPoint rx 2).pointLongitude = 0)

/-- A stored route is judged, and in full, exactly if it is judgeable, as long
as no later message writes its page. -/
theorem routeJudged_iff_judgeable (distance : Distance) (rest : ℕ → UInt8)
    (stack : ℕ → ℕ) (s : AppState) (linkNum : ℕ) (rx : ℕ → UInt8)
    (hlo : 1 ≤ be32 rx 13) (hhi : be32 rx 13 ≤ routeMum)
    (hnum : 3 ≤ be16 rx 31) (later : List Downlink)
    (hlater : ∀ m ∈ later,
      ¬ AppState.messagePages m.rx m.cmdId (dfRoutePage + be32 rx 13)) :
    RouteJudged distance rest stack rx
        (runMessages s (⟨0x8606, linkNum, rx⟩ :: later)) ↔
      Judgeable rx := by
  have hpoints := routePointsNum_routeRecord rx rest
  have hread : dfReadFlash
      (runMessages s (⟨0x8606, linkNum, rx⟩ :: later)).device.chip
      (dfRoutePage + be32 rx 13) 0 routeSize = routeRecord rx := by
    have hpage : RecordName.routeLine.writePage + be32 rx 13 < 8192 := by
      have hpages := RecordName.routeLine.writePage_lt
      exact Nat.lt_of_le_of_lt (Nat.add_le_add hpages hhi) (by decide)
    have hstored := apiRecordNumRead_write s.device hpage
      (routeRecord_length rx ▸ (by decide : routeSize ≤ dfBakSize))
    rw [← AppState.case8606_device rx s hlo hhi hnum, routeRecord_length,
      apiRecordNumRead_eq _ hpage (by decide)] at hstored
    change apiRecordNumRead _ .routeLine (be32 rx 13) routeSize = _
    rw [← hstored, apiRecordNumRead_eq _ hpage (by decide)]
    apply List.map_congr_left
    intro i hi
    exact pageTable_runMessages (s.case8606 rx)
      (Nat.le_trans (by decide : 1448 ≤ dfRoutePage) (Nat.le_add_right _ _))
      hlater (Nat.lt_trans (List.mem_range.mp hi) (by decide))
  rw [RouteJudged, mem_judgeRoutes_evaluated, hread]
  dsimp only
  rw [routeEffectiveFlag_routeRecord, hpoints,
    judgedInFull_iff _ _ _ (by rw [hpoints]; exact hnum), hpoints, PointZero,
    PointZero, pointLatitude_routeRecord rx rest (by decide),
    pointLongitude_routeRecord rx rest (by decide),
    pointLatitude_routeRecord rx rest (by decide),
    pointLongitude_routeRecord rx rest (by decide)]
  constructor
  · rintro ⟨⟨⟨-, hlt⟩, -⟩, hthree, hsecond, hthird⟩
    exact ⟨by omega, hthree, hsecond, hthird⟩
  · rintro ⟨hnumber, hthree, hsecond, hthird⟩
    exact ⟨⟨⟨by omega, by omega⟩, ⟨rfl, by omega⟩, rfl⟩, hthree, hsecond,
      hthird⟩

/-- A route of three points, none at the origin, with the given number. -/
def routeMessage (number : UInt8) : ℕ → UInt8
  | 16 => number
  | 32 => 3
  | 42 => 1
  | 60 => 1
  | 78 => 1
  | _ => 0

/-- Route 15. -/
theorem routeJudged_iff_judgeable_fifteen :
    RouteJudged (fun _ _ _ _ => 0) (fun _ => 0) (fun _ => 0) (routeMessage 15)
        (runMessages {} [⟨0x8606, 0, routeMessage 15⟩]) ↔
      Judgeable (routeMessage 15) :=
  routeJudged_iff_judgeable _ _ _ {} 0 (routeMessage 15) (by decide) (by decide)
    (by decide) [] nofun

/-- Route 16 is stored and never judged. -/
theorem not_routeJudged_sixteen :
    ¬ ∀ (rx : ℕ → UInt8), 1 ≤ be32 rx 13 → be32 rx 13 ≤ routeMum →
      3 ≤ be16 rx 31 →
      RouteJudged (fun _ _ _ _ => 0) (fun _ => 0) (fun _ => 0) rx
        (runMessages {} [⟨0x8606, 0, rx⟩]) := by
  intro h
  have hjudged := h (routeMessage 16) (by decide) (by decide) (by decide)
  rw [RouteJudged, mem_judgeRoutes_evaluated] at hjudged
  exact absurd hjudged.1.1.2 (by decide)

end VehicleRecorder.Protocol
