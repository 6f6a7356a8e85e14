import Mathlib.Logic.Function.Basic
import VehicleRecorder.Lib.MaximalRuns

/-!
# Scanning fields into a buffer

A text is read character by character.  The characters between two separators
are a field.  They are stored in a buffer, the same one for each field, and the
separator hands the buffer to a handler.  A terminator may be put behind the
character just stored; how long the field has become is looked at only then.
-/

namespace VehicleRecorder

open MaximalRuns

variable {α σ : Type*}

/-! ## The scanner -/

/-- What a handler leaves. -/
structure FieldOutcome (α σ : Type*) where
  user : σ
  buf : ℕ → α
  /-- The places of the buffer the handler wrote. -/
  writes : List ℕ := []
  /-- Whether the scan goes on. -/
  accepted : Bool := true

/-- The tests and the handlers of a scan.  A handler finds the number of the
separators, the length of the field, and the buffer. -/
structure FieldScanner (α σ : Type*) where
  isSep : α → Bool
  terminator : α
  terminates : ℕ → Bool
  tooLong : ℕ → Bool
  onEmpty : UInt8 → σ → σ
  onField : UInt8 → ℕ → σ → (ℕ → α) → FieldOutcome α σ

/-- The variables of a scan. -/
structure ScanState (α σ : Type*) where
  user : σ
  buf : ℕ → α
  count : UInt8 := 0
  len : ℕ := 0
  /-- The places of the buffer written so far. -/
  writes : List ℕ := []
  /-- What lay in the buffer at each call of a handler. -/
  handed : List (UInt8 × List α) := []

/-- How a scan ended. -/
inductive ScanExit
  | ended
  | overlong
  | rejected
  deriving DecidableEq, Repr

namespace FieldScanner

variable (P : FieldScanner α σ)

/-- Another character of the field. -/
def store (s : ScanState α σ) (c : α) : ScanState α σ :=
  let buf := Function.update s.buf s.len c
  let len := s.len + 1
  if P.terminates len then
    { s with
      buf := Function.update buf len P.terminator
      len := len
      writes := s.writes ++ [s.len, len] }
  else
    { s with
      buf := buf
      len := len
      writes := s.writes ++ [s.len] }

/-- What the handler of a field leaves. -/
def outcome (s : ScanState α σ) : FieldOutcome α σ :=
  P.onField (s.count + 1) s.len s.user s.buf

/-- A separator. -/
def close (s : ScanState α σ) : ScanState α σ :=
  if s.len = 0 then
    { s with
      count := s.count + 1
      user := P.onEmpty (s.count + 1) s.user }
  else
    { s with
      count := s.count + 1
      user := (P.outcome s).user
      buf := (P.outcome s).buf
      writes := s.writes ++ (P.outcome s).writes
      len := 0
      handed := s.handed ++ [(s.count + 1, (List.range s.len).map s.buf)] }

/-- Whether the scan goes on behind a separator. -/
def accepts (s : ScanState α σ) : Bool := s.len = 0 || (P.outcome s).accepted

/-- The scan of a text. -/
def run : ScanState α σ → List α → ScanState α σ × ScanExit
  | s, [] => (s, .ended)
  | s, c :: cs =>
      if P.isSep c then
        if P.accepts s then run (P.close s) cs else (P.close s, .rejected)
      else if P.tooLong (s.len + 1) then (P.store s c, .overlong)
      else run (P.store s c) cs

/-! ## Storing a field -/

section Storing

variable {P} {s : ScanState α σ} {xs : List α}

/-- The buffer holds the field, and a terminator behind it where there is to be
one. -/
structure Holding (P : FieldScanner α σ) (s : ScanState α σ) (xs : List α) :
    Prop where
  len : s.len = xs.length
  chars : ∀ i, i < xs.length → xs[i]? = some (s.buf i)
  terminated : xs ≠ [] → P.terminates xs.length = true →
    s.buf xs.length = P.terminator

theorem holding_nil (hlen : s.len = 0) : P.Holding s [] :=
  ⟨hlen, fun _ h => absurd h (Nat.not_lt_zero _), fun h => absurd rfl h⟩

/-- The buffer as it is handed over. -/
theorem Holding.read (h : P.Holding s xs) :
    (List.range s.len).map s.buf = xs := by
  refine List.ext_getElem? fun i => ?_
  rw [List.getElem?_map, h.len]
  rcases Nat.lt_or_ge i xs.length with hlt | hge
  · rw [List.getElem?_range hlt, h.chars i hlt]
    rfl
  · rw [List.getElem?_eq_none (by rw [List.length_range]; exact hge),
      List.getElem?_eq_none hge]
    rfl

theorem store_len (c : α) : (P.store s c).len = s.len + 1 := by
  unfold store
  dsimp only
  split <;> rfl

theorem store_buf (c : α) :
    (P.store s c).buf =
      if P.terminates (s.len + 1) then
        Function.update (Function.update s.buf s.len c) (s.len + 1) P.terminator
      else Function.update s.buf s.len c := by
  unfold store
  dsimp only
  split <;> rfl

theorem Holding.store (h : P.Holding s xs) (c : α) :
    P.Holding (P.store s c) (xs ++ [c]) := by
  have hlen : (xs ++ [c]).length = xs.length + 1 := List.length_append
  have hchar : ∀ i, i < xs.length + 1 →
      (xs ++ [c])[i]? = some (Function.update s.buf xs.length c i) := by
    intro i hi
    rcases Nat.lt_succ_iff_lt_or_eq.mp hi with hlt | rfl
    · rw [List.getElem?_append_left hlt, h.chars i hlt,
        Function.update_of_ne (Nat.ne_of_lt hlt)]
    · rw [List.getElem?_concat_length, Function.update_self]
  refine ⟨by rw [store_len, h.len, hlen], ?_, ?_⟩
  · intro i hi
    rw [hlen] at hi
    rw [store_buf, h.len]
    split
    · rw [Function.update_of_ne (Nat.ne_of_lt hi)]
      exact hchar i hi
    · exact hchar i hi
  · intro _ hterm
    rw [hlen] at hterm ⊢
    rw [store_buf, h.len, if_pos hterm, Function.update_self]

/-- Every place written lies in the buffer. -/
def InBounds (size : ℕ) (s : ScanState α σ) : Prop := ∀ i ∈ s.writes, i < size

/-- Fields up to a length go into a buffer of the given size, and the next
longer ones do not. -/
structure Fits (P : FieldScanner α σ) (size limit : ℕ) : Prop where
  le : limit ≤ size
  terminator : ∀ n, n ≤ limit → P.terminates n = true → n < size
  shorter : ∀ n, n ≤ limit → P.tooLong n = false
  overflow : size ≤ limit ∨
    P.terminates (limit + 1) = true ∧ size ≤ limit + 1

theorem store_writes (c : α) :
    (P.store s c).writes =
      s.writes ++ if P.terminates (s.len + 1) then [s.len, s.len + 1]
        else [s.len] := by
  unfold store
  dsimp only
  split <;> rfl

theorem InBounds.store {size limit : ℕ} (hfits : P.Fits size limit)
    (hs : InBounds size s) (hlen : s.len < limit) (c : α) :
    InBounds size (P.store s c) := by
  intro i hi
  rw [store_writes] at hi
  have hplace : s.len < size := Nat.lt_of_lt_of_le hlen hfits.le
  rcases List.mem_append.mp hi with hold | hnew
  · exact hs i hold
  · split at hnew
    · rename_i hterm
      rcases List.mem_cons.mp hnew with rfl | hnext
      · exact hplace
      · rw [List.mem_singleton.mp hnext]
        exact hfits.terminator _ hlen hterm
    · exact List.mem_singleton.mp hnew ▸ hplace

/-- The state after a field has been stored, next to the one before it. -/
structure Stored (P : FieldScanner α σ) (size : ℕ) (s : ScanState α σ)
    (xs : List α) (t : ScanState α σ) : Prop where
  holding : P.Holding t xs
  user : t.user = s.user
  count : t.count = s.count
  handed : t.handed = s.handed
  inBounds : InBounds size s → InBounds size t

theorem stored_foldl {size limit : ℕ} (hfits : P.Fits size limit)
    (hlen : s.len = 0) (xs : List α) (hxs : xs.length ≤ limit) :
    P.Stored size s xs (xs.foldl P.store s) := by
  induction xs using List.reverseRecOn with
  | nil => exact ⟨holding_nil hlen, rfl, rfl, rfl, id⟩
  | append_singleton xs c ih =>
      rw [List.length_append, List.length_singleton] at hxs
      have h := ih (Nat.le_of_succ_le hxs)
      rw [List.foldl_append, List.foldl_cons, List.foldl_nil]
      have hframe : ∀ t : ScanState α σ, (P.store t c).user = t.user ∧
          (P.store t c).count = t.count ∧ (P.store t c).handed = t.handed := by
        intro t
        unfold store
        dsimp only
        split <;> exact ⟨rfl, rfl, rfl⟩
      obtain ⟨huser, hcount, hhanded⟩ := hframe (xs.foldl P.store s)
      refine ⟨h.holding.store c, huser.trans h.user, hcount.trans h.count,
        hhanded.trans h.handed, fun hs => ?_⟩
      exact (h.inBounds hs).store hfits (by rw [h.holding.len]; exact hxs) c

end Storing

/-! ## Scanning a field -/

section Scanning

variable {P} {s : ScanState α σ} {xs : List α} {size limit : ℕ}

theorem run_foldl (hfits : P.Fits size limit) (rest : List α)
    (hxs : ∀ c ∈ xs, P.isSep c = false) (hlen : s.len + xs.length ≤ limit) :
    P.run s (xs ++ rest) = P.run (xs.foldl P.store s) rest := by
  induction xs generalizing s with
  | nil => rfl
  | cons c cs ih =>
      rw [List.length_cons] at hlen
      have hsep := hxs c List.mem_cons_self
      have hshort := hfits.shorter (s.len + 1) (by omega)
      have hrest := ih (s := P.store s c)
        (fun d hd => hxs d (List.mem_cons_of_mem c hd))
        (by rw [store_len]; omega)
      rw [List.cons_append, run, if_neg (by rw [hsep]; exact Bool.false_ne_true),
        if_neg (by rw [hshort]; exact Bool.false_ne_true)]
      exact hrest

/-- A field and the separator behind it. -/
theorem run_field (hfits : P.Fits size limit) (hlen : s.len = 0)
    (hxs : ∀ c ∈ xs, P.isSep c = false) (hshort : xs.length ≤ limit) {sep : α}
    (hsep : P.isSep sep = true) (rest : List α) :
    P.run s (xs ++ sep :: rest) =
      if P.accepts (xs.foldl P.store s) then
        P.run (P.close (xs.foldl P.store s)) rest
      else (P.close (xs.foldl P.store s), .rejected) := by
  rw [run_foldl hfits (sep :: rest) hxs (by rw [hlen, Nat.zero_add]; exact hshort),
    run, if_pos hsep]

/-- What the handlers keep of the user's state is kept by a scan.  A handler is
only given fields that were not too long. -/
theorem user_run (inv : σ → Prop) (hempty : ∀ n u, inv u → inv (P.onEmpty n u))
    (hfield : ∀ (t : ScanState α σ) (ys : List α), P.Holding t ys → ys ≠ [] →
      P.tooLong ys.length = false → inv t.user → inv (P.outcome t).user)
    (hs : P.Holding s xs) (hshort : xs ≠ [] → P.tooLong xs.length = false)
    (h : inv s.user) (cs : List α) : inv (P.run s cs).1.user := by
  induction cs generalizing s xs with
  | nil => exact h
  | cons c cs ih =>
      have hclose : inv (P.close s).user := by
        unfold close
        split
        · exact hempty _ _ h
        · rename_i hlen
          have hne : xs ≠ [] := by
            rintro rfl
            exact hlen hs.len
          exact hfield s xs hs hne (hshort hne) h
      have hstore : (P.store s c).user = s.user := by
        unfold store
        dsimp only
        split <;> rfl
      unfold run
      split
      · split
        · have hreset : (P.close s).len = 0 := by
            unfold close
            split
            · assumption
            · rfl
          exact ih (holding_nil hreset) (fun hne => absurd rfl hne) hclose
        · exact hclose
      · split
        · rwa [hstore]
        · rename_i hlong
          refine ih (hs.store c) (fun _ => ?_) (by rwa [hstore])
          rw [List.length_append, List.length_singleton, ← hs.len]
          exact Bool.eq_false_iff.mpr hlong

theorem close_writes :
    ∃ ws, (P.close s).writes = s.writes ++ ws := by
  unfold close
  split
  · exact ⟨[], (List.append_nil _).symm⟩
  · exact ⟨_, rfl⟩

/-- What has been written stays written. -/
theorem writes_subset_run (cs : List α) (s : ScanState α σ) :
    s.writes ⊆ (P.run s cs).1.writes := by
  induction cs generalizing s with
  | nil => exact List.Subset.refl _
  | cons c cs ih =>
      have hstore : s.writes ⊆ (P.store s c).writes := by
        rw [store_writes]
        exact List.subset_append_left _ _
      have hclose : s.writes ⊆ (P.close s).writes := by
        obtain ⟨ws, hws⟩ := close_writes (P := P) (s := s)
        rw [hws]
        exact List.subset_append_left _ _
      unfold run
      split
      · split
        · exact List.Subset.trans hclose (ih _)
        · exact hclose
      · split
        · exact hstore
        · exact List.Subset.trans hstore (ih _)

/-- A field that is too long leaves the buffer. -/
theorem not_inBounds_of_long (hfits : P.Fits size limit) (hlen : s.len = 0)
    (hxs : ∀ c ∈ xs, P.isSep c = false) (hlong : limit < xs.length)
    (rest : List α) : ¬ InBounds size (P.run s (xs ++ rest)).1 := by
  obtain ⟨ys, c, zs, rfl, hys⟩ : ∃ ys c zs, xs = ys ++ c :: zs ∧
      ys.length = limit :=
    ⟨xs.take limit, xs[limit], xs.drop (limit + 1),
      by rw [← List.drop_eq_getElem_cons hlong, List.take_append_drop],
      List.length_take_of_le (Nat.le_of_lt hlong)⟩
  rw [List.append_assoc, run_foldl hfits _
    (fun d hd => hxs d (List.mem_append_left _ hd))
    (by rw [hlen, Nat.zero_add]; exact Nat.le_of_eq hys)]
  have hthere := stored_foldl hfits hlen ys (Nat.le_of_eq hys)
  generalize ys.foldl P.store s = t at hthere
  have htlen : t.len = limit := hthere.holding.len.trans hys
  have hover : ∃ i ∈ (P.store t c).writes, size ≤ i := by
    rw [store_writes, htlen]
    rcases hfits.overflow with hge | ⟨hterm, hge⟩
    · refine ⟨limit, List.mem_append_right _ ?_, hge⟩
      split <;> exact List.mem_cons_self
    · rw [if_pos hterm]
      exact ⟨limit + 1, List.mem_append_right _ (by simp), hge⟩
  obtain ⟨i, hi, hge⟩ := hover
  have hsep : P.isSep c = false :=
    hxs c (List.mem_append_right _ List.mem_cons_self)
  have hmem : i ∈ (P.run t (c :: zs ++ rest)).1.writes := by
    rw [List.cons_append, run,
      if_neg (by rw [hsep]; exact Bool.false_ne_true)]
    split
    · exact hi
    · exact writes_subset_run _ _ hi
  exact fun hin => absurd (hin i hmem) (Nat.not_lt.mpr hge)

end Scanning

/-! ## The fields of a text -/

/-- A field whose handler ends the scan. -/
def stopsAt (rejects : UInt8 → List α → Bool) (n : UInt8) (xs : List α) :
    Bool := !xs.isEmpty && rejects n xs

/-- The fields that a scan comes to: the complete ones up to the first that its
handler rejects, or all of them and the one behind the last separator. -/
def reached (rejects : UInt8 → List α → Bool) :
    UInt8 → List (List α × α) → List α → List (List α)
  | _, [], last => [last]
  | n, (xs, _) :: rest, last =>
      xs :: if stopsAt rejects (n + 1) xs then []
        else reached rejects (n + 1) rest last

/-- The complete fields that a scan comes to, without the empty ones, each with
the number of separators. -/
def passed (rejects : UInt8 → List α → Bool) :
    UInt8 → List (List α × α) → List (UInt8 × List α)
  | _, [] => []
  | n, (xs, _) :: rest =>
      (if xs.isEmpty then [] else [(n + 1, xs)]) ++
        if stopsAt rejects (n + 1) xs then [] else passed rejects (n + 1) rest

/-- A text cut at the separators. -/
def cut (text : List α) : Scan α := scan (fun c => P.isSep c = false) text

/-- The handlers reject the fields of a predicate, and write only to the
buffer. -/
structure Handles (size limit : ℕ) (rejects : UInt8 → List α → Bool) : Prop where
  accepted : ∀ (s : ScanState α σ) xs, P.Holding s xs → xs ≠ [] →
    xs.length ≤ limit → (P.outcome s).accepted = !rejects (s.count + 1) xs
  inBounds : ∀ (s : ScanState α σ), ∀ i ∈ (P.outcome s).writes, i < size

section Fields

variable {P} {s t : ScanState α σ} {xs : List α} {size limit : ℕ}
variable {rejects : UInt8 → List α → Bool}

theorem close_len : (P.close s).len = 0 := by
  unfold close
  split
  · rename_i hlen
    exact hlen
  · rfl

theorem close_count : (P.close s).count = s.count + 1 := by
  unfold close
  split <;> rfl

theorem InBounds.close (hhandles : P.Handles size limit rejects)
    (hs : InBounds size s) : InBounds size (P.close s) := by
  unfold FieldScanner.close
  split
  · exact hs
  · intro i hi
    rcases List.mem_append.mp hi with hold | hnew
    · exact hs i hold
    · exact hhandles.inBounds s i hnew

/-- What is handed over when a field is closed. -/
theorem Holding.close_handed (h : P.Holding s xs) :
    (P.close s).handed =
      s.handed ++ if xs.isEmpty then [] else [(s.count + 1, xs)] := by
  unfold FieldScanner.close
  cases xs with
  | nil =>
      rw [if_pos (show s.len = 0 from h.len)]
      exact (List.append_nil _).symm
  | cons c cs =>
      have hne : s.len ≠ 0 := by
        rw [h.len]
        exact Nat.succ_ne_zero _
      rw [if_neg hne]
      dsimp only
      rw [h.read]
      rfl

theorem Holding.accepts_eq (h : P.Holding s xs)
    (hhandles : P.Handles size limit rejects) (hshort : xs.length ≤ limit) :
    P.accepts s = !stopsAt rejects (s.count + 1) xs := by
  unfold accepts stopsAt
  cases xs with
  | nil =>
      rw [h.len]
      rfl
  | cons c cs =>
      have hne : s.len ≠ 0 := by
        rw [h.len]
        exact Nat.succ_ne_zero _
      rw [decide_eq_false hne, Bool.false_or,
        hhandles.accepted s _ h (List.cons_ne_nil c cs) hshort]
      rfl

/-- The field behind the last separator is not handed over. -/
theorem run_last_iff (hfits : P.Fits size limit) (hlen : s.len = 0)
    (hs : InBounds size s) (hxs : ∀ c ∈ xs, P.isSep c = false) :
    (InBounds size (P.run s xs).1 ∧ (P.run s xs).1.handed = s.handed) ↔
      xs.length ≤ limit := by
  rcases Nat.lt_or_ge limit xs.length with hlong | hshort
  · have hout := not_inBounds_of_long hfits hlen hxs hlong []
    rw [List.append_nil] at hout
    exact iff_of_false (fun h => hout h.1) (Nat.not_le.mpr hlong)
  · refine iff_of_true ?_ hshort
    have hrun := run_foldl hfits (s := s) [] hxs
      (by rw [hlen, Nat.zero_add]; exact hshort)
    rw [List.append_nil] at hrun
    have hstored := stored_foldl hfits hlen xs hshort
    rw [hrun]
    exact ⟨hstored.inBounds hs, hstored.handed⟩

/-- The scan of a cut text stays in the buffer and hands over the fields exactly
when those it comes to are short. -/
theorem run_cut_iff (hfits : P.Fits size limit)
    (hhandles : P.Handles size limit rejects) (closed : List (List α × α))
    (last : List α)
    (hvalid : Scan.Valid (fun c => P.isSep c = false) ⟨closed, last⟩)
    (hlen : s.len = 0) (hs : InBounds size s) :
    (InBounds size (P.run s (Scan.text ⟨closed, last⟩)).1 ∧
        (P.run s (Scan.text ⟨closed, last⟩)).1.handed =
          s.handed ++ passed rejects s.count closed) ↔
      ∀ xs ∈ reached rejects s.count closed last, xs.length ≤ limit := by
  induction closed generalizing s with
  | nil =>
      rw [Scan.text, List.flatMap_nil, List.nil_append]
      simp only [reached, passed, List.append_nil, List.mem_singleton,
        forall_eq]
      exact run_last_iff hfits hlen hs hvalid.opened
  | cons r closed ih =>
      obtain ⟨xs, sep⟩ := r
      have hxs : ∀ c ∈ xs, P.isSep c = false :=
        hvalid.run (xs, sep) List.mem_cons_self
      have hsep : P.isSep sep = true :=
        Bool.not_eq_false _ ▸ hvalid.close (xs, sep) List.mem_cons_self
      rw [reached, List.forall_mem_cons, passed, Scan.text_cons]
      rcases Nat.lt_or_ge limit xs.length with hlong | hshort
      · have hout := not_inBounds_of_long hfits hlen hxs hlong
          (sep :: Scan.text ⟨closed, last⟩)
        exact iff_of_false (fun h => hout h.1)
          fun h => absurd h.1 (Nat.not_le.mpr hlong)
      · rw [run_field hfits hlen hxs hshort hsep]
        have hstored := stored_foldl hfits hlen xs hshort
        generalize xs.foldl P.store s = t at hstored
        have hin := (hstored.inBounds hs).close hhandles
        have hhanded := hstored.holding.close_handed
        have haccepts := hstored.holding.accepts_eq hhandles hshort
        rw [hstored.count] at hhanded haccepts
        rw [hstored.handed] at hhanded
        have hnext := ih (s := P.close t) hvalid.tail close_len hin
        rw [close_count, hstored.count, hhanded, List.append_assoc] at hnext
        rw [and_iff_right hshort]
        cases hstops : stopsAt rejects (s.count + 1) xs with
        | true =>
            rw [hstops, Bool.not_true] at haccepts
            rw [if_neg (by rw [haccepts]; exact Bool.false_ne_true), if_pos rfl,
              if_pos rfl, List.append_nil]
            exact iff_of_true ⟨hin, hhanded⟩
              fun ys hys => absurd hys List.not_mem_nil
        | false =>
            rw [hstops, Bool.not_false] at haccepts
            rw [if_pos haccepts, if_neg Bool.false_ne_true,
              if_neg Bool.false_ne_true]
            exact hnext

theorem run_text_iff (hfits : P.Fits size limit)
    (hhandles : P.Handles size limit rejects) (hlen : s.len = 0)
    (hs : InBounds size s) (text : List α) :
    (InBounds size (P.run s text).1 ∧
        (P.run s text).1.handed =
          s.handed ++ passed rejects s.count (P.cut text).closed) ↔
      ∀ xs ∈ reached rejects s.count (P.cut text).closed (P.cut text).opened,
        xs.length ≤ limit := by
  have h := run_cut_iff hfits hhandles (P.cut text).closed (P.cut text).opened
    (scan_valid text) hlen hs
  rw [show Scan.text ⟨(P.cut text).closed, (P.cut text).opened⟩ = text from
    scan_text text] at h
  exact h

end Fields

end FieldScanner

end VehicleRecorder
