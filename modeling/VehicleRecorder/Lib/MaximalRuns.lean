import Mathlib.Data.List.Induction

/-!
# Maximal runs of a predicate

A list is scanned from the left.  The elements that satisfy the predicate make
up runs; each run is closed by the first element that does not, and the last one
may still be open.
-/

namespace VehicleRecorder.MaximalRuns

variable {α : Type*}

/-- The closed runs, each with the element that closed it, and the open one. -/
structure Scan (α : Type*) where
  closed : List (List α × α) := []
  opened : List α := []

/-- The list that was scanned. -/
def Scan.text (s : Scan α) : List α :=
  s.closed.flatMap (fun r => r.1 ++ [r.2]) ++ s.opened

/-- Runs satisfy the predicate, what closes them does not. -/
structure Scan.Valid (p : α → Prop) (s : Scan α) : Prop where
  run : ∀ r ∈ s.closed, ∀ x ∈ r.1, p x
  close : ∀ r ∈ s.closed, ¬ p r.2
  opened : ∀ x ∈ s.opened, p x

theorem Scan.text_cons (r : List α × α) (closed : List (List α × α))
    (opened : List α) :
    Scan.text ⟨r :: closed, opened⟩ =
      r.1 ++ r.2 :: Scan.text ⟨closed, opened⟩ := by
  rw [Scan.text, Scan.text, List.flatMap_cons, List.append_assoc,
    List.append_assoc, List.singleton_append]

theorem Scan.Valid.tail {p : α → Prop} {r : List α × α}
    {closed : List (List α × α)} {opened : List α}
    (h : Scan.Valid p ⟨r :: closed, opened⟩) : Scan.Valid p ⟨closed, opened⟩ :=
  ⟨fun r' hr => h.run r' (List.mem_cons_of_mem r hr),
    fun r' hr => h.close r' (List.mem_cons_of_mem r hr), h.opened⟩

variable (p : α → Prop) [DecidablePred p]

/-- The next element continues the open run or closes it. -/
def Scan.push (s : Scan α) (x : α) : Scan α :=
  if p x then { s with opened := s.opened ++ [x] }
  else ⟨s.closed ++ [(s.opened, x)], []⟩

/-- The scan of a list. -/
def scan (xs : List α) : Scan α := xs.foldl (Scan.push p) {}

theorem scan_concat (xs : List α) (x : α) :
    scan p (xs ++ [x]) = (scan p xs).push p x := by
  rw [scan, List.foldl_append]
  rfl

variable {p}

theorem Scan.push_of_pos {s : Scan α} {x : α} (h : p x) :
    s.push p x = { s with opened := s.opened ++ [x] } := if_pos h

theorem Scan.push_of_neg {s : Scan α} {x : α} (h : ¬ p x) :
    s.push p x = ⟨s.closed ++ [(s.opened, x)], []⟩ := if_neg h

theorem scan_text (xs : List α) : (scan p xs).text = xs := by
  induction xs using List.reverseRecOn with
  | nil => rfl
  | append_singleton xs x ih =>
      rw [scan_concat]
      by_cases h : p x
      · rw [Scan.push_of_pos h, Scan.text, ← List.append_assoc]
        exact congrArg (· ++ [x]) ih
      · rw [Scan.push_of_neg h, Scan.text, List.flatMap_append,
          List.append_nil, List.flatMap_singleton, ← List.append_assoc]
        exact congrArg (· ++ [x]) ih

theorem scan_valid (xs : List α) : (scan p xs).Valid p := by
  induction xs using List.reverseRecOn with
  | nil => exact ⟨by simp [scan], by simp [scan], by simp [scan]⟩
  | append_singleton xs x ih =>
      rw [scan_concat]
      by_cases h : p x
      · rw [Scan.push_of_pos h]
        refine ⟨ih.run, ih.close, ?_⟩
        intro y hy
        rcases List.mem_append.mp hy with hy | hy
        · exact ih.opened y hy
        · exact List.mem_singleton.mp hy ▸ h
      · rw [Scan.push_of_neg h]
        refine ⟨?_, ?_, by simp⟩
        · intro r hr
          rcases List.mem_append.mp hr with hr | hr
          · exact ih.run r hr
          · rw [List.mem_singleton.mp hr]
            exact ih.opened
        · intro r hr
          rcases List.mem_append.mp hr with hr | hr
          · exact ih.close r hr
          · rw [List.mem_singleton.mp hr]
            exact h

theorem foldl_push_run {xs : List α} (h : ∀ x ∈ xs, p x) (s : Scan α) :
    xs.foldl (Scan.push p) s = { s with opened := s.opened ++ xs } := by
  induction xs generalizing s with
  | nil => rw [List.foldl_nil, List.append_nil]
  | cons x xs ih =>
      rw [List.foldl_cons, Scan.push_of_pos (h x List.mem_cons_self),
        ih fun y hy => h y (List.mem_cons_of_mem x hy), List.append_assoc,
        List.singleton_append]

/-- There is no other way to cut a list into maximal runs. -/
theorem scan_unique {s : Scan α} (h : s.Valid p) : scan p s.text = s := by
  obtain ⟨closed, opened⟩ := s
  have hclosed : (closed.flatMap fun r => r.1 ++ [r.2]).foldl (Scan.push p) {} =
      ⟨closed, []⟩ := by
    have hrun := h.run
    have hclose := h.close
    clear h
    induction closed using List.reverseRecOn with
    | nil => rfl
    | append_singleton closed r ih =>
        have hprev := ih (fun r' hr => hrun r' (List.mem_append_left _ hr))
          (fun r' hr => hclose r' (List.mem_append_left _ hr))
        rw [List.flatMap_append, List.foldl_append, hprev,
          List.flatMap_singleton, List.foldl_append,
          foldl_push_run (hrun r (by simp)), List.nil_append, List.foldl_cons,
          List.foldl_nil, Scan.push_of_neg (hclose r (by simp))]
  rw [scan, Scan.text, List.foldl_append, hclosed, foldl_push_run h.opened]
  rfl

end VehicleRecorder.MaximalRuns
