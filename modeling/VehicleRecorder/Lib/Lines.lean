import Mathlib.Data.List.Infix

/-!
# The lines of a stream

A line ends with two symbols, the second directly behind the first.  A reader of
the stream keeps the symbols of the line it is in; what it keeps when a symbol
comes decides whether that symbol ends a line, and which.
-/

namespace VehicleRecorder.Lines

variable {α : Type*} (c d : α)

/-- The two symbols stand at the end. -/
def Ended (xs : List α) : Prop := [c, d] <:+ xs

/-- A line of which the last symbol is the last of the stream: it starts with the
stream or behind the line in front of it, and it ends where it first can. -/
structure LastLine (stream line : List α) : Prop where
  start : ∃ front, stream = front ++ line ∧ (front = [] ∨ Ended c d front)
  ended : Ended c d line
  first : ∀ p, p <+: line → Ended c d p → p = line

variable {c d} in
theorem ended_concat_iff {xs : List α} {x : α} :
    Ended c d (xs ++ [x]) ↔ x = d ∧ xs.getLast? = some c := by
  constructor
  · rintro ⟨ys, h⟩
    have hsplit : (ys ++ [c]) ++ [d] = xs ++ [x] := by
      rw [← h, List.append_assoc]
      rfl
    obtain ⟨hxs, hx⟩ := List.append_inj' hsplit rfl
    refine ⟨(List.singleton_inj.mp hx).symm, ?_⟩
    rw [← hxs, List.getLast?_concat]
  · rintro ⟨rfl, h⟩
    obtain ⟨ys, rfl⟩ := List.getLast?_eq_some_iff.mp h
    exact ⟨ys, by rw [List.append_assoc]; rfl⟩

variable [DecidableEq α]

/-- A symbol that comes behind the kept ones. -/
def keep (kept : List α) (x : α) : List α :=
  if x = d ∧ kept.getLast? = some c then [] else kept ++ [x]

/-- The symbols of the line that has not ended. -/
def unfinished (xs : List α) : List α := xs.foldl (keep c d) []

theorem unfinished_concat (xs : List α) (x : α) :
    unfinished c d (xs ++ [x]) = keep c d (unfinished c d xs) x := by
  rw [unfinished, List.foldl_append]
  rfl

variable {c d}

theorem keep_of_ended {kept : List α} {x : α} (h : Ended c d (kept ++ [x])) :
    keep c d kept x = [] := if_pos (ended_concat_iff.mp h)

theorem keep_of_not_ended {kept : List α} {x : α}
    (h : ¬ Ended c d (kept ++ [x])) : keep c d kept x = kept ++ [x] :=
  if_neg fun hx => h (ended_concat_iff.mpr hx)

/-- No line ends among the kept symbols, and in front of them stand whole lines. -/
theorem unfinished_spec (c d : α) (xs : List α) :
    ∃ front, xs = front ++ unfinished c d xs ∧
      (front = [] ∨ Ended c d front) ∧
      ∀ p, p <+: unfinished c d xs → ¬ Ended c d p := by
  have hnil : ¬ Ended c d ([] : List α) := by
    intro h
    exact absurd (List.suffix_nil.mp h) (List.cons_ne_nil _ _)
  induction xs using List.reverseRecOn with
  | nil =>
      refine ⟨[], rfl, .inl rfl, fun p hp => ?_⟩
      rw [List.prefix_nil.mp hp]
      exact hnil
  | append_singleton xs x ih =>
      obtain ⟨front, hxs, hfront, hnone⟩ := ih
      rw [unfinished_concat]
      by_cases hend : Ended c d (unfinished c d xs ++ [x])
      · rw [keep_of_ended hend]
        refine ⟨xs ++ [x], (List.append_nil _).symm, .inr ?_, fun p hp => ?_⟩
        · rw [hxs, List.append_assoc]
          exact hend.trans (List.suffix_append _ _)
        · rw [List.prefix_nil.mp hp]
          exact hnil
      · rw [keep_of_not_ended hend]
        refine ⟨front, ?_, hfront, fun p hp => ?_⟩
        · rw [← List.append_assoc, ← hxs]
        · rcases List.prefix_concat_iff.mp hp with rfl | hp
          · exact hend
          · exact hnone p hp

/-- The kept symbols are those behind the lines in front of them. -/
theorem unfinished_eq (hcd : c ≠ d) {front kept : List α}
    (hfront : front = [] ∨ Ended c d front)
    (hnone : ∀ p, p <+: kept → ¬ Ended c d p) :
    unfinished c d (front ++ kept) = kept := by
  induction kept using List.reverseRecOn with
  | nil =>
      rw [List.append_nil]
      rcases hfront with rfl | ⟨ys, rfl⟩
      · rfl
      · have hc : keep c d (unfinished c d ys) c =
            unfinished c d ys ++ [c] := if_neg fun h => hcd h.1
        have hsplit : ys ++ [c, d] = ys ++ [c] ++ [d] := by
          rw [List.append_assoc]
          rfl
        rw [hsplit, unfinished_concat, unfinished_concat, hc]
        exact if_pos ⟨rfl, List.getLast?_concat⟩
  | append_singleton kept x ih =>
      have hkept := ih fun p hp =>
        hnone p (hp.trans (List.prefix_append kept [x]))
      rw [← List.append_assoc, unfinished_concat, hkept]
      exact keep_of_not_ended (hnone _ List.prefix_rfl)

theorem unfinished_of_notMem (hcd : c ≠ d) {xs : List α} (h : d ∉ xs) :
    unfinished c d xs = xs := by
  refine unfinished_eq hcd (.inl rfl) fun p hp hend => h (hp.subset ?_)
  exact hend.subset (List.mem_cons_of_mem c (List.mem_singleton_self d))

/-- The last line is what the reader keeps, and the symbol that ends it. -/
theorem lastLine_concat_iff (hcd : c ≠ d) {xs line : List α} {x : α} :
    LastLine c d (xs ++ [x]) line ↔
      Ended c d (unfinished c d xs ++ [x]) ∧
        line = unfinished c d xs ++ [x] := by
  constructor
  · rintro ⟨⟨front, hsplit, hfront⟩, hended, hfirst⟩
    obtain ⟨ys, rfl⟩ := hended
    have hconcat : front ++ (ys ++ [c, d]) = (front ++ (ys ++ [c])) ++ [d] := by
      simp only [List.append_assoc, List.cons_append, List.nil_append]
    rw [hconcat] at hsplit
    obtain ⟨hxs, hx⟩ := List.append_inj' hsplit rfl
    have hkept : unfinished c d xs = ys ++ [c] := by
      rw [hxs]
      refine unfinished_eq hcd hfront fun p hp hend => ?_
      have hline : [c, d] = [c] ++ [d] := rfl
      have heq := hfirst p (hp.trans ⟨[d], by rw [hline, List.append_assoc]⟩) hend
      have hle := hp.length_le
      rw [heq, List.length_append, List.length_append] at hle
      exact absurd hle (by simp)
    rw [hkept, List.singleton_inj.mp hx, List.append_assoc]
    exact ⟨⟨ys, rfl⟩, rfl⟩
  · rintro ⟨hend, rfl⟩
    obtain ⟨front, hxs, hfront, hnone⟩ := unfinished_spec c d xs
    refine ⟨⟨front, ?_, hfront⟩, hend, fun p hp hp' => ?_⟩
    · rw [← List.append_assoc, ← hxs]
    · exact (List.prefix_concat_iff.mp hp).resolve_right fun h => hnone p h hp'

/-- A line ends at a symbol whether the whole stream or only the kept symbols
are looked at. -/
theorem ended_unfinished_concat_iff (hcd : c ≠ d) {xs : List α} {x : α} :
    Ended c d (unfinished c d xs ++ [x]) ↔ Ended c d (xs ++ [x]) := by
  obtain ⟨front, hxs, hfront, -⟩ := unfinished_spec c d xs
  rw [ended_concat_iff, ended_concat_iff]
  refine and_congr_right fun _ => ?_
  by_cases hnil : unfinished c d xs = []
  · rw [hnil, List.append_nil] at hxs
    rw [hnil, hxs]
    refine iff_of_false (Option.some_ne_none c).symm ?_
    rcases hfront with rfl | ⟨ys, rfl⟩
    · exact (Option.some_ne_none c).symm
    · rw [List.getLast?_append_of_ne_nil _ (List.cons_ne_nil _ _)]
      intro h
      exact hcd (Option.some.inj h).symm
  · conv_rhs => rw [hxs, List.getLast?_append_of_ne_nil _ hnil]

end VehicleRecorder.Lines
