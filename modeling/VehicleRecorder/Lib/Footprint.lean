import Mathlib.Data.List.Perm.Basic
import Mathlib.Data.Set.BooleanAlgebra
import Mathlib.Data.Set.Disjoint
import Mathlib.Data.Set.Insert
import Mathlib.Order.CompletePartialOrder
import VehicleRecorder.Lib.Runs

/-!
# Operations with a footprint

A state is looked at through a view, cell by cell.  An operation has a set of
cells as its footprint if it leaves every other cell alone, and if what it makes
of the cells of the footprint depends on these cells only.  Operations with
disjoint footprints can be carried out in any order, in every run in which each
of them keeps to its footprint.
-/

namespace VehicleRecorder.Footprint

open Runs

variable {σ ι α : Type*} (view : σ → ι → α)

/-- The operation, carried out in the state, leaves the cells outside of `S`
alone. -/
def KeepsTo (S : Set ι) (op : σ → σ) (s : σ) : Prop :=
  ∀ i ∉ S, view (op s) i = view s i

/-- What the operation makes of the cells of `S` depends on them only. -/
def DependsOn (S : Set ι) (op : σ → σ) : Prop :=
  ∀ s t, (∀ i ∈ S, view s i = view t i) →
    ∀ i ∈ S, view (op s) i = view (op t) i

/-- An operation that may touch one more cell keeps to `S` when it happens to
leave that cell as it is. -/
theorem keepsTo_iff_of_insert {view : σ → ι → α} {S : Set ι} {op : σ → σ}
    {s : σ} {c : ι} (h : KeepsTo view (insert c S) op s) (hc : c ∉ S) :
    KeepsTo view S op s ↔ view (op s) c = view s c := by
  constructor
  · intro hkeeps
    exact hkeeps c hc
  · intro hcell i hi
    by_cases hic : i = c
    · rw [hic, hcell]
    · refine h i ?_
      rintro (heq | hmem)
      · exact hic heq
      · exact hi hmem

/-- The operation works on the cells of `S` alone. -/
structure Within (S : Set ι) (op : σ → σ) : Prop where
  frame : ∀ s, KeepsTo view S op s
  local_ : DependsOn view S op

theorem Within.comp {view : σ → ι → α} {S : Set ι} {op op' : σ → σ}
    (h : Within view S op) (h' : Within view S op') :
    Within view S fun s => op' (op s) where
  frame := by
    intro s i hi
    rw [h'.frame _ i hi, h.frame s i hi]
  local_ := by
    intro s t hst
    exact h'.local_ _ _ (h.local_ s t hst)

/-- A choice that does not depend on the state. -/
theorem Within.ite {view : σ → ι → α} {S : Set ι} {op op' : σ → σ} {p : Prop}
    [Decidable p] (h : Within view S op) (h' : Within view S op') :
    Within view S fun s => if p then op s else op' s := by
  by_cases hp : p
  · simp only [if_pos hp]
    exact h
  · simp only [if_neg hp]
    exact h'

/-- Cells that are set to fixed values or left alone depend on nothing else. -/
theorem dependsOn_of_const_or_unchanged {view : σ → ι → α} {S : Set ι}
    {op : σ → σ} (h : ∀ i ∈ S, (∃ v, ∀ s, view (op s) i = v) ∨
      ∀ s, view (op s) i = view s i) : DependsOn view S op := by
  intro s t hst i hi
  rcases h i hi with ⟨v, hv⟩ | hkeep
  · rw [hv, hv]
  · rw [hkeep, hkeep, hst i hi]

/-! ## Runs -/

section Runs

variable {view} {κ : Type*} {foot : κ → Set ι} {op : κ → σ → σ}

/-- The operations of a list, carried out from left to right. -/
def runOps (op : κ → σ → σ) (ks : List κ) (s : σ) : σ :=
  ks.foldl (fun s k => op k s) s

/-- In the run every operation keeps to its footprint. -/
def KeepingRun (view : σ → ι → α) (foot : κ → Set ι) (op : κ → σ → σ) (s : σ)
    (ks : List κ) : Prop :=
  Meeting (fun s k => op k s) (fun s k => KeepsTo view (foot k) (op k) s) s ks

/-- Operations away from a cell leave it alone. -/
theorem view_runOps_of_notMem {ks : List κ} {s : σ}
    (hrun : KeepingRun view foot op s ks) {i : ι} (hi : ∀ k ∈ ks, i ∉ foot k) :
    view (runOps op ks s) i = view s i := by
  induction ks generalizing s with
  | nil => rfl
  | cons k ks ih =>
      have hrest := ih hrun.2 fun k' hk' => hi k' (List.mem_cons_of_mem k hk')
      exact hrest.trans (hrun.1 i (hi k List.mem_cons_self))

/-- What a run makes of the cells of one of its operations is what this
operation alone makes of them. -/
theorem view_runOps_of_mem (hop : ∀ k, DependsOn view (foot k) (op k))
    {ks : List κ} {s : σ} (hrun : KeepingRun view foot op s ks)
    (hdisj : ks.Pairwise fun k k' => Disjoint (foot k) (foot k'))
    {k : κ} (hk : k ∈ ks) {i : ι} (hi : i ∈ foot k) :
    view (runOps op ks s) i = view (op k s) i := by
  induction ks generalizing s with
  | nil => exact absurd hk List.not_mem_nil
  | cons k' ks ih =>
      obtain ⟨hhead, htail⟩ := List.pairwise_cons.mp hdisj
      rcases List.mem_cons.mp hk with rfl | hk
      · refine view_runOps_of_notMem hrun.2 ?_
        intro k' hk' hi'
        exact Set.disjoint_left.mp (hhead k' hk') hi hi'
      · have hrest := ih hrun.2 htail hk
        refine hrest.trans (hop k (op k' s) s ?_ i hi)
        intro j hj
        refine hrun.1 j ?_
        intro hj'
        exact Set.disjoint_left.mp (hhead k hk) hj' hj

/-- Two orders of the same operations with disjoint footprints give the same
view, where every operation keeps to its footprint. -/
theorem view_runOps_perm (hop : ∀ k, DependsOn view (foot k) (op k))
    {ks ks' : List κ} (hperm : ks'.Perm ks) {s : σ}
    (hrun : KeepingRun view foot op s ks)
    (hrun' : KeepingRun view foot op s ks')
    (hdisj : ks.Pairwise fun k k' => Disjoint (foot k) (foot k')) :
    view (runOps op ks' s) = view (runOps op ks s) := by
  have hdisj' : ks'.Pairwise fun k k' => Disjoint (foot k) (foot k') :=
    (hperm.pairwise_iff fun h => h.symm).mpr hdisj
  funext i
  by_cases h : ∃ k ∈ ks, i ∈ foot k
  · obtain ⟨k, hk, hi⟩ := h
    rw [view_runOps_of_mem hop hrun hdisj hk hi,
      view_runOps_of_mem hop hrun' hdisj' (hperm.mem_iff.mpr hk) hi]
  · have hnone : ∀ k ∈ ks, i ∉ foot k := fun k hk hi => h ⟨k, hk, hi⟩
    rw [view_runOps_of_notMem hrun hnone, view_runOps_of_notMem hrun']
    intro k hk
    exact hnone k (hperm.mem_iff.mp hk)

end Runs

end VehicleRecorder.Footprint
