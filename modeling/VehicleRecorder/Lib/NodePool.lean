import Mathlib.Data.Fintype.Basic
import Mathlib.Data.Finset.Card
import Mathlib.Data.List.Nodup
import Mathlib.Data.List.Perm.Subperm
import Mathlib.Logic.Function.Basic

/-!
# Pools of nodes

A linked list is a pointer together with a map that gives for each node the next
one.  The module says which nodes a pointer leads through, and how the chains
change when a node is put in front or behind.

The nodes of a pool are on a list, or they belong each to one party that works on
it.  Taking a node from a list and putting it back keeps that.
-/

namespace VehicleRecorder.NodePool

/-! ## Chains -/

variable {ι : Type*} {next : ι → Option ι}

/-- The pointer leads through the nodes, in their order, to the end. -/
def Chain (next : ι → Option ι) : Option ι → List ι → Prop
  | p, [] => p = none
  | p, n :: ns => p = some n ∧ Chain next (next n) ns

theorem chain_none_iff {ns : List ι} : Chain next none ns ↔ ns = [] := by
  cases ns with
  | nil => exact iff_of_true rfl rfl
  | cons n ns => exact iff_of_false (fun h => nomatch h.1) (List.cons_ne_nil n ns)

/-- A pointer to a node leads through it first. -/
theorem Chain.of_some {n : ι} {ns : List ι} (h : Chain next (some n) ns) :
    ∃ rest, ns = n :: rest ∧ Chain next (next n) rest := by
  cases ns with
  | nil => exact nomatch h
  | cons m rest =>
      obtain ⟨heq, hrest⟩ := h
      obtain rfl := Option.some.inj heq
      exact ⟨rest, rfl, hrest⟩

variable [DecidableEq ι]

/-- What is written into other nodes does not matter. -/
theorem Chain.update {p : Option ι} {ns : List ι} (h : Chain next p ns) {m : ι}
    (hm : m ∉ ns) (q : Option ι) : Chain (Function.update next m q) p ns := by
  induction ns generalizing p with
  | nil => exact h
  | cons n ns ih =>
      obtain ⟨hp, hrest⟩ := h
      obtain ⟨hne, hnot⟩ := not_or.mp (mt List.mem_cons.mpr hm)
      refine ⟨hp, ?_⟩
      rw [Function.update_of_ne (Ne.symm hne)]
      exact ih hrest hnot

/-- A node put in front. -/
theorem Chain.push {p : Option ι} {ns : List ι} (h : Chain next p ns) {m : ι}
    (hm : m ∉ ns) : Chain (Function.update next m p) (some m) (m :: ns) := by
  refine ⟨rfl, ?_⟩
  rw [Function.update_self]
  exact h.update hm p

/-- A node put behind the last one. -/
theorem Chain.concat {p : Option ι} {ns : List ι} {t m : ι}
    (h : Chain next p (ns ++ [t])) (hnodup : (ns ++ [t]).Nodup)
    (hm : m ∉ ns ++ [t]) (hend : next m = none) :
    Chain (Function.update next t (some m)) p (ns ++ [t] ++ [m]) := by
  induction ns generalizing p with
  | nil =>
      obtain ⟨hp, -⟩ := h
      have hne : m ≠ t := fun heq => hm (List.mem_singleton.mpr heq)
      refine ⟨hp, Function.update_self .., ?_⟩
      rw [Function.update_of_ne hne]
      exact hend
  | cons n ns ih =>
      obtain ⟨hp, hrest⟩ := h
      obtain ⟨hfirst, hnodup⟩ := List.nodup_cons.mp hnodup
      have hnot : m ∉ ns ++ [t] := fun h => hm (List.mem_cons_of_mem n h)
      have hne : n ≠ t := by
        rintro rfl
        exact hfirst (List.mem_append_right ns (List.mem_singleton_self n))
      refine ⟨hp, ?_⟩
      rw [Function.update_of_ne hne]
      exact ih hrest hnodup hnot

/-! ## Owners -/

variable {τ : Type*} [DecidableEq τ] {owner : τ → Option ℕ} {listed : List ℕ}
  {size : ℕ}

/-- Every node of the pool is on the list, or belongs to one party. -/
structure Owns (size : ℕ) (owner : τ → Option ℕ) (listed : List ℕ) : Prop where
  nodup : listed.Nodup
  bound : ∀ n ∈ listed, n < size
  owned : ∀ {t n}, owner t = some n → n < size ∧ n ∉ listed
  apart : ∀ {t u n}, owner t = some n → owner u = some n → t = u
  cover : ∀ n < size, n ∈ listed ∨ ∃ t, owner t = some n

omit [DecidableEq τ] in
theorem Owns.perm (h : Owns size owner listed) {listed' : List ℕ}
    (hperm : listed.Perm listed') : Owns size owner listed' where
  nodup := hperm.nodup_iff.mp h.nodup
  bound := fun n hn => h.bound n (hperm.mem_iff.mpr hn)
  owned := fun ht => ⟨(h.owned ht).1, fun hn => (h.owned ht).2 (hperm.mem_iff.mpr hn)⟩
  apart := h.apart
  cover := fun n hn => (h.cover n hn).imp_left hperm.mem_iff.mp

/-- A party takes a node from the list. -/
theorem Owns.acquire {n : ℕ} (h : Owns size owner (n :: listed)) {t : τ}
    (ht : owner t = none) :
    Owns size (Function.update owner t (some n)) listed where
  nodup := (List.nodup_cons.mp h.nodup).2
  bound := fun m hm => h.bound m (List.mem_cons_of_mem n hm)
  owned := by
    intro u m hu
    by_cases hut : u = t
    · rw [hut, Function.update_self] at hu
      obtain rfl := Option.some.inj hu
      exact ⟨h.bound n List.mem_cons_self, (List.nodup_cons.mp h.nodup).1⟩
    · rw [Function.update_of_ne hut] at hu
      obtain ⟨hlt, hnot⟩ := h.owned hu
      exact ⟨hlt, fun hm => hnot (List.mem_cons_of_mem n hm)⟩
  apart := by
    have hfresh {u : τ} : owner u ≠ some n :=
      fun hu => (h.owned hu).2 List.mem_cons_self
    intro u v m hu hv
    by_cases hut : u = t <;> by_cases hvt : v = t
    · exact hut.trans hvt.symm
    · rw [hut, Function.update_self] at hu
      rw [Function.update_of_ne hvt, ← hu] at hv
      exact absurd hv hfresh
    · rw [hvt, Function.update_self] at hv
      rw [Function.update_of_ne hut, ← hv] at hu
      exact absurd hu hfresh
    · rw [Function.update_of_ne hut] at hu
      rw [Function.update_of_ne hvt] at hv
      exact h.apart hu hv
  cover := by
    intro m hm
    rcases h.cover m hm with hlist | ⟨u, hu⟩
    · rcases List.mem_cons.mp hlist with rfl | hrest
      · exact Or.inr ⟨t, Function.update_self ..⟩
      · exact Or.inl hrest
    · refine Or.inr ⟨u, ?_⟩
      rw [Function.update_of_ne]
      · exact hu
      · rintro rfl
        exact nomatch ht.symm.trans hu

/-- A party puts its node on the list. -/
theorem Owns.release {n : ℕ} (h : Owns size owner listed) {t : τ}
    (ht : owner t = some n) :
    Owns size (Function.update owner t none) (n :: listed) where
  nodup := List.nodup_cons.mpr ⟨(h.owned ht).2, h.nodup⟩
  bound := by
    intro m hm
    rcases List.mem_cons.mp hm with rfl | hrest
    · exact (h.owned ht).1
    · exact h.bound m hrest
  owned := by
    intro u m hu
    have hut : u ≠ t := by
      rintro rfl
      rw [Function.update_self] at hu
      exact nomatch hu
    rw [Function.update_of_ne hut] at hu
    obtain ⟨hlt, hnot⟩ := h.owned hu
    refine ⟨hlt, fun hm => ?_⟩
    rcases List.mem_cons.mp hm with rfl | hrest
    · exact hut (h.apart hu ht)
    · exact hnot hrest
  apart := by
    have hrest {u : τ} {m : ℕ}
        (hu : Function.update owner t none u = some m) : owner u = some m := by
      by_cases hut : u = t
      · rw [hut, Function.update_self] at hu
        exact nomatch hu
      · rwa [Function.update_of_ne hut] at hu
    intro u v m hu hv
    exact h.apart (hrest hu) (hrest hv)
  cover := by
    intro m hm
    rcases h.cover m hm with hlist | ⟨u, hu⟩
    · exact Or.inl (List.mem_cons_of_mem n hlist)
    · by_cases hut : u = t
      · rw [hut, ht] at hu
        obtain rfl := Option.some.inj hu
        exact Or.inl List.mem_cons_self
      · exact Or.inr ⟨u, (Function.update_of_ne hut ..).trans hu⟩

omit [DecidableEq τ] in
/-- While a party has a node, the list is shorter than the pool. -/
theorem Owns.length_lt (h : Owns size owner listed) {t : τ} {n : ℕ}
    (ht : owner t = some n) : listed.length < size := by
  have hnodup : (n :: listed).Nodup :=
    List.nodup_cons.mpr ⟨(h.owned ht).2, h.nodup⟩
  have hsub : n :: listed ⊆ List.range size := by
    intro m hm
    rw [List.mem_range]
    rcases List.mem_cons.mp hm with rfl | hrest
    · exact (h.owned ht).1
    · exact h.bound m hrest
  have hle := (List.subperm_of_subset hnodup hsub).length_le
  rw [List.length_cons, List.length_range] at hle
  exact hle

omit [DecidableEq τ] in
/-- The nodes are those on the list and one for each party that has one. -/
theorem Owns.length_add_card [Fintype τ] (h : Owns size owner listed) :
    listed.length +
      (Finset.univ.filter fun t => (owner t).isSome = true).card = size := by
  have hinj : Set.InjOn (fun t => (owner t).getD 0)
      (Finset.univ.filter fun t => (owner t).isSome = true) := by
    intro t ht u hu heq
    obtain ⟨n, hn⟩ := Option.isSome_iff_exists.mp (Finset.mem_filter.mp ht).2
    obtain ⟨m, hm⟩ := Option.isSome_iff_exists.mp (Finset.mem_filter.mp hu).2
    simp only [hn, hm, Option.getD_some] at heq
    exact h.apart hn (heq ▸ hm)
  have hdisjoint : Disjoint listed.toFinset
      ((Finset.univ.filter fun t => (owner t).isSome = true).image
        fun t => (owner t).getD 0) := by
    refine Finset.disjoint_left.mpr fun n hn himage => ?_
    obtain ⟨t, ht, rfl⟩ := Finset.mem_image.mp himage
    obtain ⟨m, hm⟩ := Option.isSome_iff_exists.mp (Finset.mem_filter.mp ht).2
    rw [hm, Option.getD_some, List.mem_toFinset] at hn
    exact (h.owned hm).2 hn
  have hall : listed.toFinset ∪
      ((Finset.univ.filter fun t => (owner t).isSome = true).image
        fun t => (owner t).getD 0) = Finset.range size := by
    ext n
    rw [Finset.mem_union, List.mem_toFinset, Finset.mem_image, Finset.mem_range]
    constructor
    · rintro (hn | ⟨t, ht, rfl⟩)
      · exact h.bound n hn
      · obtain ⟨m, hm⟩ := Option.isSome_iff_exists.mp (Finset.mem_filter.mp ht).2
        rw [hm, Option.getD_some]
        exact (h.owned hm).1
    · intro hn
      rcases h.cover n hn with hlist | ⟨t, ht⟩
      · exact Or.inl hlist
      · refine Or.inr ⟨t, Finset.mem_filter.mpr ⟨Finset.mem_univ t, ?_⟩, ?_⟩
        · rw [ht, Option.isSome_some]
        · rw [ht, Option.getD_some]
  have hcard := Finset.card_union_of_disjoint hdisjoint
  rw [hall, Finset.card_range, List.toFinset_card_of_nodup h.nodup,
    Finset.card_image_of_injOn hinj] at hcard
  exact hcard.symm

end VehicleRecorder.NodePool
