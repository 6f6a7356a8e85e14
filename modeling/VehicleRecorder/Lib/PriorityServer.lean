import VehicleRecorder.Lib.RunCounts

/-!
# Servers with fixed priorities

A server looks at its requests in a fixed order and serves the first one whose
guard holds.  Between its calls the state changes in any way.  A request waits
no longer than there are requests in front of it, those included that are raised
while it waits.
-/

namespace VehicleRecorder

variable {κ σ : Type*}

/-- The requests in the order in which they are looked at, their guards, and
what serving one does. -/
structure PriorityServer (κ σ : Type*) where
  order : List κ
  guard : κ → σ → Bool
  serve : κ → σ → σ

namespace PriorityServer

variable (S : PriorityServer κ σ)

/-- The request that is served next. -/
def next (s : σ) : Option κ := S.order.find? fun k => S.guard k s

/-- One call of the server. -/
def call (s : σ) : σ :=
  match S.next s with
  | some k => S.serve k s
  | none => s

/-- The requests looked at before one. -/
def ahead [DecidableEq κ] (k : κ) : List κ := S.order.takeWhile (· ≠ k)

/-- A property that gains no member of a list and loses one has fewer of
them. -/
theorem countP_lt_of_mem {p q : κ → Bool} {ks : List κ}
    (h : ∀ i ∈ ks, q i = true → p i = true) {j : κ} (hj : j ∈ ks)
    (hq : ¬ q j = true) (hp : p j = true) : ks.countP q < ks.countP p := by
  obtain ⟨front, rest, rfl⟩ := List.append_of_mem hj
  have hfront : front.countP q ≤ front.countP p :=
    List.countP_mono_left fun i hi => h i (List.mem_append_left _ hi)
  have hrest : rest.countP q ≤ rest.countP p :=
    List.countP_mono_left fun i hi =>
      h i (List.mem_append_right _ (List.mem_cons_of_mem _ hi))
  rw [List.countP_append, List.countP_append, List.countP_cons_of_pos hp,
    List.countP_cons_of_neg hq]
  omega

variable {S}

theorem guard_of_next {k : κ} {s : σ} (h : S.next s = some k) :
    S.guard k s = true := List.find?_some (p := fun k => S.guard k s) h

theorem call_of_next {k : κ} {s : σ} (h : S.next s = some k) :
    S.call s = S.serve k s := by rw [call, h]

theorem call_of_none {s : σ} (h : S.next s = none) : S.call s = s := by
  rw [call, h]

/-- Where the guard of a request holds, the request or one in front of it is
served. -/
theorem next_of_guard [DecidableEq κ] {k : κ} {s : σ} (hk : k ∈ S.order)
    (hguard : S.guard k s = true) :
    S.next s = some k ∨ ∃ j ∈ S.ahead k, S.next s = some j := by
  rw [next, ahead]
  generalize S.order = order at hk
  induction order with
  | nil => exact absurd hk List.not_mem_nil
  | cons i order ih =>
      by_cases hik : i = k
      · rw [hik]
        exact Or.inl (List.find?_cons_of_pos hguard)
      · have hmem : k ∈ order := by
          rcases List.mem_cons.mp hk with rfl | hmem
          · exact absurd rfl hik
          · exact hmem
        have hahead : (i :: order).takeWhile (· ≠ k) =
            i :: order.takeWhile (· ≠ k) := by
          rw [List.takeWhile_cons, if_pos (by simpa using hik)]
        rw [hahead]
        by_cases hi : S.guard i s = true
        · refine Or.inr ⟨i, List.mem_cons_self, ?_⟩
          exact List.find?_cons_of_pos (p := fun i => S.guard i s) hi
        · rw [List.find?_cons_of_neg (p := fun i => S.guard i s) hi]
          rcases ih hmem with hserved | ⟨j, hj, hserved⟩
          · exact Or.inl hserved
          · exact Or.inr ⟨j, List.mem_cons_of_mem _ hj, hserved⟩

/-- Serving a request in front of `k` clears its guard and raises none of those in
front of `k`. -/
def ClearsAhead [DecidableEq κ] (S : PriorityServer κ σ) (k : κ)
    (s : σ) : Prop :=
  ∀ j ∈ S.ahead k, S.next s = some j →
    S.guard j (S.serve j s) = false ∧
      ∀ i ∈ S.ahead k, S.guard i (S.serve j s) = true → S.guard i s = true

/-- A call that does not serve the request serves one in front of it, of which
there is one less after it. -/
theorem countP_call [DecidableEq κ] {k : κ} {s : σ} (hk : k ∈ S.order)
    (hguard : S.guard k s = true) (hnot : S.next s ≠ some k)
    (hclears : S.ClearsAhead k s) :
    1 + (S.ahead k).countP (fun j => S.guard j (S.call s)) ≤
      (S.ahead k).countP fun j => S.guard j s := by
  rcases next_of_guard hk hguard with hserved | ⟨j, hj, hserved⟩
  · exact absurd hserved hnot
  · obtain ⟨hcleared, hraises⟩ := hclears j hj hserved
    rw [call_of_next hserved, Nat.add_comm]
    refine Nat.succ_le_of_lt (countP_lt_of_mem hraises hj ?_ ?_)
    · exact Bool.eq_false_iff.mp hcleared
    · exact guard_of_next hserved

/-! ## The server among others -/

variable {ε : Type*} {step : σ → ε → σ} {calls : σ → ε → Bool}

/-- A request waits: its guard holds, and the server does not serve it now. -/
def Waits (S : PriorityServer κ σ) (calls : σ → ε → Bool) (k : κ) (s : σ)
    (e : ε) : Prop :=
  S.guard k s = true ∧ (calls s e = true → S.next s ≠ some k)

/-- While a request waits, the server is called at most as often as requests in
front of it are there at the start or are raised by others. -/
theorem calls_le [DecidableEq κ]
    (hcalls : ∀ s e, calls s e = true → step s e = S.call s) {k : κ}
    (hk : k ∈ S.order) {s : σ} {es : List ε}
    (h : Runs.Meeting step (fun s e => S.Waits calls k s e ∧ S.ClearsAhead k s)
      s es) :
    Runs.tally step (fun s e => (calls s e).toNat) s es ≤
      (S.ahead k).countP (fun j => S.guard j s) +
        Runs.tally step (fun s e =>
          if calls s e then 0
          else Runs.risesOf step S.guard (S.ahead k) s e) s es := by
  refine Nat.le_trans (Nat.le_add_right _ _) (h.tally_le
    (fun s => (S.ahead k).countP fun j => S.guard j s) ?_)
  rintro s e ⟨⟨hguard, hnot⟩, hclears⟩
  by_cases hcall : calls s e = true
  · have hless := countP_call hk hguard (hnot hcall) hclears
    rw [hcalls s e hcall, hcall, if_pos rfl]
    exact hless
  · have hmore := Runs.countP_step_le step S.guard (S.ahead k) s e
    rw [if_neg hcall, Bool.eq_false_iff.mpr hcall]
    simpa using hmore

end PriorityServer

end VehicleRecorder
