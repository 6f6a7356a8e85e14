import VehicleRecorder.Lib.Bytes
import Mathlib.Logic.Function.Basic

/-!
# Functions of the front of a memory

A function of a memory is determined by its first `n` cells, at a given memory,
if no change behind them changes its value.
-/

namespace VehicleRecorder.Prefix

open Bytes

section Determined

variable {α β γ : Type*} {F : (ℕ → α) → β} {f g g' : ℕ → α} {m n p : ℕ}

/-- Two memories have the same first `n` cells. -/
def Agree (n : ℕ) (f g : ℕ → α) : Prop := ∀ i < n, f i = g i

theorem Agree.mono (h : Agree n f g) (hmn : m ≤ n) : Agree m f g :=
  fun i hi => h i (Nat.lt_of_lt_of_le hi hmn)

theorem agree_update (hp : n ≤ p) (f : ℕ → α) (b : α) :
    Agree n (Function.update f p b) f := by
  intro i hi
  exact Function.update_of_ne (Nat.ne_of_lt (Nat.lt_of_lt_of_le hi hp)) b f

/-- The value at `f` depends on the first `n` cells only. -/
def Determined (F : (ℕ → α) → β) (f : ℕ → α) (n : ℕ) : Prop :=
  ∀ g, Agree n g f → F g = F f

theorem Determined.mono (h : Determined F f m) (hmn : m ≤ n) :
    Determined F f n :=
  fun g hg => h g (hg.mono hmn)

theorem Determined.map (h : Determined F f n) (π : β → γ) :
    Determined (fun g => π (F g)) f n :=
  fun g hg => congrArg π (h g hg)

/-- The first `n` cells of one memory in front of those of another. -/
def splice (n : ℕ) (f g : ℕ → α) : ℕ → α := fun i => if i < n then f i else g i

theorem splice_of_lt {i : ℕ} (h : i < n) : splice n f g i = f i := if_pos h

theorem splice_of_le {i : ℕ} (h : n ≤ i) : splice n f g i = g i :=
  if_neg (Nat.not_lt.mpr h)

theorem agree_splice : Agree n (splice n f g) f := fun _ hi => splice_of_lt hi

/-- A cell that matters behind another rest. -/
theorem not_determined_of_agree (hf : Agree m g f) (hmn : m ≤ n)
    (h : ¬ Determined F g n) : ¬ Determined F f m := by
  intro hdet
  refine h fun g' hg' => ?_
  have hfront : Agree m g' f := fun i hi =>
    (hg' i (Nat.lt_of_lt_of_le hi hmn)).trans (hf i hi)
  exact (hdet g' hfront).trans (hdet g hf).symm

/-- Two rests that show. -/
theorem not_determined_splice (π : β → γ) (g g' : ℕ → α)
    (h : π (F (splice n f g)) ≠ π (F (splice n f g'))) :
    ¬ Determined F f n := by
  intro hdet
  have hsame := (hdet (splice n f g) agree_splice).trans
    (hdet (splice n f g') agree_splice).symm
  exact h (congrArg π hsame)

end Determined

section Bytes

variable {f g : ℕ → UInt8} {n a len : ℕ}

theorem Agree.be16 (h : Agree n f g) (ha : a + 2 ≤ n) :
    be16 f a = be16 g a := by
  rw [Bytes.be16, Bytes.be16, h a (by omega), h (a + 1) (by omega)]

theorem Agree.be32 (h : Agree n f g) (ha : a + 4 ≤ n) :
    be32 f a = be32 g a := by
  rw [Bytes.be32, Bytes.be32, h a (by omega), h (a + 1) (by omega),
    h (a + 2) (by omega), h (a + 3) (by omega)]

theorem Agree.readBytes (h : Agree n f g) (ha : a + len ≤ n) :
    readBytes f a len = readBytes g a len :=
  readBytes_congr fun x _ hx => h x (Nat.lt_of_lt_of_le hx ha)

/-! A byte of a word or string changed. -/

theorem add_one_ne (b : UInt8) : b + 1 ≠ b := by
  intro h
  have hb := b.toNat_lt
  have hval := congrArg UInt8.toNat h
  rw [UInt8.toNat_add] at hval
  change (b.toNat + 1) % 256 = b.toNat at hval
  omega

/-- The memory with another byte at `p`. -/
def bump (f : ℕ → UInt8) (p : ℕ) : ℕ → UInt8 := Function.update f p (f p + 1)

theorem bump_of_ne {i p : ℕ} (h : i ≠ p) : bump f p i = f i :=
  Function.update_of_ne h _ _

theorem bump_self (p : ℕ) : bump f p p ≠ f p := by
  rw [bump, Function.update_self]
  exact add_one_ne _

theorem agree_bump {p : ℕ} (hp : n ≤ p) : Agree n (bump f p) f :=
  agree_update hp f _

theorem be16_bump (a : ℕ) : be16 (bump f (a + 1)) a ≠ be16 f a := by
  intro h
  have hlow := bump_self (f := f) (a + 1)
  rw [Bytes.be16, Bytes.be16, bump_of_ne (by omega)] at h
  exact hlow (UInt8.toNat_inj.mp (by omega))

theorem be32_bump (a : ℕ) : be32 (bump f (a + 3)) a ≠ be32 f a := by
  intro h
  have hlow := bump_self (f := f) (a + 3)
  rw [Bytes.be32, Bytes.be32, bump_of_ne (by omega), bump_of_ne (by omega),
    bump_of_ne (by omega)] at h
  exact hlow (UInt8.toNat_inj.mp (by omega))

/-! A byte or word shown by a value. -/

variable {β : Type*} {F : (ℕ → UInt8) → β}

theorem not_determined_byte {p : ℕ} (π : β → UInt8)
    (h : ∀ g, Agree p g f → π (F g) = g p) : ¬ Determined F f p := by
  intro hdet
  have hbump : Agree p (bump f p) f := agree_bump (Nat.le_refl p)
  have hsame := congrArg π (hdet _ hbump)
  rw [h _ hbump, h f fun _ _ => rfl] at hsame
  exact bump_self p hsame

theorem not_determined_be16 {a : ℕ} (π : β → ℕ)
    (h : ∀ g, Agree (a + 1) g f → π (F g) = Bytes.be16 g a) :
    ¬ Determined F f (a + 1) := by
  intro hdet
  have hbump : Agree (a + 1) (bump f (a + 1)) f := agree_bump (Nat.le_refl _)
  have hsame := congrArg π (hdet _ hbump)
  rw [h _ hbump, h f fun _ _ => rfl] at hsame
  exact be16_bump a hsame

theorem not_determined_be32 {a : ℕ} (π : β → ℕ)
    (h : ∀ g, Agree (a + 3) g f → π (F g) = Bytes.be32 g a) :
    ¬ Determined F f (a + 3) := by
  intro hdet
  have hbump : Agree (a + 3) (bump f (a + 3)) f := agree_bump (Nat.le_refl _)
  have hsame := congrArg π (hdet _ hbump)
  rw [h _ hbump, h f fun _ _ => rfl] at hsame
  exact be32_bump a hsame

theorem overlay_readBytes {mem : ℕ → UInt8} {i : ℕ} (hi : i < len) :
    overlay mem (Bytes.readBytes f a len) i = f (a + i) := by
  rw [overlay, getElem?_readBytes, if_pos hi, Option.getD_some]

end Bytes

end VehicleRecorder.Prefix
