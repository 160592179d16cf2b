import Mathlib.Analysis.Normed.Module.Normalize
import Mathlib.Tactic.Linarith

/-!
# Lib.Smoothing — exponential smoothing

A filter that holds its last output and mixes each input into it; before the first input it holds nothing, and the first
input is mixed with itself.  The outputs are determined by the inputs alone from an input that finds nothing held, or
itself.  With exact arithmetic in a normed space no output is longer than the longest input so far.
-/

namespace AutopilotManager.Lib

section Filter

variable {V : Type*} (mix : V → V → V)

/-- The next output. -/
def smoothed (held : Option V) (x : V) : V := mix (held.getD x) x

/-- The outputs for a list of inputs. -/
def outputs : Option V → List V → List V
  | _, [] => []
  | held, x :: xs => smoothed mix held x :: outputs (some (smoothed mix held x)) xs

/-- What the filter holds after the inputs. -/
def heldAfter (held : Option V) (xs : List V) : Option V := xs.foldl (fun held x => some (smoothed mix held x)) held

variable {mix} {held : Option V} {xs : List V}

@[simp] theorem heldAfter_nil (held : Option V) : heldAfter mix held [] = held := rfl

theorem heldAfter_concat (held : Option V) (xs : List V) (x : V) :
    heldAfter mix held (xs ++ [x]) = some (smoothed mix (heldAfter mix held xs) x) := by
  rw [heldAfter, List.foldl_append]
  rfl

theorem outputs_concat (held : Option V) (xs : List V) (x : V) :
    outputs mix held (xs ++ [x]) = outputs mix held xs ++ [smoothed mix (heldAfter mix held xs) x] := by
  induction xs generalizing held with
  | nil => rfl
  | cons y xs ih =>
    rw [List.cons_append, outputs, ih, outputs, List.cons_append]
    rfl

@[simp] theorem length_outputs (held : Option V) (xs : List V) : (outputs mix held xs).length = xs.length := by
  induction xs generalizing held with
  | nil => rfl
  | cons x xs ih => rw [outputs, List.length_cons, List.length_cons, ih]

/-- **The first input is mixed with itself.** -/
theorem head?_outputs (xs : List V) : (outputs mix none xs).head? = xs.head?.map fun x => mix x x := by
  cases xs <;> rfl

/-- A filter that holds the first input itself is as good as a fresh one. -/
theorem smoothed_of_fresh {x : V} (h : held.getD x = x) : smoothed mix held x = smoothed mix none x :=
  congrArg (mix · x) h

end Filter

/-! ### Exact arithmetic -/

section Norm

variable {V : Type*} [NormedAddCommGroup V] [NormedSpace ℝ V] {a B : ℝ}

/-- The weighted mean of what is held and the input. -/
def mixExact (a : ℝ) (v w : V) : V := a • v + (1 - a) • w

theorem norm_mixExact_le (ha : 0 ≤ a) (ha1 : a ≤ 1) {v w : V} (hv : ‖v‖ ≤ B) (hw : ‖w‖ ≤ B) :
    ‖mixExact a v w‖ ≤ B := by
  calc ‖a • v + (1 - a) • w‖ ≤ ‖a • v‖ + ‖(1 - a) • w‖ := norm_add_le _ _
    _ = a * ‖v‖ + (1 - a) * ‖w‖ := by
      rw [norm_smul, norm_smul, Real.norm_of_nonneg ha, Real.norm_of_nonneg (sub_nonneg.mpr ha1)]
    _ ≤ a * B + (1 - a) * B :=
      add_le_add (mul_le_mul_of_nonneg_left hv ha) (mul_le_mul_of_nonneg_left hw (sub_nonneg.mpr ha1))
    _ = B := by ring

/-- In exact arithmetic an input mixed with itself is itself. -/
theorem mixExact_self (a : ℝ) (v : V) : mixExact a v v = v := by
  rw [mixExact, ← add_smul, add_sub_cancel, one_smul]

theorem norm_smoothed_le (ha : 0 ≤ a) (ha1 : a ≤ 1) {held : Option V} (hheld : ∀ v ∈ held, ‖v‖ ≤ B) {x : V}
    (hx : ‖x‖ ≤ B) : ‖smoothed (mixExact a) held x‖ ≤ B := by
  cases held with
  | none => exact norm_mixExact_le ha ha1 hx hx
  | some v => exact norm_mixExact_le ha ha1 (hheld v rfl) hx

/-- **No output is longer than the longest input so far.** -/
theorem norm_outputs_le (ha : 0 ≤ a) (ha1 : a ≤ 1) {held : Option V} (hheld : ∀ v ∈ held, ‖v‖ ≤ B) {xs : List V}
    {k : ℕ} {v : V} (hxs : ∀ x ∈ xs.take (k + 1), ‖x‖ ≤ B) (hv : (outputs (mixExact a) held xs)[k]? = some v) :
    ‖v‖ ≤ B := by
  induction xs generalizing held k with
  | nil => cases hv
  | cons x xs ih =>
    have hfirst := norm_smoothed_le ha ha1 hheld (hxs x (by simp))
    cases k with
    | zero =>
      obtain rfl := Option.some.inj hv
      exact hfirst
    | succ k =>
      refine ih ?_ (fun y hy => hxs y (by simp [hy])) hv
      rintro w hw
      obtain rfl := Option.some.inj hw
      exact hfirst

/-- A direction times a length is not longer than the length; the zero vector has no direction. -/
theorem norm_smul_normalize_le {speed : ℝ} (hspeed : 0 ≤ speed) (v : V) :
    ‖speed • NormedSpace.normalize v‖ ≤ speed := by
  rw [norm_smul, Real.norm_of_nonneg hspeed]
  by_cases hv : v = 0
  · rw [hv, NormedSpace.normalize_zero_eq_zero, norm_zero, mul_zero]
    exact hspeed
  · rw [NormedSpace.norm_normalize hv, mul_one]

end Norm

end AutopilotManager.Lib
