import Mathlib.Algebra.Order.Archimedean.Basic
import Mathlib.Tactic.Linarith
import Mathlib.Tactic.Ring

/-!
# Lib.DoubleSmoothing — double exponential smoothing

A filter with a level and a trend: an input is mixed into the level carried on by the trend, then the change of the
level into the trend.  The filter is linear, so its error on a ramp is the filter itself on zero inputs.  A quadratic
form of the error shrinks by the same factor with every input; where it is definite, the filter follows every ramp
without lag.
-/

namespace AutopilotManager.Lib

/-- What the filter holds. -/
structure LevelTrend (K : Type*) where
  level : K
  trend : K

namespace LevelTrend

section Filter

variable {K : Type*} [Field K] (a b : K)

/-- The input `x` with the gains `a` of the level and `b` of the trend. -/
def next (x : K) (s : LevelTrend K) : LevelTrend K :=
  let level := a * x + (1 - a) * (s.level + s.trend)
  ⟨level, b * (level - s.level) + (1 - b) * s.trend⟩

/-- The filter after the inputs `x 0`, ..., `x n`. -/
def follow (x : ℕ → K) (s : LevelTrend K) : ℕ → LevelTrend K
  | 0 => s.next a b (x 0)
  | n + 1 => (follow x s n).next a b (x (n + 1))

/-- How far the filter is from the ramp `c + d * n` at `n`. -/
def error (c d : K) (n : ℕ) (s : LevelTrend K) : LevelTrend K := ⟨s.level - (c + d * n), s.trend - d⟩

/-- A quadratic form that shrinks. -/
def energy (s : LevelTrend K) : K := a * b * s.level ^ 2 - a * (1 - b) * s.level * s.trend + (1 - a) * s.trend ^ 2

/-- The form is definite where this is positive. -/
def discriminant : K := 4 * a * b * (1 - a) - a ^ 2 * (1 - b) ^ 2

variable {a b} {c d : K} {s : LevelTrend K}

/-- The error on a ramp is the filter on zero inputs. -/
theorem error_next (n : ℕ) :
    error c d (n + 1) (s.next a b (c + d * (n + 1 : ℕ))) = (error c d n s).next a b 0 := by
  unfold error next
  push_cast
  congr 1 <;> ring

theorem energy_next_zero (s : LevelTrend K) : energy a b (s.next a b 0) = (1 - a) * energy a b s := by
  unfold energy next
  ring

/-- **The energy of the error** on a ramp shrinks by the factor `1 - a` with every input. -/
theorem energy_error_follow (c d : K) (s : LevelTrend K) (n : ℕ) :
    energy a b (error c d n (follow a b (fun n => c + d * n) s n)) =
      (1 - a) ^ n * energy a b (error c d 0 (follow a b (fun n => c + d * n) s 0)) := by
  induction n with
  | zero => rw [pow_zero, one_mul]
  | succ n ih =>
    have hlast : follow a b (fun n => c + d * n) s (n + 1) =
        (follow a b (fun n => c + d * n) s n).next a b (c + d * (n + 1 : ℕ)) := rfl
    rw [hlast, error_next, energy_next_zero, ih, pow_succ', mul_assoc]

end Filter

/-! ### Convergence -/

section Order

variable {K : Type*} [Field K] [LinearOrder K] [IsStrictOrderedRing K] {a b : K} {s : LevelTrend K}

theorem discriminant_mul_level_sq_le (s : LevelTrend K) :
    discriminant a b * s.level ^ 2 ≤ 4 * (1 - a) * energy a b s := by
  have hsquare : 4 * (1 - a) * energy a b s - discriminant a b * s.level ^ 2 =
      (a * (1 - b) * s.level - 2 * (1 - a) * s.trend) ^ 2 := by
    unfold energy discriminant
    ring
  have hpos := sq_nonneg (a * (1 - b) * s.level - 2 * (1 - a) * s.trend)
  linarith

theorem discriminant_mul_trend_sq_le (s : LevelTrend K) :
    discriminant a b * s.trend ^ 2 ≤ 4 * (a * b) * energy a b s := by
  have hsquare : 4 * (a * b) * energy a b s - discriminant a b * s.trend ^ 2 =
      (2 * (a * b) * s.level - a * (1 - b) * s.trend) ^ 2 := by
    unfold energy discriminant
    ring
  have hpos := sq_nonneg (2 * (a * b) * s.level - a * (1 - b) * s.trend)
  linarith

theorem energy_nonneg (ha : 0 < a) (hb : 0 < b) (hdefinite : 0 < discriminant a b) (s : LevelTrend K) :
    0 ≤ energy a b s := by
  have hle := discriminant_mul_trend_sq_le (a := a) (b := b) s
  have hpos : 0 ≤ discriminant a b * s.trend ^ 2 := mul_nonneg hdefinite.le (sq_nonneg _)
  have hgains : 0 < 4 * (a * b) := by positivity
  exact nonneg_of_mul_nonneg_right (hpos.trans hle) hgains

variable (ha : 0 < a) (ha1 : a < 1) (hb : 0 < b) (hb1 : b ≤ 1) (hdefinite : 0 < discriminant a b)
include ha ha1 hb hb1 hdefinite

/-- A small energy means a small level and a small trend. -/
theorem abs_lt_of_energy_lt {ε : K} (hε : 0 < ε) (h : 4 * energy a b s < discriminant a b * ε ^ 2) :
    |s.level| < ε ∧ |s.trend| < ε := by
  have henergy := energy_nonneg ha hb hdefinite s
  have hsmall : ∀ {x g : K}, discriminant a b * x ^ 2 ≤ 4 * g * energy a b s → g ≤ 1 → |x| < ε := by
    intro x g hx hg
    have hle : 4 * g * energy a b s ≤ 4 * energy a b s := by nlinarith
    have hsq : x ^ 2 < ε ^ 2 := lt_of_mul_lt_mul_left ((hx.trans hle).trans_lt h) hdefinite.le
    exact abs_lt_of_sq_lt_sq hsq hε.le
  have hproduct : a * b ≤ 1 := mul_le_one₀ ha1.le hb.le hb1
  exact ⟨hsmall (discriminant_mul_level_sq_le s) (by linarith), hsmall (discriminant_mul_trend_sq_le s) hproduct⟩

/-- **No lag**: the filter follows every ramp, from wherever it starts. -/
theorem follow_ramp [Archimedean K] (c d : K) (s : LevelTrend K) {ε : K} (hε : 0 < ε) :
    ∃ N, ∀ n, N ≤ n → |(follow a b (fun n => c + d * n) s n).level - (c + d * n)| < ε ∧
      |(follow a b (fun n => c + d * n) s n).trend - d| < ε := by
  obtain ⟨e, he⟩ : ∃ e, e = energy a b (error c d 0 (follow a b (fun n => c + d * n) s 0)) := ⟨_, rfl⟩
  have he0 : 0 ≤ e := he ▸ energy_nonneg ha hb hdefinite _
  have hbound : 0 < discriminant a b * ε ^ 2 := by positivity
  obtain ⟨N, hN⟩ := exists_pow_lt_of_lt_one (div_pos hbound (by linarith : 0 < 4 * e + 1)) (by linarith : 1 - a < 1)
  refine ⟨N, fun n hn => ?_⟩
  have hpow : (1 - a) ^ n ≤ (1 - a) ^ N := pow_le_pow_of_le_one (by linarith) (by linarith) hn
  have hpow0 : 0 ≤ (1 - a) ^ n := pow_nonneg (by linarith) n
  refine abs_lt_of_energy_lt (s := error c d n _) ha ha1 hb hb1 hdefinite hε ?_
  calc 4 * energy a b (error c d n (follow a b (fun n => c + d * n) s n)) = (1 - a) ^ n * (4 * e) := by
        rw [energy_error_follow, ← he]
        ring
    _ ≤ (1 - a) ^ n * (4 * e + 1) := mul_le_mul_of_nonneg_left (by linarith) hpow0
    _ ≤ (1 - a) ^ N * (4 * e + 1) := mul_le_mul_of_nonneg_right hpow (by linarith)
    _ < discriminant a b * ε ^ 2 := (lt_div_iff₀ (by linarith)).mp hN

end Order

end LevelTrend

end AutopilotManager.Lib
