import AutopilotManager.Lib.DoubleSmoothing
import AutopilotManager.Sensor.TimeSync
import Mathlib.Algebra.Order.Archimedean.Real.Basic

/-!
# Sensor.ExactSync — the filter in exact arithmetic

`TimeSync` over the real numbers.  With the final gains the filter follows every linear ramp of offsets: the estimate
comes arbitrarily near to the ramp, and the skew to its slope.
-/

namespace AutopilotManager

open Lib

/-- The cast of an exact number to `int64_t` truncates as the one of a `double` does. -/
noncomputable def realToInt64 (x : ℝ) : Int64 :=
  let n := if 0 ≤ x then ⌊x⌋ else ⌈x⌉
  if -2 ^ 63 ≤ n ∧ n < 2 ^ 63 then .ofInt n else .minValue

/-- Exact arithmetic: nothing is rounded. -/
noncomputable instance : Arithmetic ℝ := { ofRat := fun q => q, toInt64 := realToInt64 }

namespace TimeSync

section Filter

variable {F : Type} [Arithmetic F]

/-- `add_sample` of an offset that need not fit into `int64_t`. -/
def addOffset (offset : F) (s : TimeSync F) : TimeSync F :=
  if s.sequence = 0 then { s with timeOffset := offset }
  else
    let timeOffset := s.filterAlpha * offset + (Arithmetic.ofRat 1 - s.filterAlpha) * (s.timeOffset + s.timeSkew)
    { s with
      timeOffset
      timeSkew := s.filterBeta * (timeOffset - s.timeOffset) + (Arithmetic.ofRat 1 - s.filterBeta) * s.timeSkew }

theorem addSample_eq (offsetUs : Int64) (s : TimeSync F) :
    s.addSample offsetUs = s.addOffset (Arithmetic.ofRat offsetUs.toInt) := rfl

/-- The filter after the offsets `x 0`, ..., `x n`. -/
def addOffsets (x : ℕ → F) (s : TimeSync F) : ℕ → TimeSync F
  | 0 => s.addOffset (x 0)
  | n + 1 => (addOffsets x s n).addOffset (x (n + 1))

/-- The samples that fit into `int64_t` are added by `add_sample`. -/
theorem run_addSample {x : ℕ → F} {samples : ℕ → Int64} {n : ℕ}
    (h : ∀ k, k ≤ n → Arithmetic.ofRat (samples k).toInt = x k) (s : TimeSync F) :
    Lib.run (fun s offsetUs => s.addSample offsetUs) s ((List.range (n + 1)).map samples) = s.addOffsets x n := by
  induction n with
  | zero =>
    show s.addSample (samples 0) = s.addOffset (x 0)
    rw [addSample_eq, h 0 le_rfl]
  | succ n ih =>
    rw [List.range_succ, List.map_append, List.map_singleton, run_concat, ih fun k hk => h k (by omega), addSample_eq,
      h (n + 1) le_rfl]
    rfl

end Filter

/-! ### The final gains -/

/-- The estimate and its skew. -/
def estimate (s : TimeSync ℝ) : LevelTrend ℝ := ⟨s.timeOffset, s.timeSkew⟩

/-- Where the filter has a sample already, an offset is one step of double exponential smoothing. -/
theorem estimate_addOffset {s : TimeSync ℝ} (hsequence : 0 < s.sequence) (x : ℝ) :
    (s.addOffset x).estimate = s.estimate.next s.filterAlpha s.filterBeta x ∧
      (s.addOffset x).sequence = s.sequence ∧ (s.addOffset x).filterAlpha = s.filterAlpha ∧
      (s.addOffset x).filterBeta = s.filterBeta := by
  have hone : (Arithmetic.ofRat 1 : ℝ) = 1 := Rat.cast_one
  have hne : s.sequence ≠ 0 := fun h => UInt32.lt_irrefl 0 (h ▸ hsequence)
  unfold addOffset
  rw [if_neg hne]
  refine ⟨?_, rfl, rfl, rfl⟩
  unfold estimate LevelTrend.next
  dsimp only
  rw [hone]

theorem estimate_addOffsets {s : TimeSync ℝ} (hsequence : 0 < s.sequence) (x : ℕ → ℝ) (n : ℕ) :
    (s.addOffsets x n).estimate = s.estimate.follow s.filterAlpha s.filterBeta x n ∧
      (s.addOffsets x n).sequence = s.sequence ∧ (s.addOffsets x n).filterAlpha = s.filterAlpha ∧
      (s.addOffsets x n).filterBeta = s.filterBeta := by
  induction n with
  | zero => exact estimate_addOffset hsequence (x 0)
  | succ n ih =>
    obtain ⟨hestimate, hseq, halpha, hbeta⟩ := ih
    have hstep := estimate_addOffset (s := s.addOffsets x n) (hseq ▸ hsequence) (x (n + 1))
    rw [hestimate, hseq, halpha, hbeta] at hstep
    exact hstep

/-- The samples of the ramp `c + d * n`. -/
noncomputable def ramp (c d : ℤ) (n : ℕ) : ℝ := Arithmetic.ofRat ((c + d * n : ℤ) : ℚ)

theorem ramp_eq (c d : ℤ) : ramp c d = fun n : ℕ => (c : ℝ) + d * n := by
  funext n
  show (((c + d * n : ℤ) : ℚ) : ℝ) = c + d * n
  push_cast
  rfl

/-- **No steady-state lag**: with the final gains, from wherever it starts, the filter comes arbitrarily near to a ramp
of samples and its skew to the slope; and as long as the samples fit into `int64_t`, they are added by `add_sample`. -/
theorem no_steady_state_lag (s : TimeSync ℝ) (hsequence : 0 < s.sequence) (halpha : s.filterAlpha = alphaGainFinal ℝ)
    (hbeta : s.filterBeta = betaGainFinal ℝ) (c d : ℤ) :
    (∀ ε : ℝ, 0 < ε → ∃ N, ∀ n, N ≤ n → |(s.addOffsets (ramp c d) n).timeOffset - (c + d * n)| < ε ∧
      |(s.addOffsets (ramp c d) n).timeSkew - d| < ε) ∧
    ∀ (samples : ℕ → Int64) (n : ℕ), (∀ k, k ≤ n → (samples k).toInt = c + d * k) →
      Lib.run (fun s offsetUs => s.addSample offsetUs) s ((List.range (n + 1)).map samples) =
        s.addOffsets (ramp c d) n := by
  refine ⟨fun ε hε => ?_, fun samples n hsamples => ?_⟩
  · have hgain : alphaGainFinal ℝ = 3 / 1000 := by
      show (((3 / 1000 : ℚ)) : ℝ) = 3 / 1000
      norm_num
    have hgain' : betaGainFinal ℝ = 3 / 1000 := hgain
    have hdefinite : 0 < LevelTrend.discriminant (3 / 1000 : ℝ) (3 / 1000) := by
      unfold LevelTrend.discriminant
      norm_num
    obtain ⟨N, hN⟩ := LevelTrend.follow_ramp (by norm_num) (by norm_num) (by norm_num) (by norm_num) hdefinite
      (c : ℝ) d s.estimate hε
    refine ⟨N, fun n hn => ?_⟩
    have hestimate := (estimate_addOffsets hsequence (ramp c d) n).1
    rw [halpha, hbeta, hgain, hgain', ramp_eq] at hestimate
    have hnear := hN n hn
    rw [← hestimate, ← ramp_eq] at hnear
    exact hnear
  · refine run_addSample (fun k hk => ?_) s
    rw [hsamples k hk, ramp]

/-- A clock that runs ahead by two microseconds with every sample. -/
theorem no_steady_state_lag_two : ∃ N, ∀ n, N ≤ n →
    |(addOffsets (ramp 5 2) { sequence := 250, filterAlpha := alphaGainFinal ℝ, filterBeta := betaGainFinal ℝ }
      n).timeOffset - ((5 : ℤ) + (2 : ℤ) * n)| < 1 ∧
    |(addOffsets (ramp 5 2) { sequence := 250, filterAlpha := alphaGainFinal ℝ, filterBeta := betaGainFinal ℝ }
      n).timeSkew - (2 : ℤ)| < 1 :=
  (no_steady_state_lag { sequence := 250, filterAlpha := alphaGainFinal ℝ, filterBeta := betaGainFinal ℝ } (by decide)
    rfl rfl 5 2).1 1 one_pos

end TimeSync

end AutopilotManager
