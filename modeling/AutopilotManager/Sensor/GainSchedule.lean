import AutopilotManager.Sensor.ExactSync
import Mathlib.Analysis.Complex.Exponential

/-!
# Sensor.GainSchedule — the schedule of the gains

In exact arithmetic the gains depend on the number of samples since the last reset alone: a weight that falls from one
to zero leads from the initial to the final gains.  The sigmoid is asked for below the convergence window only, where
its denominator is positive.
-/

namespace AutopilotManager

open Lib

/-! ### The sigmoid -/

theorem ofRat_half : (Arithmetic.ofRat (1 / 2) : ℝ) = 1 / 2 := by
  show (((1 / 2 : ℚ)) : ℝ) = 1 / 2
  norm_num

/-- What is left of the initial gains after `n` samples. -/
noncomputable def initialWeight (n : ℕ) : ℝ :=
  if 250 ≤ n then 0 else Real.exp (Arithmetic.ofRat (1 / 2) * (1 - 1 / (1 - (n : ℝ) / 250)))

/-- Below the convergence window the denominator of the sigmoid is positive. -/
theorem one_sub_div_window_pos {n : ℕ} (h : n < 250) : 0 < 1 - (n : ℝ) / 250 := by
  have hlt : (n : ℝ) < 250 := by exact_mod_cast h
  linarith

theorem initialWeight_nonneg (n : ℕ) : 0 ≤ initialWeight n := by
  unfold initialWeight
  split_ifs
  · exact le_rfl
  · exact (Real.exp_pos _).le

/-- The weight falls, also where the sigmoid gives way to the final gains. -/
theorem initialWeight_antitone {n m : ℕ} (h : n ≤ m) : initialWeight m ≤ initialWeight n := by
  by_cases hm : 250 ≤ m
  · have hzero : initialWeight m = 0 := if_pos hm
    rw [hzero]
    exact initialWeight_nonneg n
  · have hpos := one_sub_div_window_pos (not_le.mp hm)
    have hle : (n : ℝ) ≤ m := by exact_mod_cast h
    have hdenominator : 1 - (m : ℝ) / 250 ≤ 1 - (n : ℝ) / 250 := by linarith
    have hquotient := one_div_le_one_div_of_le hpos hdenominator
    unfold initialWeight
    rw [if_neg hm, if_neg (by omega : ¬ 250 ≤ n), ofRat_half]
    exact Real.exp_le_exp.mpr (by linarith)

theorem initialWeight_le_one (n : ℕ) : initialWeight n ≤ 1 := by
  have hzero : initialWeight 0 = 1 := by
    unfold initialWeight
    rw [ofRat_half]
    norm_num
  exact hzero ▸ initialWeight_antitone (Nat.zero_le n)

/-- The gain after `n` samples, between the initial and the final one. -/
noncomputable def gainAfter (initial final : ℝ) (n : ℕ) : ℝ := final + initialWeight n * (initial - final)

section Gain

variable {initial final : ℝ} (h : final ≤ initial)
include h

theorem gainAfter_bounds (n : ℕ) : final ≤ gainAfter initial final n ∧ gainAfter initial final n ≤ initial := by
  have hnonneg := mul_nonneg (initialWeight_nonneg n) (sub_nonneg.mpr h)
  have hle := mul_le_of_le_one_left (sub_nonneg.mpr h) (initialWeight_le_one n)
  unfold gainAfter
  constructor <;> linarith

theorem gainAfter_antitone {n m : ℕ} (hnm : n ≤ m) : gainAfter initial final m ≤ gainAfter initial final n := by
  have hle := mul_le_mul_of_nonneg_right (initialWeight_antitone hnm) (sub_nonneg.mpr h)
  unfold gainAfter
  linarith

end Gain

theorem finalGain_le_initialGain :
    alphaGainFinal ℝ ≤ alphaGainInitial ℝ ∧ betaGainFinal ℝ ≤ betaGainInitial ℝ := by
  have hle : (((3 / 1000 : ℚ)) : ℝ) ≤ ((5 / 100 : ℚ) : ℝ) := by norm_num
  exact ⟨hle, hle⟩

namespace TimeSync

/-- The `progress` of the sigmoid. -/
noncomputable def progress (s : TimeSync ℝ) : ℝ :=
  Arithmetic.ofRat s.sequence.toNat / Arithmetic.ofRat convergenceWindow.toNat

theorem progress_eq (s : TimeSync ℝ) : s.progress = (s.sequence.toNat : ℝ) / 250 := by
  have hwindow : convergenceWindow.toNat = 250 := rfl
  show ((s.sequence.toNat : ℚ) : ℝ) / ((convergenceWindow.toNat : ℚ) : ℝ) = s.sequence.toNat / 250
  rw [hwindow]
  push_cast
  rfl

theorem interpolation_eq (s : TimeSync ℝ) :
    s.interpolation Real.exp = 1 - Real.exp (Arithmetic.ofRat (1 / 2) * (1 - 1 / (1 - s.progress))) := by
  have hone : (Arithmetic.ofRat 1 : ℝ) = 1 := Rat.cast_one
  unfold interpolation
  rw [hone]
  rfl

theorem syncConverged_iff_toNat (s : TimeSync ℝ) : s.syncConverged ↔ 250 ≤ s.sequence.toNat := by
  rw [syncConverged, decide_eq_true_eq, UInt32.le_iff_toNat_le]
  rfl

/-- **The gains of a sample** depend on the sequence counter alone. -/
theorem scheduleGains_eq (s : TimeSync ℝ) :
    (s.scheduleGains Real.exp).filterAlpha =
        gainAfter (alphaGainInitial ℝ) (alphaGainFinal ℝ) s.sequence.toNat ∧
      (s.scheduleGains Real.exp).filterBeta = gainAfter (betaGainInitial ℝ) (betaGainFinal ℝ) s.sequence.toNat := by
  have hone : (Arithmetic.ofRat 1 : ℝ) = 1 := Rat.cast_one
  unfold scheduleGains gainAfter
  by_cases hconverged : s.syncConverged
  · have hzero : initialWeight s.sequence.toNat = 0 := if_pos ((syncConverged_iff_toNat s).mp hconverged)
    rw [if_pos hconverged, hzero]
    constructor <;> simp
  · have hweight : initialWeight s.sequence.toNat = 1 - s.interpolation Real.exp := by
      rw [interpolation_eq, sub_sub_cancel, progress_eq]
      exact if_neg fun h => hconverged ((syncConverged_iff_toNat s).mpr h)
    rw [if_neg hconverged, hweight]
    dsimp only
    rw [hone]
    constructor <;> ring

/-- A sample that is accepted leaves the gains that it was added with. -/
theorem accept_gains (i : TimeSample) (s : TimeSync ℝ) :
    (s.accept Real.exp i).filterAlpha = (s.scheduleGains Real.exp).filterAlpha ∧
      (s.accept Real.exp i).filterBeta = (s.scheduleGains Real.exp).filterBeta := by
  have hsample : ∀ s' : TimeSync ℝ, (s'.addSample i.offsetUs).filterAlpha = s'.filterAlpha ∧
      (s'.addSample i.offsetUs).filterBeta = s'.filterBeta := by
    intro s'
    unfold addSample
    split_ifs <;> exact ⟨rfl, rfl⟩
  exact hsample (s.scheduleGains Real.exp)

end TimeSync

/-! ### Runs -/

namespace TrackedSync

variable {F : Type} [Arithmetic F] {exp : F → F}

/-- No sample of a run takes the count of accepted samples back. -/
theorem accepted_le_after {js is : List TimeSample} (h : js <+: is) :
    (after exp js).accepted ≤ (after exp is).accepted := by
  obtain ⟨rest, rfl⟩ := h
  have hstep : ∀ (t : TrackedSync F) i, (after exp js).accepted ≤ t.accepted →
      (after exp js).accepted ≤ (step exp t i).accepted := by
    intro t i ht
    dsimp only [step]
    split_ifs <;> omega
  rw [after_append]
  exact run_invariant hstep le_rfl rest

theorem accepted_le_length (exp : F → F) (is : List TimeSample) : (after exp is).accepted ≤ is.length := by
  induction is using List.reverseRecOn with
  | nil => exact le_rfl
  | append_singleton is i ih =>
    rw [after_concat, List.length_append, List.length_singleton]
    dsimp only [step]
    split_ifs <;> omega

/-- An accepted sample is added with the scheduled gains, and counted. -/
theorem after_accepted {is : List TimeSample} {i : TimeSample} (h : (after exp is).sync.outcome i = .accepted) :
    (after exp (is ++ [i])).sync = (after exp is).sync.accept exp i ∧
      (after exp (is ++ [i])).sinceReset = (after exp is).sinceReset + 1 := by
  have hrun := (after exp is).sync.run_outcome exp i
  rw [h] at hrun
  rw [after_concat]
  dsimp only [step]
  rw [h]
  exact ⟨hrun, rfl⟩

/-- Without a reset the count since the last reset does not fall. -/
theorem sinceReset_le_run {t : TrackedSync F} {is : List TimeSample}
    (h : Meets (step exp) (fun t i => t.sync.outcome i ≠ .jumped) t is) :
    t.sinceReset ≤ (Lib.run (step exp) t is).sinceReset := by
  have hstep : ∀ (t' : TrackedSync F) i, t.sinceReset ≤ t'.sinceReset → t'.sync.outcome i ≠ .jumped →
      t.sinceReset ≤ (step exp t' i).sinceReset := by
    intro t' i ht hkeeps
    dsimp only [step]
    cases houtcome : t'.sync.outcome i with
    | accepted => exact Nat.le_succ_of_le ht
    | jumped => exact absurd houtcome hkeeps
    | rejected | deviated => exact ht
  exact Meets.invariant hstep le_rfl h

/-- The sequence counter of a run without wrap-around, at any of its samples. -/
theorem sequence_after {js is : List TimeSample} (hfew : (after exp is).accepted < 2 ^ 32) (h : js <+: is) :
    (after exp js).sync.sequence.toNat = (after exp js).sinceReset :=
  (after_inv exp js).sequence ((accepted_le_after h).trans_lt hfew)

/-- The gains of a sample lie between the final and the initial ones. -/
structure GainsInBounds (s : TimeSync ℝ) : Prop where
  alpha : alphaGainFinal ℝ ≤ (s.scheduleGains Real.exp).filterAlpha ∧
    (s.scheduleGains Real.exp).filterAlpha ≤ alphaGainInitial ℝ
  beta : betaGainFinal ℝ ≤ (s.scheduleGains Real.exp).filterBeta ∧
    (s.scheduleGains Real.exp).filterBeta ≤ betaGainInitial ℝ

theorem gainsInBounds (s : TimeSync ℝ) : GainsInBounds s := by
  obtain ⟨halpha, hbeta⟩ := s.scheduleGains_eq
  obtain ⟨hgain, hgain'⟩ := finalGain_le_initialGain
  constructor
  · rw [halpha]
    exact gainAfter_bounds hgain _
  · rw [hbeta]
    exact gainAfter_bounds hgain' _

/-- The gains of a sample are the final ones. -/
structure FinalGains (s : TimeSync ℝ) : Prop where
  alpha : (s.scheduleGains Real.exp).filterAlpha = alphaGainFinal ℝ
  beta : (s.scheduleGains Real.exp).filterBeta = betaGainFinal ℝ

theorem finalGains_of_syncConverged {s : TimeSync ℝ} (hs : s.syncConverged) : FinalGains s := by
  have hgains : s.scheduleGains Real.exp = { s with filterAlpha := alphaGainFinal ℝ, filterBeta := betaGainFinal ℝ } :=
    if_pos hs
  constructor <;> rw [hgains]

/-- More samples, smaller gains. -/
theorem scheduleGains_le {s s' : TimeSync ℝ} (h : s.sequence.toNat ≤ s'.sequence.toNat) :
    (s'.scheduleGains Real.exp).filterAlpha ≤ (s.scheduleGains Real.exp).filterAlpha ∧
      (s'.scheduleGains Real.exp).filterBeta ≤ (s.scheduleGains Real.exp).filterBeta := by
  obtain ⟨halpha, hbeta⟩ := s.scheduleGains_eq
  obtain ⟨halpha', hbeta'⟩ := s'.scheduleGains_eq
  obtain ⟨hgain, hgain'⟩ := finalGain_le_initialGain
  rw [halpha, hbeta, halpha', hbeta']
  exact ⟨gainAfter_antitone hgain h, gainAfter_antitone hgain' h⟩

/-- **The schedule of the gains** over every run without wrap-around: at an accepted sample the denominator of the
sigmoid is positive where it is asked for, the gains lie between the final and the initial ones and are the final ones
from the convergence window on, and the filter keeps them; and of two accepted samples without a reset between them the
second has gains that are not larger. -/
theorem gain_schedule (is : List TimeSample) (hfew : (after Real.exp is).accepted < 2 ^ 32) :
    (∀ before i, before ++ [i] <+: is → (after Real.exp before).sync.outcome i = .accepted →
      (¬ (after Real.exp before).sync.syncConverged → 0 < 1 - (after Real.exp before).sync.progress) ∧
        GainsInBounds (after Real.exp before).sync ∧
        ((after Real.exp before).sync.syncConverged → FinalGains (after Real.exp before).sync) ∧
        (after Real.exp (before ++ [i])).sync.filterAlpha =
          ((after Real.exp before).sync.scheduleGains Real.exp).filterAlpha ∧
        (after Real.exp (before ++ [i])).sync.filterBeta =
          ((after Real.exp before).sync.scheduleGains Real.exp).filterBeta) ∧
    ∀ before i between j, before ++ [i] ++ between ++ [j] <+: is →
      (after Real.exp before).sync.outcome i = .accepted →
      (after Real.exp (before ++ [i] ++ between)).sync.outcome j = .accepted →
      Meets (step Real.exp) (fun t k => t.sync.outcome k ≠ .jumped) (after Real.exp (before ++ [i])) between →
      ((after Real.exp (before ++ [i] ++ between)).sync.scheduleGains Real.exp).filterAlpha ≤
          ((after Real.exp before).sync.scheduleGains Real.exp).filterAlpha ∧
        ((after Real.exp (before ++ [i] ++ between)).sync.scheduleGains Real.exp).filterBeta ≤
          ((after Real.exp before).sync.scheduleGains Real.exp).filterBeta := by
  refine ⟨fun before i hprefix haccepted => ⟨fun hconverged => ?_, gainsInBounds _, finalGains_of_syncConverged, ?_⟩, ?_⟩
  · rw [TimeSync.progress_eq]
    rw [TimeSync.syncConverged_iff_toNat, not_le] at hconverged
    exact one_sub_div_window_pos hconverged
  · rw [(after_accepted haccepted).1]
    exact TimeSync.accept_gains i _
  · intro before i between j hprefix hfirst hsecond hkeeps
    have hmiddle : before ++ [i] ++ between <+: is := (List.prefix_append _ [j]).trans hprefix
    have hbefore : before <+: is := ((List.prefix_append before ([i] ++ between)).trans
      (List.append_assoc before [i] between ▸ List.prefix_rfl)).trans hmiddle
    have hcounted := (after_accepted hfirst).2
    have hgrows := sinceReset_le_run hkeeps
    -- without a reset in between the sequence number grows, and the schedule falls with it
    refine scheduleGains_le ?_
    rw [sequence_after hfew hbefore, sequence_after hfew hmiddle, after_append]
    omega

/-- Before the filter can have converged every sample that may be used is used. -/
theorem outcome_of_few {js : List TimeSample} (hjs : js.length < 250) {i : TimeSample}
    (hi : 0 < i.ts1 ∧ 0 < i.tc1 ∧ i.rttUs < maxRttSample) : (after exp js).sync.outcome i = .accepted := by
  have hlength := accepted_le_length exp js
  have hinv := after_inv exp js
  have hsince := hinv.since_le
  have hwindow : convergenceWindow.toNat = 250 := rfl
  have hconverged : ¬ (after exp js).sync.syncConverged := by
    rw [syncConverged_iff hinv (by omega), hwindow]
    omega
  unfold TimeSync.outcome
  rw [if_neg (not_not.mpr hi), if_pos fun h => hconverged h.1]

theorem gain_schedule_two :
    ((after Real.exp [.agreeing]).sync.scheduleGains Real.exp).filterAlpha ≤
        ((after Real.exp []).sync.scheduleGains Real.exp).filterAlpha ∧
      ((after Real.exp [.agreeing]).sync.scheduleGains Real.exp).filterBeta ≤
        ((after Real.exp []).sync.scheduleGains Real.exp).filterBeta :=
  (gain_schedule [.agreeing, .agreeing] ((accepted_le_length Real.exp _).trans_lt (by decide))).2 [] .agreeing [] .agreeing
    List.prefix_rfl (outcome_of_few (by decide) (by decide)) (outcome_of_few (by decide) (by decide)) trivial

end TrackedSync

end AutopilotManager
