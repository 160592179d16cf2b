import AutopilotManager.Sensor.TimeSync

/-!
# Sensor.TimeJump — how many deviating samples reset the filter

The comment in `TimeSync::run` says that five consecutive samples far from the estimate reset the filter.  The counter
is raised first and then compared by `>` with 5, so it takes six.
-/

namespace AutopilotManager

open Lib TimeSample

namespace TimeSync

variable {F : Type} [Arithmetic F]

/-- An acceptable sample is more than `MAX_DEVIATION_SAMPLE` away from a converged estimate. -/
def Deviates (s : TimeSync F) (i : TimeSample) : Prop :=
  i.Acceptable ∧ s.syncConverged ∧
    (maxDeviationSample.toNat : ℤ) < |(Arithmetic.toInt64 s.timeOffset).toInt - i.offsetUs.toInt|

instance (s : TimeSync F) (i : TimeSample) : Decidable (s.Deviates i) := inferInstanceAs (Decidable (_ ∧ _ ∧ _))

variable {s : TimeSync F} {i : TimeSample}

/-- Whether a sample is far away decides what becomes of it. -/
theorem outcome_eq : s.outcome i =
    if ¬ i.Acceptable then .rejected
    else if ¬ s.Deviates i then .accepted
    else if maxConsecutiveHighDeviation < s.highDeviationCount + 1 then .jumped
    else .deviated := by
  unfold outcome
  refine ite_congr rfl (fun _ => rfl) fun hok => ?_
  have hdeviates : s.Deviates i ↔ s.syncConverged ∧ maxDeviationSample < s.deviation i := by
    rw [deviation_iff]
    exact and_iff_right (not_not.mp hok)
  exact ite_congr (by rw [hdeviates]) (fun _ => rfl) fun _ => rfl

end TimeSync

/-! ### The samples in a row -/

/-- A filter with the number of deviating samples since the last sample within the bound, or the last reset; samples
that are not acceptable neither count nor break the row. -/
structure JumpWatch (F : Type) [Arithmetic F] where
  sync : TimeSync F
  inRow : ℕ

namespace JumpWatch

variable {F : Type} [Arithmetic F] (exp : F → F)

def step (w : JumpWatch F) (i : TimeSample) : JumpWatch F where
  sync := w.sync.run exp i
  inRow :=
    if ¬ i.Acceptable then w.inRow
    else if w.sync.Deviates i ∧ w.sync.outcome i ≠ .jumped then w.inRow + 1
    else 0

/-- The sample is the fifth in a row that deviates. -/
def Fifth (w : JumpWatch F) (i : TimeSample) : Prop := w.sync.Deviates i ∧ w.inRow + 1 = 5

instance (w : JumpWatch F) (i : TimeSample) : Decidable (w.Fifth i) := inferInstanceAs (Decidable (_ ∧ _))

/-- The filter is reset by the fifth sample in a row that deviates, and by no other. -/
def ResetsAtFifth (w : JumpWatch F) (i : TimeSample) : Prop := w.sync.outcome i = .jumped ↔ w.Fifth i

instance (w : JumpWatch F) (i : TimeSample) : Decidable (w.ResetsAtFifth i) := inferInstanceAs (Decidable (_ ↔ _))

/-- The counter counts the row, which has not reached five. -/
structure Inv (w : JumpWatch F) : Prop where
  count : w.sync.highDeviationCount.toNat = w.inRow
  few : w.inRow < 5

variable {exp} {w : JumpWatch F} {i : TimeSample}

/-- A counter below five does not reset the filter. -/
theorem Inv.outcome_ne_jumped (hw : Inv w) : w.sync.outcome i ≠ .jumped := by
  have hcount := hw.count
  have hfew := hw.few
  have hone : (1 : UInt32).toNat = 1 := rfl
  have hmax : maxConsecutiveHighDeviation.toNat = 5 := rfl
  have hle : ¬ maxConsecutiveHighDeviation < w.sync.highDeviationCount + 1 := by
    rw [UInt32.lt_iff_toNat_lt, UInt32.toNat_add, hone, hmax, hcount]
    omega
  rw [TimeSync.outcome_eq, if_neg hle]
  split_ifs <;> simp

theorem Inv.resetsAtFifth_iff (hw : Inv w) : w.ResetsAtFifth i ↔ ¬ w.Fifth i := by
  unfold ResetsAtFifth
  rw [iff_false_left hw.outcome_ne_jumped]

/-- Until the fifth sample in a row the counter goes with the row. -/
theorem Inv.step (hw : Inv w) (hfifth : ¬ w.Fifth i) : Inv (step exp w i) := by
  have hrun := w.sync.run_outcome exp i
  have houtcome := TimeSync.outcome_eq (s := w.sync) (i := i)
  have hnotJumped := hw.outcome_ne_jumped (i := i)
  have hcount := hw.count
  have hfew := hw.few
  by_cases hok : i.Acceptable
  · rw [if_neg (not_not.mpr hok)] at houtcome
    by_cases hfar : w.sync.Deviates i
    · rw [if_neg (not_not.mpr hfar)] at houtcome
      -- the sample deviates and is not the fifth, so it is counted
      have hlast : w.inRow + 1 ≠ 5 := fun h => hfifth ⟨hfar, h⟩
      have hdeviated : w.sync.outcome i = .deviated := by
        rw [houtcome]
        -- a reset for the deviation would be a sixth one in a row
        refine if_neg fun h => hnotJumped ?_
        rw [houtcome, if_pos h]
      have hrow : (JumpWatch.step exp w i).inRow = w.inRow + 1 := by
        dsimp only [JumpWatch.step]
        rw [if_neg (not_not.mpr hok), if_pos ⟨hfar, hnotJumped⟩]
      rw [hdeviated] at hrun
      refine ⟨?_, by omega⟩
      rw [hrow]
      dsimp only [JumpWatch.step]
      have hone : (1 : UInt32).toNat = 1 := rfl
      rw [hrun]
      dsimp only
      rw [UInt32.toNat_add, hone, hcount]
      omega
    · -- the sample agrees, and the count starts again
      rw [if_pos hfar] at houtcome
      rw [houtcome] at hrun
      have hrow : (JumpWatch.step exp w i).inRow = 0 := by
        dsimp only [JumpWatch.step]
        rw [if_neg (not_not.mpr hok), if_neg fun h => hfar h.1]
      refine ⟨?_, by omega⟩
      rw [hrow]
      dsimp only [JumpWatch.step]
      rw [hrun]
      rfl
  · -- a sample that is not acceptable counts for nothing
    rw [if_pos hok] at houtcome
    rw [houtcome] at hrun
    have hsame : JumpWatch.step exp w i = w := by
      unfold JumpWatch.step
      rw [hrun, if_pos hok]
    rw [hsame]
    exact hw

/-- **When the fifth sample in a row resets the filter**: in the runs in which there is no fifth sample in a row. -/
theorem resets_at_fifth_iff (exp : F → F) {s : TimeSync F} (hfew : s.highDeviationCount.toNat < 5)
    (is : List TimeSample) :
    Meets (JumpWatch.step exp) ResetsAtFifth ⟨s, s.highDeviationCount.toNat⟩ is ↔
      Meets (JumpWatch.step exp) (fun w i => ¬ w.Fifth i) ⟨s, s.highDeviationCount.toNat⟩ is :=
  meets_congr Inv (fun _ _ hw => hw.resetsAtFifth_iff) (fun _ _ hw hok => hw.step (hw.resetsAtFifth_iff.mp hok))
    ⟨rfl, hfew⟩

/-- A converged filter of two clocks that agree. -/
def convergedSync : TimeSync Double := { sequence := convergenceWindow }

/-- A row of four is broken by a sample that agrees. -/
theorem resets_at_fifth_four :
    Meets (JumpWatch.step fun _ => 1) ResetsAtFifth ⟨convergedSync, convergedSync.highDeviationCount.toNat⟩
      (List.replicate 4 jumpedAhead ++ [agreeing] ++ List.replicate 4 jumpedAhead) :=
  (resets_at_fifth_iff (fun _ => 1) (by decide +kernel) _).mpr (by decide +kernel)

/-- The fifth sample in a row is only counted; the sixth resets the filter. -/
theorem fifth_only_counted :
    convergedSync.syncConverged ∧
    (Lib.run (TimeSync.run fun _ => 1) convergedSync (List.replicate 5 jumpedAhead)).syncConverged ∧
    Lib.run (TimeSync.run fun _ => 1) convergedSync (List.replicate 6 jumpedAhead) = {} ∧
    ¬ Meets (JumpWatch.step fun _ => 1) ResetsAtFifth ⟨convergedSync, convergedSync.highDeviationCount.toNat⟩
      (List.replicate 5 jumpedAhead) := by
  have hsixth : (Lib.run (TimeSync.run fun _ => 1) convergedSync (List.replicate 5 jumpedAhead)).outcome jumpedAhead =
      .jumped := by decide +kernel
  refine ⟨by decide +kernel, by decide +kernel, ?_, by decide +kernel⟩
  rw [List.replicate_succ', run_concat, TimeSync.run_outcome, hsixth]

end JumpWatch

end AutopilotManager
