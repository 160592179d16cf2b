import AutopilotManager.Landing.Mapper
import AutopilotManager.Lib.Streak
import AutopilotManager.Lib.Transition

/-!
# Landing.Health — the health check over runs

After any number of calls the counters of `healthCheck` hold how many calls at the end had no image, and how many
images at the end were not later than their predecessor, as 16-bit numbers.  The status is right exactly until one
of the two faults has lasted for `2 ^ 15` calls.
-/

namespace AutopilotManager

open Lib

namespace HealthStatus

/-- The status contains `UNHEALTHY_NULL_IMAGES`. -/
def hasNullImages : HealthStatus → Bool
  | unhealthyNullImages | unhealthyNullImagesAndOldTimestamps => true
  | _ => false

/-- The status contains `UNHEALTHY_OLD_TIMESTAMPS`. -/
def hasOldTimestamps : HealthStatus → Bool
  | unhealthyOldTimestamps | unhealthyNullImagesAndOldTimestamps => true
  | _ => false

@[simp] theorem hasNullImages_ofFlags (null old : Bool) : (ofFlags null old).hasNullImages = null := by
  cases null <;> cases old <;> rfl

@[simp] theorem hasOldTimestamps_ofFlags (null old : Bool) : (ofFlags null old).hasOldTimestamps = old := by
  cases null <;> cases old <;> rfl

end HealthStatus

namespace LandingManager

/-! ### Faults -/

/-- How many calls at the end were given no image. -/
def nullCalls (calls : List (Option DepthImage)) : ℕ := streak Option.isNone calls

/-- The times of the images, in order. -/
def timestamps (calls : List (Option DepthImage)) : List Int64 :=
  calls.filterMap fun depth => depth.map DepthImage.timestampNs

/-- How many images at the end had a time that is not later than their predecessor's; the first is compared with
zero. -/
def oldImages (calls : List (Option DepthImage)) : ℕ :=
  streak id (notLater (fun t prev => decide (t ≤ prev)) 0 (timestamps calls))

/-- The status tells the faults of the calls. -/
structure Truthful (calls : List (Option DepthImage)) (s : LandingManager) : Prop where
  nullImages : s.healthStatus.hasNullImages ↔ 5 < nullCalls calls
  oldTimestamps : s.healthStatus.hasOldTimestamps ↔ 50 < oldImages calls

/-- One call of `healthCheck`. -/
def check (s : LandingManager) (depth : Option DepthImage) : LandingManager := s.healthCheck depth

/-! ### The counters -/

/-- What the counters hold after the calls. -/
structure Counts (calls : List (Option DepthImage)) (health : HealthHandly) : Prop where
  null : health.countImageNull = Int16.ofNat (nullCalls calls)
  old : health.countTimestampOld = Int16.ofNat (oldImages calls)
  last : health.lastTimestamp = (timestamps calls).getLast?.getD 0

variable {calls : List (Option DepthImage)} {health : HealthHandly} {s : LandingManager}

theorem timestamps_concat_none (calls : List (Option DepthImage)) : timestamps (calls ++ [none]) = timestamps calls := by
  rw [timestamps, List.filterMap_append]
  exact List.append_nil _

theorem timestamps_concat_some (calls : List (Option DepthImage)) (image : DepthImage) :
    timestamps (calls ++ [some image]) = timestamps calls ++ [image.timestampNs] := by
  rw [timestamps, List.filterMap_append]
  rfl

theorem oldImages_concat_some (calls : List (Option DepthImage)) (image : DepthImage) :
    oldImages (calls ++ [some image]) =
      if image.timestampNs ≤ (timestamps calls).getLast?.getD 0 then oldImages calls + 1 else 0 := by
  rw [oldImages, timestamps_concat_some, notLater_concat, streak_concat]
  simp only [id_eq, decide_eq_true_eq]
  rfl

/-- **One call keeps the counts.** -/
theorem Counts.count (h : Counts calls health) (depth : Option DepthImage) :
    Counts (calls ++ [depth]) (health.count depth) := by
  cases depth with
  | none =>
    refine ⟨?_, ?_, ?_⟩
    · show health.countImageNull + 1 = _
      rw [nullCalls, streak_concat, h.null]
      exact (Int16.ofNat_add ..).symm
    · rw [oldImages, timestamps_concat_none]
      exact h.old
    · rw [timestamps_concat_none]
      exact h.last
  | some image =>
    refine ⟨?_, ?_, ?_⟩
    · rw [nullCalls, streak_concat]
      rfl
    · show (if health.lastTimestamp ≥ image.timestampNs then health.countTimestampOld + 1 else 0) = _
      rw [oldImages_concat_some, h.last, h.old]
      split_ifs
      · rw [Int16.ofNat_add]
        rfl
      · rfl
    · rw [timestamps_concat_some, List.getLast?_concat]
      rfl

theorem health_healthCheck (depth : Option DepthImage) (s : LandingManager) :
    (s.healthCheck depth).health = s.health.count depth := by
  unfold healthCheck
  dsimp only
  split_ifs <;> rfl

theorem healthStatus_healthCheck (depth : Option DepthImage) (s : LandingManager) :
    (s.healthCheck depth).healthStatus =
      .ofFlags (decide ((s.health.count depth).countImageNull > HealthHandly.maxNullImage))
        (decide ((s.health.count depth).countTimestampOld > HealthHandly.maxOldTimestamp)) := by
  unfold healthCheck
  dsimp only
  split_ifs <;> rfl

/-- The counters count, and the status compares them with their limits. -/
structure Checked (calls : List (Option DepthImage)) (s : LandingManager) : Prop where
  counts : Counts calls s.health
  nullImages : s.healthStatus.hasNullImages ↔ Int16.ofNat 5 < Int16.ofNat (nullCalls calls)
  oldTimestamps : s.healthStatus.hasOldTimestamps ↔ Int16.ofNat 50 < Int16.ofNat (oldImages calls)

theorem Checked.check (h : Checked calls s) (depth : Option DepthImage) : Checked (calls ++ [depth]) (s.check depth) := by
  have hcounts := h.counts.count depth
  refine ⟨?_, ?_, ?_⟩
  · rw [LandingManager.check, health_healthCheck]
    exact hcounts
  · rw [LandingManager.check, healthStatus_healthCheck, HealthStatus.hasNullImages_ofFlags, decide_eq_true_eq,
      hcounts.null]
    rfl
  · rw [LandingManager.check, healthStatus_healthCheck, HealthStatus.hasOldTimestamps_ofFlags, decide_eq_true_eq,
      hcounts.old]
    rfl

theorem run_checked (calls : List (Option DepthImage)) : Checked calls (run check {} calls) := by
  induction calls using List.reverseRecOn with
  | nil => exact ⟨⟨rfl, rfl, rfl⟩, by decide, by decide⟩
  | append_singleton calls depth ih =>
    rw [run_concat]
    exact ih.check depth

/-! ### Runs -/

theorem nullCalls_concat_le (calls : List (Option DepthImage)) (depth : Option DepthImage) :
    nullCalls (calls ++ [depth]) ≤ nullCalls calls + 1 := streak_concat_le ..

theorem oldImages_concat_le (calls : List (Option DepthImage)) (depth : Option DepthImage) :
    oldImages (calls ++ [depth]) ≤ oldImages calls + 1 := by
  cases depth with
  | none =>
    rw [oldImages, timestamps_concat_none]
    exact Nat.le_succ _
  | some image =>
    rw [oldImages, timestamps_concat_some, notLater_concat]
    exact streak_concat_le ..

/-- **The status tells the faults after every call exactly when no fault lasts for `2 ^ 15` calls or images.** -/
theorem status_truthful_iff (calls : List (Option DepthImage)) :
    (∀ calls', calls' <+: calls → Truthful calls' (run check {} calls')) ↔
      ∀ calls', calls' <+: calls → nullCalls calls' < 2 ^ 15 ∧ oldImages calls' < 2 ^ 15 := by
  have hnull := counter_right_iff (r := nullCalls) rfl nullCalls_concat_le (k := 5) (by decide) calls
  have hold := counter_right_iff (r := oldImages) rfl oldImages_concat_le (k := 50) (by decide) calls
  constructor
  · intro h calls' hprefix
    refine ⟨hnull.mp (fun js hjs => ?_) calls' hprefix, hold.mp (fun js hjs => ?_) calls' hprefix⟩
    · rw [← (run_checked js).nullImages]
      exact (h js hjs).nullImages
    · rw [← (run_checked js).oldTimestamps]
      exact (h js hjs).oldTimestamps
  · intro h calls' hprefix
    have hchecked := run_checked calls'
    refine ⟨?_, ?_⟩
    · rw [hchecked.nullImages]
      exact hnull.mpr (fun js hjs => (h js hjs).1) calls' hprefix
    · rw [hchecked.oldTimestamps]
      exact hold.mpr (fun js hjs => (h js hjs).2) calls' hprefix

/-- A camera that has been dead for `2 ^ 15` calls is reported healthy. -/
theorem healthy_without_images :
    ¬ Truthful (List.replicate (2 ^ 15) none) (run check {} (List.replicate (2 ^ 15) none)) := by
  intro h
  have hcalls : nullCalls (List.replicate (2 ^ 15) none) = 2 ^ 15 := streak_replicate rfl _
  have hstatus := (run_checked (List.replicate (2 ^ 15) none)).nullImages.symm.trans h.nullImages
  rw [hcalls] at hstatus
  exact not_lt_ofNat_two_pow (by decide) (hstatus.mpr (by decide))

end LandingManager

end AutopilotManager
