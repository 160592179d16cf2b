import AutopilotManager.Mission.Commands
import AutopilotManager.Mission.Spacing
import AutopilotManager.System.AvoidanceFlag
import AutopilotManager.System.Verdict

/-!
# System.Intervention — what stops a landing

Safe landing starts an action when it judges a landing and finds the ground bad, or does not know the ground and is
above 1.5 meters.  The height it reads is that of the last image that a cycle of the mapper has processed, however long
ago, while the state may have been replaced since by one of the two that say nothing.
-/

namespace AutopilotManager

open Lib

namespace MissionManager

variable {P E : Type} {ext : Externals P E} {i : TickInput E} {s : MissionManager P}

/-- A landing that is to be stopped sets the mark and notes the time. -/
theorem marks_triggerSafeLanding (ext : Externals P E) (hfree : ¬ s.actionInProgress) (htriggered : s.landingTriggered)
    (hgrounds : unhealthyAndAbove i ∨ shouldTriggerSafeLanding i) :
    (s.triggerSafeLanding ext i).actionInProgress ∧ (s.triggerSafeLanding ext i).lastTime = i.now := by
  unfold triggerSafeLanding
  rw [if_pos (by simp [hfree, htriggered])]
  by_cases hunhealthy : unhealthyAndAbove i
  · rw [if_pos hunhealthy]
    exact ⟨rfl, rfl⟩
  · rw [if_neg hunhealthy, if_pos (hgrounds.resolve_left hunhealthy)]
    exact ⟨rfl, rfl⟩

/-- A mark of this iteration is not yet taken away. -/
theorem mark_afterHandler (hmark : s.actionInProgress) (htime : s.lastTime = i.now) :
    (s.afterHandler i).actionInProgress := by
  have hnow : ¬ timedOut i.now { s with isHealthy := s.obstacleAvoidanceEnabled || s.underManualControl } :=
    not_timedOut_self htime
  rw [afterHandler, actionTimeout_of_not_timedOut hnow]
  exact hmark

/-- **When safe landing starts an action**: on a landing that it judges, because of the state and the height. -/
theorem startsAction_iff (hcalls : ¬ i.bypasses) :
    StartsAction ext s i ↔ JudgesLanding i s ∧ (unhealthyAndAbove i ∨ shouldTriggerSafeLanding i) := by
  have hmark : Unacted (fun s : MissionManager P => s.actionInProgress) := uncalled_actionInProgress.toUnacted
  have hbegin : (s.beginTick i).actionInProgress = s.actionInProgress := by rw [beginTick_eq]
  have htriggered : (s.beginTick i).landingTriggered = s.landingTriggered := by
    rw [beginTick_eq]
    rfl
  have hoff := isOff_iff (s.beginTick i)
  rw [avoidance_beginTick, show (s.beginTick i).config = i.config by rw [beginTick_eq]] at hoff
  unfold StartsAction
  rw [step, decisionMakerRun_of_calls ext hcalls, handleSafeLanding_beginTick]
  generalize s.beginTick i = s' at hbegin htriggered hoff ⊢
  constructor
  · -- the mark is set by the handler, and there by the trigger
    rintro ⟨hfree, hstarted⟩
    have hhandled := (silent_afterHandler _).action hstarted
    split_ifs at hhandled with hdisabled hactive
    · rw [hmark.landingSiteSearchHasEnded, hmark.hold, hmark.withPlanner, hbegin] at hhandled
      exact absurd hhandled hfree
    · exact absurd (hbegin ▸ hhandled) hfree
    · rw [uncalled_actionInProgress.processActiveActions] at hhandled
      obtain ⟨henabled, havoidance⟩ := not_or.mp (mt hoff.mpr hdisabled)
      have hjudges (hlanding : s'.landingTriggered) : JudgesLanding i s :=
        ⟨hcalls, henabled, not_not.mp havoidance, hfree, htriggered ▸ hlanding⟩
      cases triggerSafeLanding_trigger ext i s' with
      | unhealthy free triggered unhealthy result => exact ⟨hjudges triggered, .inl unhealthy⟩
      | action free triggered takes result =>
        unfold takesAction at takes
        exact ⟨hjudges triggered, .inr (Bool.and_eq_true_iff.mp takes).2⟩
      | none takes result =>
        rw [result, hbegin] at hhandled
        exact absurd hhandled hfree
  · -- the mark is set with the time, which the processing at most renews, so it does not time out
    rintro ⟨hjudges, hgrounds⟩
    have hon : ¬ s'.isOff := mt hoff.mp (not_or.mpr ⟨hjudges.enabled, not_not.mpr hjudges.avoidance⟩)
    have hmarked := marks_triggerSafeLanding ext (hbegin ▸ hjudges.free) (htriggered ▸ hjudges.triggered) hgrounds
    rw [if_neg hon]
    refine ⟨hjudges.free, mark_afterHandler ?_ ?_⟩
    · rw [uncalled_actionInProgress.processActiveActions]
      exact hmarked.1
    · rcases lastTime_processActiveActions (s'.triggerSafeLanding ext i) with htime | htime
      · rw [htime]
        exact hmarked.2
      · exact htime

end MissionManager

namespace AutopilotProcess

variable {P R E : Type} {ext : Externals P E} {lib : DownsamplerLibrary R} {launch : Launch R} {files : Files}
  {s : AutopilotProcess P R} {is : List (ProcessInput E)}

/-! ### The latest measurement -/

/-- The finding and the height of a cycle that processes its image. -/
def measurement (lib : DownsamplerLibrary R) (s : AutopilotProcess P R) :
    ProcessInput E → Option (LandingMapperState × Double)
  | .mapper check =>
    let m := s.mapperInput lib check
    if s.main.runsLandingManager && LandingManager.processesImage (landingManagerConfig s.service.live) m s.landing then
      some (m.state, m.heightAboveObstacle)
    else none
  | _ => none

theorem measurement_eq_some {i : ProcessInput E} {m : LandingMapperState × Double} :
    measurement lib s i = some m ↔ ∃ check, i = .mapper check ∧ s.main.runsLandingManager ∧
      LandingManager.processesImage (landingManagerConfig s.service.live) (s.mapperInput lib check) s.landing ∧
        ((s.mapperInput lib check).state, (s.mapperInput lib check).heightAboveObstacle) = m := by
  cases i with
  | mapper check =>
    rw [measurement]
    constructor
    · intro h
      split_ifs at h with hmeasures
      obtain ⟨hruns, hprocesses⟩ := Bool.and_eq_true_iff.mp hmeasures
      exact ⟨check, rfl, hruns, hprocesses, Option.some.inj h⟩
    · rintro ⟨check', hinput, hruns, hprocesses, rfl⟩
      obtain rfl := ProcessInput.mapper.inj hinput
      exact if_pos (Bool.and_eq_true_iff.mpr ⟨hruns, hprocesses⟩)
  | _ => simp [measurement]

/-- Only a cycle of the mapper changes the height and the state. -/
theorem landing_of_not_mapper (ext : Externals P E) (lib : DownsamplerLibrary R) (hs : Constructing launch files s)
    {i : ProcessInput E} (hother : ∀ check, i ≠ .mapper check) :
    (s.step ext lib launch i).landing.heightAboveObstacle = s.landing.heightAboveObstacle ∧
      (s.step ext lib launch i).landing.state = s.landing.state := by
  have hrunOnce : s.runOnce.landing.heightAboveObstacle = s.landing.heightAboveObstacle ∧
      s.runOnce.landing.state = s.landing.state := by
    unfold runOnce updateObstacleAvoidanceEnabled
    dsimp only
    split_ifs <;> exact ⟨rfl, rfl⟩
  cases i with
  | main m =>
    by_cases hrunning : s.main = .running
    · rw [step, mainStep_of_running hs hrunning]
      exact hrunOnce
    · obtain ⟨-, -, -, -, hlanding, -⟩ := mainStep_frame launch hrunning m
      rw [step, hlanding]
      exact ⟨rfl, rfl⟩
  | message message env =>
    rw [step, dispatch_eq hs message env]
    exact ⟨rfl, rfl⟩
  | mapper check => exact absurd rfl (hother check)
  | _ =>
    rw [step]
    split_ifs <;> exact ⟨rfl, rfl⟩

/-- What a step does to the height and to the state: a measurement writes both, and otherwise the height stays and the
state stays or is one of the two that say nothing. -/
theorem landing_step (ext : Externals P E) (lib : DownsamplerLibrary R) (hs : Constructing launch files s)
    (i : ProcessInput E) :
    (∃ m, measurement lib s i = some m ∧ (s.step ext lib launch i).landing.heightAboveObstacle = m.2 ∧
      (s.step ext lib launch i).landing.state = m.1) ∨
    measurement lib s i = none ∧
      (s.step ext lib launch i).landing.heightAboveObstacle = s.landing.heightAboveObstacle ∧
      ((s.step ext lib launch i).landing.state = s.landing.state ∨
        ¬ IsVerdict (s.step ext lib launch i).landing.state) := by
  have hsilent {state : LandingMapperState} (h : state = .unhealthy ∨ state = .unknown) : ¬ IsVerdict state :=
    fun hverdict => h.elim hverdict.1 hverdict.2
  by_cases hmapper : ∃ check, i = .mapper check
  · obtain ⟨check, rfl⟩ := hmapper
    rw [step]
    by_cases hruns : s.main.runsLandingManager
    · rw [if_pos hruns]
      -- a cycle that does not process its image measures nothing
      have hnone (hskips : ¬ LandingManager.processesImage (landingManagerConfig s.service.live)
          (s.mapperInput lib check) s.landing) : measurement lib s (.mapper (E := E) check) = none :=
        if_neg fun h => hskips (Bool.and_eq_true_iff.mp h).2
      cases LandingManager.mapper_cases (landingManagerConfig s.service.live) (s.mapperInput lib check) s.landing with
      | measured processes hstate hheight =>
        exact .inl ⟨_, measurement_eq_some.mpr ⟨check, rfl, hruns, processes, rfl⟩, hheight, hstate⟩
      | blind skips writes hstate hheight => exact .inr ⟨hnone skips, hheight, .inr (hsilent hstate)⟩
      | kept skips keeps hstate hheight => exact .inr ⟨hnone skips, hheight, .inl hstate⟩
    · rw [if_neg hruns]
      exact .inr ⟨if_neg fun h => hruns (Bool.and_eq_true_iff.mp h).1, rfl, .inl rfl⟩
  · have hother : ∀ check, i ≠ .mapper check := fun check h => hmapper ⟨check, h⟩
    obtain ⟨hheight, hstate⟩ := landing_of_not_mapper ext lib hs hother
    refine .inr ⟨?_, hheight, .inl hstate⟩
    cases i with
    | mapper check => exact absurd rfl (hother check)
    | _ => rfl

/-- After the run `is` the latest measurement is of the image `image`, and what the landing mapper has made of it and of
its cloud is `state` and `height`. -/
def LatestMeasurement (ext : Externals P E) (lib : DownsamplerLibrary R) (launch : Launch R) (files : Files)
    (is : List (ProcessInput E)) (image : ExtendedDownsampledImage R) (state : LandingMapperState) (height : Double) :
    Prop :=
  ∃ check before after, is = before ++ [.mapper check] ++ after ∧
    measurement lib (run (step ext lib launch) (initial ext launch files) before) (.mapper (E := E) check) =
      some (state, height) ∧
    Meets (step ext lib launch) (fun s i => measurement lib s i = none)
      (run (step ext lib launch) (initial ext launch files) (before ++ [.mapper check])) after ∧
    LatestImage ext lib launch files before image ∧ image.depthPixelArray ≠ [] ∧
    check image.position image.orientation (LandingManager.pointCloud lib image) = (state, height) ∧
    BuildsMap launch files (run (step ext lib launch) (initial ext launch files) before)

/-- The height is that of the start, or that of the latest measurement; then the state is its finding, or says
nothing. -/
theorem latestMeasurement_run (ext : Externals P E) (lib : DownsamplerLibrary R) (launch : Launch R) (files : Files)
    (is : List (ProcessInput E)) :
    let s := run (step ext lib launch) (initial ext launch files) is
    s.landing.heightAboveObstacle = 0 ∧ ¬ IsVerdict s.landing.state ∨
      ∃ image state, LatestMeasurement ext lib launch files is image state s.landing.heightAboveObstacle ∧
        (s.landing.state = state ∨ ¬ IsVerdict s.landing.state) := by
  dsimp only
  induction is using List.reverseRecOn with
  | nil => exact .inl ⟨rfl, fun hverdict => hverdict.2 rfl⟩
  | append_singleton is i ih =>
    have hs := constructing_run ext lib launch files is
    rw [run_concat]
    -- the last step measures, or it leaves the height and the latest measurement is the old one
    rcases landing_step ext lib hs i with ⟨m, hmeasured, hheight, hstate⟩ | ⟨hnone, hheight, hstate⟩
    · obtain ⟨check, rfl, hruns, hprocesses, hm⟩ := measurement_eq_some.mp hmeasured
      obtain ⟨image, himage, hpixels, hfinding⟩ := image_of_processesImage hprocesses
      refine .inr ⟨image, m.1, ⟨check, is, [], ?_, ?_, trivial, latestImage_run himage, hpixels, ?_, ?_⟩, .inl hstate⟩
      · rw [List.append_nil]
      · rw [hheight]
        exact hmeasured
      · rw [hheight]
        exact hfinding.symm.trans hm
      · exact buildsMap_of_processesImage hs hruns hprocesses
    · rw [hheight]
      have hkeeps (state : LandingMapperState)
          (hbefore : (run (step ext lib launch) (initial ext launch files) is).landing.state = state ∨
            ¬ IsVerdict (run (step ext lib launch) (initial ext launch files) is).landing.state) :
          (step ext lib launch (run (step ext lib launch) (initial ext launch files) is) i).landing.state = state ∨
            ¬ IsVerdict (step ext lib launch (run (step ext lib launch) (initial ext launch files) is)
              i).landing.state := by
        rcases hstate with hsame | hsilent
        · rw [hsame]
          exact hbefore
        · exact .inr hsilent
      rcases ih with ⟨hzero, hsilent⟩ | ⟨image, state, ⟨check, before, after, his, hmeasured, hafter, himage⟩, hfound⟩
      · refine .inl ⟨hzero, ?_⟩
        rcases hkeeps .unknown (.inr hsilent) with hunknown | hsilent
        · exact fun hverdict => hverdict.2 hunknown
        · exact hsilent
      · refine .inr ⟨image, state, ⟨check, before, after ++ [i], ?_, hmeasured, ?_, himage⟩, hkeeps state hfound⟩
        · exact (congrArg (· ++ [i]) his).trans (List.append_assoc ..)
        · refine meets_concat.mpr ⟨hafter, ?_⟩
          rw [← run_append, ← his]
          exact hnone

/-- The height is that of the latest measurement. -/
theorem LatestMeasurement.height_eq {image : ExtendedDownsampledImage R} {state : LandingMapperState} {height : Double}
    (h : LatestMeasurement ext lib launch files is image state height) :
    (run (step ext lib launch) (initial ext launch files) is).landing.heightAboveObstacle = height := by
  obtain ⟨check, before, after, rfl, hmeasured, hafter, -⟩ := h
  have hs := constructing_run ext lib launch files before
  have hkeeps : ∀ s i, Constructing launch files s ∧ s.landing.heightAboveObstacle = height → measurement lib s i = none →
      Constructing launch files (step ext lib launch s i) ∧
        (step ext lib launch s i).landing.heightAboveObstacle = height := by
    rintro s i ⟨hs, hheight⟩ hnone
    refine ⟨constructing_step hs i, ?_⟩
    rcases landing_step ext lib hs i with ⟨m, hmeasures, -⟩ | ⟨-, hsame, -⟩
    · rw [hnone] at hmeasures
      cases hmeasures
    · rw [hsame, hheight]
  rw [run_append]
  refine (hafter.invariant hkeeps ?_).2
  rw [run_concat]
  refine ⟨constructing_step hs _, ?_⟩
  rcases landing_step ext lib hs (.mapper check) with ⟨m, hmeasures, hheight, -⟩ | ⟨hnone, -⟩
  · obtain rfl := Option.some.inj (hmeasured.symm.trans hmeasures)
    exact hheight
  · rw [hmeasured] at hnone
    cases hnone

/-! ### Interventions -/

/-- The grounds of the trigger: bad ground, or none that is known, seen from above. -/
theorem grounds_iff {i : TickInput E} :
    MissionManager.unhealthyAndAbove i ∨ MissionManager.shouldTriggerSafeLanding i ↔
      i.landingState = .canNotLand ∨ MissionManager.isAbove i.heightAboveObstacle ∧ ¬ IsVerdict i.landingState := by
  unfold MissionManager.unhealthyAndAbove MissionManager.shouldTriggerSafeLanding IsVerdict
  cases i.landingState <;> simp

/-- An iteration starts an action where the Mission Manager runs. -/
theorem startsAction_step (i : TickInput E) :
    (¬ s.mission.actionInProgress ∧ (s.step ext lib launch (.mission (.tick i))).mission.actionInProgress) ↔
      s.main.runsMissionManager ∧ MissionManager.StartsAction ext s.mission (s.tickInput i) := by
  rw [step]
  split_ifs with hruns
  · exact (and_iff_right hruns).symm
  · exact ⟨fun h => absurd h.2 h.1, fun h => absurd h.1 hruns⟩

/-- **What an intervention rests on**: under safe landing an iteration of the decision loop starts an action exactly
when it judges a landing and a cycle of the mapper has processed an image with pixels, the latest one that had been
stored, of which either it has found that the vehicle can not land, and this still stands; or the height is above 1.5
meters, and the state in use says nothing about the ground.  The cycle is the latest one that has processed an image. -/
theorem intervention_seen (ext : Externals P E) (lib : DownsamplerLibrary R) (launch : Launch R) (files : Files)
    (is : List (ProcessInput E)) (i : TickInput E)
    (hmaker : (provisioned launch files).decisionMakerInputType = "SAFE_LANDING") :
    let s := run (step ext lib launch) (initial ext launch files) is
    (¬ s.mission.actionInProgress ∧ (s.step ext lib launch (.mission (.tick i))).mission.actionInProgress) ↔
      s.main.runsMissionManager ∧ MissionManager.JudgesLanding (s.tickInput i) s.mission ∧
        ∃ image state height, LatestMeasurement ext lib launch files is image state height ∧
          (state = .canNotLand ∧ s.landing.state = .canNotLand ∨
            MissionManager.isAbove height ∧ ¬ IsVerdict s.landing.state) := by
  have hs := constructing_run ext lib launch files is
  have hmeasurement := latestMeasurement_run ext lib launch files is
  have hheight {image state height} (h : LatestMeasurement ext lib launch files is image state height) := h.height_eq
  dsimp only at hmeasurement ⊢
  generalize run (step ext lib launch) (initial ext launch files) is = s at hs hmeasurement hheight ⊢
  rw [startsAction_step]
  refine and_congr_right fun hruns => ?_
  -- the iteration reads the configuration of the start
  have hmaker' : (s.tickInput i).config.decisionMakerInputType = "SAFE_LANDING" := by
    rw [tickInput, live_eq hs (by rw [hs.running hruns]; rfl)]
    exact hmaker
  have hverdict : IsVerdict .canNotLand := ⟨by simp, by simp⟩
  constructor
  · intro hstarts
    have hcalls : ¬ (s.tickInput i).bypasses := not_or.mpr ⟨hstarts.enabled, not_not.mpr hmaker'⟩
    obtain ⟨hjudges, hgrounds⟩ := (MissionManager.startsAction_iff hcalls).mp hstarts
    refine ⟨hjudges, ?_⟩
    have hgrounds : s.landing.state = .canNotLand ∨
        MissionManager.isAbove s.landing.heightAboveObstacle ∧ ¬ IsVerdict s.landing.state := grounds_iff.mp hgrounds
    rcases hmeasurement with ⟨hzero, hsilent⟩ | ⟨image, state, hlatest, hfound⟩
    · -- nothing has been measured, so nothing stops a landing
      rcases hgrounds with hbad | ⟨habove, -⟩
      · exact absurd (hbad ▸ hverdict) hsilent
      · exact absurd (hzero ▸ habove) System.not_isAbove_zero
    · refine ⟨image, state, _, hlatest, hgrounds.imp_left fun hbad => ⟨?_, hbad⟩⟩
      rcases hfound with rfl | hsilent
      · exact hbad
      · exact absurd (hbad ▸ hverdict) hsilent
  · rintro ⟨hjudges, image, state, height, hlatest, hgrounds⟩
    refine (MissionManager.startsAction_iff hjudges.calls).mpr ⟨hjudges, grounds_iff.mpr ?_⟩
    show s.landing.state = .canNotLand ∨
      MissionManager.isAbove s.landing.heightAboveObstacle ∧ ¬ IsVerdict s.landing.state
    rw [hheight hlatest]
    exact hgrounds.imp_left And.right

/-- The mapper finds bad ground, and the vehicle is about to land on it. -/
def landingOnBadGround : List (ProcessInput Bool) :=
  groundBelow ++ [.mapper fun _ _ _ => (.canNotLand, 5), .mission (.flightMode .land)]

theorem intervention_seen_badGround : ∃ image height,
    LatestMeasurement phasePlanner onePixel plainLaunch (savedFile plainLaunch.configPath landLive) landingOnBadGround
      image .canNotLand height := by
  have hread := initialProvisioning_savedFile legible_landLive rfl plainLaunch.configPath
  have hbad : IsVerdict (run (step phasePlanner onePixel plainLaunch)
      (initial phasePlanner plainLaunch (savedFile plainLaunch.configPath landLive))
      landingOnBadGround).landing.state := by
    rw [landingOnBadGround, groundBelow, run_append, run_append, run_startingUp hread, IsVerdict]
    decide +kernel
  obtain ⟨-, -, image, state, height, hlatest, hgrounds⟩ :=
    (intervention_seen phasePlanner onePixel plainLaunch (savedFile plainLaunch.configPath landLive) landingOnBadGround
      (MissionManager.tickOver .unknown {})
      (by
        rw [provisioned, hread]
        rfl)).mp
      (by
        rw [landingOnBadGround, groundBelow, run_append, run_append, run_startingUp hread]
        decide +kernel)
  rcases hgrounds with ⟨rfl, -⟩ | ⟨-, hsilent⟩
  · exact ⟨image, height, hlatest⟩
  · exact absurd hbad hsilent

end AutopilotProcess

end AutopilotManager
