import AutopilotManager.Landing.PointCloud
import AutopilotManager.System.Heartbeat
import AutopilotManager.System.Refinement

/-!
# System.Evidence — what the decisions of the process rest on

The threads hand each other what they have last seen: the Sensor Manager its status and its latest image, the Mission
Manager the avoidance flag, the Collision Avoidance Manager a distance.  For what goes out of the process, a heartbeat
or an action, the step is found in the run that has written what it rests on.
-/

namespace AutopilotManager

open Lib

namespace AutopilotProcess

variable {P R E : Type} {ext : Externals P E} {lib : DownsamplerLibrary R} {launch : Launch R} {files : Files}
  {s : AutopilotProcess P R} {is : List (ProcessInput E)}

/-! ### What the Sensor Manager holds -/

/-- What a step of the process writes of the Sensor Manager, where its callbacks write `write`. -/
def sensorWrite {β : Type} (write : SensorNode R → SensorCallback → Option β) (s : AutopilotProcess P R) :
    ProcessInput E → Option β
  | .sensor c => if s.main.runsSensorManager then write s.sensor c else none
  | _ => none

theorem sensorWrite_eq_some {β : Type} {write : SensorNode R → SensorCallback → Option β} {i : ProcessInput E} {x : β} :
    sensorWrite write s i = some x ↔
      ∃ c, i = .sensor c ∧ s.main.runsSensorManager ∧ write s.sensor c = some x := by
  cases i <;> simp [sensorWrite]

/-- A part of the Sensor Manager holds what the latest callback that writes it has written. -/
theorem holds_sensor {β : Type} (get : SensorNode R → β) (write : SensorNode R → SensorCallback → Option β)
    (hspin : ∀ s c, get (s.spin lib c) = (write s c).getD (get s))
    (hset : ∀ s enabled, get (s.setObstacleAvoidanceEnabled enabled) = get s) (is : List (ProcessInput E)) :
    Holds (step ext lib launch) (sensorWrite write) (initial ext launch files) is
      (get (.initial launch.intrinsics launch.timeSensorManager))
      (get (run (step ext lib launch) (initial ext launch files) is).sensor) := by
  refine holds_run (fun s : AutopilotProcess P R => get s.sensor) _ is fun js i => ?_
  have hs := constructing_run ext lib launch files js
  generalize run (step ext lib launch) (initial ext launch files) js = s at hs ⊢
  rw [step_sensor hs]
  cases i with
  | sensor c =>
    rw [sensorInput, sensorWrite]
    split_ifs
    · exact hspin s.sensor c
    · rfl
  | main i =>
    rw [sensorInput]
    split_ifs
    · exact hset s.sensor _
    · rfl
  | _ => rfl

/-- The step is a check of the Sensor Manager past its start-up time. -/
def judgesSensors (s : AutopilotProcess P R) : ProcessInput E → Prop
  | .sensor (.healthCheck now) => s.main.runsSensorManager ∧ s.sensor.isPastStartUp now
  | _ => False

instance (s : AutopilotProcess P R) (i : ProcessInput E) : Decidable (judgesSensors s i) :=
  match i with
  | .sensor (.healthCheck now) => inferInstanceAs (Decidable (s.main.runsSensorManager ∧ s.sensor.isPastStartUp now))
  | .sensor (.odometry _) | .sensor (.cameraInfo _) | .sensor (.depthImage _ _ _) | .main _ | .message _ _
  | .computeDistance _ | .mapper _ | .printStats | .mission _ => .isFalse id

/-- The step stores an image. -/
def storesImage (lib : DownsamplerLibrary R) (s : AutopilotProcess P R) : ProcessInput E → Prop
  | .sensor (.depthImage _ msg transform) =>
    s.main.runsSensorManager ∧ s.sensor.camera.storesDepthImage lib msg transform
  | _ => False

/-- At `now` an odometry that the Sensor Manager has received in the run `before`, and an image that it has stored in
it, are not too old. -/
structure RecentInputs (ext : Externals P E) (lib : DownsamplerLibrary R) (launch : Launch R) (files : Files)
    (before : List (ProcessInput E)) (now : ℤ) : Prop where
  odometry : ∃ earlier t, earlier ++ [.sensor (.odometry t)] <+: before ∧
    (run (step ext lib launch) (initial ext launch files) earlier).main.runsSensorManager ∧ now - t < SensorNode.maxAge
  image : ∃ earlier t msg transform, earlier ++ [.sensor (.depthImage t msg transform)] <+: before ∧
    storesImage lib (run (step ext lib launch) (initial ext launch files) earlier)
      (.sensor (.depthImage t msg transform) : ProcessInput E) ∧ now - t < SensorNode.maxAge

/-- The start-up time of the Sensor Manager begins with one of its checks. -/
theorem timeStart_run (ext : Externals P E) (lib : DownsamplerLibrary R) (launch : Launch R) (files : Files)
    (is : List (ProcessInput E)) {first : ℤ}
    (hfirst : (run (step ext lib launch) (initial ext launch files) is).sensor.timeStart = some first) :
    .sensor (.healthCheck first) ∈ is := by
  have hholds : Holds (step ext lib launch) _ (initial ext launch files) is _ _ :=
    holds_sensor (fun s => s.timeStart) SensorNode.writtenStart (fun s c => (SensorNode.spin_writes lib s c).start)
      (fun _ _ => rfl) is
  rcases hholds.written with hnone | ⟨before, i, hprefix, hwritten⟩
  · rw [hfirst] at hnone
    cases hnone
  · obtain ⟨c, rfl, -, hc⟩ := sensorWrite_eq_some.mp hwritten
    obtain ⟨now, rfl, -, hnow⟩ := SensorNode.writtenStart_eq_some.mp hc
    obtain rfl : now = first := Option.some.inj (hnow.trans hfirst)
    exact hprefix.subset (by simp)

theorem timeLastOdometry_run (ext : Externals P E) (lib : DownsamplerLibrary R) (launch : Launch R) (files : Files)
    (is : List (ProcessInput E)) :
    let t := (run (step ext lib launch) (initial ext launch files) is).sensor.timeLastOdometry
    t = launch.timeSensorManager ∨ ∃ before, before ++ [.sensor (.odometry t)] <+: is ∧
      (run (step ext lib launch) (initial ext launch files) before).main.runsSensorManager := by
  have hholds : Holds (step ext lib launch) _ (initial ext launch files) is _ _ :=
    holds_sensor (fun s => s.timeLastOdometry) (fun _ c => SensorNode.writtenOdometry c)
      (fun s c => (SensorNode.spin_writes lib s c).odometryTime) (fun _ _ => rfl) is
  refine hholds.written.imp_right ?_
  rintro ⟨before, i, hprefix, hwritten⟩
  obtain ⟨c, rfl, hruns, hc⟩ := sensorWrite_eq_some.mp hwritten
  rw [SensorNode.writtenOdometry_eq_some.mp hc] at hprefix
  exact ⟨before, hprefix, hruns⟩

theorem timeLastImage_run (ext : Externals P E) (lib : DownsamplerLibrary R) (launch : Launch R) (files : Files)
    (is : List (ProcessInput E)) :
    let t := (run (step ext lib launch) (initial ext launch files) is).sensor.timeLastImage
    t = launch.timeSensorManager ∨ ∃ before msg transform, before ++ [.sensor (.depthImage t msg transform)] <+: is ∧
      storesImage lib (run (step ext lib launch) (initial ext launch files) before)
        (.sensor (.depthImage t msg transform) : ProcessInput E) := by
  have hholds : Holds (step ext lib launch) _ (initial ext launch files) is _ _ :=
    holds_sensor (fun s => s.timeLastImage) (fun s c => (SensorNode.writtenImage lib s c).map Prod.snd)
      (fun s c => (SensorNode.spin_writes lib s c).imageTime) (fun _ _ => rfl) is
  refine hholds.written.imp_right ?_
  rintro ⟨before, i, hprefix, hwritten⟩
  obtain ⟨c, rfl, hruns, hc⟩ := sensorWrite_eq_some.mp hwritten
  obtain ⟨⟨image, t⟩, hstored, ht⟩ := Option.map_eq_some_iff.mp hc
  obtain ⟨msg, transform, rfl, himage⟩ := SensorNode.writtenImage_eq_some.mp hstored
  refine ⟨before, msg, transform, ht ▸ hprefix, hruns, ?_⟩
  rw [← DepthCamera.isSome_storedImage, himage]
  rfl

theorem sensorWrite_writtenStatus_eq_none {i : ProcessInput E} :
    sensorWrite SensorNode.writtenStatus s i = none ↔ ¬ judgesSensors s i := by
  cases i with
  | sensor c => cases c <;> simp [sensorWrite, SensorNode.writtenStatus, judgesSensors]
  | _ => simp [sensorWrite, judgesSensors]

/-- Past the start-up time the construction of the Sensor Manager lies too far back to stand for an input. -/
theorem maxAge_le_of_judges (ext : Externals P E) (lib : DownsamplerLibrary R) (launch : Launch R) (files : Files)
    (is : List (ProcessInput E)) (hclock : ∀ now, .sensor (.healthCheck now) ∈ is → launch.timeSensorManager ≤ now)
    {now : ℤ} (hlate : (run (step ext lib launch) (initial ext launch files) is).sensor.isPastStartUp now) :
    SensorNode.maxAge ≤ now - launch.timeSensorManager := by
  obtain ⟨first, hfirst, hage⟩ := SensorNode.startUp_le_of_isPastStartUp hlate
  have hstart := hclock first (timeStart_run ext lib launch files is hfirst)
  have hstartUp : SensorNode.startUp = 5000000000 := rfl
  have hmax : SensorNode.maxAge = 2500000000 := rfl
  omega

/-- The Sensor Manager is healthy as long as it has not been judged, and as the latest check past its start-up time has
found it. -/
theorem recentInputs_of_healthy
    (hclock : ∀ now, .sensor (.healthCheck now) ∈ is → launch.timeSensorManager ≤ now)
    (hhealthy : (run (step ext lib launch) (initial ext launch files) is).sensor.isHealthy) :
    Meets (step ext lib launch) (fun s i => ¬ judgesSensors s i) (initial ext launch files) is ∨
      ∃ before now after, is = before ++ [.sensor (.healthCheck now)] ++ after ∧ RecentInputs ext lib launch files before now ∧
        judgesSensors (run (step ext lib launch) (initial ext launch files) before)
          (.sensor (.healthCheck now) : ProcessInput E) ∧
        Meets (step ext lib launch) (fun s i => ¬ judgesSensors s i)
          (run (step ext lib launch) (initial ext launch files) (before ++ [.sensor (.healthCheck now)])) after := by
  have hmeets : ∀ {s : AutopilotProcess P R} {is : List (ProcessInput E)},
      Meets (step ext lib launch) (fun s i => sensorWrite SensorNode.writtenStatus s i = none) s is →
      Meets (step ext lib launch) (fun s i => ¬ judgesSensors s i) s is := fun h =>
    (meets_congr (fun _ => True) (fun _ _ _ => sensorWrite_writtenStatus_eq_none) (fun _ _ _ _ => trivial) trivial).mp h
  have hholds : Holds (step ext lib launch) _ (initial ext launch files) is _ _ :=
    holds_sensor (fun s => s.healthStatus) SensorNode.writtenStatus
      (fun s c => (SensorNode.spin_writes lib s c).status) (fun _ _ => rfl) is
  rcases hholds with ⟨hnone, -⟩ | ⟨before, i, after, his, hwritten, hnone⟩
  · exact .inl (hmeets hnone)
  · obtain ⟨c, rfl, hruns, hc⟩ := sensorWrite_eq_some.mp hwritten
    obtain ⟨now, rfl, hlate, hstatus⟩ := SensorNode.writtenStatus_eq_some.mp hc
    have hfound : SensorNode.statusAt now (run (step ext lib launch) (initial ext launch files) before).sensor =
        .healthy := hstatus.trans (of_decide_eq_true hhealthy)
    obtain ⟨hodometry, himage⟩ := SensorNode.statusAt_eq_healthy.mp hfound
    -- past the start-up time the times of the constructor are too old to count
    have hage := maxAge_le_of_judges ext lib launch files before
      (fun now hmem => hclock now (by rw [his]; simp [hmem])) hlate
    refine .inr ⟨before, now, after, his, ⟨?_, ?_⟩, ⟨hruns, hlate⟩, hmeets hnone⟩
    · rcases timeLastOdometry_run ext lib launch files before with hstart | ⟨earlier, hprefix, hreceives⟩
      · rw [hstart] at hodometry
        exact absurd hodometry (not_lt.mpr hage)
      · exact ⟨earlier, _, hprefix, hreceives, hodometry⟩
    · rcases timeLastImage_run ext lib launch files before with hstart | ⟨earlier, msg, transform, hprefix, hstores⟩
      · rw [hstart] at himage
        exact absurd himage (not_lt.mpr hage)
      · exact ⟨earlier, _, msg, transform, hprefix, hstores, himage⟩

theorem heartbeats_runOnce (s : AutopilotProcess P R) : s.runOnce.heartbeats =
    if s.service.live.safeLandingEnabled ≠ 0 && (s.sensor.isHealthy && s.landing.isHealthy && s.mission.isHealthy) then
      s.heartbeats + 1
    else s.heartbeats := by
  have hframe : s.updateObstacleAvoidanceEnabled.heartbeats = s.heartbeats ∧
      s.updateObstacleAvoidanceEnabled.landing.isHealthy = s.landing.isHealthy ∧
      s.updateObstacleAvoidanceEnabled.mission = s.mission := by
    unfold updateObstacleAvoidanceEnabled
    dsimp only
    split_ifs <;> exact ⟨rfl, rfl, rfl⟩
  obtain ⟨hheartbeats, hlanding, hmission⟩ := hframe
  obtain ⟨hservice, hsensor, -⟩ := updateObstacleAvoidanceEnabled_frame s
  unfold runOnce
  dsimp only
  rw [hservice, hsensor, hlanding, hmission]
  split_ifs
  · exact congrArg (· + 1) hheartbeats
  · exact hheartbeats

/-- Heartbeats are sent by the loop of the Autopilot Manager only. -/
theorem sends_cases (hs : Constructing launch files s) {i : ProcessInput E}
    (hsent : s.heartbeats < (s.step ext lib launch i).heartbeats) :
    s.main = .running ∧ s.service.live.safeLandingEnabled ≠ 0 ∧ s.sensor.isHealthy ∧ s.landing.isHealthy ∧
      s.mission.isHealthy := by
  by_cases hloop : s.main = .running ∧ ∃ m, i = .main m
  · obtain ⟨hrunning, m, rfl⟩ := hloop
    rw [step, mainStep_of_running hs hrunning, heartbeats_runOnce] at hsent
    split_ifs at hsent with hsends
    · simp only [ne_eq, Bool.and_eq_true, decide_eq_true_eq] at hsends
      exact ⟨hrunning, hsends.1, hsends.2.1.1, hsends.2.1.2, hsends.2.2⟩
    · exact absurd hsent (lt_irrefl _)
  · have hsame : (s.step ext lib launch i).heartbeats = s.heartbeats := by
      cases i with
      | main m => exact (mainStep_frame launch (fun hrunning => hloop ⟨hrunning, m, rfl⟩) m).1
      | message message env => rw [step, dispatch_eq hs message env]
      | _ =>
        unfold step
        split_ifs <;> rfl
    exact absurd hsent (by rw [hsame]; exact lt_irrefl _)

/-- **What a heartbeat rests on**: safe landing is enabled in the configuration of the start, the Mission Manager and
the Landing Manager are healthy, and the latest check of the Sensor Manager past its start-up time, if there has been
one, has found odometry and an image of less than two and a half seconds among what had been received; no check reads a
time before the construction of the Sensor Manager. -/
theorem heartbeat_evidence (ext : Externals P E) (lib : DownsamplerLibrary R) (launch : Launch R) (files : Files)
    (is : List (ProcessInput E)) (i : ProcessInput E)
    (hclock : ∀ now, .sensor (.healthCheck now) ∈ is → launch.timeSensorManager ≤ now) :
    let s := run (step ext lib launch) (initial ext launch files) is
    s.heartbeats < (s.step ext lib launch i).heartbeats →
      (provisioned launch files).safeLandingEnabled ≠ 0 ∧ s.mission.isHealthy ∧ s.landing.isHealthy ∧
        (Meets (step ext lib launch) (fun s i => ¬ judgesSensors s i) (initial ext launch files) is ∨
          ∃ before now after, is = before ++ [.sensor (.healthCheck now)] ++ after ∧ RecentInputs ext lib launch files before now ∧
            judgesSensors (run (step ext lib launch) (initial ext launch files) before)
              (.sensor (.healthCheck now) : ProcessInput E) ∧
            Meets (step ext lib launch) (fun s i => ¬ judgesSensors s i)
              (run (step ext lib launch) (initial ext launch files) (before ++ [.sensor (.healthCheck now)]))
              after) := by
  intro s hsent
  have hs := constructing_run ext lib launch files is
  obtain ⟨hrunning, hsafe, hsensor, hlanding, hmission⟩ := sends_cases hs hsent
  rw [live_eq hs (hrunning ▸ rfl)] at hsafe
  exact ⟨hsafe, hmission, hlanding, recentInputs_of_healthy hclock hsensor⟩

/-- The inputs of the Sensor Manager between its first check and one past the start-up time. -/
def checkedInputs : List (ProcessInput Bool) :=
  [.sensor (.healthCheck 0),
    .sensor (.depthImage 1000000000 { width := 640, height := 480, encoding := .type32FC1 } none),
    .sensor (.cameraInfo { k := fun _ => 1, width := 640, height := 480 }),
    .sensor (.depthImage 4000000000 { width := 640, height := 480, encoding := .type32FC1 }
      (some ⟨(0, 0, 0), (0, 0, 0, 1)⟩)),
    .sensor (.odometry 4500000000), .sensor (.healthCheck 5000000000)]

/-- A heartbeat after a check that judges, and what the check has found. -/
theorem heartbeat_evidence_checkedInputs : ∃ before now after,
    startingUp ++ checkedInputs = before ++ [.sensor (.healthCheck now)] ++ after ∧
      RecentInputs phasePlanner DepthCamera.blocksOfFour plainLaunch (savedFile plainLaunch.configPath bothLive) before
        now := by
  have hread := initialProvisioning_savedFile legible_bothLive rfl plainLaunch.configPath
  obtain ⟨-, -, -, hnone | ⟨before, now, after, his, hrecent, -⟩⟩ :=
    heartbeat_evidence phasePlanner DepthCamera.blocksOfFour plainLaunch
      (savedFile plainLaunch.configPath bothLive) (startingUp ++ checkedInputs) (.main {})
      (by
        intro now hmem
        have hcases : now = 0 ∨ now = 5000000000 := by simpa [startingUp, checkedInputs] using hmem
        rcases hcases with rfl | rfl <;> decide)
      (by
        rw [run_append, run_startingUp hread]
        decide +kernel)
  · rw [meets_append, run_startingUp hread] at hnone
    exact absurd hnone.2 (by decide +kernel)
  · exact ⟨before, now, after, his, hrecent⟩

/-! ### The image and the distance -/

/-- After the run `is` the image is the one that was stored last. -/
def LatestImage (ext : Externals P E) (lib : DownsamplerLibrary R) (launch : Launch R) (files : Files)
    (is : List (ProcessInput E)) (image : ExtendedDownsampledImage R) : Prop :=
  ∃ before now msg transform after, is = before ++ [.sensor (.depthImage now msg transform)] ++ after ∧
    (run (step ext lib launch) (initial ext launch files) before).sensor.camera.storedImage lib msg transform =
      some image ∧
    Meets (step ext lib launch) (fun s i => ¬ storesImage lib s i)
      (run (step ext lib launch) (initial ext launch files) (before ++ [.sensor (.depthImage now msg transform)])) after

theorem sensorWrite_writtenImage_eq_none {i : ProcessInput E} :
    sensorWrite (fun s c => (s.writtenImage lib c).map fun image => some image.1) s i = none ↔
      ¬ storesImage lib s i := by
  cases i with
  | sensor c =>
    cases c with
    | depthImage now msg transform =>
      simp [sensorWrite, SensorNode.writtenImage, storesImage, ← DepthCamera.isSome_storedImage]
    | _ => simp [sensorWrite, SensorNode.writtenImage, storesImage]
  | _ => simp [sensorWrite, storesImage]

/-- The image that the modules are handed is the latest one. -/
theorem latestImage_run {image : ExtendedDownsampledImage R}
    (himage : (run (step ext lib launch) (initial ext launch files) is).sensor.camera.downsampledDepth = some image) :
    LatestImage ext lib launch files is image := by
  have hwrites : ∀ (s : SensorNode R) c, (s.spin lib c).camera.downsampledDepth =
      ((s.writtenImage lib c).map fun image => some image.1).getD s.camera.downsampledDepth := by
    intro s c
    rw [(SensorNode.spin_writes lib s c).image]
    cases s.writtenImage lib c <;> rfl
  have hholds : Holds (step ext lib launch) _ (initial ext launch files) is _ _ :=
    holds_sensor (fun s => s.camera.downsampledDepth)
      (fun s c => (s.writtenImage lib c).map fun image => some image.1) hwrites (fun _ _ => rfl) is
  rw [himage] at hholds
  rcases hholds with ⟨-, hstart⟩ | ⟨before, i, after, his, hwritten, hnone⟩
  · cases hstart
  · obtain ⟨c, rfl, -, hc⟩ := sensorWrite_eq_some.mp hwritten
    obtain ⟨⟨image', now⟩, hstored, hsome⟩ := Option.map_eq_some_iff.mp hc
    obtain ⟨msg, transform, rfl, himage'⟩ := SensorNode.writtenImage_eq_some.mp hstored
    obtain rfl : image' = image := Option.some.inj hsome
    refine ⟨before, now, msg, transform, after, his, himage', ?_⟩
    exact (meets_congr (fun _ => True) (fun _ _ _ => sensorWrite_writtenImage_eq_none) (fun _ _ _ _ => trivial)
      trivial).mp hnone

/-- The distance that a step stores. -/
def distanceWrite (lib : DownsamplerLibrary R) (s : AutopilotProcess P R) : ProcessInput E → Option Double
  | .computeDistance pastEnd =>
    if s.main.runsCollisionAvoidanceManager ∧ AvoidanceSystem.isOn s.service.live then
      some (CollisionAvoidanceManager.distance s.collision.roiSettings (s.distanceInput lib pastEnd))
    else none
  | _ => none

theorem collision_step (hs : Constructing launch files s) (i : ProcessInput E) :
    (s.step ext lib launch i).collision.depth = (distanceWrite lib s i).getD s.collision.depth ∧
      (s.step ext lib launch i).collision.roiSettings = s.collision.roiSettings := by
  cases i with
  | main i =>
    by_cases hrunning : s.main = .running
    · rw [step, mainStep_of_running hs hrunning, collision_runOnce]
      exact ⟨rfl, rfl⟩
    · rw [step, (mainStep_frame launch hrunning i).2.2.2.1]
      exact ⟨rfl, rfl⟩
  | message message env =>
    rw [step, dispatch_eq hs message env]
    exact ⟨rfl, rfl⟩
  | computeDistance pastEnd =>
    rw [step, distanceWrite]
    by_cases hruns : s.main.runsCollisionAvoidanceManager
    · rw [if_pos hruns]
      by_cases hon : AvoidanceSystem.isOn s.service.live
      · rw [if_pos ⟨hruns, hon⟩]
        refine ⟨CollisionAvoidanceManager.computeDistanceToObstacle_of_enabled hon, ?_⟩
        exact CollisionAvoidanceManager.roiSettings_computeDistanceToObstacle ..
      · rw [if_neg fun h => hon h.2]
        refine ⟨CollisionAvoidanceManager.computeDistanceToObstacle_of_disabled hon, ?_⟩
        exact CollisionAvoidanceManager.roiSettings_computeDistanceToObstacle ..
    · rw [if_neg hruns, if_neg fun h => hruns h.1]
      exact ⟨rfl, rfl⟩
  | sensor _ | mapper _ | printStats | mission _ =>
    rw [step]
    split_ifs <;> exact ⟨rfl, rfl⟩

theorem roiSettings_run (ext : Externals P E) (lib : DownsamplerLibrary R) (launch : Launch R) (files : Files)
    (is : List (ProcessInput E)) :
    (run (step ext lib launch) (initial ext launch files) is).collision.roiSettings = {} := by
  induction is using List.reverseRecOn with
  | nil => rfl
  | append_singleton is i ih => rw [run_concat, (collision_step (constructing_run ext lib launch files is) i).2, ih]

/-- While collision avoidance is on, every call of the timer stores a distance. -/
theorem computeDistance_not_mem {after : List (ProcessInput E)} (hs : Constructing launch files s)
    (hruns : s.main.runsCollisionAvoidanceManager) (hon : AvoidanceSystem.isOn (provisioned launch files))
    (hnone : Meets (step ext lib launch) (fun s i => distanceWrite lib s i = none) s after) (pastEnd : Double) :
    .computeDistance pastEnd ∉ after := by
  have hstep : ∀ (s : AutopilotProcess P R) (i : ProcessInput E),
      Constructing launch files s ∧ s.main.runsCollisionAvoidanceManager →
      Constructing launch files (s.step ext lib launch i) ∧
        (s.step ext lib launch i).main.runsCollisionAvoidanceManager := fun s i h =>
    ⟨constructing_step h.1 i, runsCollisionAvoidanceManager_step h.1 h.2 i⟩
  refine hnone.not_mem hstep ⟨hs, hruns⟩ ?_
  rintro s ⟨hs, hruns⟩ hnone
  obtain ⟨-, -, hsensor, hprovisioned⟩ := MainThread.runs_order s.main
  rw [distanceWrite, if_pos ⟨hruns, by rwa [live_eq hs (hprovisioned (hsensor hruns))]⟩] at hnone
  cases hnone

/-- **The distance in use**: it has never been stored, or the latest call of the timer has stored it. -/
theorem depth_run (ext : Externals P E) (lib : DownsamplerLibrary R) (launch : Launch R) (files : Files)
    (is : List (ProcessInput E)) :
    let depth := (run (step ext lib launch) (initial ext launch files) is).collision.depth
    depth = .nan ∨ ∃ before pastEnd after, is = before ++ [.computeDistance pastEnd] ++ after ∧
      (∀ p, .computeDistance p ∉ after) ∧
      depth = CollisionAvoidanceManager.distance {}
        ((run (step ext lib launch) (initial ext launch files) before).distanceInput lib pastEnd) := by
  have hholds : Holds (step ext lib launch) _ (initial ext launch files) is _ _ :=
    holds_run (fun s : AutopilotProcess P R => s.collision.depth) (distanceWrite lib) is fun js i =>
      (collision_step (constructing_run ext lib launch files js) i).1
  rcases hholds with ⟨-, hstart⟩ | ⟨before, i, after, his, hwritten, hnone⟩
  · exact .inl hstart
  · have hs := constructing_run ext lib launch files before
    cases i with
    | computeDistance pastEnd =>
      rw [distanceWrite] at hwritten
      split_ifs at hwritten with hstores
      obtain ⟨hruns, hon⟩ := hstores
      obtain ⟨-, -, hsensor, hprovisioned⟩ := MainThread.runs_order
        (run (step ext lib launch) (initial ext launch files) before).main
      rw [live_eq hs (hprovisioned (hsensor hruns))] at hon
      refine .inr ⟨before, pastEnd, after, his, ?_, ?_⟩
      · rw [run_concat] at hnone
        exact computeDistance_not_mem (constructing_step hs _) (runsCollisionAvoidanceManager_step hs hruns _) hon hnone
      · rw [← Option.some.inj hwritten, roiSettings_run]
    | _ => cases hwritten

/-- Under this decision maker an iteration that leaves something in the log has found an obstacle. -/
theorem findsObstacle_of_log {i : TickInput E} {s : MissionManager P}
    (hmaker : i.config.decisionMakerInputType = "SIMPLE_COLLISION_AVOIDANCE")
    (hlog : (s.decisionMakerRun ext i).log ≠ s.log) : AvoidanceSystem.findsObstacle i := by
  have htimeout : ∀ s : MissionManager P, (s.actionTimeout i.now).log = s.log := by
    intro s
    unfold MissionManager.actionTimeout
    split_ifs <;> rfl
  by_cases henabled : i.config.autopilotManagerEnabled = 0
  · refine absurd ?_ hlog
    unfold MissionManager.decisionMakerRun
    dsimp only
    rw [if_neg (not_not.mpr henabled)]
  · rw [AvoidanceSystem.decisionMakerRun_of_avoidance ext i s henabled hmaker, htimeout] at hlog
    split_ifs at hlog with htriggers
    · unfold AvoidanceSystem.triggersAction at htriggers
      rw [Bool.and_assoc, Bool.and_eq_true] at htriggers
      exact htriggers.1
    · exact absurd rfl hlog

/-- **What an avoidance action rests on**: under this decision maker the Mission Manager does something only when the
distance in use, which the latest call of the timer has computed from the latest image that had been stored, is finite
and within the configured threshold; it is the depth of a pixel of the region of interest, or, if none lies there, what
stands behind the last pixel. -/
theorem obstacle_seen (ext : Externals P E) (lib : DownsamplerLibrary R) (launch : Launch R) (files : Files)
    (is : List (ProcessInput E)) (i : TickInput E)
    (hmaker : (provisioned launch files).decisionMakerInputType = "SIMPLE_COLLISION_AVOIDANCE")
    (hacts : (run (step ext lib launch) (initial ext launch files) (is ++ [.mission (.tick i)])).mission.log ≠
      (run (step ext lib launch) (initial ext launch files) is).mission.log) :
    let depth := (run (step ext lib launch) (initial ext launch files) is).collision.depth
    depth.isFinite ∧ depth.le (provisioned launch files).simpleCollisionAvoidDistanceThreshold ∧
      ∃ before pastEnd after image, is = before ++ [.computeDistance pastEnd] ++ after ∧
        (∀ p, .computeDistance p ∉ after) ∧ LatestImage ext lib launch files before image ∧
        depth = CollisionAvoidanceManager.distance {}
          ((run (step ext lib launch) (initial ext launch files) before).distanceInput lib pastEnd) ∧
        ((∃ pixel ∈ CollisionAvoidanceManager.filterPixelsToRoi (image.downsampledImage lib) {}, pixel.depth = depth) ∨
          CollisionAvoidanceManager.filterPixelsToRoi (image.downsampledImage lib) {} = [] ∧
            image.depthPixelArray ≠ [] ∧ depth = pastEnd) := by
  have hs := constructing_run ext lib launch files is
  have hdepth := depth_run ext lib launch files is
  rw [run_concat] at hacts
  generalize run (step ext lib launch) (initial ext launch files) is = s at hs hdepth hacts ⊢
  intro depth
  -- the iteration reads the configuration of the start and the stored distance
  have hfinds : s.collision.depth.isFinite ∧
      s.collision.depth.le (provisioned launch files).simpleCollisionAvoidDistanceThreshold := by
    by_cases hruns : s.main.runsMissionManager
    · obtain ⟨hmission, hlanding, hcollision, hsensor⟩ := MainThread.runs_order s.main
      have hlive := live_eq hs (hsensor (hcollision (hlanding (hmission hruns))))
      rw [step, if_pos hruns] at hacts
      have hfinds : AvoidanceSystem.findsObstacle (s.tickInput i) :=
        findsObstacle_of_log (by rw [tickInput, hlive]; exact hmaker) hacts
      unfold AvoidanceSystem.findsObstacle at hfinds
      simp only [Bool.and_eq_true] at hfinds
      refine ⟨hfinds.1.2, ?_⟩
      rw [← hlive]
      exact hfinds.2
    · refine absurd ?_ hacts
      rw [step, if_neg hruns]
  rcases hdepth with hnan | ⟨before, pastEnd, after, his, hlatest, hdistance⟩
  · rw [hnan] at hfinds
    exact absurd hfinds.1 Bool.false_ne_true
  · have hfinite := hfinds.1
    rw [hdistance] at hfinite
    obtain ⟨image, himage, hpixels, hcases⟩ := CollisionAvoidanceManager.distance_cases hfinite
    obtain ⟨stored, hstored, rfl⟩ := Option.map_eq_some_iff.mp himage
    refine ⟨hfinds.1, hfinds.2, before, pastEnd, after, stored, his, hlatest, latestImage_run hstored, hdistance, ?_⟩
    rcases hcases with ⟨pixel, hmem, hpixel⟩ | ⟨hempty, hpast⟩
    · exact .inl ⟨pixel, hmem, hpixel.trans hdistance.symm⟩
    · exact .inr ⟨hempty, hpixels, hdistance.trans hpast⟩

/-! ### An obstacle -/

/-- A library that finds one pixel in every image, at one meter. -/
def onePixel : DownsamplerLibrary (UInt32 × UInt32) :=
  { DepthCamera.blocksOfFour with downsample := fun _ _ => [⟨80, 60, 1⟩] }

/-- The camera becomes known, an image is stored and looked at, and the vehicle is in the air. -/
def obstacleAhead : List (ProcessInput Bool) :=
  startingUp ++
    [.sensor (.depthImage 0 { width := 640, height := 480, encoding := .type32FC1 } none),
      .sensor (.cameraInfo { k := fun _ => 1, width := 640, height := 480 }),
      .sensor (.depthImage 0 { width := 640, height := 480, encoding := .type32FC1 }
        (some ⟨(0, 0, 0), (0, 0, 0, 1)⟩)),
      .computeDistance 0, .mission (.landedState .inAir)]

theorem obstacle_seen_ahead : ∃ before image,
    LatestImage phasePlanner onePixel plainLaunch (savedFile plainLaunch.configPath bothLive) before image ∧
      ∃ pixel ∈ CollisionAvoidanceManager.filterPixelsToRoi (image.downsampledImage onePixel) {}, pixel.depth =
        (run (step phasePlanner onePixel plainLaunch)
          (initial phasePlanner plainLaunch (savedFile plainLaunch.configPath bothLive)) obstacleAhead).collision.depth := by
  have hread := initialProvisioning_savedFile legible_bothLive rfl plainLaunch.configPath
  have hdepth : (run (step phasePlanner onePixel plainLaunch)
      (initial phasePlanner plainLaunch (savedFile plainLaunch.configPath bothLive)) obstacleAhead).collision.depth ≠ 0 := by
    rw [obstacleAhead, run_append, run_startingUp hread]
    decide +kernel
  obtain ⟨-, -, before, pastEnd, after, image, his, -, hlatest, -, hseen⟩ :=
    obstacle_seen phasePlanner onePixel plainLaunch (savedFile plainLaunch.configPath bothLive) obstacleAhead
      (MissionManager.tickOver .unknown {})
      (by
        rw [provisioned, hread]
        rfl)
      (by
        rw [run_append, obstacleAhead, run_append, run_startingUp hread]
        decide +kernel)
  refine ⟨before, image, hlatest, hseen.resolve_right ?_⟩
  -- what stands behind the last pixel is zero in this run
  rintro ⟨-, -, hpast⟩
  have hmem : ProcessInput.computeDistance pastEnd ∈ obstacleAhead := by rw [his]; simp
  obtain rfl : pastEnd = 0 := by simpa [obstacleAhead, startingUp] using hmem
  exact hdepth hpast

/-! ### The ground -/

/-- The landing mapper has found something on the ground. -/
def IsVerdict (state : LandingMapperState) : Prop := state ≠ .unhealthy ∧ state ≠ .unknown

/-- Safe landing builds a map: it is enabled in the configuration of the start and in PX4. -/
structure BuildsMap (launch : Launch R) (files : Files) (s : AutopilotProcess P R) : Prop where
  enabled : (provisioned launch files).autopilotManagerEnabled ≠ 0
  safe : (provisioned launch files).safeLandingEnabled ≠ 0
  avoidance : s.landing.obstacleAvoidanceEnabled

/-- What the landing mapper is given of an image: the cloud has the points of the pixels between 0.7 and 16 meters, and
no pixel beyond 0.7 meters lies above the height of the image, which is that of such a pixel. -/
structure SeesGround (lib : DownsamplerLibrary R) (image : ExtendedDownsampledImage R) : Prop where
  cloud : ∀ p, p ∈ (LandingManager.pointCloud lib image).pointcloudForMapper ↔
    ∃ pixel ∈ image.depthPixelArray, pixel.depth.isFinite ∧ LandingManager.minDepthToUse.lt pixel.depth ∧
      pixel.depth.lt LandingManager.maxDepthToUse ∧ LandingManager.point lib image pixel = p
  above : ∀ pixel ∈ image.depthPixelArray, pixel.depth.isFinite → LandingManager.minDepthToUse.lt pixel.depth →
    ¬ (LandingManager.pixelHeight lib image pixel).lt (LandingManager.pointCloud lib image).pointHeightMin
  height : (LandingManager.pointCloud lib image).pointHeightMin = .ofRat Double.fltMax ∨
    ∃ pixel ∈ image.depthPixelArray, pixel.depth.isFinite ∧ LandingManager.minDepthToUse.lt pixel.depth ∧
      LandingManager.pixelHeight lib image pixel =
        (LandingManager.pointCloud lib image).pointHeightMin

theorem seesGround (lib : DownsamplerLibrary R) (image : ExtendedDownsampledImage R) :
    SeesGround lib image where
  cloud p := by
    rw [LandingManager.mem_pointCloud]
    simp only [LandingManager.mapsPixel, LandingManager.usesPixel, Bool.and_eq_true, and_assoc]
  above pixel hpixel hfinite hfar :=
    LandingManager.not_lt_pointHeightMin hpixel (Bool.and_eq_true_iff.mpr ⟨hfinite, hfar⟩)
  height := by
    refine LandingManager.pointHeightMin_cases.imp_right ?_
    rintro ⟨pixel, hpixel, huses, hheight⟩
    obtain ⟨hfinite, hfar⟩ := Bool.and_eq_true_iff.mp huses
    exact ⟨pixel, hpixel, hfinite, hfar, hheight⟩

theorem buildsMap_of_processesImage {m : MapperInput} (hs : Constructing launch files s)
    (hruns : s.main.runsLandingManager)
    (hprocesses : LandingManager.processesImage (landingManagerConfig s.service.live) m s.landing) :
    BuildsMap launch files s := by
  obtain ⟨-, hcollision, hsensor, hprovisioned⟩ := MainThread.runs_order s.main
  unfold LandingManager.processesImage LandingManager.shouldBuildLandingMap at hprocesses
  unfold LandingManager.isEnabledInConfig at hprocesses
  simp only [Bool.and_eq_true, decide_eq_true_eq] at hprocesses
  rw [live_eq hs (hprovisioned (hsensor (hcollision hruns)))] at hprocesses
  exact ⟨hprocesses.1.1.1.1, hprocesses.1.1.1.2, hprocesses.1.1.2⟩

/-- What a cycle that processes its image reads is of the latest image. -/
theorem image_of_processesImage {check : LandingCheck} {config : LandingManagerConfiguration}
    (hprocesses : LandingManager.processesImage config (s.mapperInput lib check) s.landing) :
    ∃ image, s.sensor.camera.downsampledDepth = some image ∧ image.depthPixelArray ≠ [] ∧
      ((s.mapperInput lib check).state, (s.mapperInput lib check).heightAboveObstacle) =
        check image.position image.orientation (LandingManager.pointCloud lib image) := by
  have hpoints := (Bool.and_eq_true_iff.mp hprocesses).2
  unfold mapperInput MapperInput.hasPoints at hpoints
  unfold mapperInput
  cases himage : s.sensor.camera.downsampledDepth with
  | none => simp [himage] at hpoints
  | some image =>
    refine ⟨image, rfl, fun hempty => ?_, rfl⟩
    simp [himage, ExtendedDownsampledImage.depthImage, hempty] at hpoints

/-- Only a cycle of the mapper changes the landing state. -/
theorem mapper_of_landing_state (hs : Constructing launch files s) {i : ProcessInput E}
    (hchanged : (s.step ext lib launch i).landing.state ≠ s.landing.state) :
    ∃ check, i = .mapper check ∧ s.main.runsLandingManager := by
  have hrunOnce : s.runOnce.landing.state = s.landing.state := by
    unfold runOnce updateObstacleAvoidanceEnabled
    dsimp only
    split_ifs <;> rfl
  cases i with
  | main m =>
    by_cases hrunning : s.main = .running
    · rw [step, mainStep_of_running hs hrunning] at hchanged
      exact absurd hrunOnce hchanged
    · obtain ⟨-, -, -, -, hlanding, -⟩ := mainStep_frame launch hrunning m
      rw [step, hlanding] at hchanged
      exact absurd rfl hchanged
  | message message env =>
    rw [step, dispatch_eq hs message env] at hchanged
    exact absurd rfl hchanged
  | mapper check =>
    rw [step] at hchanged
    split_ifs at hchanged with hruns
    · exact ⟨check, rfl, hruns⟩
    · exact absurd rfl hchanged
  | _ =>
    rw [step] at hchanged
    split_ifs at hchanged <;> exact absurd rfl hchanged

/-- **What a verdict rests on**: the landing state changes to a finding about the ground only in a cycle of the mapper
that builds a map, and with the height it is what the landing mapper makes of the latest image that had been stored,
through the points of its pixels. -/
theorem verdict_seen (ext : Externals P E) (lib : DownsamplerLibrary R) (launch : Launch R) (files : Files)
    (is : List (ProcessInput E)) (i : ProcessInput E) :
    let s := run (step ext lib launch) (initial ext launch files) is
    let s' := s.step ext lib launch i
    s'.landing.state ≠ s.landing.state → IsVerdict s'.landing.state →
      ∃ check image, i = .mapper check ∧
        (s'.landing.state, s'.landing.heightAboveObstacle) =
          check image.position image.orientation (LandingManager.pointCloud lib image) ∧
        BuildsMap launch files s ∧ LatestImage ext lib launch files is image ∧ image.depthPixelArray ≠ [] ∧
        SeesGround lib image := by
  intro s s' hchanged hverdict
  have hs : Constructing launch files s := constructing_run ext lib launch files is
  obtain ⟨check, rfl, hruns⟩ := mapper_of_landing_state hs hchanged
  have hmapper : s'.landing = s.landing.mapper (landingManagerConfig s.service.live) (s.mapperInput lib check) := by
    rw [show s' = s.step ext lib launch (.mapper check) from rfl, step, if_pos hruns]
  rw [hmapper] at hchanged hverdict ⊢
  cases LandingManager.mapper_cases (landingManagerConfig s.service.live) (s.mapperInput lib check) s.landing with
  | measured processes hstate hheight =>
    obtain ⟨image, himage, hpixels, hfinding⟩ := image_of_processesImage processes
    refine ⟨check, image, rfl, ?_, buildsMap_of_processesImage hs hruns processes, latestImage_run himage, hpixels,
      seesGround lib image⟩
    rw [hstate, hheight]
    exact hfinding
  | blind skips writes hstate hheight => exact absurd hstate (not_or.mpr hverdict)
  | kept skips keeps hstate hheight => exact absurd hstate hchanged

/-- Safe landing decides. -/
def landLive : AutopilotManagerConfig := { bothLive with decisionMakerInputType := "SAFE_LANDING" }

theorem legible_landLive : landLive.Legible := by decide +kernel

/-- An image is stored, the vehicle sends a trajectory message, and the flag of the obstacle avoidance reaches the
mapper. -/
def groundBelow : List (ProcessInput Bool) :=
  startingUp ++
    [.sensor (.depthImage 0 { width := 640, height := 480, encoding := .type32FC1 } none),
      .sensor (.cameraInfo { k := fun _ => 1, width := 640, height := 480 }),
      .sensor (.depthImage 0 { width := 640, height := 480, encoding := .type32FC1 }
        (some ⟨(0, 0, 0), (0, 0, 0, 1)⟩)),
      .mission (.trajectory MissionManager.zeroTrajectory), .mission (.tick (MissionManager.tickOver .unknown {})),
      .main {}]

/-- A landing mapper that finds ground wherever it is given points, as high as the image. -/
def groundUnderPoints : LandingCheck := fun _ _ cloud =>
  (if cloud.pointcloudForMapper = [] then .canNotLand else .canLand, cloud.pointHeightMin)

theorem verdict_seen_ground : ∃ image,
    LatestImage phasePlanner onePixel plainLaunch (savedFile plainLaunch.configPath landLive) groundBelow image ∧
      (LandingManager.pointCloud onePixel image).pointcloudForMapper ≠ [] := by
  have hread := initialProvisioning_savedFile legible_landLive rfl plainLaunch.configPath
  have hfound : (step phasePlanner onePixel plainLaunch (run (step phasePlanner onePixel plainLaunch)
      (initial phasePlanner plainLaunch (savedFile plainLaunch.configPath landLive)) groundBelow)
      (.mapper groundUnderPoints)).landing.state = .canLand := by
    rw [groundBelow, run_append, run_startingUp hread]
    decide +kernel
  obtain ⟨check, image, hcheck, hfinding, -, hlatest, -⟩ :=
    verdict_seen phasePlanner onePixel plainLaunch (savedFile plainLaunch.configPath landLive) groundBelow
      (.mapper groundUnderPoints)
      (by
        rw [groundBelow, run_append, run_startingUp hread]
        decide +kernel)
      (by
        rw [hfound, IsVerdict]
        decide)
  obtain rfl := ProcessInput.mapper.inj hcheck
  refine ⟨image, hlatest, fun hempty => ?_⟩
  -- without points the mapper would have found that the vehicle can not land
  rw [hfound, groundUnderPoints, if_pos hempty] at hfinding
  cases hfinding

end AutopilotProcess

end AutopilotManager
