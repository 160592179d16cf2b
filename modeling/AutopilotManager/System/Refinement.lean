import AutopilotManager.System.Process

/-!
# System.Refinement — the process is the system of its modules

What the threads of the process do to the modules is, step by step, what the system of the modules does over the
configuration of the start.  A step of the process is at most one step of the system, and no step configures it.
-/

namespace AutopilotManager

open Lib

namespace AutopilotProcess

variable {P R E : Type}

/-- The configuration that is read at the start. -/
def provisioned (launch : Launch R) (files : Files) : AutopilotManagerConfig :=
  match initialProvisioning launch.configPath ⟨{}, files⟩ with
  | .ok service => service.live
  | .error _ => {}

/-- The modules as a system over the configuration `live`. -/
def system (live : AutopilotManagerConfig) (s : AutopilotProcess P R) : AvoidanceSystem P where
  live := live
  obstacleAvoidanceEnabled := s.obstacleAvoidanceEnabled
  sensorManagerAvoidance := s.sensor.obstacleAvoidanceEnabled
  heartbeats := s.heartbeats
  mission := s.mission
  landing := s.landing
  collision := s.collision

/-- What a step of the process is for the system. -/
def systemInput (lib : DownsamplerLibrary R) (s : AutopilotProcess P R) : ProcessInput E → List (AvoidanceInput E)
  | .main _ => if s.main = .running then [.system (.run s.sensor.isHealthy)] else []
  | .message _ _ => []
  | .sensor _ => []
  | .computeDistance pastEnd =>
    if s.main.runsCollisionAvoidanceManager then [.computeDistance (s.distanceInput lib pastEnd)] else []
  | .mapper check => if s.main.runsLandingManager then [.system (.mapper (s.mapperInput lib check))] else []
  | .printStats => if s.main.runsLandingManager then [.system .printStats] else []
  | .mission input => if s.main.runsMissionManager then [.system (.mission input)] else []

/-- What a step of the process is for the node of the Sensor Manager. -/
def sensorInput (s : AutopilotProcess P R) : ProcessInput E → List SensorInput
  | .main _ =>
    if s.main = .running ∧ s.mission.obstacleAvoidanceEnabled ≠ s.obstacleAvoidanceEnabled then
      [.setObstacleAvoidanceEnabled s.mission.obstacleAvoidanceEnabled]
    else []
  | .sensor c => if s.main.runsSensorManager then [.callback c] else []
  | _ => []

variable {ext : Externals P E} {lib : DownsamplerLibrary R} {launch : Launch R} {files : Files}
  {s : AutopilotProcess P R}

/-! ### One step -/

theorem live_eq (hs : Constructing launch files s) (hprovisioned : s.main.isProvisioned) :
    s.service.live = provisioned launch files := by
  rw [provisioned, hs.provisioned hprovisioned]

theorem system_spin (live : AutopilotManagerConfig) (c : SensorCallback) :
    { s with sensor := s.sensor.spin lib c }.system live = s.system live := by
  rw [system, system, (SensorNode.spin_writes lib s.sensor c).avoidance]

theorem system_updateObstacleAvoidanceEnabled (live : AutopilotManagerConfig) (s : AutopilotProcess P R) :
    (s.updateObstacleAvoidanceEnabled.system live).toSystem =
      (s.system live).toSystem.updateObstacleAvoidanceEnabled := by
  unfold updateObstacleAvoidanceEnabled System.updateObstacleAvoidanceEnabled
  by_cases hflag : s.mission.obstacleAvoidanceEnabled ≠ s.obstacleAvoidanceEnabled
  · rw [if_pos hflag]
    exact (if_pos hflag).symm
  · rw [if_neg hflag]
    exact (if_neg hflag).symm

/-- The update leaves what the heartbeat is decided on. -/
theorem updateObstacleAvoidanceEnabled_frame (s : AutopilotProcess P R) :
    s.updateObstacleAvoidanceEnabled.service = s.service ∧
      s.updateObstacleAvoidanceEnabled.sensor.isHealthy = s.sensor.isHealthy ∧
      s.updateObstacleAvoidanceEnabled.collision = s.collision := by
  unfold updateObstacleAvoidanceEnabled
  dsimp only
  split_ifs <;> exact ⟨rfl, rfl, rfl⟩

theorem toSystem_runOnce {live : AutopilotManagerConfig} (hlive : s.service.live = live) :
    (s.runOnce.system live).toSystem = (s.system live).toSystem.runOnce s.sensor.isHealthy := by
  obtain ⟨hservice, hsensor, -⟩ := updateObstacleAvoidanceEnabled_frame s
  unfold runOnce System.runOnce
  dsimp only
  rw [← system_updateObstacleAvoidanceEnabled, hservice, hsensor, hlive]
  by_cases hsends : live.safeLandingEnabled ≠ 0 && (s.sensor.isHealthy &&
      s.updateObstacleAvoidanceEnabled.landing.isHealthy && s.updateObstacleAvoidanceEnabled.mission.isHealthy)
  · rw [if_pos hsends]
    exact (if_pos hsends).symm
  · rw [if_neg hsends]
    exact (if_neg hsends).symm

theorem collision_runOnce (s : AutopilotProcess P R) : s.runOnce.collision = s.collision := by
  unfold runOnce
  dsimp only
  split_ifs <;> exact (updateObstacleAvoidanceEnabled_frame s).2.2

/-- An iteration of the loop of the Autopilot Manager is one of the system. -/
theorem system_runOnce {live : AutopilotManagerConfig} (hlive : s.service.live = live) :
    s.runOnce.system live = (s.system live).step ext (.system (.run s.sensor.isHealthy)) := by
  have hsystem : s.runOnce.system live = ⟨(s.runOnce.system live).toSystem, s.runOnce.collision⟩ := rfl
  rw [hsystem, toSystem_runOnce hlive, collision_runOnce]
  rfl

/-- The main thread does nothing to the modules but in its loop. -/
theorem system_mainStep (hs : Constructing launch files s) (i : MainInput) :
    (s.mainStep launch i).system (provisioned launch files) =
      run (AvoidanceSystem.step ext) (s.system (provisioned launch files))
        (s.systemInput lib (.main i : ProcessInput E)) := by
  rw [systemInput]
  split_ifs with hrunning
  · rw [mainStep_of_running hs hrunning]
    exact system_runOnce (live_eq hs (hrunning ▸ rfl))
  · obtain ⟨hheartbeats, hflag, hsensor, hcollision, hlanding, hmission⟩ := mainStep_frame launch hrunning i
    rw [system, hheartbeats, hflag, hsensor, hcollision, hlanding, hmission]
    rfl

/-- **A step of the process** is what it emits, for the system. -/
theorem step_system (hs : Constructing launch files s) (i : ProcessInput E) :
    (s.step ext lib launch i).system (provisioned launch files) =
      run (AvoidanceSystem.step ext) (s.system (provisioned launch files)) (s.systemInput lib i) := by
  obtain ⟨hmission, hlanding, hcollision, hsensor⟩ := MainThread.runs_order s.main
  cases i with
  | main i => exact system_mainStep hs i
  | message message env =>
    rw [step, dispatch_eq hs message env]
    rfl
  | sensor c =>
    rw [step]
    split_ifs
    · exact system_spin _ c
    · rfl
  | computeDistance pastEnd =>
    rw [step, systemInput]
    split_ifs with hruns
    · rw [live_eq hs (hsensor (hcollision hruns))]
      rfl
    · rfl
  | mapper check =>
    rw [step, systemInput]
    split_ifs with hruns
    · rw [live_eq hs (hsensor (hcollision (hlanding hruns)))]
      rfl
    · rfl
  | printStats =>
    rw [step, systemInput]
    split_ifs <;> rfl
  | mission input =>
    rw [step, systemInput]
    split_ifs with hruns
    · have hlive := live_eq hs (hsensor (hcollision (hlanding (hmission hruns))))
      cases input with
      | tick i =>
        rw [missionInput, tickInput, hlive]
        rfl
      | _ => rfl
    · rfl

/-- The loop hands the flag over when it has changed. -/
theorem sensor_runOnce (s : AutopilotProcess P R) :
    s.runOnce.sensor =
      if s.mission.obstacleAvoidanceEnabled ≠ s.obstacleAvoidanceEnabled then
        s.sensor.setObstacleAvoidanceEnabled s.mission.obstacleAvoidanceEnabled
      else s.sensor := by
  have hupdate : s.runOnce.sensor = s.updateObstacleAvoidanceEnabled.sensor := by
    unfold runOnce
    dsimp only
    split_ifs <;> rfl
  rw [hupdate, updateObstacleAvoidanceEnabled]
  dsimp only
  split_ifs <;> rfl

theorem sensor_mainStep (hs : Constructing launch files s) (i : MainInput) :
    (s.mainStep launch i).sensor =
      run (SensorNode.step lib) s.sensor (s.sensorInput (.main i : ProcessInput E)) := by
  rw [sensorInput]
  by_cases hrunning : s.main = .running
  · rw [mainStep_of_running hs hrunning, sensor_runOnce]
    by_cases hflag : s.mission.obstacleAvoidanceEnabled ≠ s.obstacleAvoidanceEnabled
    · rw [if_pos hflag, if_pos ⟨hrunning, hflag⟩]
      rfl
    · rw [if_neg hflag, if_neg fun h => hflag h.2]
      rfl
  · rw [if_neg fun h => hrunning h.1]
    exact (mainStep_frame launch hrunning i).2.2.1

theorem step_sensor (hs : Constructing launch files s) (i : ProcessInput E) :
    (s.step ext lib launch i).sensor = run (SensorNode.step lib) s.sensor (s.sensorInput i) := by
  cases i with
  | main i => exact sensor_mainStep hs i
  | message message env =>
    rw [step, dispatch_eq hs message env]
    rfl
  | sensor c =>
    rw [step, sensorInput]
    split_ifs <;> rfl
  | computeDistance _ | mapper _ | printStats | mission _ =>
    rw [step]
    split_ifs <;> rfl

/-! ### Every run -/

/-- What a run of the process from its start is for the system. -/
def systemInputs (ext : Externals P E) (lib : DownsamplerLibrary R) (launch : Launch R) (files : Files)
    (is : List (ProcessInput E)) : List (AvoidanceInput E) :=
  emitted (step ext lib launch) (systemInput lib) (initial ext launch files) is

theorem run_system (ext : Externals P E) (lib : DownsamplerLibrary R) (launch : Launch R) (files : Files)
    (is : List (ProcessInput E)) :
    (run (step ext lib launch) (initial ext launch files) is).system (provisioned launch files) =
      run (AvoidanceSystem.step ext) (.initial ext (provisioned launch files) launch.parameter launch.boot)
        (systemInputs ext lib launch files is) := by
  have hstep : ∀ (s : AutopilotProcess P R) (t : AvoidanceSystem P) i,
      Constructing launch files s ∧ s.system (provisioned launch files) = t →
      Constructing launch files (s.step ext lib launch i) ∧
        (s.step ext lib launch i).system (provisioned launch files) =
          run (AvoidanceSystem.step ext) t (s.systemInput lib i) := by
    rintro s _ i ⟨hs, rfl⟩
    exact ⟨constructing_step hs i, step_system hs i⟩
  exact (run_simulates hstep ⟨constructing_initial ext launch files, rfl⟩ is).2

/-- What a run of the process is for the node of the Sensor Manager. -/
def sensorInputs (ext : Externals P E) (lib : DownsamplerLibrary R) (launch : Launch R) (files : Files)
    (is : List (ProcessInput E)) : List SensorInput :=
  emitted (step ext lib launch) sensorInput (initial ext launch files) is

theorem run_sensor (ext : Externals P E) (lib : DownsamplerLibrary R) (launch : Launch R) (files : Files)
    (is : List (ProcessInput E)) :
    (run (step ext lib launch) (initial ext launch files) is).sensor =
      run (SensorNode.step lib) (.initial launch.intrinsics launch.timeSensorManager)
        (sensorInputs ext lib launch files is) := by
  have hstep : ∀ (s : AutopilotProcess P R) (t : SensorNode R) i, Constructing launch files s ∧ s.sensor = t →
      Constructing launch files (s.step ext lib launch i) ∧
        (s.step ext lib launch i).sensor = run (SensorNode.step lib) t (s.sensorInput i) := by
    rintro s _ i ⟨hs, rfl⟩
    exact ⟨constructing_step hs i, step_sensor hs i⟩
  exact (run_simulates hstep ⟨constructing_initial ext launch files, rfl⟩ is).2

theorem configure_not_mem_systemInput (s : AutopilotProcess P R) (i : ProcessInput E) (live : AutopilotManagerConfig) :
    .system (.configure live) ∉ s.systemInput lib i := by
  unfold systemInput
  split
  all_goals simp

theorem configure_not_mem_systemInputs (files : Files) (is : List (ProcessInput E)) (live : AutopilotManagerConfig) :
    .system (.configure live) ∉ systemInputs ext lib launch files is := by
  unfold systemInputs
  induction is using List.reverseRecOn with
  | nil => exact List.not_mem_nil
  | append_singleton is i ih =>
    rw [emitted_concat, List.mem_append, not_or]
    exact ⟨ih, configure_not_mem_systemInput _ i live⟩

/-- **The process refines its parts**: over any files, and whatever its threads do in whatever order, the modules are
in the state that their system reaches from its initial state over the configuration read at the start, without ever
being configured again, and the Sensor Manager is in the state that its node reaches alone. -/
theorem refines_parts (ext : Externals P E) (lib : DownsamplerLibrary R) (launch : Launch R) (files : Files)
    (is : List (ProcessInput E)) :
    let s := run (step ext lib launch) (initial ext launch files) is
    let js := systemInputs ext lib launch files is
    s.system (provisioned launch files) =
        run (AvoidanceSystem.step ext) (.initial ext (provisioned launch files) launch.parameter launch.boot) js ∧
      (∀ live, .system (.configure live) ∉ js) ∧
      s.sensor = run (SensorNode.step lib) (.initial launch.intrinsics launch.timeSensorManager)
        (sensorInputs ext lib launch files is) := by
  exact ⟨run_system ext lib launch files is, configure_not_mem_systemInputs files is,
    run_sensor ext lib launch files is⟩

end AutopilotProcess

end AutopilotManager
