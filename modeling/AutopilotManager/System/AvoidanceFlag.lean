import AutopilotManager.System.Evidence

/-!
# System.AvoidanceFlag — how obstacle avoidance gets to the sensors and to the mapper

The Mission Manager judges by the trajectory messages whether obstacle avoidance is enabled in PX4, the loop of the
Autopilot Manager compares that with its own copy once a second, and on a change hands it to the Landing Manager and to
the Sensor Manager.  The three copies are kept equal, so none of them misses a change for good.
-/

namespace AutopilotManager

open Lib

namespace MissionManager

variable {P E : Type} {ext : Externals P E}

/-- An iteration that calls the handler judges the last message; the others leave the flag. -/
theorem avoidance_decisionMakerRun (ext : Externals P E) (i : TickInput E) (s : MissionManager P) :
    (s.decisionMakerRun ext i).obstacleAvoidanceEnabled =
      if i.judgesHealth then s.recentTrajectory i.rosNow else s.obstacleAvoidanceEnabled := by
  cases decisionMakerRun_cases ext i s with
  | bypassed bypasses quiet =>
    rw [if_neg fun h => TickInput.judgesHealth_iff.mp h bypasses]
    exact quiet.avoidance
  | handled calls handled quiet =>
    obtain ⟨ended, started, heffect⟩ := handled.effect
    rw [if_pos (TickInput.judgesHealth_iff.mpr calls), quiet.avoidance, heffect.avoidance, avoidance_beginTick]

/-- What an input writes into the avoidance flag. -/
def judgement (s : MissionManager P) : MissionInput E → Option Bool
  | .tick i => if i.judgesHealth then some (s.recentTrajectory i.rosNow) else none
  | _ => none

/-- What an input writes into the time of the last message. -/
def messageTime : MissionInput E → Option ℤ
  | .trajectory t => if t.isForeign then some t.rosNow else none
  | _ => none

theorem avoidance_step (ext : Externals P E) (input : MissionInput E) (s : MissionManager P) :
    (s.step ext input).obstacleAvoidanceEnabled = (s.judgement input).getD s.obstacleAvoidanceEnabled := by
  cases input with
  | tick i =>
    rw [step, avoidance_decisionMakerRun, judgement]
    split_ifs <;> rfl
  | _ => exact uncalled_obstacleAvoidanceEnabled.step_of_untimed (fun _ _ => rfl) s (by simp)

theorem timeLastTraj_step (ext : Externals P E) (input : MissionInput E) (s : MissionManager P) :
    (s.step ext input).timeLastTraj = (messageTime input).getD s.timeLastTraj := by
  cases input with
  | tick i => exact untouched_timeLastTraj.decisionMakerRun s
  | trajectory t =>
    have hanswer : (s.onMavlinkTrajectoryMessage ext t).timeLastTraj = _ :=
      uncalled_timeLastTraj.onMavlinkTrajectoryMessage t s
    rw [step, hanswer, messageTime]
    by_cases hown : t.compid = mavCompIdObstacleAvoidance <;> simp [TrajectoryInput.isForeign, hown]
  | _ => exact uncalled_timeLastTraj.unheard.step s (by simp) (by simp)

end MissionManager

namespace LandingManager

theorem avoidance_mapper (config : LandingManagerConfiguration) (m : MapperInput) (s : LandingManager) :
    (s.mapper config m).obstacleAvoidanceEnabled = s.obstacleAvoidanceEnabled := by
  have hcheck := (healthCheck_frame m.depth (s.updateParameters config)).2.2
  unfold mapper writeState
  dsimp only
  split_ifs <;> first | exact hcheck | rfl

end LandingManager

namespace AutopilotProcess

variable {P R E : Type} {ext : Externals P E} {lib : DownsamplerLibrary R} {launch : Launch R} {files : Files}
  {s : AutopilotProcess P R} {is : List (ProcessInput E)}

/-! ### The three copies -/

/-- The Landing Manager and the Sensor Manager have the flag of the Autopilot Manager. -/
structure FlagsAgree (s : AutopilotProcess P R) : Prop where
  sensor : s.sensor.obstacleAvoidanceEnabled = s.obstacleAvoidanceEnabled
  landing : s.landing.obstacleAvoidanceEnabled = s.obstacleAvoidanceEnabled

/-- The flag that an iteration of the loop takes over. -/
def flagWrite (s : AutopilotProcess P R) : ProcessInput E → Option Bool
  | .main _ => if s.main = .running then some s.mission.obstacleAvoidanceEnabled else none
  | _ => none

theorem flags_runOnce (hs : s.FlagsAgree) :
    s.runOnce.FlagsAgree ∧ s.runOnce.obstacleAvoidanceEnabled = s.mission.obstacleAvoidanceEnabled := by
  have hupdate : s.updateObstacleAvoidanceEnabled.FlagsAgree ∧
      s.updateObstacleAvoidanceEnabled.obstacleAvoidanceEnabled = s.mission.obstacleAvoidanceEnabled := by
    unfold updateObstacleAvoidanceEnabled
    dsimp only
    split_ifs with hchanged
    · exact ⟨⟨rfl, rfl⟩, rfl⟩
    · exact ⟨hs, (not_not.mp hchanged).symm⟩
  unfold runOnce
  dsimp only
  split_ifs
  · exact ⟨⟨hupdate.1.sensor, hupdate.1.landing⟩, hupdate.2⟩
  · exact hupdate

/-- **A step keeps the copies equal**, and only the loop changes them. -/
theorem flags_step (hs : Constructing launch files s) (hflags : s.FlagsAgree) (i : ProcessInput E) :
    (s.step ext lib launch i).FlagsAgree ∧
      (s.step ext lib launch i).obstacleAvoidanceEnabled = (flagWrite s i).getD s.obstacleAvoidanceEnabled := by
  cases i with
  | main m =>
    rw [step, flagWrite]
    by_cases hrunning : s.main = .running
    · rw [mainStep_of_running hs hrunning, if_pos hrunning]
      exact flags_runOnce hflags
    · obtain ⟨-, hflag, hsensor, -, hlanding, -⟩ := mainStep_frame launch hrunning m
      rw [if_neg hrunning]
      exact ⟨⟨by rw [hsensor, hflag, hflags.sensor], by rw [hlanding, hflag, hflags.landing]⟩, hflag⟩
  | message message env =>
    rw [step, dispatch_eq hs message env]
    exact ⟨hflags, rfl⟩
  | sensor c =>
    rw [step]
    split_ifs
    · exact ⟨⟨((SensorNode.spin_writes lib s.sensor c).avoidance).trans hflags.sensor, hflags.landing⟩, rfl⟩
    · exact ⟨hflags, rfl⟩
  | mapper check =>
    rw [step]
    split_ifs
    · exact ⟨⟨hflags.sensor, (LandingManager.avoidance_mapper ..).trans hflags.landing⟩, rfl⟩
    · exact ⟨hflags, rfl⟩
  | computeDistance _ | printStats | mission _ =>
    rw [step]
    split_ifs <;> exact ⟨⟨hflags.sensor, hflags.landing⟩, rfl⟩

theorem flags_run (ext : Externals P E) (lib : DownsamplerLibrary R) (launch : Launch R) (files : Files)
    (is : List (ProcessInput E)) : (run (step ext lib launch) (initial ext launch files) is).FlagsAgree := by
  induction is using List.reverseRecOn with
  | nil => exact ⟨rfl, rfl⟩
  | append_singleton is i ih =>
    rw [run_concat]
    exact (flags_step (constructing_run ext lib launch files is) ih i).1

/-! ### The Mission Manager -/

theorem mission_runOnce (s : AutopilotProcess P R) : s.runOnce.mission = s.mission := by
  unfold runOnce updateObstacleAvoidanceEnabled
  dsimp only
  split_ifs <;> rfl

/-- Only its own steps change the Mission Manager. -/
theorem mission_step (hs : Constructing launch files s) {i : ProcessInput E} (hother : ∀ input, i ≠ .mission input) :
    (s.step ext lib launch i).mission = s.mission := by
  cases i with
  | main m =>
    by_cases hrunning : s.main = .running
    · rw [step, mainStep_of_running hs hrunning, mission_runOnce]
    · exact (mainStep_frame launch hrunning m).2.2.2.2.2
  | message message env => rw [step, dispatch_eq hs message env]
  | mission input => exact absurd rfl (hother input)
  | _ =>
    unfold step
    split_ifs <;> rfl

/-- What a step of the process writes of the Mission Manager, where its inputs write `write`. -/
def missionWrite {β : Type} (write : MissionManager P → MissionInput E → Option β) (s : AutopilotProcess P R) :
    ProcessInput E → Option β
  | .mission input => if s.main.runsMissionManager then write s.mission (s.missionInput input) else none
  | _ => none

theorem missionWrite_eq_some {β : Type} {write : MissionManager P → MissionInput E → Option β} {i : ProcessInput E}
    {x : β} : missionWrite write s i = some x ↔
      ∃ input, i = .mission input ∧ s.main.runsMissionManager ∧ write s.mission (s.missionInput input) = some x := by
  cases i <;> simp [missionWrite]

/-- A part of the Mission Manager holds what the latest input that writes it has written. -/
theorem holds_mission {β : Type} (get : MissionManager P → β) (write : MissionManager P → MissionInput E → Option β)
    (hstep : ∀ s input, get (s.step ext input) = (write s input).getD (get s)) (is : List (ProcessInput E)) :
    Holds (step ext lib launch) (missionWrite write) (initial ext launch files) is (get (.initial ext launch.boot))
      (get (run (step ext lib launch) (initial ext launch files) is).mission) := by
  refine holds_run (fun s : AutopilotProcess P R => get s.mission) _ is fun js i => ?_
  have hs := constructing_run ext lib launch files js
  generalize run (step ext lib launch) (initial ext launch files) js = s at hs ⊢
  cases i with
  | mission input =>
    rw [step, missionWrite]
    split_ifs
    · exact hstep s.mission _
    · rfl
  | _ => exact congrArg get (mission_step hs (by simp))

/-! ### Every run -/

/-- Every step that finds the loop running leaves it so. -/
theorem looping_step (s : AutopilotProcess P R) (i : ProcessInput E)
    (h : Constructing launch files s ∧ s.main = .running) :
    Constructing launch files (s.step ext lib launch i) ∧ (s.step ext lib launch i).main = .running :=
  ⟨constructing_step h.1 i, running_step h.1 h.2 i⟩

/-- The copies are off, or what the latest iteration of the loop has found. -/
theorem flag_grounds
    (hon : (run (step ext lib launch) (initial ext launch files) is).obstacleAvoidanceEnabled) :
    ∃ before m after, is = before ++ [.main m] ++ after ∧ (∀ m', .main m' ∉ after) ∧
      (run (step ext lib launch) (initial ext launch files) before).main = .running ∧
      (run (step ext lib launch) (initial ext launch files) before).mission.obstacleAvoidanceEnabled := by
  have hholds : Holds (step ext lib launch) _ (initial ext launch files) is _ _ :=
    holds_run (fun s : AutopilotProcess P R => s.obstacleAvoidanceEnabled) flagWrite is fun js i =>
      (flags_step (constructing_run ext lib launch files js) (flags_run ext lib launch files js) i).2
  rw [hon] at hholds
  rcases hholds with ⟨-, hstart⟩ | ⟨before, i, after, his, hwritten, hnone⟩
  · cases hstart
  · cases i with
    | main m =>
      rw [flagWrite] at hwritten
      split_ifs at hwritten with hrunning
      refine ⟨before, m, after, his, fun m' => ?_, hrunning, Option.some.inj hwritten⟩
      rw [run_concat] at hnone
      refine hnone.not_mem looping_step (looping_step _ _ ⟨constructing_run ext lib launch files before, hrunning⟩) ?_
      rintro s ⟨-, hrunning⟩ hkept
      rw [flagWrite, if_pos hrunning] at hkept
      cases hkept
    | _ => cases hwritten

/-- All iterations read the same configuration. -/
theorem judgesHealth_eq {s' : AutopilotProcess P R} (hs : Constructing launch files s) (hrunning : s.main = .running)
    (hs' : Constructing launch files s') (hrunning' : s'.main = .running) (i i' : TickInput E) :
    (s.tickInput i).judgesHealth = (s'.tickInput i').judgesHealth := by
  rw [tickInput, tickInput, live_eq hs (by rw [hrunning]; rfl), live_eq hs' (by rw [hrunning']; rfl)]
  rfl

/-- The flag of the Mission Manager is off, or what the latest iteration of the decision loop has judged. -/
theorem judgement_grounds
    (hon : (run (step ext lib launch) (initial ext launch files) is).mission.obstacleAvoidanceEnabled) :
    ∃ before i after, is = before ++ [.mission (.tick i)] ++ after ∧ (∀ i', .mission (.tick i') ∉ after) ∧
      (run (step ext lib launch) (initial ext launch files) before).mission.recentTrajectory i.rosNow := by
  have hholds : Holds (step ext lib launch) _ (initial ext launch files) is _ _ :=
    holds_mission (fun s => s.obstacleAvoidanceEnabled) MissionManager.judgement
      (fun s input => MissionManager.avoidance_step ext input s) is
  rw [hon] at hholds
  rcases hholds with ⟨-, hstart⟩ | ⟨before, i, after, his, hwritten, hnone⟩
  · cases hstart
  · obtain ⟨input, rfl, hruns, hjudged⟩ := missionWrite_eq_some.mp hwritten
    have hs := constructing_run ext lib launch files before
    cases input with
    | tick i =>
      rw [missionInput, MissionManager.judgement] at hjudged
      split_ifs at hjudged with hjudges
      refine ⟨before, i, after, his, fun i' => ?_, Option.some.inj hjudged⟩
      rw [run_concat] at hnone
      refine hnone.not_mem looping_step (looping_step _ _ ⟨hs, hs.running hruns⟩) ?_
      rintro s ⟨hs', hrunning⟩ hkept
      have hruns' : s.main.runsMissionManager := by rw [hrunning]; rfl
      have hjudges' : (s.tickInput i').judgesHealth :=
        (judgesHealth_eq hs' hrunning hs (hs.running hruns) i' i).trans hjudges
      rw [missionWrite, if_pos hruns', missionInput, MissionManager.judgement, if_pos hjudges'] at hkept
      cases hkept
    | _ => cases hjudged

/-- The Mission Manager receives a trajectory message of another component. -/
def receivesTrajectory (s : AutopilotProcess P R) : ProcessInput E → Prop
  | .mission (.trajectory t) => s.main.runsMissionManager ∧ t.isForeign
  | _ => False

theorem not_receivesTrajectory {i : ProcessInput E}
    (hnone : missionWrite (fun _ input => MissionManager.messageTime input) s i = none) : ¬ receivesTrajectory s i := by
  cases i with
  | mission input =>
    cases input with
    | trajectory t =>
      rintro ⟨hruns, hforeign⟩
      rw [missionWrite, if_pos hruns, missionInput, MissionManager.messageTime] at hnone
      split_ifs at hnone with hother
      exact hother hforeign
    | _ => exact id
  | _ => exact id

/-- The iteration at `now`, after `is`, comes less than half a second after the latest trajectory message of another
component, or, where there has been none, after the construction of the Mission Manager. -/
def RecentMessage (ext : Externals P E) (lib : DownsamplerLibrary R) (launch : Launch R) (files : Files)
    (is : List (ProcessInput E)) (now : ℤ) : Prop :=
  (∃ before t after, is = before ++ [.mission (.trajectory t)] ++ after ∧
      receivesTrajectory (run (step ext lib launch) (initial ext launch files) before)
        (.mission (.trajectory t) : ProcessInput E) ∧
      Meets (step ext lib launch) (fun s i => ¬ receivesTrajectory s i)
        (run (step ext lib launch) (initial ext launch files) (before ++ [.mission (.trajectory t)])) after ∧
      now - t.rosNow < 500000000) ∨
    Meets (step ext lib launch) (fun s i => ¬ receivesTrajectory s i) (initial ext launch files) is ∧
      now - launch.boot.rosNow < 500000000

theorem recentMessage_of_recentTrajectory {now : ℤ}
    (hrecent : (run (step ext lib launch) (initial ext launch files) is).mission.recentTrajectory now) :
    RecentMessage ext lib launch files is now := by
  have hage := of_decide_eq_true hrecent
  have hholds : Holds (step ext lib launch) _ (initial ext launch files) is _ _ :=
    holds_mission (fun s => s.timeLastTraj) (fun _ input => MissionManager.messageTime input)
      (fun s input => MissionManager.timeLastTraj_step ext input s) is
  rcases hholds with ⟨hnone, hstart⟩ | ⟨before, i, after, his, hwritten, hnone⟩
  · rw [hstart] at hage
    exact .inr ⟨hnone.mono fun _ _ => not_receivesTrajectory, hage⟩
  · obtain ⟨input, rfl, hruns, htime⟩ := missionWrite_eq_some.mp hwritten
    cases input with
    | trajectory t =>
      rw [missionInput, MissionManager.messageTime] at htime
      split_ifs at htime with hforeign
      rw [← Option.some.inj htime] at hage
      exact .inl ⟨before, t, after, his, ⟨hruns, hforeign⟩, hnone.mono fun _ _ => not_receivesTrajectory, hage⟩
    | _ => cases htime

end AutopilotProcess

end AutopilotManager
