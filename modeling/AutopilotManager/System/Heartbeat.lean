import AutopilotManager.Mission.Unwritten
import AutopilotManager.System.Verdict

/-!
# System.Heartbeat — what the avoidance heartbeat says

The loop of the Autopilot Manager sends the heartbeat when safe landing is enabled and the health bits of the three
modules are up.  The bit of the Mission Manager is written only by iterations that call `handle_safe_landing`, it is up
from the beginning, and the time of the last trajectory message starts as the time of the construction.
-/

namespace AutopilotManager

open Lib

namespace MissionManager

variable {P E : Type} {ext : Externals P E} {i : TickInput E}

/-! ### The health bit and the time of the last message -/

/-- An iteration that calls the handler writes the health bit. -/
theorem isHealthy_decisionMakerRun (ext : Externals P E) (hcalls : ¬ i.bypasses) (s : MissionManager P) :
    (s.decisionMakerRun ext i).isHealthy = (s.recentTrajectory i.rosNow || s.underManualControl) := by
  have hhandled : Handled ext i (s.beginTick i) (handleSafeLanding ext i { s with config := i.config }) :=
    handleSafeLanding_cases { s with config := i.config }
  obtain ⟨ended, started, heffect⟩ := hhandled.effect
  have hafter : ∀ mid : MissionManager P,
      (mid.afterHandler i).isHealthy = (mid.obstacleAvoidanceEnabled || mid.underManualControl) := by
    intro mid
    unfold afterHandler actionTimeout
    split_ifs <;> rfl
  have havoidance := heffect.avoidance.trans (avoidance_beginTick i s)
  have hmode := heffect.flightMode.trans (apart_beginTick (i := i) s).flightMode
  rw [decisionMakerRun_of_calls ext hcalls, hafter, havoidance]
  unfold underManualControl
  rw [hmode]

end MissionManager

namespace System

variable {P E : Type} (ext : Externals P E)

/-! ### Histories -/

/-- The step is a trajectory message of the vehicle. -/
def isMessage : SystemInput E → Bool
  | .mission (.trajectory t) => t.isForeign
  | _ => false

/-- At the latest iteration of the run `is` from `s₀` the Autopilot Manager was enabled with this decision maker, and
the vehicle was in a manual mode or a trajectory message had been received less than half a second before. -/
def Honest (s₀ : System P) (is : List (SystemInput E)) : Prop :=
  ∃ before i after, is = before ++ [.mission (.tick i)] ++ after ∧ (∀ j, .mission (.tick j) ∉ after) ∧
    ((run (step ext) s₀ before).tickInput i).judgesHealth ∧
    ((run (step ext) s₀ before).mission.underManualControl ∨
      ∃ t, .mission (.trajectory t) ∈ before ∧ t.isForeign ∧ i.rosNow - t.rosNow < 500000000)

/-- The configuration enables the Autopilot Manager with safe landing as its decision maker. -/
def decidesSafeLanding (live : AutopilotManagerConfig) : Bool :=
  live.autopilotManagerEnabled ≠ 0 && live.decisionMakerInputType = "SAFE_LANDING"

/-- The whole with a watch on the order of its steps: the decision loop has come to an iteration since the start, and
since safe landing was last made the decision maker; and a trajectory message has been received. -/
structure Monitored (P : Type) where
  system : System P
  decided : Bool := false
  heard : Bool := false

def monitoredStep (m : Monitored P) (input : SystemInput E) : Monitored P where
  system := m.system.step ext input
  decided :=
    match input with
    | .configure _ => m.decided && decidesSafeLanding m.system.live
    | .mission (.tick _) => true
    | _ => m.decided
  heard := m.heard || isMessage input

/-- The loop of the Autopilot Manager finds safe landing enabled only with safe landing as the decision maker, and only
once the decision loop has followed; and no iteration takes the time of the construction for that of a message. -/
def Settled (m : Monitored P) : SystemInput E → Prop
  | .run _ => m.system.live.safeLandingEnabled ≠ 0 → decidesSafeLanding m.system.live ∧ m.decided
  | .mission (.tick i) => (m.system.tickInput i).judgesHealth → m.system.mission.recentTrajectory i.rosNow →
      ¬ m.system.mission.underManualControl → m.heard
  | _ => True

variable {ext} {s s₀ : System P} {is : List (SystemInput E)} {input : SystemInput E}

theorem run_monitored_system (s₀ : System P) (is : List (SystemInput E)) :
    (run (monitoredStep ext) ⟨s₀, false, false⟩ is).system = run (step ext) s₀ is :=
  run_project (fun _ _ => rfl) (⟨s₀, false, false⟩ : Monitored P) is

/-! ### The time of the last message -/

theorem timeLastTraj_step (hmessage : ¬ isMessage input) :
    (s.step ext input).mission.timeLastTraj = s.mission.timeLastTraj := by
  cases input with
  | configure live => rfl
  | run sensorManagerHealthy => exact congrArg _ (runOnce_frame sensorManagerHealthy s).1
  | mapper m => rfl
  | printStats => rfl
  | mission input =>
    cases input with
    | tick i => exact MissionManager.untouched_timeLastTraj.decisionMakerRun s.mission
    | trajectory t =>
      have hown : t.compid = mavCompIdObstacleAvoidance := by simpa [isMessage, TrajectoryInput.isForeign] using hmessage
      exact (MissionManager.uncalled_timeLastTraj.onMavlinkTrajectoryMessage _ s.mission).trans (if_pos hown)
    | flightMode _ | landedState _ | position _ _ _ | positionVelocity _ _ _ _ _ _ | attitude _ | gpsGlobalOrigin _ =>
      exact MissionManager.uncalled_timeLastTraj.unheard.step s.mission (fun _ => nofun) (fun _ => nofun)

theorem timeLastTraj_message {t : TrajectoryInput} (hforeign : t.isForeign) :
    (s.step ext (.mission (.trajectory t))).mission.timeLastTraj = t.rosNow := by
  have hother : ¬ t.compid = mavCompIdObstacleAvoidance := by simpa [TrajectoryInput.isForeign] using hforeign
  exact (MissionManager.uncalled_timeLastTraj.onMavlinkTrajectoryMessage _ s.mission).trans (if_neg hother)

/-- Once a message has been received, the time of the last one is that of a message. -/
theorem time_of_heard (is : List (SystemInput E)) (hheard : (run (monitoredStep ext) ⟨s₀, false, false⟩ is).heard) :
    ∃ t, .mission (.trajectory t) ∈ is ∧ t.isForeign ∧
      (run (step ext) s₀ is).mission.timeLastTraj = t.rosNow := by
  induction is using List.reverseRecOn with
  | nil => exact absurd hheard Bool.false_ne_true
  | append_singleton is input ih =>
    rw [run_concat]
    by_cases hmessage : isMessage input
    · cases input with
      | mission input =>
        cases input with
        | trajectory t => exact ⟨t, by simp, hmessage, timeLastTraj_message hmessage⟩
        | _ => exact absurd hmessage Bool.false_ne_true
      | _ => exact absurd hmessage Bool.false_ne_true
    · have hbefore : (run (monitoredStep ext) ⟨s₀, false, false⟩ is).heard := by
        simpa [monitoredStep, hmessage] using hheard
      obtain ⟨t, hmem, hforeign, htime⟩ := ih hbefore
      exact ⟨t, List.mem_append_left _ hmem, hforeign, (timeLastTraj_step hmessage).trans htime⟩

/-! ### The health bit -/

/-- The step is an iteration of the decision loop. -/
def IsTick (input : SystemInput E) : Prop := ∃ i, input = .mission (.tick i)

theorem isHealthy_step (htick : ¬ IsTick input) : (s.step ext input).mission.isHealthy = s.mission.isHealthy := by
  cases input with
  | configure live => rfl
  | run sensorManagerHealthy => exact congrArg _ (runOnce_frame sensorManagerHealthy s).1
  | mapper m => rfl
  | printStats => rfl
  | mission input =>
    refine MissionManager.uncalled_isHealthy.step_of_untimed (fun _ _ => rfl) s.mission fun i hi => htick ?_
    cases input with
    | tick j => exact ⟨j, rfl⟩
    | _ => exact absurd hi nofun

theorem Honest.concat (h : Honest ext s₀ is) (htick : ¬ IsTick input) : Honest ext s₀ (is ++ [input]) := by
  obtain ⟨before, i, after, his, hlatest, hjudges, hgrounds⟩ := h
  refine ⟨before, i, after ++ [input], by rw [his]; simp, fun j hmem => ?_, hjudges, hgrounds⟩
  rcases List.mem_append.mp hmem with hafter | hlast
  · exact hlatest j hafter
  · exact htick ⟨j, (List.mem_singleton.mp hlast).symm⟩

theorem live_step (hconfigure : ∀ live, input ≠ .configure live) : (s.step ext input).live = s.live := by
  cases input with
  | configure live => exact absurd rfl (hconfigure live)
  | run sensorManagerHealthy =>
    change (s.runOnce sensorManagerHealthy).live = s.live
    unfold runOnce updateObstacleAvoidanceEnabled
    dsimp only
    split_ifs <;> rfl
  | mapper m => rfl
  | printStats => rfl
  | mission input => rfl

/-- Once the decision loop has followed the configuration, the health bit is up on good grounds only. -/
theorem honest_of_healthy (is : List (SystemInput E)) (hok : Meets (monitoredStep ext) Settled ⟨s₀, false, false⟩ is)
    (hdecides : decidesSafeLanding (run (step ext) s₀ is).live)
    (hdecided : (run (monitoredStep ext) ⟨s₀, false, false⟩ is).decided)
    (hhealthy : (run (step ext) s₀ is).mission.isHealthy) : Honest ext s₀ is := by
  induction is using List.reverseRecOn with
  | nil => exact absurd hdecided Bool.false_ne_true
  | append_singleton is input ih =>
    rw [meets_concat] at hok
    rw [run_concat] at hdecides hdecided hhealthy
    by_cases htick : IsTick input
    · -- the iteration itself is the latest one, and it judges by the configuration that stands now
      obtain ⟨i, rfl⟩ := htick
      have hlast := hok.2
      simp only [Settled, run_monitored_system] at hlast
      have hjudges : ((run (step ext) s₀ is).tickInput i).judgesHealth := hdecides
      refine ⟨is, i, [], by simp, by simp, hjudges, ?_⟩
      have hbit := MissionManager.isHealthy_decisionMakerRun ext (TickInput.judgesHealth_iff.mp hjudges)
        (run (step ext) s₀ is).mission
      have hgrounds : (MissionManager.recentTrajectory i.rosNow (run (step ext) s₀ is).mission ||
          (run (step ext) s₀ is).mission.underManualControl) = true := hbit.symm.trans hhealthy
      by_cases hmanual : (run (step ext) s₀ is).mission.underManualControl
      · exact .inl hmanual
      · have hrecent : (run (step ext) s₀ is).mission.recentTrajectory i.rosNow := by
          simpa [hmanual] using hgrounds
        obtain ⟨t, hmem, hforeign, htime⟩ := time_of_heard is (hlast hjudges hrecent hmanual)
        refine .inr ⟨t, hmem, hforeign, ?_⟩
        rw [← htime]
        exact of_decide_eq_true hrecent
    · rw [isHealthy_step htick] at hhealthy
      by_cases hconfigure : ∃ live, input = .configure live
      · -- a change of the configuration keeps the watch only where the one before it had been followed
        obtain ⟨live, rfl⟩ := hconfigure
        have hbefore := Bool.and_eq_true_iff.mp hdecided
        rw [run_monitored_system] at hbefore
        exact (ih hok.1 hbefore.2 hbefore.1 hhealthy).concat htick
      · rw [live_step fun live hlive => hconfigure ⟨live, hlive⟩] at hdecides
        refine (ih hok.1 hdecides ?_ hhealthy).concat htick
        cases input with
        | configure live => exact absurd ⟨live, rfl⟩ hconfigure
        | mission input =>
          cases input with
          | tick i => exact absurd ⟨i, rfl⟩ htick
          | _ => exact hdecided
        | _ => exact hdecided

/-! ### Every run -/

/-- The heartbeat is sent by the loop of the Autopilot Manager, with safe landing enabled and the health bit up. -/
theorem sent_cases (hsent : s.heartbeats < (s.step ext input).heartbeats) :
    (∃ sensorManagerHealthy, input = .run sensorManagerHealthy) ∧ s.live.safeLandingEnabled ≠ 0 ∧
      s.mission.isHealthy := by
  cases input with
  | run sensorManagerHealthy =>
    have hupdate : s.updateObstacleAvoidanceEnabled.heartbeats = s.heartbeats ∧
        s.updateObstacleAvoidanceEnabled.live = s.live ∧ s.updateObstacleAvoidanceEnabled.mission = s.mission := by
      unfold updateObstacleAvoidanceEnabled
      dsimp only
      split_ifs <;> exact ⟨rfl, rfl, rfl⟩
    obtain ⟨hcount, hlive, hmission⟩ := hupdate
    change s.heartbeats < (s.runOnce sensorManagerHealthy).heartbeats at hsent
    unfold runOnce at hsent
    dsimp only at hsent
    rw [hlive, hmission] at hsent
    split_ifs at hsent with hsends
    · simp only [ne_eq, Bool.and_eq_true, decide_eq_true_eq] at hsends
      exact ⟨⟨sensorManagerHealthy, rfl⟩, by simpa using hsends.1, hsends.2.2⟩
    · exact absurd hsent (by rw [hcount]; exact lt_irrefl _)
  | _ => exact absurd hsent (lt_irrefl _)

/-- **The heartbeat is honest**: in every run in which safe landing is enabled only as the decision maker, the decision
loop follows a configuration before the loop of the Autopilot Manager does, and no iteration takes the time of the
construction for that of a message, a heartbeat that is sent is honest. -/
theorem heartbeat_honest (live : AutopilotManagerConfig) (parameter : MapperParameter) (boot : Boot)
    (is : List (SystemInput E)) (input : SystemInput E)
    (hok : Meets (monitoredStep ext) Settled ⟨initial ext live parameter boot, false, false⟩ (is ++ [input]))
    (hsent : (run (step ext) (initial ext live parameter boot) is).heartbeats <
      (run (step ext) (initial ext live parameter boot) (is ++ [input])).heartbeats) :
    Honest ext (initial ext live parameter boot) is := by
  rw [meets_concat] at hok
  rw [run_concat] at hsent
  obtain ⟨⟨sensorManagerHealthy, rfl⟩, hsafe, hhealthy⟩ := sent_cases hsent
  have hfound := hok.2
  simp only [Settled, run_monitored_system] at hfound
  obtain ⟨hdecides, hdecided⟩ := hfound hsafe
  exact honest_of_healthy is hok.1 hdecides hdecided hhealthy

/-- Safe landing is switched off, and on again before the next iteration of the decision loop, which a message comes
before; the loop of the Autopilot Manager comes last. -/
def switchedRun : List (SystemInput Bool) :=
  [messageAt 0, .mission (.tick (tickAt 0)), .configure { holdLive with autopilotManagerEnabled := 0 },
    .configure holdLive, messageAt 1000000000, .mission (.tick (tickAt 1000000000))]

theorem heartbeat_honest_switchedRun : Honest phasePlanner holdSystem switchedRun := by
  refine heartbeat_honest holdLive {} MissionManager.zeroBoot switchedRun (.run true)
    ⟨trivial, fun _ _ _ => ?_, trivial, trivial, trivial, fun _ _ _ => ?_, fun _ => ?_, trivial⟩ (by decide +kernel) <;>
    decide +kernel

/-- Safe landing is enabled, and the Autopilot Manager is not. -/
def disabledLive : AutopilotManagerConfig := { holdLive with autopilotManagerEnabled := 0 }

/-- The bit that is up from the beginning is sent while the decisions are disabled. -/
theorem heartbeat_while_disabled :
    (run (step phasePlanner) (initial phasePlanner disabledLive {} MissionManager.zeroBoot)
        [.mission (.tick (tickAt 0))]).heartbeats <
      (run (step phasePlanner) (initial phasePlanner disabledLive {} MissionManager.zeroBoot)
        [.mission (.tick (tickAt 0)), .run true]).heartbeats ∧
      ¬ Honest phasePlanner (initial phasePlanner disabledLive {} MissionManager.zeroBoot)
        [.mission (.tick (tickAt 0))] := by
  refine ⟨by decide +kernel, ?_⟩
  rintro ⟨before, i, after, his, -, hjudges, -⟩
  cases before with
  | nil => exact absurd hjudges (by simp [TickInput.judgesHealth, tickInput, missionManagerConfig, initial, disabledLive])
  | cons first before => exact absurd (congrArg List.length his) (by simp)

end System

end AutopilotManager
