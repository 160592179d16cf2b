import AutopilotManager.Landing.Mapper
import AutopilotManager.Mission.Planner

/-!
# System.Basic — the Autopilot Manager with its modules

The live configuration, the Mission Manager and the Landing Manager side by side, and the loop of the Autopilot
Manager that copies the avoidance flag from one to the other.  One step is one iteration of one of the loops, one
callback, or one change of the configuration.
-/

namespace AutopilotManager

open Lib

/-- The whole: the flag of the Autopilot Manager, the one it has given to the Sensor Manager, and the heartbeats
sent. -/
structure System (P : Type) where
  live : AutopilotManagerConfig
  obstacleAvoidanceEnabled : Bool := false
  sensorManagerAvoidance : Bool := false
  heartbeats : ℕ := 0
  mission : MissionManager P
  landing : LandingManager

/-- One atomic step of the whole. -/
inductive SystemInput (E : Type)
  | configure (live : AutopilotManagerConfig)
  | run (sensorManagerHealthy : Bool)
  | mapper (m : MapperInput)
  | printStats
  | mission (input : MissionInput E)

namespace System

variable {P E : Type} (ext : Externals P E)

/-! ### The loop of the Autopilot Manager -/

/-- `update_obstacle_avoidance_enabled`. -/
def updateObstacleAvoidanceEnabled (s : System P) : System P :=
  let shouldBeEnabled := s.mission.obstacleAvoidanceEnabled
  if shouldBeEnabled ≠ s.obstacleAvoidanceEnabled then
    { s with
      obstacleAvoidanceEnabled := shouldBeEnabled
      landing := { s.landing with obstacleAvoidanceEnabled := shouldBeEnabled }
      sensorManagerAvoidance := shouldBeEnabled }
  else s

/-- One iteration of `run`. -/
def runOnce (sensorManagerHealthy : Bool) (s : System P) : System P :=
  let s := s.updateObstacleAvoidanceEnabled
  if s.live.safeLandingEnabled ≠ 0 && (sensorManagerHealthy && s.landing.isHealthy && s.mission.isHealthy) then
    { s with heartbeats := s.heartbeats + 1 }
  else s

/-! ### The callbacks between the modules -/

/-- What an iteration of the decision loop reads through its callbacks. -/
def tickInput (i : TickInput E) (s : System P) : TickInput E :=
  { i with
    config := missionManagerConfig s.live
    landingState := s.landing.state
    heightAboveObstacle := s.landing.heightAboveObstacle }

/-- The inputs of the Mission Manager, with what it reads through its callbacks. -/
def missionInput (s : System P) : MissionInput E → MissionInput E
  | .tick i => .tick (s.tickInput i)
  | .trajectory t => .trajectory { t with heightAboveObstacle := s.landing.heightAboveObstacle }
  | input => input

def step (s : System P) : SystemInput E → System P
  | .configure live => { s with live := live }
  | .run sensorManagerHealthy => s.runOnce sensorManagerHealthy
  | .mapper m => { s with landing := s.landing.mapper (landingManagerConfig s.live) m }
  | .printStats => { s with landing := s.landing.printStats }
  | .mission input => { s with mission := s.mission.step ext (s.missionInput input) }

/-- The state in which the loops start, over the live configuration and the parameters of the mapper. -/
def initial (live : AutopilotManagerConfig) (parameter : MapperParameter) (boot : Boot) : System P where
  live := live
  mission := .initial ext boot
  landing := { parameter := parameter }

/-! ### What the loop of the Autopilot Manager leaves alone -/

theorem runOnce_frame (sensorManagerHealthy : Bool) (s : System P) :
    (s.runOnce sensorManagerHealthy).mission = s.mission ∧
      (s.runOnce sensorManagerHealthy).landing.state = s.landing.state ∧
      (s.runOnce sensorManagerHealthy).landing.heightAboveObstacle = s.landing.heightAboveObstacle := by
  unfold runOnce updateObstacleAvoidanceEnabled
  dsimp only
  split_ifs <;> exact ⟨rfl, rfl, rfl⟩

end System

end AutopilotManager
