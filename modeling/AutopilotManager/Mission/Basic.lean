import AutopilotManager.Config.Modules

/-!
# Mission.Basic — the state of the Mission Manager

The types of the vehicle interface, the external parts the module calls, its members, and what it leaves outside: a
log of commands, status texts and messages, newest entry first.
-/

namespace AutopilotManager

open Lib

/-! ### The vehicle -/

inductive FlightMode
  | unknown
  | ready
  | takeoff
  | hold
  | mission
  | returnToLaunch
  | land
  | offboard
  | followMe
  | manual
  | altctl
  | posctl
  | acro
  | stabilized
  | rattitude
  deriving DecidableEq

/-- The modes in which the pilot flies. -/
def FlightMode.isManual : FlightMode → Bool
  | manual | altctl | posctl | acro | stabilized | rattitude => true
  | _ => false

inductive LandedState
  | unknown
  | onGround
  | inAir
  | takingOff
  | landing
  deriving DecidableEq

inductive LandingMapperState
  | unhealthy
  | unknown
  | canNotLand
  | closeToGround
  | tooHigh
  | canLand
  deriving DecidableEq

inductive StatusTextType
  | info
  | warning
  | error
  deriving DecidableEq

/-- What `_action` is asked to do. -/
inductive Command
  | hold
  | returnToLaunch
  | gotoLocation (lat lon altAmsl yaw : Double)
  | land
  deriving DecidableEq

structure LocalCoordinate where
  northM : Double
  eastM : Double
  deriving DecidableEq

structure GlobalCoordinate where
  latitudeDeg : Double
  longitudeDeg : Double
  deriving DecidableEq

/-- One of the five points of a trajectory message. -/
structure TrajectoryPoint where
  posX : Double
  posY : Double
  posZ : Double
  velX : Double
  velY : Double
  velZ : Double
  accX : Double
  accY : Double
  accZ : Double
  posYaw : Double
  velYaw : Double
  command : UInt16
  deriving DecidableEq

/-- `mavlink_trajectory_representation_waypoints_t`, point by point; only the first point is ever changed. -/
structure TrajectoryWaypoints where
  timeUsec : UInt64
  validPoints : UInt8
  first : TrajectoryPoint
  others : List TrajectoryPoint
  deriving DecidableEq

/-- `MAV_COMP_ID_OBSTACLE_AVOIDANCE`. -/
def mavCompIdObstacleAvoidance : UInt8 := 196

/-! ### External parts -/

structure LandingPlannerConfig where
  maxDistance : Double
  minHeight : Double
  maxHeight : Double
  minDistanceAfterAbort : Double
  waypointArrivalRadius : Double
  siteAssessTime : Double
  searchStrategy : String
  spiralSearchSpacing : Double
  spiralSearchPoints : Int32
  deriving DecidableEq

/-- The landing planner: states `P`, and `E` for what its calls read elsewhere (the clock, the mapper's state at
other positions). -/
structure LandingPlanner (P E : Type) where
  initial : P
  isActive : P → Bool
  isEnded : P → Bool
  shouldLand : P → Bool
  waypointUpdated : P → Bool
  getCurrentWaypoint : P → LocalCoordinate
  getSearchAltitude : P → Double
  startSearch : E → (x y yaw altitude : Double) → LandingPlannerConfig → P → P
  endSearch : P → P
  reset : P → P
  updateSearch : E → (x y altitude heightAboveObstacle : Double) → (isStationary : Bool) → LandingMapperState → P → P
  abortLanding : E → (altitude heightAboveObstacle : Double) → P → P

/-- The planner and the library functions of geometry. -/
structure Externals (P E : Type) extends LandingPlanner P E where
  cos : Double → Double
  sin : Double → Double
  globalFromLocal : (reference : GlobalCoordinate) → LocalCoordinate → GlobalCoordinate
  normalized : Double × Double → Double × Double

/-! ### The log -/

/-- How a trajectory message is answered. -/
inductive Reply
  | forwarded
  | search
  | land
  deriving DecidableEq

/-- What the module does outside, and two marks for statements about order: a call of the flight mode callback with
the mode it is given, and the branch in which a waypoint has been reached. -/
inductive Event
  | command (c : Command)
  | statusText (type : StatusTextType) (text : String)
  | startSearch (config : LandingPlannerConfig)
  | searchEnded (debug : String)
  | sent (reply : Reply) (message : TrajectoryWaypoints)
  | flightModeCallback (mode : FlightMode)
  | arrived (lat lon altAmsl : Double)
  deriving DecidableEq

/-! ### The members -/

/-- `MissionManager`, over planner states `P`.  Members that the constructor leaves uninitialised have no default. -/
structure MissionManager (P : Type) where
  config : MissionManagerConfiguration := {}
  actionInProgress : Bool := false
  flightMode : FlightMode := .unknown
  landedState : LandedState := .unknown
  previousLandedState : LandedState := .unknown
  globalOriginReferenceSet : Bool := false
  landingSpeed : Double := .ofRat (7 / 10)
  landingCrawlSpeed : Double := .ofRat (3 / 10)
  landingCrawlAltitude : Double := 1
  isStationaryDebounceCounter : ℕ := 0
  currentLatitude : Double := 0
  currentLongitude : Double := 0
  currentAltitudeAmsl : Double := 0
  refLatitude : Double
  refLongitude : Double
  refAltitude : Double
  currentPosX : Double
  currentPosY : Double
  currentPosZ : Double
  currentVelX : Double
  currentVelY : Double
  currentVelZ : Double
  currentYaw : Double
  newLatitude : Double := .nan
  newLongitude : Double := .nan
  newAltitudeAmsl : Double := .nan
  newX : Double := .nan
  newY : Double := .nan
  newYaw : Double := .nan
  previouslySetWaypointAltitudeAmsl : Double := 0
  planner : P
  lastTime : ℤ
  timeLastTraj : ℤ
  obstacleAvoidanceEnabled : Bool := false
  isHealthy : Bool := true
  /-- The smoothed velocity, a static local variable of the message callback. -/
  vel : Option (Double × Double) := none
  log : List Event := []

namespace MissionManager

variable {P : Type}

/-- The prefix `missionManagerOut`. -/
def out : String := "[Mission Manager] "

/-- `std::to_string` in a status text. -/
def str (x : Double) : String := String.ofList (toStringDouble x)

def emit (e : Event) (s : MissionManager P) : MissionManager P := { s with log := e :: s.log }

def hold (s : MissionManager P) : MissionManager P := s.emit (.command .hold)
def returnToLaunch (s : MissionManager P) : MissionManager P := s.emit (.command .returnToLaunch)
def statusText (type : StatusTextType) (text : String) (s : MissionManager P) : MissionManager P :=
  s.emit (.statusText type text)

def setNewWaypoint (lat lon altAmsl : Double) (s : MissionManager P) : MissionManager P :=
  { s with newLatitude := lat, newLongitude := lon, newAltitudeAmsl := altAmsl }

/-- `_new_yaw` is a `float`. -/
def setNewLocalWaypoint (x y yaw : Double) (s : MissionManager P) : MissionManager P :=
  { s with newX := x, newY := y, newYaw := yaw.toFloat }

def goToNewLocalWaypoint (waypoint : LocalCoordinate) (s : MissionManager P) : MissionManager P :=
  s.setNewLocalWaypoint waypoint.northM waypoint.eastM s.currentYaw

/-- `a` and `b` are at most `tol` apart. -/
def within (a b : Double) (tol : ℚ) : Bool := (a - b).abs.le (.ofRat tol)

def arrivedToNewWaypoint (s : MissionManager P) : Bool :=
  within s.newLatitude s.currentLatitude (1 / 10 ^ 5) && within s.newLongitude s.currentLongitude (1 / 10 ^ 5) &&
    within s.newAltitudeAmsl s.currentAltitudeAmsl 1

def landingTriggered (s : MissionManager P) : Bool :=
  s.flightMode = .land || (s.flightMode = .mission && s.landedState = .landing)

def underManualControl (s : MissionManager P) : Bool := s.flightMode.isManual

/-- The square root of the sum is below `0.5` exactly when the sum is below `0.25`. -/
def isSlow (s : MissionManager P) : Bool :=
  (s.currentVelX * s.currentVelX + s.currentVelY * s.currentVelY + s.currentVelZ * s.currentVelZ).lt (.ofRat (1 / 4))

def debounceCountRequired : ℕ := 10

/-- `is_stationary` with its debouncing: the answer and the counter. -/
def isStationary (s : MissionManager P) : Bool × MissionManager P :=
  if s.isSlow then
    let counter := s.isStationaryDebounceCounter + 1
    if debounceCountRequired ≤ counter then (true, { s with isStationaryDebounceCounter := 0 })
    else (false, { s with isStationaryDebounceCounter := counter })
  else (false, { s with isStationaryDebounceCounter := 0 })

/-- `landing_site_search_has_ended`. -/
def landingSiteSearchHasEnded (debug : String) (s : MissionManager P) : MissionManager P :=
  let s := s.setNewLocalWaypoint .nan .nan .nan
  let text := "Landing Site Search has ended" ++ if debug ≠ "" then " (" ++ debug ++ ")" else ""
  (s.emit (.searchEnded debug)).statusText .info text

end MissionManager

end AutopilotManager
