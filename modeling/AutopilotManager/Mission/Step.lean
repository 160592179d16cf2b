import AutopilotManager.Mission.Decision
import AutopilotManager.Lib.Transition

/-!
# Mission.Step — callbacks, trajectory messages and the steps of the module

The callbacks of the telemetry, the origin thread, `on_mavlink_trajectory_message`, and the module as a machine: one
step is one complete call of one of these or one iteration of the decision loop.
-/

namespace AutopilotManager

open Lib

/-- What `get_gps_global_origin` returns. -/
inductive GpsGlobalOrigin
  | success (latitudeDeg longitudeDeg altitudeM : Double)
  | timeout
  | failed

/-- A trajectory message from the vehicle: the component that sent it, the points, and what answering it reads (the
clock and the height of the Landing Manager). -/
structure TrajectoryInput where
  compid : UInt8
  message : TrajectoryWaypoints
  rosNow : ℤ
  heightAboveObstacle : Double

namespace MissionManager

variable {P E : Type} (ext : Externals P E)

/-! ### Telemetry -/

def expectingAutoTakeoff (s : MissionManager P) : Bool := s.flightMode = .mission || s.flightMode = .takeoff

def isTakingOff (s : MissionManager P) : Bool := s.landedState = .onGround || s.landedState = .takingOff

/-- The reset in `flight_mode_callback`. -/
def resetPlanner (s : MissionManager P) : MissionManager P :=
  let s :=
    if ext.isActive s.planner then
      let s := { s with planner := ext.endSearch s.planner }
      s.landingSiteSearchHasEnded "MODE"
    else s
  { s with planner := ext.reset s.planner }

/-- `flight_mode_callback`: reset safe landing on new flights or when in manual control. -/
def flightModeCallback (mode : FlightMode) (s : MissionManager P) : MissionManager P :=
  let s := s.emit (.flightModeCallback mode)
  if mode ≠ s.flightMode then
    let s := { s with flightMode := mode }
    if (s.isTakingOff && s.expectingAutoTakeoff) || s.underManualControl then s.resetPlanner ext else s
  else s

def landedStateCallback (landedState : LandedState) (s : MissionManager P) : MissionManager P :=
  if landedState ≠ s.landedState then { s with previousLandedState := s.landedState, landedState := landedState }
  else s

def positionCallback (latitudeDeg longitudeDeg absoluteAltitudeM : Double) (s : MissionManager P) :
    MissionManager P :=
  { s with
    currentLatitude := latitudeDeg
    currentLongitude := longitudeDeg
    currentAltitudeAmsl := absoluteAltitudeM }

def positionVelocityCallback (northM eastM downM northMS eastMS downMS : Double) (s : MissionManager P) :
    MissionManager P :=
  { s with
    currentPosX := northM
    currentPosY := eastM
    currentPosZ := downM
    currentVelX := northMS
    currentVelY := eastMS
    currentVelZ := downMS }

/-- The double nearest to `π`. -/
def mPi : ℚ := 884279719003555 / 281474976710656

def attitudeCallback (yawDeg : Double) (s : MissionManager P) : MissionManager P :=
  { s with currentYaw := (yawDeg * .ofRat mPi).divConst 180 }

/-- One round of `set_global_position_reference`. -/
def setGlobalPositionReference (result : GpsGlobalOrigin) (s : MissionManager P) : MissionManager P :=
  match result with
  | .success lat lon alt =>
    let valid := !lat.eq 0 && !lon.eq 0
    let changed := !s.refLatitude.eq lat || !s.refLongitude.eq lon || !s.refAltitude.eq alt
    if valid && changed then
      let s := { s with refLatitude := lat, refLongitude := lon, refAltitude := alt }
      let text := out ++ "Global position reference set: Latitude: " ++ str lat ++ " deg | Longitude: " ++ str lon ++
        " deg | Altitude (AMSL): " ++ str alt ++ " meters"
      { s.statusText .info text with globalOriginReferenceSet := true }
    else s
  | .timeout => s
  | .failed => s

/-! ### Trajectory messages -/

/-- The landing setpoint: down at the landing speed over a fixed position. -/
def landMessage (i : TrajectoryInput) (s : MissionManager P) : TrajectoryWaypoints :=
  let landVelocity :=
    if i.heightAboveObstacle.lt s.landingCrawlAltitude then s.landingCrawlSpeed.toFloat else s.landingSpeed.toFloat
  { i.message with
    validPoints := 1
    first := { i.message.first with
      posX := s.newX.toFloat
      posY := s.newY.toFloat
      posZ := .nan
      posYaw := s.newYaw
      velX := .nan
      velY := .nan
      velZ := landVelocity } }

/-- Product and sum of `float`s. -/
def mulF (x y : Double) : Double := (x * y).toFloat
def addF (x y : Double) : Double := (x + y).toFloat

def smoothingFactor : Double := (Double.ofRat (9 / 10)).toFloat
def invSmoothingFactor : Double := (1 - smoothingFactor).toFloat

/-- The velocity of a search setpoint before smoothing. -/
def velNew (s : MissionManager P) : Double × Double :=
  let velScale := s.config.landingSiteSearchSpeed.toFloat
  let v := ext.normalized ((s.currentPosX - s.newX).toFloat, (s.currentPosY - s.newY).toFloat)
  (mulF v.1 velScale, mulF v.2 velScale)

/-- The smoothed velocity; the first call starts from the new velocity. -/
def smoothedVel (s : MissionManager P) : Double × Double :=
  let velNew := s.velNew ext
  let vel := s.vel.getD velNew
  (addF (mulF vel.1 smoothingFactor) (mulF velNew.1 invSmoothingFactor),
    addF (mulF vel.2 smoothingFactor) (mulF velNew.2 invSmoothingFactor))

/-- The setpoint that follows the search pattern: a horizontal velocity at the search altitude. -/
def searchMessage (i : TrajectoryInput) (vel : Double × Double) (s : MissionManager P) : TrajectoryWaypoints :=
  { i.message with
    validPoints := 1
    first := { i.message.first with
      posX := .nan
      posY := .nan
      posZ := (-ext.getSearchAltitude s.planner).toFloat
      posYaw := s.newYaw
      velX := -vel.1
      velY := -vel.2
      velZ := .nan } }

/-- The override has a finite waypoint. -/
def isPosValid (s : MissionManager P) : Bool := s.newX.isFinite && s.newY.isFinite && s.newYaw.isFinite

/-- `on_mavlink_trajectory_message`. -/
def onMavlinkTrajectoryMessage (i : TrajectoryInput) (s : MissionManager P) : MissionManager P :=
  if i.compid = mavCompIdObstacleAvoidance then s
  else
    let s := { s with timeLastTraj := i.rosNow }
    if ext.isActive s.planner && s.isPosValid then
      if ext.shouldLand s.planner then s.emit (.sent .land (s.landMessage i))
      else
        let vel := s.smoothedVel ext
        let s := { s with vel := some vel }
        s.emit (.sent .search (s.searchMessage ext i vel))
    else s.emit (.sent .forwarded i.message)

end MissionManager

/-! ### The machine -/

/-- One atomic step of the module. -/
inductive MissionInput (E : Type)
  | tick (i : TickInput E)
  | flightMode (mode : FlightMode)
  | landedState (landedState : LandedState)
  | position (latitudeDeg longitudeDeg absoluteAltitudeM : Double)
  | positionVelocity (northM eastM downM northMS eastMS downMS : Double)
  | attitude (yawDeg : Double)
  | gpsGlobalOrigin (result : GpsGlobalOrigin)
  | trajectory (i : TrajectoryInput)

namespace MissionManager

variable {P E : Type} (ext : Externals P E)

def step (s : MissionManager P) : MissionInput E → MissionManager P
  | .tick i => s.decisionMakerRun ext i
  | .flightMode mode => s.flightModeCallback ext mode
  | .landedState landedState => s.landedStateCallback landedState
  | .position lat lon alt => s.positionCallback lat lon alt
  | .positionVelocity n e d vn ve vd => s.positionVelocityCallback n e d vn ve vd
  | .attitude yawDeg => s.attitudeCallback yawDeg
  | .gpsGlobalOrigin result => s.setGlobalPositionReference result
  | .trajectory i => s.onMavlinkTrajectoryMessage ext i

end MissionManager

/-- What the constructor does not set: uninitialised members and the two clocks. -/
structure Boot where
  refLatitude : Double
  refLongitude : Double
  refAltitude : Double
  currentPosX : Double
  currentPosY : Double
  currentPosZ : Double
  currentVelX : Double
  currentVelY : Double
  currentVelZ : Double
  currentYaw : Double
  now : ℤ
  rosNow : ℤ

namespace MissionManager

/-- The state in which the decision loop starts. -/
def initial {P E : Type} (ext : Externals P E) (boot : Boot) : MissionManager P where
  refLatitude := boot.refLatitude
  refLongitude := boot.refLongitude
  refAltitude := boot.refAltitude
  currentPosX := boot.currentPosX
  currentPosY := boot.currentPosY
  currentPosZ := boot.currentPosZ
  currentVelX := boot.currentVelX
  currentVelY := boot.currentVelY
  currentVelZ := boot.currentVelZ
  currentYaw := boot.currentYaw
  planner := ext.initial
  lastTime := boot.now
  timeLastTraj := boot.rosNow

end MissionManager

end AutopilotManager
