import AutopilotManager.Mission.Basic

/-!
# Mission.Decision — the decision loop

`handle_safe_landing`, `update_landing_site_search`, `handle_simple_collision_avoidance` and one iteration of
`decision_maker_run`, on the inputs one iteration reads.
-/

namespace AutopilotManager

open Lib

/-- What one iteration of the decision loop reads: the configuration, the two clocks, the state and the height of the
Landing Manager, the two distances of the collision avoidance, the landing parameters of the vehicle (`none` when
the request fails), and what the planner reads when it is started and updated. -/
structure TickInput (E : Type) where
  config : MissionManagerConfiguration
  now : ℤ
  rosNow : ℤ
  landingState : LandingMapperState
  heightAboveObstacle : Double
  distanceFinite : Double
  distanceCompared : Double
  paramLandSpeed : Option Double
  paramLandCrawl : Option Double
  paramLandAlt3 : Option Double
  onStart : E
  onUpdate : E

/-- The ground is bad: a landing under way is aborted. -/
def LandingMapperState.isBad : LandingMapperState → Bool
  | unhealthy | unknown | canNotLand => true
  | _ => false

namespace MissionManager

variable {P E : Type} (ext : Externals P E)

/-- A trajectory message came less than half a second before `rosNow`; clocks count nanoseconds. -/
def recentTrajectory (rosNow : ℤ) (s : MissionManager P) : Bool := rosNow - s.timeLastTraj < 500000000

/-- `update_obstacle_avoidance_status`. -/
def updateObstacleAvoidanceStatus (rosNow : ℤ) (s : MissionManager P) : MissionManager P :=
  if s.obstacleAvoidanceEnabled = s.recentTrajectory rosNow then s
  else { s with obstacleAvoidanceEnabled := s.recentTrajectory rosNow }

def getLocalPositionFromLocalOffset (offsetX offsetY : Double) (s : MissionManager P) : LocalCoordinate where
  northM := (ext.cos s.currentYaw * offsetX - ext.sin s.currentYaw * offsetY) + s.currentPosX
  eastM := (ext.sin s.currentYaw * offsetX + ext.cos s.currentYaw * offsetY) + s.currentPosY

def getGlobalPositionFromLocalPosition (localPosition : LocalCoordinate) (s : MissionManager P) : GlobalCoordinate :=
  ext.globalFromLocal ⟨s.refLatitude, s.refLongitude⟩ localPosition

def getGlobalPositionFromLocalOffset (offsetX offsetY : Double) (s : MissionManager P) : GlobalCoordinate :=
  s.getGlobalPositionFromLocalPosition ext (s.getLocalPositionFromLocalOffset ext offsetX offsetY)

def updateLandingSpeedConfig (i : TickInput E) (s : MissionManager P) : MissionManager P :=
  { s with
    landingSpeed := i.paramLandSpeed.getD s.landingSpeed
    landingCrawlSpeed := i.paramLandCrawl.getD s.landingCrawlSpeed
    landingCrawlAltitude := i.paramLandAlt3.getD s.landingCrawlAltitude }

/-! ### The actions when there is no safe landing -/

/-- `goto_location` with the waypoint remembered. -/
def goTo (lat lon altAmsl : Double) (s : MissionManager P) : MissionManager P :=
  (s.emit (.command (.gotoLocation lat lon altAmsl .nan))).setNewWaypoint lat lon altAmsl

def headingTo (lat lon altAmsl : Double) : String :=
  str lat ++ " deg, Longitude " ++ str lon ++ " deg, Altitude (AMSL) " ++ str altAmsl ++ " meters"

/-- The branch `MOVE_XYZ_WRT_CURRENT`. -/
def moveXyzWrtCurrent (s : MissionManager P) : MissionManager P :=
  if s.globalOriginReferenceSet then
    let waypoint := s.getGlobalPositionFromLocalOffset ext s.config.localPositionOffsetX s.config.localPositionOffsetY
    let altitude := s.currentAltitudeAmsl + s.config.localPositionOffsetZ
    (s.goTo waypoint.latitudeDeg waypoint.longitudeDeg altitude).statusText .info
      (out ++ "Moving XYZ WRT to current vehicle position triggered for Safe Landing. Heading to determined Latitude " ++
        headingTo waypoint.latitudeDeg waypoint.longitudeDeg altitude)
  else s.hold.statusText .warning (out ++ "Holding position...")

/-- The vehicle is where the configured waypoint is; the altitude is compared with a member that is never set. -/
def atConfiguredWaypoint (s : MissionManager P) : Bool :=
  within s.config.globalPositionWaypointLat s.currentLatitude (1 / 10 ^ 5) &&
    within s.config.globalPositionWaypointLon s.currentLongitude (1 / 10 ^ 5) &&
      within s.previouslySetWaypointAltitudeAmsl s.currentAltitudeAmsl 1

/-- The branch `GO_TO_WAYPOINT`. -/
def goToWaypoint (s : MissionManager P) : MissionManager P :=
  if s.atConfiguredWaypoint then
    s.returnToLaunch.statusText .warning
      (out ++ "Go-To Global Position Waypoint not triggered for Safe Landing, as the waypoint set is the same as the " ++
        "global position of the vehicle.RTL triggered instead...")
  else if s.globalOriginReferenceSet then
    let lat := s.config.globalPositionWaypointLat
    let lon := s.config.globalPositionWaypointLon
    let altAmsl := s.config.globalPositionWaypointAltAmsl
    (s.goTo lat lon altAmsl).statusText .info
      (out ++ "Go-To Global Position Waypoint triggered for Safe Landing. Heading to Latitude " ++
        headingTo lat lon altAmsl)
  else s.hold.statusText .warning (out ++ "Holding position...")

/-- The configuration of the planner for a search. -/
def landingPlannerConfig (c : MissionManagerConfiguration) : LandingPlannerConfig where
  maxDistance := c.landingSiteSearchMaxDistance
  minHeight := c.landingSiteSearchMinHeight
  -- read into a `float`
  maxHeight := c.safeLandingDistanceToGround.toFloat
  minDistanceAfterAbort := c.landingSiteSearchMinDistanceAfterAbort
  waypointArrivalRadius := c.landingSiteSearchArrivalRadius
  siteAssessTime := c.landingSiteSearchAssessTime
  searchStrategy := c.landingSiteSearchStrategy
  spiralSearchSpacing := c.landingSiteSearchSpiralSpacing
  spiralSearchPoints := c.landingSiteSearchSpiralPoints

/-- `startSearch` at the current position. -/
def startSearch (i : TickInput E) (s : MissionManager P) : MissionManager P :=
  let config := landingPlannerConfig s.config
  { s.emit (.startSearch config) with
    planner := ext.startSearch i.onStart s.currentPosX s.currentPosY s.currentYaw (-s.currentPosZ) config s.planner }

/-- The branch `LANDING_SITE_SEARCH`. -/
def landingSiteSearch (i : TickInput E) (s : MissionManager P) : MissionManager P :=
  if s.globalOriginReferenceSet && s.obstacleAvoidanceEnabled then
    let s := s.statusText .warning "Starting Landing Site Search"
    let s := s.updateLandingSpeedConfig i
    let s := s.startSearch ext i
    if ext.isActive s.planner then s.goToNewLocalWaypoint (ext.getCurrentWaypoint s.planner)
    else
      (s.hold.landingSiteSearchHasEnded "NSC").statusText .warning
        (out ++ "Landing planner could not start. Holding position...")
  else if !s.globalOriginReferenceSet then
    (s.hold.landingSiteSearchHasEnded "No GO").statusText .error
      (out ++ "Global position reference not set. Holding position...")
  else if !s.obstacleAvoidanceEnabled then
    (s.hold.landingSiteSearchHasEnded "No OA").statusText .error
      (out ++ "Landing planner could not start. No OA active in PX4. Holding position...")
  else s

/-- The branches of actions that safe landing does not support. -/
def holdUnsupported (action : String) (s : MissionManager P) : MissionManager P :=
  s.hold.statusText .warning
    (out ++ action ++ " action currently not supported for Safe Landing. Holding position...")

/-- The dispatch on `safe_landing_on_no_safe_land`; another text does nothing. -/
def onNoSafeLand (i : TickInput E) (s : MissionManager P) : MissionManager P :=
  let action := s.config.safeLandingOnNoSafeLand
  if action = "HOLD" then s.hold.statusText .info (out ++ "Position hold triggered for Safe Landing")
  else if action = "RTL" then s.returnToLaunch.statusText .info (out ++ "RTL triggered for Safe Landing")
  else if action = "MOVE_XYZ_WRT_CURRENT" then s.moveXyzWrtCurrent ext
  else if action = "LANDING_SITE_SEARCH" then s.landingSiteSearch ext i
  else if action = "GO_TO_WAYPOINT_XYZ" then s.holdUnsupported "GO_TO_WAYPOINT_XYZ"
  else if action = "MOVE_LLA_WRT_CURRENT" then s.holdUnsupported "MOVE_LLA_WRT_CURRENT"
  else if action = "GO_TO_WAYPOINT" then s.goToWaypoint
  else if action = "SCRIPT_CALL" then s.holdUnsupported "SCRIPT_CALL"
  else if action = "API_CALL" then s.holdUnsupported "API_CALL"
  else s

/-! ### The trigger -/

/-- `height_above_obstacle > 1.5`. -/
def isAbove (height : Double) : Bool := (Double.ofRat (3 / 2)).lt height

def unhealthyAndAbove (i : TickInput E) : Bool := i.landingState = .unhealthy && isAbove i.heightAboveObstacle

def shouldTriggerSafeLanding (i : TickInput E) : Bool :=
  i.landingState = .canNotLand || (i.landingState = .unknown && isAbove i.heightAboveObstacle)

def actionTriggered (now : ℤ) (s : MissionManager P) : MissionManager P :=
  { s with actionInProgress := true, lastTime := now }

/-- The first half of `handle_safe_landing`: start an action when a landing is triggered on bad ground. -/
def triggerSafeLanding (i : TickInput E) (s : MissionManager P) : MissionManager P :=
  if !s.actionInProgress && s.landingTriggered then
    if unhealthyAndAbove i then
      (s.hold.statusText .warning (out ++ "Safe landing system not healthy. Holding position...")).actionTriggered i.now
    else if shouldTriggerSafeLanding i then (s.onNoSafeLand ext i).actionTriggered i.now
    else s
  else s

/-! ### Active actions -/

/-- `update_landing_site_search`, step 1: decide what to do. -/
def decideSearch (i : TickInput E) (s : MissionManager P) : MissionManager P :=
  if ext.shouldLand s.planner then
    if i.landingState.isBad then
      let s := s.statusText .info (out ++ "Aborting landing at candidate site")
      { s with planner := ext.abortLanding i.onUpdate (-s.currentPosZ) i.heightAboveObstacle s.planner }
    else s
  else
    let (isStationary, s) := s.isStationary
    { s with
      planner := ext.updateSearch i.onUpdate s.currentPosX s.currentPosY (-s.currentPosZ) i.heightAboveObstacle
        isStationary i.landingState s.planner }

/-- `update_landing_site_search`, step 3: restore the flight configuration if the search has ended. -/
def restoreIfEnded (s : MissionManager P) : MissionManager P :=
  if ext.isEnded s.planner then s.landingSiteSearchHasEnded "END" else s

/-- `update_landing_site_search`, step 2: send commands to the vehicle. -/
def commandSearch (shouldInitiateLanding landWhenFoundSite : Bool) (s : MissionManager P) : MissionManager P :=
  if shouldInitiateLanding then
    if landWhenFoundSite then (s.statusText .info (out ++ "Landing site found. Landing...")).restoreIfEnded ext
    else
      let s := s.hold
      let s := { s with planner := ext.endSearch s.planner }
      (s.statusText .info (out ++ "Landing site found. Holding position...")).restoreIfEnded ext
  else if ext.isEnded s.planner then
    (s.hold.statusText .info (out ++ "End of landing site search. Holding position...")).restoreIfEnded ext
  else if ext.waypointUpdated s.planner then
    (s.goToNewLocalWaypoint (ext.getCurrentWaypoint s.planner)).restoreIfEnded ext
  else s

/-- `update_landing_site_search`. -/
def updateLandingSiteSearch (i : TickInput E) (landWhenFoundSite : Bool) (s : MissionManager P) : MissionManager P :=
  let busyLanding := ext.shouldLand s.planner
  let s := s.decideSearch ext i
  s.commandSearch ext (!busyLanding && ext.shouldLand s.planner) landWhenFoundSite

/-- An active search ends: on the ground, under manual control, in return-to-launch, or without obstacle avoidance. -/
def endLandingSiteSearch (s : MissionManager P) : MissionManager P :=
  let onGround := s.landedState = .onGround || s.landedState = .takingOff
  let manualControl := s.underManualControl
  let rtlActive := s.flightMode = .returnToLaunch
  let s := { s with planner := ext.endSearch s.planner }
  if onGround then s.landingSiteSearchHasEnded "OG"
  else if manualControl then s.landingSiteSearchHasEnded "MAN"
  else if rtlActive then s.landingSiteSearchHasEnded "RTL"
  else
    (s.hold.statusText .error "OA not active on PX4. Cancelling safe landing and holding position.")
      |>.landingSiteSearchHasEnded "No OA"

def shouldEndLandingSiteSearch (s : MissionManager P) : Bool :=
  s.landedState = .onGround || s.landedState = .takingOff || s.underManualControl ||
    s.flightMode = .returnToLaunch || !s.obstacleAvoidanceEnabled

/-- All three coordinates of the waypoint are finite. -/
def waypointPending (s : MissionManager P) : Bool :=
  s.newLatitude.isFinite && s.newLongitude.isFinite && s.newAltitudeAmsl.isFinite

/-- The arrival branch: land at the waypoint and forget it. -/
def landAtWaypoint (s : MissionManager P) : MissionManager P :=
  let s := s.emit (.arrived s.newLatitude s.newLongitude s.newAltitudeAmsl)
  (s.emit (.command .land)).setNewWaypoint .nan .nan .nan

/-- The second half of `handle_safe_landing`. -/
def processActiveActions (i : TickInput E) (s : MissionManager P) : MissionManager P :=
  let tryLandingAfterAction : Bool := s.config.safeLandingTryLandingAfterAction ≠ 0
  if ext.isActive s.planner then
    let s :=
      if s.shouldEndLandingSiteSearch then s.endLandingSiteSearch ext
      else s.updateLandingSiteSearch ext i tryLandingAfterAction
    { s with lastTime := i.now }
  else if ext.isEnded s.planner && s.landedState = .takingOff then { s with planner := ext.reset s.planner }
  else if s.waypointPending && s.arrivedToNewWaypoint && tryLandingAfterAction then s.landAtWaypoint
  else s

/-! ### The iteration -/

/-- `handle_safe_landing`. -/
def handleSafeLanding (i : TickInput E) (s : MissionManager P) : MissionManager P :=
  let s := s.updateObstacleAvoidanceStatus i.rosNow
  if s.config.safeLandingEnabled = 0 || !s.obstacleAvoidanceEnabled then
    if ext.isActive s.planner then
      let s := { s with planner := ext.endSearch s.planner }
      s.hold.landingSiteSearchHasEnded "DISABLED"
    else s
  else (s.triggerSafeLanding ext i).processActiveActions ext i

/-- The dispatch on `simple_collision_avoid_action_on_condition_true`. -/
def onObstacle (s : MissionManager P) : MissionManager P :=
  let action := s.config.simpleCollisionAvoidActionOnConditionTrue
  if action = "HOLD" then s.hold
  else if action = "RTL" then s.returnToLaunch
  else if action = "MOVE_XYZ_WRT_CURRENT" then s.hold
  else if action = "GO_TO_WAYPOINT_XYZ" then s.hold
  else if action = "MOVE_LLA_WRT_CURRENT" then s.hold
  else if action = "GO_TO_WAYPOINT" then s.hold
  else if action = "LAND" then s.emit (.command .land)
  else if action = "SCRIPT_CALL" then s.hold
  else if action = "API_CALL" then s.hold
  else s

/-- `handle_simple_collision_avoidance`. -/
def handleSimpleCollisionAvoidance (i : TickInput E) (s : MissionManager P) : MissionManager P :=
  if s.config.simpleCollisionAvoidEnabled ≠ 0 then
    let inAir := s.landedState = .inAir
    if i.distanceFinite.isFinite && i.distanceCompared.le s.config.simpleCollisionAvoidDistanceThreshold &&
        inAir && !s.actionInProgress then
      s.onObstacle.actionTriggered i.now
    else s
  else s

/-- Five seconds after an action: `now - _last_time`, truncated to milliseconds. -/
def actionTimeout (now : ℤ) (s : MissionManager P) : MissionManager P :=
  if s.actionInProgress && 5000 ≤ (now - s.lastTime).tdiv 1000000 then { s with actionInProgress := false } else s

/-- The decision of one iteration, by decision maker. -/
def makeDecision (i : TickInput E) (s : MissionManager P) : MissionManager P :=
  if s.config.decisionMakerInputType = "SAFE_LANDING" then
    let s := s.handleSafeLanding ext i
    { s with isHealthy := s.obstacleAvoidanceEnabled || s.underManualControl }
  else if s.config.decisionMakerInputType = "SIMPLE_COLLISION_AVOIDANCE" then s.handleSimpleCollisionAvoidance i
  else s

/-- One iteration of `decision_maker_run`. -/
def decisionMakerRun (i : TickInput E) (s : MissionManager P) : MissionManager P :=
  let s := { s with config := i.config }
  if s.config.autopilotManagerEnabled ≠ 0 then (s.makeDecision ext i).actionTimeout i.now else s

end MissionManager

end AutopilotManager
