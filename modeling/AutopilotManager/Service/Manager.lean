import AutopilotManager.Service.Message

/-!
# Service.Manager — the configuration service of the Autopilot Manager

`SetConfiguration`, `GetConfiguration`, `initialProvisioning` and `HandleRequest`.  The live members of the manager
have the types and defaults of the members of the configuration object.
-/

namespace AutopilotManager

open Lib AutopilotManagerConfig

inductive ResponseCode
  | succeedWithSafeLandingOff
  | succeedWithSafeLandingOn
  | succeedWithCollAvoidOff
  | succeedWithCollAvoidOn
  | failed
  | unknown
  deriving DecidableEq

def ResponseCode.code : ResponseCode → UInt32
  | succeedWithSafeLandingOff => 0
  | succeedWithSafeLandingOn => 1
  | succeedWithCollAvoidOff => 2
  | succeedWithCollAvoidOn => 3
  | failed => 4
  | unknown => 999

/-- The code both configuration functions return for their members. -/
def responseCode (c : AutopilotManagerConfig) : ResponseCode :=
  if c.decisionMakerInputType = "SAFE_LANDING" then
    if c.safeLandingEnabled = 0 then .succeedWithSafeLandingOff else .succeedWithSafeLandingOn
  else if c.decisionMakerInputType = "SIMPLE_COLLISION_AVOIDANCE" then
    if c.simpleCollisionAvoidEnabled = 0 then .succeedWithCollAvoidOff else .succeedWithCollAvoidOn
  else .unknown

/-- `SetConfiguration`: the live members after it and its code. -/
def setConfiguration (config : AutopilotManagerConfig) : AutopilotManagerConfig × ResponseCode :=
  let live : AutopilotManagerConfig := {
    autopilotManagerEnabled := config.autopilotManagerEnabled
    decisionMakerInputType := config.decisionMakerInputType
    scriptToCall := config.scriptToCall
    apiCall := config.apiCall
    localPositionOffsetX := config.localPositionOffsetX
    localPositionOffsetY := config.localPositionOffsetY
    localPositionOffsetZ := config.localPositionOffsetZ
    localPositionWaypointX := config.localPositionWaypointX
    localPositionWaypointY := config.localPositionWaypointY
    localPositionWaypointZ := config.localPositionWaypointZ
    globalPositionOffsetLat := config.globalPositionOffsetLat
    globalPositionOffsetLon := config.globalPositionOffsetLon
    globalPositionOffsetAltAmsl := config.globalPositionOffsetAltAmsl
    globalPositionWaypointLat := config.globalPositionWaypointLat
    globalPositionWaypointLon := config.globalPositionWaypointLon
    globalPositionWaypointAltAmsl := config.globalPositionWaypointAltAmsl
    cameraOffsetX := config.cameraOffsetX
    cameraOffsetY := config.cameraOffsetY
    cameraYaw := config.cameraYaw
    safeLandingEnabled := config.safeLandingEnabled
    safeLandingAreaSquareSize := config.safeLandingAreaSquareSize
    safeLandingDistanceToGround := config.safeLandingDistanceToGround
    safeLandingOnNoSafeLand := config.safeLandingOnNoSafeLand
    safeLandingTryLandingAfterAction := config.safeLandingTryLandingAfterAction
    landingSiteSearchSpeed := config.landingSiteSearchSpeed
    landingSiteSearchMaxDistance := config.landingSiteSearchMaxDistance
    landingSiteSearchMinHeight := config.landingSiteSearchMinHeight
    landingSiteSearchMinDistanceAfterAbort := config.landingSiteSearchMinDistanceAfterAbort
    landingSiteSearchArrivalRadius := config.landingSiteSearchArrivalRadius
    landingSiteSearchAssessTime := config.landingSiteSearchAssessTime
    landingSiteSearchStrategy := config.landingSiteSearchStrategy
    landingSiteSearchSpiralSpacing := config.landingSiteSearchSpiralSpacing
    landingSiteSearchSpiralPoints := config.landingSiteSearchSpiralPoints
    simpleCollisionAvoidEnabled := config.simpleCollisionAvoidEnabled
    simpleCollisionAvoidDistanceThreshold := config.simpleCollisionAvoidDistanceThreshold
    simpleCollisionAvoidActionOnConditionTrue := config.simpleCollisionAvoidActionOnConditionTrue }
  (live, responseCode live)

/-- `GetConfiguration`.  Its argument is a copy: the caller sees the code only. -/
def getConfiguration (live _config : AutopilotManagerConfig) : ResponseCode :=
  let config : AutopilotManagerConfig := {
    autopilotManagerEnabled := live.autopilotManagerEnabled
    decisionMakerInputType := live.decisionMakerInputType
    scriptToCall := live.scriptToCall
    apiCall := live.apiCall
    localPositionOffsetX := live.localPositionOffsetX
    localPositionOffsetY := live.localPositionOffsetY
    localPositionOffsetZ := live.localPositionOffsetZ
    localPositionWaypointX := live.localPositionWaypointX
    localPositionWaypointY := live.localPositionWaypointY
    localPositionWaypointZ := live.localPositionWaypointZ
    globalPositionOffsetLat := live.globalPositionOffsetLat
    globalPositionOffsetLon := live.globalPositionOffsetLon
    globalPositionOffsetAltAmsl := live.globalPositionOffsetAltAmsl
    globalPositionWaypointLat := live.globalPositionWaypointLat
    globalPositionWaypointLon := live.globalPositionWaypointLon
    globalPositionWaypointAltAmsl := live.globalPositionWaypointAltAmsl
    cameraOffsetX := live.cameraOffsetX
    cameraOffsetY := live.cameraOffsetY
    cameraYaw := live.cameraYaw
    safeLandingEnabled := live.safeLandingEnabled
    safeLandingAreaSquareSize := live.safeLandingAreaSquareSize
    safeLandingDistanceToGround := live.safeLandingDistanceToGround
    safeLandingOnNoSafeLand := live.safeLandingOnNoSafeLand
    safeLandingTryLandingAfterAction := live.safeLandingTryLandingAfterAction
    landingSiteSearchSpeed := live.landingSiteSearchSpeed
    landingSiteSearchMaxDistance := live.landingSiteSearchMaxDistance
    landingSiteSearchMinHeight := live.landingSiteSearchMinHeight
    landingSiteSearchMinDistanceAfterAbort := live.landingSiteSearchMinDistanceAfterAbort
    landingSiteSearchArrivalRadius := live.landingSiteSearchArrivalRadius
    landingSiteSearchAssessTime := live.landingSiteSearchAssessTime
    landingSiteSearchStrategy := live.landingSiteSearchStrategy
    landingSiteSearchSpiralSpacing := live.landingSiteSearchSpiralSpacing
    landingSiteSearchSpiralPoints := live.landingSiteSearchSpiralPoints
    simpleCollisionAvoidEnabled := live.simpleCollisionAvoidEnabled
    simpleCollisionAvoidDistanceThreshold := live.simpleCollisionAvoidDistanceThreshold
    simpleCollisionAvoidActionOnConditionTrue := live.simpleCollisionAvoidActionOnConditionTrue }
  responseCode config

/-- The state of the service: the live members and the files. -/
structure Service where
  live : AutopilotManagerConfig := {}
  files : Files

/-- What happens around one request: whether a reply can be allocated, the padding found in a fresh configuration
object, the file system. -/
structure Surroundings where
  replies : Bool
  padding : Padding
  disk : Disk

def interfaceName : String := "com.auterion.autopilot_manager.interface"

/-- `dbus_message_is_method_call`. -/
def Message.isMethodCall (request : Message) (method : String) : Bool :=
  request.interface = interfaceName ∧ request.member = method

/-- `HandleRequest`: the service after the request and the reply. -/
def handleRequest (configPath : String) (request : Message) (env : Surroundings) (s : Service) :
    Except StdException (Service × Option (List Arg)) :=
  if request.isMethodCall "get_config" then
    if env.replies then
      match initFromFile configPath s.files {} with
      | .error (e, _) => .error e
      | .ok (_, config) =>
        let code := getConfiguration s.live config
        let reply := (appendToMessage ⟨config, env.padding⟩ (some [])).2
        .ok (s, reply.map (· ++ [.uint32 code.code]))
    else .ok (s, none)
  else if request.isMethodCall "set_config" then
    if env.replies then
      match initFromMessage (some request) ⟨{}, env.padding⟩ with
      | (true, o) =>
        let (live, code) := setConfiguration o.config
        -- the result of the write is not looked at
        let files := (o.config.writeToFile configPath env.disk s.files).2
        let reply := (appendToMessage o (some [])).2
        .ok (⟨live, files⟩, reply.map (· ++ [.uint32 code.code]))
      | (false, o) =>
        let reply := (appendToMessage o (some [])).2
        .ok (s, reply.map (· ++ [.uint32 ResponseCode.failed.code]))
    else .ok (s, none)
  else .ok (s, none)

/-- `initialProvisioning`. -/
def initialProvisioning (configPath : String) (s : Service) : Except StdException Service :=
  match initFromFile configPath s.files {} with
  | .error (e, _) => .error e
  | .ok (true, config) => .ok { s with live := (setConfiguration config).1 }
  | .ok (false, _) => .ok s

/-- An accepted `set_config` request: the decoded object goes into the live members and to the file. -/
theorem handleRequest_setConfig {configPath : String} {request : Message} {env : Surroundings} {s : Service}
    (hset : request.isMethodCall "set_config") (hreply : env.replies) {m : ConfigMessage} {rest : List Arg}
    (hargs : request.args = m.args ++ rest) :
    handleRequest configPath request env s =
      .ok (⟨m.config, (m.config.writeToFile configPath env.disk s.files).2⟩,
        some (appended ⟨m.config, m.padding⟩ ++ [.uint32 (responseCode m.config).code])) := by
  have hget : request.isMethodCall "get_config" = false := by
    rw [Message.isMethodCall, decide_eq_true_eq] at hset
    simp [Message.isMethodCall, hset.2]
  have hdecode : initFromMessage (some request) ⟨{}, env.padding⟩ = (true, ⟨m.config, m.padding⟩) := by
    rw [initFromMessage, hargs, getArgs_args]
  rw [handleRequest, hget, if_neg (by simp), if_pos hset, if_pos hreply, hdecode]
  rfl

end AutopilotManager
