import AutopilotManager.Config.File

/-!
# Config.Modules — the configuration of the modules

What the configuration callbacks hand to the Mission Manager, the Landing Manager and the Collision Avoidance
Manager: copies of the live members.
-/

namespace AutopilotManager

open Lib

structure MissionManagerConfiguration where
  autopilotManagerEnabled : UInt8 := 0
  decisionMakerInputType : String := ""
  scriptToCall : String := ""
  apiCall : String := ""
  localPositionOffsetX : Double := 0
  localPositionOffsetY : Double := 0
  localPositionOffsetZ : Double := 0
  localPositionWaypointX : Double := 0
  localPositionWaypointY : Double := 0
  localPositionWaypointZ : Double := 0
  globalPositionOffsetLat : Double := 0
  globalPositionOffsetLon : Double := 0
  globalPositionOffsetAltAmsl : Double := 0
  globalPositionWaypointLat : Double := 0
  globalPositionWaypointLon : Double := 0
  globalPositionWaypointAltAmsl : Double := 0
  safeLandingEnabled : UInt8 := 0
  safeLandingDistanceToGround : Double := 0
  safeLandingOnNoSafeLand : String := ""
  safeLandingTryLandingAfterAction : UInt8 := 0
  landingSiteSearchSpeed : Double := 0
  landingSiteSearchMaxDistance : Double := 0
  landingSiteSearchMinHeight : Double := 0
  landingSiteSearchMinDistanceAfterAbort : Double := 0
  landingSiteSearchArrivalRadius : Double := 0
  landingSiteSearchAssessTime : Double := 0
  landingSiteSearchStrategy : String := ""
  landingSiteSearchSpiralSpacing : Double := 0
  landingSiteSearchSpiralPoints : Int32 := 0
  simpleCollisionAvoidEnabled : UInt8 := 0
  simpleCollisionAvoidDistanceThreshold : Double := 0
  simpleCollisionAvoidActionOnConditionTrue : String := ""
  deriving DecidableEq

structure LandingManagerConfiguration where
  autopilotManagerEnabled : UInt8 := 0
  safeLandingEnabled : UInt8 := 0
  safeLandingAreaSquareSize : Double := 0
  safeLandingDistanceToGround : Double := 0
  deriving DecidableEq

structure CollisionAvoidanceManagerConfiguration where
  autopilotManagerEnabled : UInt8 := 0
  simpleCollisionAvoidEnabled : UInt8 := 0
  deriving DecidableEq

/-- The callback of the Mission Manager over the live members. -/
def missionManagerConfig (live : AutopilotManagerConfig) : MissionManagerConfiguration where
  autopilotManagerEnabled := live.autopilotManagerEnabled
  decisionMakerInputType := live.decisionMakerInputType
  scriptToCall := live.scriptToCall
  apiCall := live.apiCall
  localPositionOffsetX := live.localPositionOffsetX
  localPositionOffsetY := live.localPositionOffsetY
  localPositionOffsetZ := live.localPositionOffsetZ
  localPositionWaypointX := live.localPositionWaypointX
  localPositionWaypointY := live.localPositionWaypointY
  localPositionWaypointZ := live.localPositionWaypointZ
  globalPositionOffsetLat := live.globalPositionOffsetLat
  globalPositionOffsetLon := live.globalPositionOffsetLon
  globalPositionOffsetAltAmsl := live.globalPositionOffsetAltAmsl
  globalPositionWaypointLat := live.globalPositionWaypointLat
  globalPositionWaypointLon := live.globalPositionWaypointLon
  globalPositionWaypointAltAmsl := live.globalPositionWaypointAltAmsl
  safeLandingEnabled := live.safeLandingEnabled
  safeLandingDistanceToGround := live.safeLandingDistanceToGround
  safeLandingOnNoSafeLand := live.safeLandingOnNoSafeLand
  safeLandingTryLandingAfterAction := live.safeLandingTryLandingAfterAction
  landingSiteSearchSpeed := live.landingSiteSearchSpeed
  landingSiteSearchMaxDistance := live.landingSiteSearchMaxDistance
  landingSiteSearchMinHeight := live.landingSiteSearchMinHeight
  landingSiteSearchMinDistanceAfterAbort := live.landingSiteSearchMinDistanceAfterAbort
  landingSiteSearchArrivalRadius := live.landingSiteSearchArrivalRadius
  landingSiteSearchAssessTime := live.landingSiteSearchAssessTime
  landingSiteSearchStrategy := live.landingSiteSearchStrategy
  landingSiteSearchSpiralSpacing := live.landingSiteSearchSpiralSpacing
  landingSiteSearchSpiralPoints := live.landingSiteSearchSpiralPoints
  simpleCollisionAvoidEnabled := live.simpleCollisionAvoidEnabled
  simpleCollisionAvoidDistanceThreshold := live.simpleCollisionAvoidDistanceThreshold
  simpleCollisionAvoidActionOnConditionTrue := live.simpleCollisionAvoidActionOnConditionTrue

def landingManagerConfig (live : AutopilotManagerConfig) : LandingManagerConfiguration where
  autopilotManagerEnabled := live.autopilotManagerEnabled
  safeLandingEnabled := live.safeLandingEnabled
  safeLandingAreaSquareSize := live.safeLandingAreaSquareSize
  safeLandingDistanceToGround := live.safeLandingDistanceToGround

def collisionAvoidanceManagerConfig (live : AutopilotManagerConfig) : CollisionAvoidanceManagerConfiguration where
  autopilotManagerEnabled := live.autopilotManagerEnabled
  simpleCollisionAvoidEnabled := live.simpleCollisionAvoidEnabled

end AutopilotManager
