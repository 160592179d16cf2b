import AutopilotManager.Lib.Numerals
import AutopilotManager.Lib.Text

/-!
# Config.Basic — the configuration object and its file tables

`AutopilotManagerConfig` with its defaults, the list `WriteToFile` prints (`writers`) and the list of tests
`InitFromFile` makes on each line (`readers`), each in the order of the source.  The two lists are kept apart
from each other and from the list of the members: how far they agree is a matter of proof.
-/

namespace AutopilotManager

open Lib

/-- `AutopilotManagerConfig`, with the defaults of its members. -/
structure AutopilotManagerConfig where
  autopilotManagerEnabled : UInt8 := 0
  decisionMakerInputType : String := ""
  scriptToCall : String := ""
  apiCall : String := ""
  localPositionOffsetX : Double := 0
  localPositionOffsetY : Double := 0
  localPositionOffsetZ : Double := 0
  localPositionWaypointX : Double := 0
  localPositionWaypointY : Double := 0
  localPositionWaypointZ : Double := 0
  globalPositionOffsetLat : Double := 0
  globalPositionOffsetLon : Double := 0
  globalPositionOffsetAltAmsl : Double := 0
  globalPositionWaypointLat : Double := 0
  globalPositionWaypointLon : Double := 0
  globalPositionWaypointAltAmsl : Double := 0
  cameraOffsetX : Double := 0
  cameraOffsetY : Double := 0
  cameraYaw : Double := 0
  safeLandingEnabled : UInt8 := 0
  safeLandingAreaSquareSize : Double := 0
  safeLandingDistanceToGround : Double := 0
  safeLandingOnNoSafeLand : String := ""
  safeLandingTryLandingAfterAction : UInt8 := 0
  landingSiteSearchSpeed : Double := 0
  landingSiteSearchMaxDistance : Double := 0
  landingSiteSearchMinHeight : Double := 0
  landingSiteSearchMinDistanceAfterAbort : Double := 0
  landingSiteSearchArrivalRadius : Double := 0
  landingSiteSearchAssessTime : Double := 0
  landingSiteSearchStrategy : String := ""
  landingSiteSearchSpiralSpacing : Double := 0
  landingSiteSearchSpiralPoints : Int32 := 0
  simpleCollisionAvoidEnabled : UInt8 := 0
  simpleCollisionAvoidDistanceThreshold : Double := 0
  simpleCollisionAvoidActionOnConditionTrue : String := ""
  deriving DecidableEq

/-! ### Values of members -/

/-- The four types of members. -/
inductive Kind
  | flag
  | text
  | real
  | int
  deriving DecidableEq

/-- The value of a member. -/
inductive Cell
  | flag (v : UInt8)
  | text (v : String)
  | real (v : Double)
  | int (v : Int32)
  deriving DecidableEq

def Cell.kind : Cell → Kind
  | .flag _ => .flag
  | .text _ => .text
  | .real _ => .real
  | .int _ => .int

/-- The text `WriteToFile` puts behind the `=`. -/
def Cell.render : Cell → List Char
  | .flag v => toStringInt v.toNat
  | .text v => v.toList
  | .real v => toStringDouble v
  | .int v => toStringInt v.toInt

/-- The value `InitFromFile` takes from a text; `std::stoi` assigned to a `uint8_t` keeps the low byte. -/
def parse : Kind → List Char → Except StdException Cell
  | .flag, t => (stoi t).map fun i => .flag i.toUInt32.toUInt8
  | .text, t => .ok (.text (String.ofList t))
  | .real, t => (stod t).map .real
  | .int, t => (stoi t).map .int

/-! ### The members by name -/

/-- A member of the object under its name in the source. -/
structure Member where
  name : String
  get : AutopilotManagerConfig → Cell

def members : List Member := [
  ⟨"autopilot_manager_enabled", fun c => .flag c.autopilotManagerEnabled⟩,
  ⟨"decision_maker_input_type", fun c => .text c.decisionMakerInputType⟩,
  ⟨"script_to_call", fun c => .text c.scriptToCall⟩,
  ⟨"api_call", fun c => .text c.apiCall⟩,
  ⟨"local_position_offset_x", fun c => .real c.localPositionOffsetX⟩,
  ⟨"local_position_offset_y", fun c => .real c.localPositionOffsetY⟩,
  ⟨"local_position_offset_z", fun c => .real c.localPositionOffsetZ⟩,
  ⟨"local_position_waypoint_x", fun c => .real c.localPositionWaypointX⟩,
  ⟨"local_position_waypoint_y", fun c => .real c.localPositionWaypointY⟩,
  ⟨"local_position_waypoint_z", fun c => .real c.localPositionWaypointZ⟩,
  ⟨"global_position_offset_lat", fun c => .real c.globalPositionOffsetLat⟩,
  ⟨"global_position_offset_lon", fun c => .real c.globalPositionOffsetLon⟩,
  ⟨"global_position_offset_alt_amsl", fun c => .real c.globalPositionOffsetAltAmsl⟩,
  ⟨"global_position_waypoint_lat", fun c => .real c.globalPositionWaypointLat⟩,
  ⟨"global_position_waypoint_lon", fun c => .real c.globalPositionWaypointLon⟩,
  ⟨"global_position_waypoint_alt_amsl", fun c => .real c.globalPositionWaypointAltAmsl⟩,
  ⟨"camera_offset_x", fun c => .real c.cameraOffsetX⟩,
  ⟨"camera_offset_y", fun c => .real c.cameraOffsetY⟩,
  ⟨"camera_yaw", fun c => .real c.cameraYaw⟩,
  ⟨"safe_landing_enabled", fun c => .flag c.safeLandingEnabled⟩,
  ⟨"safe_landing_area_square_size", fun c => .real c.safeLandingAreaSquareSize⟩,
  ⟨"safe_landing_distance_to_ground", fun c => .real c.safeLandingDistanceToGround⟩,
  ⟨"safe_landing_on_no_safe_land", fun c => .text c.safeLandingOnNoSafeLand⟩,
  ⟨"safe_landing_try_landing_after_action", fun c => .flag c.safeLandingTryLandingAfterAction⟩,
  ⟨"landing_site_search_speed", fun c => .real c.landingSiteSearchSpeed⟩,
  ⟨"landing_site_search_max_distance", fun c => .real c.landingSiteSearchMaxDistance⟩,
  ⟨"landing_site_search_min_height", fun c => .real c.landingSiteSearchMinHeight⟩,
  ⟨"landing_site_search_min_distance_after_abort", fun c => .real c.landingSiteSearchMinDistanceAfterAbort⟩,
  ⟨"landing_site_search_arrival_radius", fun c => .real c.landingSiteSearchArrivalRadius⟩,
  ⟨"landing_site_search_assess_time", fun c => .real c.landingSiteSearchAssessTime⟩,
  ⟨"landing_site_search_strategy", fun c => .text c.landingSiteSearchStrategy⟩,
  ⟨"landing_site_search_spiral_spacing", fun c => .real c.landingSiteSearchSpiralSpacing⟩,
  ⟨"landing_site_search_spiral_points", fun c => .int c.landingSiteSearchSpiralPoints⟩,
  ⟨"simple_collision_avoid_enabled", fun c => .flag c.simpleCollisionAvoidEnabled⟩,
  ⟨"simple_collision_avoid_distance_threshold", fun c => .real c.simpleCollisionAvoidDistanceThreshold⟩,
  ⟨"simple_collision_avoid_action_on_condition_true", fun c => .text c.simpleCollisionAvoidActionOnConditionTrue⟩]

/-! ### The list of `WriteToFile` -/

/-- One line of `WriteToFile`: the key and the member printed behind it. -/
structure Writer where
  key : String
  get : AutopilotManagerConfig → Cell

def writers : List Writer := [
  ⟨"autopilot_manager_enabled", fun c => .flag c.autopilotManagerEnabled⟩,
  ⟨"decision_maker_input_type", fun c => .text c.decisionMakerInputType⟩,
  ⟨"script_to_call", fun c => .text c.scriptToCall⟩,
  ⟨"api_call", fun c => .text c.apiCall⟩,
  ⟨"local_position_offset_x", fun c => .real c.localPositionOffsetX⟩,
  ⟨"local_position_offset_y", fun c => .real c.localPositionOffsetY⟩,
  ⟨"local_position_offset_z", fun c => .real c.localPositionOffsetZ⟩,
  ⟨"local_position_waypoint_x", fun c => .real c.localPositionWaypointX⟩,
  ⟨"local_position_waypoint_y", fun c => .real c.localPositionWaypointY⟩,
  ⟨"local_position_waypoint_z", fun c => .real c.localPositionWaypointZ⟩,
  ⟨"global_position_offset_lat", fun c => .real c.globalPositionOffsetLat⟩,
  ⟨"global_position_offset_lon", fun c => .real c.globalPositionOffsetLon⟩,
  ⟨"global_position_offset_alt_amsl", fun c => .real c.globalPositionOffsetAltAmsl⟩,
  ⟨"global_position_waypoint_lat", fun c => .real c.globalPositionWaypointLat⟩,
  ⟨"global_position_waypoint_lon", fun c => .real c.globalPositionWaypointLon⟩,
  ⟨"global_position_waypoint_alt_amsl", fun c => .real c.globalPositionWaypointAltAmsl⟩,
  ⟨"camera_offset_x", fun c => .real c.cameraOffsetX⟩,
  ⟨"camera_offset_y", fun c => .real c.cameraOffsetY⟩,
  ⟨"camera_yaw", fun c => .real c.cameraYaw⟩,
  ⟨"safe_landing_enabled", fun c => .flag c.simpleCollisionAvoidEnabled⟩,
  ⟨"safe_landing_area_square_size", fun c => .real c.safeLandingAreaSquareSize⟩,
  ⟨"safe_landing_distance_to_ground", fun c => .real c.safeLandingDistanceToGround⟩,
  ⟨"safe_landing_on_no_safe_land", fun c => .text c.safeLandingOnNoSafeLand⟩,
  ⟨"safe_landing_try_landing_after_action", fun c => .flag c.safeLandingTryLandingAfterAction⟩,
  ⟨"landing_site_search_speed", fun c => .real c.landingSiteSearchSpeed⟩,
  ⟨"landing_site_search_max_distance", fun c => .real c.landingSiteSearchMaxDistance⟩,
  ⟨"landing_site_search_min_height", fun c => .real c.landingSiteSearchMinHeight⟩,
  ⟨"landing_site_search_min_distance_after_abort", fun c => .real c.landingSiteSearchMinDistanceAfterAbort⟩,
  ⟨"landing_site_search_arrival_radius", fun c => .real c.landingSiteSearchArrivalRadius⟩,
  ⟨"landing_site_search_assess_time", fun c => .real c.landingSiteSearchAssessTime⟩,
  ⟨"landing_site_search_strategy", fun c => .text c.landingSiteSearchStrategy⟩,
  ⟨"landing_site_search_spiral_spacing", fun c => .real c.landingSiteSearchSpiralSpacing⟩,
  ⟨"landing_site_search_spiral_points", fun c => .int c.landingSiteSearchSpiralPoints⟩,
  ⟨"simple_collision_avoid_enabled", fun c => .flag c.simpleCollisionAvoidEnabled⟩,
  ⟨"simple_collision_avoid_distance_threshold", fun c => .real c.simpleCollisionAvoidDistanceThreshold⟩,
  ⟨"simple_collision_avoid_action_on_condition_true", fun c => .text c.simpleCollisionAvoidActionOnConditionTrue⟩]

/-! ### The tests of `InitFromFile` -/

/-- One test of `InitFromFile`: the key searched in the line and the member assigned when it is found. -/
structure Reader where
  key : String
  kind : Kind
  put : Cell → AutopilotManagerConfig → AutopilotManagerConfig

namespace Reader

def flag (key : String) (put : UInt8 → AutopilotManagerConfig → AutopilotManagerConfig) : Reader :=
  ⟨key, .flag, fun x c => match x with | .flag v => put v c | _ => c⟩

def text (key : String) (put : String → AutopilotManagerConfig → AutopilotManagerConfig) : Reader :=
  ⟨key, .text, fun x c => match x with | .text v => put v c | _ => c⟩

def real (key : String) (put : Double → AutopilotManagerConfig → AutopilotManagerConfig) : Reader :=
  ⟨key, .real, fun x c => match x with | .real v => put v c | _ => c⟩

def int (key : String) (put : Int32 → AutopilotManagerConfig → AutopilotManagerConfig) : Reader :=
  ⟨key, .int, fun x c => match x with | .int v => put v c | _ => c⟩

end Reader

def readers : List Reader := [
  .flag "autopilot_manager_enabled" fun v c => { c with autopilotManagerEnabled := v },
  .text "decision_maker_input_type" fun v c => { c with decisionMakerInputType := v },
  .text "script_to_call" fun v c => { c with scriptToCall := v },
  .text "api_call" fun v c => { c with apiCall := v },
  .real "local_position_offset_x" fun v c => { c with localPositionOffsetX := v },
  .real "local_position_offset_y" fun v c => { c with localPositionOffsetY := v },
  .real "local_position_offset_z" fun v c => { c with localPositionOffsetZ := v },
  .real "local_position_waypoint_x" fun v c => { c with localPositionWaypointX := v },
  .real "local_position_waypoint_y" fun v c => { c with localPositionWaypointY := v },
  .real "local_position_waypoint_z" fun v c => { c with localPositionWaypointZ := v },
  .real "global_position_offset_lat" fun v c => { c with globalPositionOffsetLat := v },
  .real "global_position_offset_lon" fun v c => { c with globalPositionOffsetLon := v },
  .real "global_position_offset_alt_amsl" fun v c => { c with globalPositionOffsetAltAmsl := v },
  .real "global_position_waypoint_lat" fun v c => { c with globalPositionWaypointLat := v },
  .real "global_position_waypoint_lon" fun v c => { c with globalPositionWaypointLon := v },
  .real "global_position_waypoint_alt_amsl" fun v c => { c with globalPositionWaypointAltAmsl := v },
  .real "camera_offset_x" fun v c => { c with cameraOffsetX := v },
  .real "camera_offset_y" fun v c => { c with cameraOffsetY := v },
  .real "camera_yaw" fun v c => { c with cameraYaw := v },
  .flag "safe_landing_enabled" fun v c => { c with safeLandingEnabled := v },
  .real "safe_landing_area_square_size" fun v c => { c with safeLandingAreaSquareSize := v },
  .real "safe_landing_distance_to_ground" fun v c => { c with safeLandingDistanceToGround := v },
  .text "safe_landing_on_no_safe_land" fun v c => { c with safeLandingOnNoSafeLand := v },
  .flag "safe_landing_try_landing_after_action" fun v c => { c with safeLandingTryLandingAfterAction := v },
  .real "landing_site_search_speed" fun v c => { c with landingSiteSearchSpeed := v },
  .real "landing_site_search_max_distance" fun v c => { c with landingSiteSearchMaxDistance := v },
  .real "landing_site_search_min_height" fun v c => { c with landingSiteSearchMinHeight := v },
  .real "landing_site_search_min_distance_after_abort" fun v c => { c with landingSiteSearchMinDistanceAfterAbort := v },
  .real "landing_site_search_arrival_radius" fun v c => { c with landingSiteSearchArrivalRadius := v },
  .real "landing_site_search_assess_time" fun v c => { c with landingSiteSearchAssessTime := v },
  .text "landing_site_search_strategy" fun v c => { c with landingSiteSearchStrategy := v },
  .real "landing_site_search_spiral_spacing" fun v c => { c with landingSiteSearchSpiralSpacing := v },
  .int "landing_site_search_spiral_points" fun v c => { c with landingSiteSearchSpiralPoints := v },
  .flag "simple_collision_avoid_enabled" fun v c => { c with simpleCollisionAvoidEnabled := v },
  .real "simple_collision_avoid_distance_threshold" fun v c => { c with simpleCollisionAvoidDistanceThreshold := v },
  .text "simple_collision_avoid_action_on_condition_true" fun v c => { c with simpleCollisionAvoidActionOnConditionTrue := v }]

end AutopilotManager
