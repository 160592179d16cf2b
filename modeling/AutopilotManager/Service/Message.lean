import AutopilotManager.Config.File

/-!
# Service.Message — D-Bus messages and the configuration object

`InitFromMessage` and `AppendToMessage`.  A switch is a `uint8_t` member, but both functions hand its address to
the bus library as that of a four-byte integer: the three bytes behind it, which are padding of the object, are
written and read with it.  The lowest byte of a word comes first.
-/

namespace AutopilotManager

open Lib

/-- An argument of a message; types the configuration does not use are `other`. -/
inductive Arg
  | uint32 (v : UInt32)
  | string (v : String)
  | double (v : Double)
  | other
  deriving DecidableEq

/-- A request on the bus. -/
structure Message where
  interface : String
  member : String
  args : List Arg

/-- The padding bytes behind the four switches, as the high part of a word. -/
structure Padding where
  autopilotManagerEnabled : UInt32 := 0
  safeLandingEnabled : UInt32 := 0
  safeLandingTryLandingAfterAction : UInt32 := 0
  simpleCollisionAvoidEnabled : UInt32 := 0
  deriving DecidableEq

/-- A configuration object in memory. -/
structure ConfigObject where
  config : AutopilotManagerConfig := {}
  padding : Padding
  deriving DecidableEq

def highBytes (v : UInt32) : UInt32 := v &&& 0xffffff00

def word (v : UInt8) (padding : UInt32) : UInt32 := v.toUInt32 ||| padding

/-! ### `InitFromMessage` -/

/-- One argument asked of `dbus_message_get_args`.  Numbers go into the object at once, texts through a pointer
that is copied when all arguments are there. -/
inductive Slot
  | uint32 (name : String) (put : UInt32 → ConfigObject → ConfigObject)
  | string (name : String) (put : String → AutopilotManagerConfig → AutopilotManagerConfig)
  | double (name : String) (put : Double → AutopilotManagerConfig → AutopilotManagerConfig)

def Slot.name : Slot → String
  | .uint32 name _ => name
  | .string name _ => name
  | .double name _ => name

def slots : List Slot := [
  .uint32 "autopilot_manager_enabled" fun v o => ⟨{ o.config with autopilotManagerEnabled := v.toUInt8 },
    { o.padding with autopilotManagerEnabled := highBytes v }⟩,
  .string "decision_maker_input_type" fun v c => { c with decisionMakerInputType := v },
  .string "script_to_call" fun v c => { c with scriptToCall := v },
  .string "api_call" fun v c => { c with apiCall := v },
  .double "local_position_offset_x" fun v c => { c with localPositionOffsetX := v },
  .double "local_position_offset_y" fun v c => { c with localPositionOffsetY := v },
  .double "local_position_offset_z" fun v c => { c with localPositionOffsetZ := v },
  .double "local_position_waypoint_x" fun v c => { c with localPositionWaypointX := v },
  .double "local_position_waypoint_y" fun v c => { c with localPositionWaypointY := v },
  .double "local_position_waypoint_z" fun v c => { c with localPositionWaypointZ := v },
  .double "global_position_offset_lat" fun v c => { c with globalPositionOffsetLat := v },
  .double "global_position_offset_lon" fun v c => { c with globalPositionOffsetLon := v },
  .double "global_position_offset_alt_amsl" fun v c => { c with globalPositionOffsetAltAmsl := v },
  .double "global_position_waypoint_lat" fun v c => { c with globalPositionWaypointLat := v },
  .double "global_position_waypoint_lon" fun v c => { c with globalPositionWaypointLon := v },
  .double "global_position_waypoint_alt_amsl" fun v c => { c with globalPositionWaypointAltAmsl := v },
  .uint32 "safe_landing_enabled" fun v o => ⟨{ o.config with safeLandingEnabled := v.toUInt8 },
    { o.padding with safeLandingEnabled := highBytes v }⟩,
  .double "safe_landing_area_square_size" fun v c => { c with safeLandingAreaSquareSize := v },
  .double "safe_landing_distance_to_ground" fun v c => { c with safeLandingDistanceToGround := v },
  .string "safe_landing_on_no_safe_land" fun v c => { c with safeLandingOnNoSafeLand := v },
  .uint32 "safe_landing_try_landing_after_action" fun v o => ⟨{ o.config with safeLandingTryLandingAfterAction := v.toUInt8 },
    { o.padding with safeLandingTryLandingAfterAction := highBytes v }⟩,
  .double "landing_site_search_max_distance" fun v c => { c with landingSiteSearchMaxDistance := v },
  .double "landing_site_search_min_height" fun v c => { c with landingSiteSearchMinHeight := v },
  .uint32 "simple_collision_avoid_enabled" fun v o => ⟨{ o.config with simpleCollisionAvoidEnabled := v.toUInt8 },
    { o.padding with simpleCollisionAvoidEnabled := highBytes v }⟩,
  .double "simple_collision_avoid_distance_threshold" fun v c => { c with simpleCollisionAvoidDistanceThreshold := v },
  .string "simple_collision_avoid_action_on_condition_true" fun v c => { c with simpleCollisionAvoidActionOnConditionTrue := v }]

/-- `dbus_message_get_args`: the leading arguments must have the types asked for; numbers met before the first
that has not are stored all the same.  `copyTexts` is what the texts met so far will assign. -/
def getArgs : List Slot → List Arg → ConfigObject → (AutopilotManagerConfig → AutopilotManagerConfig) →
    Bool × ConfigObject
  | [], _, o, copyTexts => (true, { o with config := copyTexts o.config })
  | .uint32 _ put :: ss, .uint32 v :: as, o, copyTexts => getArgs ss as (put v o) copyTexts
  | .double _ put :: ss, .double v :: as, o, copyTexts => getArgs ss as { o with config := put v o.config } copyTexts
  | .string _ put :: ss, .string v :: as, o, copyTexts => getArgs ss as o fun c => put v (copyTexts c)
  | _, _, o, _ => (false, o)

/-- `InitFromMessage` into the object `o`. -/
def initFromMessage (request : Option Message) (o : ConfigObject) : Bool × ConfigObject :=
  match request with
  | none => (false, o)
  | some request => getArgs slots request.args o id

/-! ### `AppendToMessage` -/

/-- The arguments `AppendToMessage` adds. -/
def appended (o : ConfigObject) : List Arg := [
  .uint32 (word o.config.autopilotManagerEnabled o.padding.autopilotManagerEnabled),
  .string o.config.decisionMakerInputType,
  .string o.config.scriptToCall,
  .string o.config.apiCall,
  .double o.config.localPositionOffsetX,
  .double o.config.localPositionOffsetY,
  .double o.config.localPositionOffsetZ,
  .double o.config.localPositionWaypointX,
  .double o.config.localPositionWaypointY,
  .double o.config.localPositionWaypointZ,
  .double o.config.globalPositionOffsetLat,
  .double o.config.globalPositionOffsetLon,
  .double o.config.globalPositionOffsetAltAmsl,
  .double o.config.globalPositionWaypointLat,
  .double o.config.globalPositionWaypointLon,
  .double o.config.globalPositionWaypointAltAmsl,
  .uint32 (word o.config.safeLandingEnabled o.padding.safeLandingEnabled),
  .double o.config.safeLandingAreaSquareSize,
  .double o.config.safeLandingDistanceToGround,
  .string o.config.safeLandingOnNoSafeLand,
  .uint32 (word o.config.safeLandingTryLandingAfterAction o.padding.safeLandingTryLandingAfterAction),
  .double o.config.landingSiteSearchMaxDistance,
  .double o.config.landingSiteSearchMinHeight,
  .uint32 (word o.config.simpleCollisionAvoidEnabled o.padding.simpleCollisionAvoidEnabled),
  .double o.config.simpleCollisionAvoidDistanceThreshold,
  .string o.config.simpleCollisionAvoidActionOnConditionTrue]

def appendToMessage (o : ConfigObject) (reply : Option (List Arg)) : Bool × Option (List Arg) :=
  match reply with
  | none => (false, none)
  | some args => (true, some (args ++ appended o))

/-! ### Well-typed requests -/

/-- The values a `set_config` request carries. -/
structure ConfigMessage where
  autopilotManagerEnabled : UInt32
  decisionMakerInputType : String
  scriptToCall : String
  apiCall : String
  localPositionOffsetX : Double
  localPositionOffsetY : Double
  localPositionOffsetZ : Double
  localPositionWaypointX : Double
  localPositionWaypointY : Double
  localPositionWaypointZ : Double
  globalPositionOffsetLat : Double
  globalPositionOffsetLon : Double
  globalPositionOffsetAltAmsl : Double
  globalPositionWaypointLat : Double
  globalPositionWaypointLon : Double
  globalPositionWaypointAltAmsl : Double
  safeLandingEnabled : UInt32
  safeLandingAreaSquareSize : Double
  safeLandingDistanceToGround : Double
  safeLandingOnNoSafeLand : String
  safeLandingTryLandingAfterAction : UInt32
  landingSiteSearchMaxDistance : Double
  landingSiteSearchMinHeight : Double
  simpleCollisionAvoidEnabled : UInt32
  simpleCollisionAvoidDistanceThreshold : Double
  simpleCollisionAvoidActionOnConditionTrue : String
  deriving DecidableEq

def ConfigMessage.args (m : ConfigMessage) : List Arg := [
  .uint32 m.autopilotManagerEnabled,
  .string m.decisionMakerInputType,
  .string m.scriptToCall,
  .string m.apiCall,
  .double m.localPositionOffsetX,
  .double m.localPositionOffsetY,
  .double m.localPositionOffsetZ,
  .double m.localPositionWaypointX,
  .double m.localPositionWaypointY,
  .double m.localPositionWaypointZ,
  .double m.globalPositionOffsetLat,
  .double m.globalPositionOffsetLon,
  .double m.globalPositionOffsetAltAmsl,
  .double m.globalPositionWaypointLat,
  .double m.globalPositionWaypointLon,
  .double m.globalPositionWaypointAltAmsl,
  .uint32 m.safeLandingEnabled,
  .double m.safeLandingAreaSquareSize,
  .double m.safeLandingDistanceToGround,
  .string m.safeLandingOnNoSafeLand,
  .uint32 m.safeLandingTryLandingAfterAction,
  .double m.landingSiteSearchMaxDistance,
  .double m.landingSiteSearchMinHeight,
  .uint32 m.simpleCollisionAvoidEnabled,
  .double m.simpleCollisionAvoidDistanceThreshold,
  .string m.simpleCollisionAvoidActionOnConditionTrue]

/-- The configuration `InitFromMessage` makes of the values: the low bytes of the switches, defaults for the
members that are not carried. -/
def ConfigMessage.config (m : ConfigMessage) : AutopilotManagerConfig where
  autopilotManagerEnabled := m.autopilotManagerEnabled.toUInt8
  decisionMakerInputType := m.decisionMakerInputType
  scriptToCall := m.scriptToCall
  apiCall := m.apiCall
  localPositionOffsetX := m.localPositionOffsetX
  localPositionOffsetY := m.localPositionOffsetY
  localPositionOffsetZ := m.localPositionOffsetZ
  localPositionWaypointX := m.localPositionWaypointX
  localPositionWaypointY := m.localPositionWaypointY
  localPositionWaypointZ := m.localPositionWaypointZ
  globalPositionOffsetLat := m.globalPositionOffsetLat
  globalPositionOffsetLon := m.globalPositionOffsetLon
  globalPositionOffsetAltAmsl := m.globalPositionOffsetAltAmsl
  globalPositionWaypointLat := m.globalPositionWaypointLat
  globalPositionWaypointLon := m.globalPositionWaypointLon
  globalPositionWaypointAltAmsl := m.globalPositionWaypointAltAmsl
  safeLandingEnabled := m.safeLandingEnabled.toUInt8
  safeLandingAreaSquareSize := m.safeLandingAreaSquareSize
  safeLandingDistanceToGround := m.safeLandingDistanceToGround
  safeLandingOnNoSafeLand := m.safeLandingOnNoSafeLand
  safeLandingTryLandingAfterAction := m.safeLandingTryLandingAfterAction.toUInt8
  landingSiteSearchMaxDistance := m.landingSiteSearchMaxDistance
  landingSiteSearchMinHeight := m.landingSiteSearchMinHeight
  simpleCollisionAvoidEnabled := m.simpleCollisionAvoidEnabled.toUInt8
  simpleCollisionAvoidDistanceThreshold := m.simpleCollisionAvoidDistanceThreshold
  simpleCollisionAvoidActionOnConditionTrue := m.simpleCollisionAvoidActionOnConditionTrue

/-- What the four words leave in the padding. -/
def ConfigMessage.padding (m : ConfigMessage) : Padding where
  autopilotManagerEnabled := highBytes m.autopilotManagerEnabled
  safeLandingEnabled := highBytes m.safeLandingEnabled
  safeLandingTryLandingAfterAction := highBytes m.safeLandingTryLandingAfterAction
  simpleCollisionAvoidEnabled := highBytes m.simpleCollisionAvoidEnabled

/-- The types of the leading arguments are those asked for. -/
def Typed : List Slot → List Arg → Prop
  | [], _ => True
  | .uint32 .. :: ss, as => ∃ v as', as = .uint32 v :: as' ∧ Typed ss as'
  | .string .. :: ss, as => ∃ v as', as = .string v :: as' ∧ Typed ss as'
  | .double .. :: ss, as => ∃ v as', as = .double v :: as' ∧ Typed ss as'

theorem typed_of_getArgs {ss : List Slot} {as : List Arg} {o : ConfigObject}
    {copyTexts : AutopilotManagerConfig → AutopilotManagerConfig}
    (h : (getArgs ss as o copyTexts).1 = true) : Typed ss as := by
  induction ss generalizing as o copyTexts with
  | nil => trivial
  | cons s ss ih =>
    rcases s with ⟨_, put⟩ | ⟨_, put⟩ | ⟨_, put⟩ <;> rcases as with _ | ⟨_ | _ | _ | _, as⟩
    -- an argument of the type asked for, or an error
    all_goals first
      | exact ⟨_, as, rfl, ih h⟩
      | exact absurd h (by simp [getArgs])

theorem exists_args_of_typed {as : List Arg} (h : Typed slots as) :
    ∃ (m : ConfigMessage) (rest : List Arg), as = m.args ++ rest := by
  simp only [slots, Typed] at h
  obtain ⟨v0, _, rfl, v1, _, rfl, v2, _, rfl, v3, _, rfl, v4, _, rfl, v5, _, rfl, v6, _, rfl, v7, _, rfl,
    v8, _, rfl, v9, _, rfl, v10, _, rfl, v11, _, rfl, v12, _, rfl, v13, _, rfl, v14, _, rfl, v15, _, rfl,
    v16, _, rfl, v17, _, rfl, v18, _, rfl, v19, _, rfl, v20, _, rfl, v21, _, rfl, v22, _, rfl, v23, _, rfl,
    v24, _, rfl, v25, rest, rfl, -⟩ := h
  exact ⟨⟨v0, v1, v2, v3, v4, v5, v6, v7, v8, v9, v10, v11, v12, v13, v14, v15, v16, v17, v18, v19, v20,
    v21, v22, v23, v24, v25⟩, rest, rfl⟩

/-- A request that carries the 26 values is decoded, whatever follows them. -/
theorem getArgs_args (m : ConfigMessage) (rest : List Arg) (padding : Padding) :
    getArgs slots (m.args ++ rest) ⟨{}, padding⟩ id = (true, ⟨m.config, m.padding⟩) := by
  simp only [slots, ConfigMessage.args, List.cons_append, List.nil_append, getArgs, id]
  rfl

/-- **`InitFromMessage` into a fresh object** accepts exactly the requests that carry the 26 values first. -/
theorem initFromMessage_accepts_iff {request : Message} {padding : Padding} :
    (initFromMessage (some request) ⟨{}, padding⟩).1 = true ↔
      ∃ (m : ConfigMessage) (rest : List Arg), request.args = m.args ++ rest := by
  constructor
  · intro h
    exact exists_args_of_typed (typed_of_getArgs h)
  · rintro ⟨m, rest, h⟩
    rw [initFromMessage, h, getArgs_args]

end AutopilotManager
