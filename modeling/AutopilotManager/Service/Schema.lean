import AutopilotManager.Service.Message

/-!
# Service.Schema — the published signatures against the decoder and the encoder

The introspection text lists the arguments of `set_config` and `get_config`.  Both lists name the spacing of the
spiral search between the minimum height and the switch of the simple collision avoidance; `InitFromMessage` and
`AppendToMessage` leave it out.
-/

namespace AutopilotManager

open Lib

/-- The types of the introspection text. -/
inductive ArgType
  | u
  | s
  | d
  deriving DecidableEq

/-- An argument of an introspected method. -/
structure PublishedArg where
  name : String
  type : ArgType
  deriving DecidableEq

/-- The arguments both methods have in common. -/
def publishedConfig : List PublishedArg := [
  ⟨"autopilot_manager_enabled", .u⟩,
  ⟨"decision_maker_input_type", .s⟩,
  ⟨"script_to_call", .s⟩,
  ⟨"api_call", .s⟩,
  ⟨"local_position_offset_x", .d⟩,
  ⟨"local_position_offset_y", .d⟩,
  ⟨"local_position_offset_z", .d⟩,
  ⟨"local_position_waypoint_x", .d⟩,
  ⟨"local_position_waypoint_y", .d⟩,
  ⟨"local_position_waypoint_z", .d⟩,
  ⟨"global_position_offset_lat", .d⟩,
  ⟨"global_position_offset_lon", .d⟩,
  ⟨"global_position_offset_alt_amsl", .d⟩,
  ⟨"global_position_waypoint_lat", .d⟩,
  ⟨"global_position_waypoint_lon", .d⟩,
  ⟨"global_position_waypoint_alt_amsl", .d⟩,
  ⟨"safe_landing_enabled", .u⟩,
  ⟨"safe_landing_area_square_size", .d⟩,
  ⟨"safe_landing_distance_to_ground", .d⟩,
  ⟨"safe_landing_on_no_safe_land", .s⟩,
  ⟨"safe_landing_try_landing_after_action", .u⟩,
  ⟨"landing_site_search_max_distance", .d⟩,
  ⟨"landing_site_search_min_height", .d⟩,
  ⟨"landing_site_search_spiral_spacing", .d⟩,
  ⟨"simple_collision_avoid_enabled", .u⟩,
  ⟨"simple_collision_avoid_distance_threshold", .d⟩,
  ⟨"simple_collision_avoid_action_on_condition_true", .s⟩]

/-- The `in` arguments of `set_config`. -/
def setConfigIn : List PublishedArg := publishedConfig

/-- The `out` arguments of `get_config`. -/
def getConfigOut : List PublishedArg := publishedConfig ++ [⟨"response_code", .u⟩]

def Arg.type : Arg → Option ArgType
  | .uint32 _ => some .u
  | .string _ => some .s
  | .double _ => some .d
  | .other => none

/-- The arguments have the published types, position by position. -/
def ConformsTo (args : List Arg) (signature : List PublishedArg) : Prop :=
  args.map Arg.type = signature.map fun p => some p.type

instance (args : List Arg) (signature : List PublishedArg) : Decidable (ConformsTo args signature) :=
  inferInstanceAs (Decidable (_ = _))

/-- The arguments under their published names. -/
def named (signature : List PublishedArg) (args : List Arg) : List (String × Arg) :=
  (signature.map PublishedArg.name).zip args

/-- The members of an object as the bus sees them, each under its name. -/
def ConfigObject.members (o : ConfigObject) : List (String × Arg) := [
  ("autopilot_manager_enabled", .uint32 (word o.config.autopilotManagerEnabled o.padding.autopilotManagerEnabled)),
  ("decision_maker_input_type", .string o.config.decisionMakerInputType),
  ("script_to_call", .string o.config.scriptToCall),
  ("api_call", .string o.config.apiCall),
  ("local_position_offset_x", .double o.config.localPositionOffsetX),
  ("local_position_offset_y", .double o.config.localPositionOffsetY),
  ("local_position_offset_z", .double o.config.localPositionOffsetZ),
  ("local_position_waypoint_x", .double o.config.localPositionWaypointX),
  ("local_position_waypoint_y", .double o.config.localPositionWaypointY),
  ("local_position_waypoint_z", .double o.config.localPositionWaypointZ),
  ("global_position_offset_lat", .double o.config.globalPositionOffsetLat),
  ("global_position_offset_lon", .double o.config.globalPositionOffsetLon),
  ("global_position_offset_alt_amsl", .double o.config.globalPositionOffsetAltAmsl),
  ("global_position_waypoint_lat", .double o.config.globalPositionWaypointLat),
  ("global_position_waypoint_lon", .double o.config.globalPositionWaypointLon),
  ("global_position_waypoint_alt_amsl", .double o.config.globalPositionWaypointAltAmsl),
  ("safe_landing_enabled", .uint32 (word o.config.safeLandingEnabled o.padding.safeLandingEnabled)),
  ("safe_landing_area_square_size", .double o.config.safeLandingAreaSquareSize),
  ("safe_landing_distance_to_ground", .double o.config.safeLandingDistanceToGround),
  ("safe_landing_on_no_safe_land", .string o.config.safeLandingOnNoSafeLand),
  ("safe_landing_try_landing_after_action",
    .uint32 (word o.config.safeLandingTryLandingAfterAction o.padding.safeLandingTryLandingAfterAction)),
  ("landing_site_search_max_distance", .double o.config.landingSiteSearchMaxDistance),
  ("landing_site_search_min_height", .double o.config.landingSiteSearchMinHeight),
  ("landing_site_search_spiral_spacing", .double o.config.landingSiteSearchSpiralSpacing),
  ("simple_collision_avoid_enabled",
    .uint32 (word o.config.simpleCollisionAvoidEnabled o.padding.simpleCollisionAvoidEnabled)),
  ("simple_collision_avoid_distance_threshold", .double o.config.simpleCollisionAvoidDistanceThreshold),
  ("simple_collision_avoid_action_on_condition_true",
    .string o.config.simpleCollisionAvoidActionOnConditionTrue)]

/-- `InitFromMessage` takes the request in and leaves each argument in the member of its name. -/
def DecodedByName (signature : List PublishedArg) (request : Message) (o : ConfigObject) : Prop :=
  (initFromMessage (some request) o).1 = true ∧
    ∀ p ∈ named signature request.args, p ∈ (initFromMessage (some request) o).2.members

/-- The reply: what `AppendToMessage` adds, and the response code behind it. -/
def replyArgs (o : ConfigObject) (responseCode : UInt32) : List Arg := appended o ++ [.uint32 responseCode]

/-- The reply has the published types, and each of its values is that of the member, or the response code, whose name
stands in its place. -/
def EncodedByName (signature : List PublishedArg) (o : ConfigObject) (responseCode : UInt32) : Prop :=
  ConformsTo (replyArgs o responseCode) signature ∧
    ∀ p ∈ named signature (replyArgs o responseCode), p ∈ o.members ++ [("response_code", .uint32 responseCode)]

/-! ### What the decoder asks for -/

def Slot.type : Slot → ArgType
  | .uint32 .. => .u
  | .string .. => .s
  | .double .. => .d

def Slot.published (s : Slot) : PublishedArg := ⟨s.name, s.type⟩

/-- The requested types are those of the leading arguments. -/
theorem typed_iff_startsWith {ss : List Slot} {args : List Arg} :
    Typed ss args ↔ (ss.map fun s => some s.type) <+: args.map Arg.type := by
  induction ss generalizing args with
  | nil => simp [Typed]
  | cons s ss ih =>
    rcases s with ⟨_, put⟩ | ⟨_, put⟩ | ⟨_, put⟩ <;> rcases args with _ | ⟨_ | _ | _ | _, args⟩ <;>
      simp [Typed, Slot.type, Arg.type, List.cons_prefix_cons, ih]

theorem getArgs_of_typed {ss : List Slot} {args : List Arg} (h : Typed ss args) (o : ConfigObject)
    (copyTexts : AutopilotManagerConfig → AutopilotManagerConfig) : (getArgs ss args o copyTexts).1 = true := by
  induction ss generalizing args o copyTexts with
  | nil => rfl
  | cons s ss ih =>
    rcases s with ⟨_, put⟩ | ⟨_, put⟩ | ⟨_, put⟩ <;> obtain ⟨v, args', rfl, hrest⟩ := h <;>
      exact ih hrest _ _

/-- `dbus_message_get_args` succeeds exactly when the requested types are, in order, those of the leading
arguments. -/
theorem getArgs_succeeds_iff {ss : List Slot} {args : List Arg} {o : ConfigObject}
    {copyTexts : AutopilotManagerConfig → AutopilotManagerConfig} :
    (getArgs ss args o copyTexts).1 = true ↔ (ss.map fun s => some s.type) <+: args.map Arg.type :=
  ⟨fun h => typed_iff_startsWith.mp (typed_of_getArgs h),
    fun h => getArgs_of_typed (typed_iff_startsWith.mpr h) o copyTexts⟩

/-- The published list without the spacing of the spiral search. -/
def withoutSpiralSpacing : List PublishedArg :=
  publishedConfig.filter fun p => p.name ≠ "landing_site_search_spiral_spacing"

/-- The decoder asks for the published arguments but the spacing of the spiral search. -/
theorem slots_published : slots.map Slot.published = withoutSpiralSpacing := by decide

theorem slots_types : (slots.map fun s => some s.type) = withoutSpiralSpacing.map fun p => some p.type := by
  rw [← slots_published, List.map_map]
  rfl

/-- The byte and the padding behind it make the word that was stored. -/
theorem word_highBytes (v : UInt32) : word v.toUInt8 (highBytes v) = v := by
  unfold word highBytes
  rw [← UInt32.toBitVec_inj]
  apply BitVec.eq_of_getLsbD_eq
  intro i hi
  have hmask : (0xffffff00#32).getLsbD i = decide (8 ≤ i) := by
    revert i
    decide
  have hlow : (v.toUInt8.toUInt32 ||| v &&& 0xffffff00).toBitVec =
      (v.toBitVec.setWidth 8).setWidth 32 ||| v.toBitVec &&& 0xffffff00#32 := rfl
  rw [hlow, BitVec.getLsbD_or, BitVec.getLsbD_and, hmask, BitVec.getLsbD_setWidth, BitVec.getLsbD_setWidth]
  by_cases h8 : i < 8
  · simp [h8, hi, Nat.not_le.mpr h8]
  · simp [h8, Nat.not_lt.mp h8]

/-- The members that a message carries, in its order. -/
theorem named_appended (o : ConfigObject) : ∀ p ∈ named withoutSpiralSpacing (appended o), p ∈ o.members := by
  have hnamed : named withoutSpiralSpacing (appended o) = o.members.eraseIdx 23 := rfl
  intro p hp
  rw [hnamed] at hp
  exact List.mem_of_mem_eraseIdx hp

/-- What the bus library makes of the decoded object is what the request carried. -/
theorem appended_decoded (m : ConfigMessage) : appended ⟨m.config, m.padding⟩ = m.args := by
  simp only [appended, ConfigMessage.config, ConfigMessage.padding, ConfigMessage.args, word_highBytes]

/-! ### Agreement without the spacing, and disagreement with it -/

/-- A request without the spacing is taken in, each argument in the member of its name. -/
theorem decodedByName_withoutSpiralSpacing {request : Message} (padding : Padding)
    (h : ConformsTo request.args withoutSpiralSpacing) : DecodedByName withoutSpiralSpacing request ⟨{}, padding⟩ := by
  have hprefix : (slots.map fun s => some s.type) <+: request.args.map Arg.type := by
    rw [slots_types, ← h]
  obtain ⟨m, rest, hargs⟩ := exists_args_of_typed (typed_iff_startsWith.mpr hprefix)
  have hdecoded : initFromMessage (some request) ⟨{}, padding⟩ = (true, ⟨m.config, m.padding⟩) := by
    rw [initFromMessage, hargs, getArgs_args]
  -- nothing follows the 26 values
  have hrest : rest = [] := by
    have hlength := congrArg List.length h
    rw [hargs] at hlength
    simpa [ConfigMessage.args, withoutSpiralSpacing, publishedConfig] using hlength
  refine ⟨by rw [hdecoded], fun p hp => ?_⟩
  rw [hdecoded]
  rw [hargs, hrest, List.append_nil, ← appended_decoded] at hp
  exact named_appended _ p hp

theorem encodedByName_withoutSpiralSpacing (o : ConfigObject) (responseCode : UInt32) :
    EncodedByName (withoutSpiralSpacing ++ [⟨"response_code", .u⟩]) o responseCode := by
  have hnamed : named (withoutSpiralSpacing ++ [⟨"response_code", .u⟩]) (replyArgs o responseCode) =
      named withoutSpiralSpacing (appended o) ++ [("response_code", .uint32 responseCode)] := rfl
  refine ⟨rfl, fun p hp => ?_⟩
  rw [hnamed] at hp
  exact List.mem_append.mpr ((List.mem_append.mp hp).imp_left (named_appended o p))

/-- **The published signatures are met by no message**: a request with the published types is refused, and no reply
has the published types. -/
theorem published_signatures_unmet (request : Message) (o : ConfigObject) (responseCode : UInt32) :
    (ConformsTo request.args setConfigIn → ¬ DecodedByName setConfigIn request o) ∧
      ¬ EncodedByName getConfigOut o responseCode := by
  refine ⟨fun hconforms hdecoded => ?_, fun hencoded => ?_⟩
  · -- the place of the spacing, a double, is that of a switch
    have hprefix := getArgs_succeeds_iff.mp hdecoded.1
    rw [hconforms, slots_types] at hprefix
    exact absurd hprefix (by decide)
  · have hlength := congrArg List.length hencoded.1
    simp [replyArgs, appended, getConfigOut, publishedConfig] at hlength

/-- The request that carries the published arguments with the values of a new object. -/
def requestOfDefaults : Message where
  interface := "com.auterion.autopilot_manager.interface"
  member := "set_config"
  args := (ConfigObject.members ⟨{}, {}⟩).map Prod.snd

theorem published_signatures_unmet_defaults :
    ConformsTo requestOfDefaults.args setConfigIn ∧ ¬ DecodedByName setConfigIn requestOfDefaults ⟨{}, {}⟩ :=
  have hconforms : ConformsTo requestOfDefaults.args setConfigIn := by decide
  ⟨hconforms, (published_signatures_unmet requestOfDefaults ⟨{}, {}⟩ 0).1 hconforms⟩

/-- A conforming request is refused, and a reply has an argument too few. -/
theorem published_signatures_counterexample :
    ¬ ((∀ (request : Message) (o : ConfigObject), ConformsTo request.args setConfigIn →
        DecodedByName setConfigIn request o) ∧
      ∀ (o : ConfigObject) (responseCode : UInt32), EncodedByName getConfigOut o responseCode) := by
  rintro ⟨hdecodes, -⟩
  have hdecoded := (hdecodes requestOfDefaults ⟨{}, {}⟩ (by decide)).1
  exact absurd hdecoded (by decide)

end AutopilotManager
