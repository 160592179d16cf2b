import AutopilotManager.Mission.Planner
import AutopilotManager.Mission.Unwritten

/-!
# Mission.Waypoint — landing at the waypoint of an action

The actions that go to a waypoint remember it, and the vehicle lands when it has arrived.  The waypoint is not
forgotten when the pilot takes over or another command is sent: the landing is justified in the runs in which
neither happens while a waypoint is pending.
-/

namespace AutopilotManager

open Lib

/-! ### Justified landings -/

/-- The last command is to go to the waypoint, and no manual mode has been entered since. -/
def headsFor (lat lon altAmsl : Double) : List Event → Bool
  | [] => false
  | .command c :: _ => c = .gotoLocation lat lon altAmsl .nan
  | .flightModeCallback mode :: rest => !mode.isManual && headsFor lat lon altAmsl rest
  | .statusText .. :: rest | .startSearch _ :: rest | .searchEnded _ :: rest | .sent .. :: rest
  | .arrived .. :: rest => headsFor lat lon altAmsl rest

/-- The vehicle lands at a waypoint only while it heads for it. -/
def justified : List Event → Bool
  | [] => true
  | .arrived lat lon altAmsl :: rest => headsFor lat lon altAmsl rest && justified rest
  | .command _ :: rest | .statusText .. :: rest | .startSearch _ :: rest | .searchEnded _ :: rest | .sent .. :: rest
  | .flightModeCallback _ :: rest => justified rest

namespace MissionManager

variable {P E : Type} {ext : Externals P E} {i : TickInput E} {s s' s'' : MissionManager P}

/-- A pending waypoint is headed for, and every landing so far is justified. -/
structure HeadingInv (s : MissionManager P) : Prop where
  heading : s.waypointPending → headsFor s.newLatitude s.newLongitude s.newAltitudeAmsl s.log
  justified : justified s.log

/-- The waypoint and the judgement of the landings stay. -/
structure Keeps (s s' : MissionManager P) : Prop where
  waypoint : s'.newLatitude = s.newLatitude ∧ s'.newLongitude = s.newLongitude ∧
    s'.newAltitudeAmsl = s.newAltitudeAmsl
  justified : AutopilotManager.justified s'.log = AutopilotManager.justified s.log

/-- In addition nothing is commanded. -/
structure Steady (s s' : MissionManager P) : Prop extends Keeps s s' where
  heading : ∀ lat lon altAmsl, headsFor lat lon altAmsl s'.log = headsFor lat lon altAmsl s.log

theorem Keeps.pending (h : Keeps s s') : s'.waypointPending = s.waypointPending := by
  unfold waypointPending
  rw [h.waypoint.1, h.waypoint.2.1, h.waypoint.2.2]

theorem Keeps.trans (h : Keeps s s') (h' : Keeps s' s'') : Keeps s s'' where
  waypoint := ⟨h'.waypoint.1.trans h.waypoint.1, h'.waypoint.2.1.trans h.waypoint.2.1,
    h'.waypoint.2.2.trans h.waypoint.2.2⟩
  justified := h'.justified.trans h.justified

/-- The waypoint and the log stay. -/
theorem Steady.of_log (hlat : s'.newLatitude = s.newLatitude) (hlon : s'.newLongitude = s.newLongitude)
    (haltAmsl : s'.newAltitudeAmsl = s.newAltitudeAmsl) (hlog : s'.log = s.log) : Steady s s' where
  waypoint := ⟨hlat, hlon, haltAmsl⟩
  justified := by rw [hlog]
  heading lat lon altAmsl := by rw [hlog]

theorem Steady.refl (s : MissionManager P) : Steady s s := .of_log rfl rfl rfl rfl

theorem Steady.trans (h : Steady s s') (h' : Steady s' s'') : Steady s s'' where
  toKeeps := h.toKeeps.trans h'.toKeeps
  heading lat lon altAmsl := (h'.heading lat lon altAmsl).trans (h.heading lat lon altAmsl)

/-- Without a pending waypoint any command may be sent. -/
theorem Keeps.headingInv (h : Keeps s s') (hs : HeadingInv s) (hpending : ¬ s.waypointPending) : HeadingInv s' where
  heading hpending' := absurd (h.pending ▸ hpending') hpending
  justified := h.justified.trans hs.justified

theorem Steady.headingInv (h : Steady s s') (hs : HeadingInv s) : HeadingInv s' where
  heading hpending := by
    rw [h.heading, h.waypoint.1, h.waypoint.2.1, h.waypoint.2.2]
    exact hs.heading (h.pending ▸ hpending)
  justified := h.justified.trans hs.justified

/-! ### Elementary steps -/

theorem steady_statusText (type : StatusTextType) (text : String) (s : MissionManager P) :
    Steady s (s.statusText type text) := ⟨⟨⟨rfl, rfl, rfl⟩, rfl⟩, fun _ _ _ => rfl⟩

theorem keeps_command (c : Command) (s : MissionManager P) : Keeps s (s.emit (.command c)) :=
  ⟨⟨rfl, rfl, rfl⟩, rfl⟩

theorem keeps_hold (s : MissionManager P) : Keeps s s.hold := keeps_command .hold s

theorem keeps_returnToLaunch (s : MissionManager P) : Keeps s s.returnToLaunch := keeps_command .returnToLaunch s

theorem steady_withPlanner (p : P) (s : MissionManager P) : Steady s { s with planner := p } :=
  .of_log rfl rfl rfl rfl

theorem steady_landingSiteSearchHasEnded (debug : String) (s : MissionManager P) :
    Steady s (s.landingSiteSearchHasEnded debug) := by
  have hunset : Steady s (s.setNewLocalWaypoint .nan .nan .nan) := .of_log rfl rfl rfl rfl
  have hend : ∀ s : MissionManager P, Steady s (s.emit (.searchEnded debug)) :=
    fun _ => ⟨⟨⟨rfl, rfl, rfl⟩, rfl⟩, fun _ _ _ => rfl⟩
  exact (hunset.trans (hend _)).trans (steady_statusText ..)

theorem steady_goToNewLocalWaypoint (waypoint : LocalCoordinate) (s : MissionManager P) :
    Steady s (s.goToNewLocalWaypoint waypoint) := .of_log rfl rfl rfl rfl

theorem steady_updateLandingSpeedConfig (s : MissionManager P) : Steady s (s.updateLandingSpeedConfig i) :=
  .of_log rfl rfl rfl rfl

theorem steady_startSearch (ext : Externals P E) (i : TickInput E) (s : MissionManager P) :
    Steady s (s.startSearch ext i) := ⟨⟨⟨rfl, rfl, rfl⟩, rfl⟩, fun _ _ _ => rfl⟩

theorem steady_actionTriggered (now : ℤ) (s : MissionManager P) : Steady s (s.actionTriggered now) :=
  .of_log rfl rfl rfl rfl

theorem steady_isStationary (s : MissionManager P) : Steady s s.isStationary.2 := by
  unfold isStationary
  dsimp only
  split_ifs <;> exact .of_log rfl rfl rfl rfl

theorem steady_beginTick (s : MissionManager P) : Steady s (s.beginTick i) := by
  rw [beginTick_eq]
  exact .of_log rfl rfl rfl rfl

theorem steady_actionTimeout (now : ℤ) (s : MissionManager P) : Steady s (s.actionTimeout now) := by
  unfold actionTimeout
  split_ifs <;> exact .of_log rfl rfl rfl rfl

/-- From `s` to `s'` the module begins to head for a waypoint. -/
structure GoesTo (lat lon altAmsl : Double) (s s' : MissionManager P) : Prop where
  waypoint : s'.newLatitude = lat ∧ s'.newLongitude = lon ∧ s'.newAltitudeAmsl = altAmsl
  heading : headsFor lat lon altAmsl s'.log
  justified : AutopilotManager.justified s'.log = AutopilotManager.justified s.log

theorem goTo_goesTo (lat lon altAmsl : Double) (s : MissionManager P) :
    GoesTo lat lon altAmsl s (s.goTo lat lon altAmsl) := ⟨⟨rfl, rfl, rfl⟩, decide_eq_true rfl, rfl⟩

theorem GoesTo.steady {lat lon altAmsl : Double} (h : GoesTo lat lon altAmsl s s') (h' : Steady s' s'') :
    GoesTo lat lon altAmsl s s'' where
  waypoint := ⟨h'.waypoint.1.trans h.waypoint.1, h'.waypoint.2.1.trans h.waypoint.2.1,
    h'.waypoint.2.2.trans h.waypoint.2.2⟩
  heading := (h'.heading ..).trans h.heading
  justified := h'.justified.trans h.justified

theorem GoesTo.headingInv {lat lon altAmsl : Double} (h : GoesTo lat lon altAmsl s s') (hs : HeadingInv s) :
    HeadingInv s' where
  heading _ := by
    rw [h.waypoint.1, h.waypoint.2.1, h.waypoint.2.2]
    exact h.heading
  justified := h.justified.trans hs.justified

/-! ### The action -/

/-- The waypoint the configured action goes to. -/
def actionWaypoint (ext : Externals P E) (s : MissionManager P) : Option (Double × Double × Double) :=
  if s.config.safeLandingOnNoSafeLand = "MOVE_XYZ_WRT_CURRENT" ∧ s.globalOriginReferenceSet then
    let waypoint := s.getGlobalPositionFromLocalOffset ext s.config.localPositionOffsetX s.config.localPositionOffsetY
    some (waypoint.latitudeDeg, waypoint.longitudeDeg, s.currentAltitudeAmsl + s.config.localPositionOffsetZ)
  else if s.config.safeLandingOnNoSafeLand = "GO_TO_WAYPOINT" ∧ ¬ s.atConfiguredWaypoint ∧ s.globalOriginReferenceSet
  then
    some (s.config.globalPositionWaypointLat, s.config.globalPositionWaypointLon,
      s.config.globalPositionWaypointAltAmsl)
  else none

/-- The configured action commands something else than going to a waypoint. -/
inductive ActionDiverts (ext : Externals P E) (i : TickInput E) (s : MissionManager P) : Prop
  | plain (action : s.config.safeLandingOnNoSafeLand ∈ plainActions)
  | move (action : s.config.safeLandingOnNoSafeLand = "MOVE_XYZ_WRT_CURRENT")
      (noOrigin : ¬ s.globalOriginReferenceSet)
  | waypoint (action : s.config.safeLandingOnNoSafeLand = "GO_TO_WAYPOINT")
      (refused : s.atConfiguredWaypoint ∨ ¬ s.globalOriginReferenceSet)
  | search (action : s.config.safeLandingOnNoSafeLand = "LANDING_SITE_SEARCH")
      (notStarted : ¬ (s.globalOriginReferenceSet ∧ s.obstacleAvoidanceEnabled ∧
        ext.isActive (s.startedPlanner ext i)))

/-- What an action does to the waypoint. -/
inductive ActionStep (ext : Externals P E) (i : TickInput E) (s s' : MissionManager P) : Prop
  | steady (none : s.actionWaypoint ext = none) (steady : Steady s s')
  | goes {lat lon altAmsl : Double} (some : s.actionWaypoint ext = some (lat, lon, altAmsl))
      (goes : GoesTo lat lon altAmsl s s')
  | diverts (none : s.actionWaypoint ext = none) (keeps : Keeps s s') (diverts : ActionDiverts ext i s)

theorem ActionStep.afterwards (h : ActionStep ext i s s') (h' : Steady s' s'') : ActionStep ext i s s'' := by
  cases h with
  | steady none steady => exact .steady none (steady.trans h')
  | goes some goes => exact .goes some (goes.steady h')
  | diverts none keeps diverts => exact .diverts none (keeps.trans h'.toKeeps) diverts

theorem actionWaypoint_none (hmove : s.config.safeLandingOnNoSafeLand ≠ "MOVE_XYZ_WRT_CURRENT")
    (hgo : s.config.safeLandingOnNoSafeLand ≠ "GO_TO_WAYPOINT") : s.actionWaypoint ext = none := by
  unfold actionWaypoint
  rw [if_neg fun h => hmove h.1, if_neg fun h => hgo h.1]

theorem moveXyzWrtCurrent_step (haction : s.config.safeLandingOnNoSafeLand = "MOVE_XYZ_WRT_CURRENT") :
    ActionStep ext i s (s.moveXyzWrtCurrent ext) := by
  unfold moveXyzWrtCurrent
  by_cases horigin : s.globalOriginReferenceSet
  · rw [if_pos horigin]
    refine .goes ?_ ((goTo_goesTo ..).steady (steady_statusText ..))
    unfold actionWaypoint
    rw [if_pos ⟨haction, horigin⟩]
  · rw [if_neg horigin]
    refine .diverts ?_ ((keeps_hold s).trans (steady_statusText ..).toKeeps) (.move haction horigin)
    unfold actionWaypoint
    rw [if_neg fun h => horigin h.2, if_neg fun h => horigin h.2.2]

theorem goToWaypoint_step (haction : s.config.safeLandingOnNoSafeLand = "GO_TO_WAYPOINT") :
    ActionStep ext i s s.goToWaypoint := by
  have hmove : ¬ (s.config.safeLandingOnNoSafeLand = "MOVE_XYZ_WRT_CURRENT" ∧ s.globalOriginReferenceSet) := by
    rw [haction]
    simp
  unfold goToWaypoint
  by_cases harrived : s.atConfiguredWaypoint
  · rw [if_pos harrived]
    refine .diverts ?_ ((keeps_returnToLaunch s).trans (steady_statusText ..).toKeeps)
      (.waypoint haction (.inl harrived))
    unfold actionWaypoint
    rw [if_neg hmove, if_neg fun h => h.2.1 harrived]
  · rw [if_neg harrived]
    by_cases horigin : s.globalOriginReferenceSet
    · rw [if_pos horigin]
      refine .goes ?_ ((goTo_goesTo ..).steady (steady_statusText ..))
      unfold actionWaypoint
      rw [if_neg hmove, if_pos ⟨haction, harrived, horigin⟩]
    · rw [if_neg horigin]
      refine .diverts ?_ ((keeps_hold s).trans (steady_statusText ..).toKeeps) (.waypoint haction (.inr horigin))
      unfold actionWaypoint
      rw [if_neg hmove, if_neg fun h => horigin h.2.2]

theorem landingSiteSearch_step (haction : s.config.safeLandingOnNoSafeLand = "LANDING_SITE_SEARCH") :
    ActionStep ext i s (s.landingSiteSearch ext i) := by
  have hnone : s.actionWaypoint ext = none :=
    actionWaypoint_none (by rw [haction]; simp) (by rw [haction]; simp)
  have hrefused : ∀ debug type text, Keeps s ((s.hold.landingSiteSearchHasEnded debug).statusText type text) :=
    fun debug type text => ((keeps_hold s).trans (steady_landingSiteSearchHasEnded ..).toKeeps).trans
      (steady_statusText ..).toKeeps
  unfold landingSiteSearch
  by_cases hready : s.globalOriginReferenceSet && s.obstacleAvoidanceEnabled
  · have hstart := ((steady_statusText .warning "Starting Landing Site Search" s).trans
      (steady_updateLandingSpeedConfig (i := i) _)).trans (steady_startSearch ext i _)
    rw [if_pos hready]
    dsimp only
    split_ifs with hactive
    · exact .steady hnone (hstart.trans (steady_goToNewLocalWaypoint ..))
    · refine .diverts hnone ?_ (.search haction fun h => hactive h.2.2)
      exact ((hstart.toKeeps.trans (keeps_hold _)).trans (steady_landingSiteSearchHasEnded ..).toKeeps).trans
        (steady_statusText ..).toKeeps
  · have hdiverts : ActionDiverts ext i s := .search haction fun h => hready (Bool.and_eq_true_iff.mpr ⟨h.1, h.2.1⟩)
    rw [if_neg hready]
    split_ifs
    · exact .diverts hnone (hrefused ..) hdiverts
    · exact .diverts hnone (hrefused ..) hdiverts
    · exact .steady hnone (.refl s)

theorem onNoSafeLand_step (s : MissionManager P) : ActionStep ext i s (s.onNoSafeLand ext i) := by
  cases onNoSafeLand_branch ext i s with
  | plain action result =>
    have hmove := ne_of_mem_of_not_mem action (by simp [plainActions] : "MOVE_XYZ_WRT_CURRENT" ∉ plainActions)
    have hgo := ne_of_mem_of_not_mem action (by simp [plainActions] : "GO_TO_WAYPOINT" ∉ plainActions)
    rw [result]
    exact .diverts (actionWaypoint_none hmove hgo) ((keeps_command ..).trans (steady_statusText ..).toKeeps)
      (.plain action)
  | move action result => exact result ▸ moveXyzWrtCurrent_step action
  | search action result => exact result ▸ landingSiteSearch_step action
  | go action result => exact result ▸ goToWaypoint_step action
  | unknown move search go result =>
    rw [result]
    exact .steady (actionWaypoint_none move go) (.refl s)

/-! ### The trigger -/

/-- The trigger commands something else than going to a waypoint. -/
inductive TriggerDiverts (ext : Externals P E) (i : TickInput E) (s : MissionManager P) : Prop
  | unhealthy (free : ¬ s.actionInProgress) (triggered : s.landingTriggered) (unhealthy : unhealthyAndAbove i)
  | action (takes : s.takesAction i) (diverts : ActionDiverts ext i s)

/-- A waypoint is pending after the trigger: the one the action goes to, or else the one that was. -/
def pendingAfterTrigger (ext : Externals P E) (i : TickInput E) (s : MissionManager P) : Bool :=
  match if s.takesAction i then s.actionWaypoint ext else none with
  | some (lat, lon, altAmsl) => lat.isFinite && lon.isFinite && altAmsl.isFinite
  | none => s.waypointPending

theorem ActionStep.headingInv (h : ActionStep ext i s s') (hs : HeadingInv s) (htakes : s.takesAction i)
    (hok : s.waypointPending → ¬ TriggerDiverts ext i s) :
    HeadingInv s' ∧ s'.waypointPending = s.pendingAfterTrigger ext i := by
  unfold pendingAfterTrigger
  rw [if_pos htakes]
  cases h with
  | steady none steady =>
    rw [none]
    exact ⟨steady.headingInv hs, steady.pending⟩
  | goes some goes =>
    rw [some]
    refine ⟨goes.headingInv hs, ?_⟩
    unfold waypointPending
    rw [goes.waypoint.1, goes.waypoint.2.1, goes.waypoint.2.2]
  | diverts none keeps diverts =>
    rw [none]
    exact ⟨keeps.headingInv hs fun hpending => hok hpending (.action htakes diverts), keeps.pending⟩

theorem pendingAfterTrigger_of_not_takes (htakes : ¬ s.takesAction i) :
    s.pendingAfterTrigger ext i = s.waypointPending := by
  unfold pendingAfterTrigger
  rw [if_neg htakes]

theorem triggerSafeLanding_headingInv (hs : HeadingInv s) (hok : s.waypointPending → ¬ TriggerDiverts ext i s) :
    HeadingInv (s.triggerSafeLanding ext i) ∧
      (s.triggerSafeLanding ext i).waypointPending = s.pendingAfterTrigger ext i := by
  cases triggerSafeLanding_trigger ext i s with
  | unhealthy free triggered unhealthy result =>
    have hkeeps : Keeps s (s.triggerSafeLanding ext i) := by
      rw [result]
      exact ((keeps_hold s).trans (steady_statusText ..).toKeeps).trans (steady_actionTriggered ..).toKeeps
    rw [pendingAfterTrigger_of_not_takes (not_takesAction_of_unhealthy unhealthy s)]
    exact ⟨hkeeps.headingInv hs fun hpending => hok hpending (.unhealthy free triggered unhealthy), hkeeps.pending⟩
  | action free triggered takes result =>
    rw [result]
    exact ((onNoSafeLand_step s).afterwards (steady_actionTriggered ..)).headingInv hs takes hok
  | none takes result =>
    rw [result, pendingAfterTrigger_of_not_takes takes]
    exact ⟨hs, rfl⟩

/-! ### What the search reads -/

/-- Position, velocity and the debouncing stay. -/
structure SameMotion (s s' : MissionManager P) : Prop where
  pos : s'.currentPosX = s.currentPosX ∧ s'.currentPosY = s.currentPosY ∧ s'.currentPosZ = s.currentPosZ
  vel : s'.currentVelX = s.currentVelX ∧ s'.currentVelY = s.currentVelY ∧ s'.currentVelZ = s.currentVelZ
  counter : s'.isStationaryDebounceCounter = s.isStationaryDebounceCounter

/-- All that the search reads of the motion. -/
def motion (s : MissionManager P) : List Double × ℕ :=
  ([s.currentPosX, s.currentPosY, s.currentPosZ, s.currentVelX, s.currentVelY, s.currentVelZ],
    s.isStationaryDebounceCounter)

theorem unacted_motion : Unacted (motion (P := P)) := by
  constructor <;> intros <;> rfl

theorem sameMotion_of_eq (h : s'.motion = s.motion) : SameMotion s s' := by
  simp only [motion, Prod.mk.injEq, List.cons.injEq, and_true] at h
  obtain ⟨⟨hx, hy, hz, hvx, hvy, hvz⟩, hcounter⟩ := h
  exact ⟨⟨hx, hy, hz⟩, ⟨hvx, hvy, hvz⟩, hcounter⟩

theorem sameMotion_triggerSafeLanding (ext : Externals P E) (i : TickInput E) (s : MissionManager P) :
    SameMotion s (s.triggerSafeLanding ext i) :=
  sameMotion_of_eq (unacted_motion.triggerSafeLanding (fun _ _ => rfl) s)

/-! ### Active searches -/

/-- The planner `p` after the first step of an update. -/
def decidedPlanner (ext : Externals P E) (i : TickInput E) (s : MissionManager P) (p : P) : P :=
  if ext.shouldLand p then
    if i.landingState.isBad then ext.abortLanding i.onUpdate (-s.currentPosZ) i.heightAboveObstacle p else p
  else
    ext.updateSearch i.onUpdate s.currentPosX s.currentPosY (-s.currentPosZ) i.heightAboveObstacle s.isStationary.1
      i.landingState p

/-- An update of the planner `p` holds: the site found is not to be used, or the search has ended. -/
def UpdateHolds (ext : Externals P E) (i : TickInput E) (s : MissionManager P) (p : P) : Prop :=
  if !ext.shouldLand p && ext.shouldLand (s.decidedPlanner ext i p) then
    s.config.safeLandingTryLandingAfterAction = 0
  else ext.isEnded (s.decidedPlanner ext i p)

theorem SameMotion.isStationary (h : SameMotion s s') : s'.isStationary.1 = s.isStationary.1 := by
  unfold MissionManager.isStationary isSlow
  rw [h.vel.1, h.vel.2.1, h.vel.2.2, h.counter]
  dsimp only
  split_ifs <;> rfl

theorem SameMotion.decidedPlanner (h : SameMotion s s') (p : P) :
    s'.decidedPlanner ext i p = s.decidedPlanner ext i p := by
  unfold MissionManager.decidedPlanner
  rw [h.pos.1, h.pos.2.1, h.pos.2.2, h.isStationary]

theorem planner_decideSearch_eq (s : MissionManager P) :
    (s.decideSearch ext i).planner = s.decidedPlanner ext i s.planner := by
  have hpos : s.isStationary.2.currentPosX = s.currentPosX ∧ s.isStationary.2.currentPosY = s.currentPosY ∧
      s.isStationary.2.currentPosZ = s.currentPosZ := by
    unfold MissionManager.isStationary
    dsimp only
    split_ifs <;> exact ⟨rfl, rfl, rfl⟩
  unfold decideSearch MissionManager.decidedPlanner
  split_ifs
  · rfl
  · rfl
  · show ext.updateSearch i.onUpdate s.isStationary.2.currentPosX s.isStationary.2.currentPosY
      (-s.isStationary.2.currentPosZ) i.heightAboveObstacle s.isStationary.1 i.landingState s.isStationary.2.planner = _
    rw [hpos.1, hpos.2.1, hpos.2.2, planner_isStationary]

theorem steady_decideSearch (s : MissionManager P) : Steady s (s.decideSearch ext i) := by
  unfold decideSearch
  split_ifs
  · exact (steady_statusText ..).trans (steady_withPlanner ..)
  · exact .refl s
  · exact (steady_isStationary s).trans (steady_withPlanner ..)

theorem steady_restoreIfEnded (s : MissionManager P) : Steady s (s.restoreIfEnded ext) := by
  unfold restoreIfEnded
  split_ifs
  · exact steady_landingSiteSearchHasEnded ..
  · exact .refl s

theorem keeps_commandSearch (initiate land : Bool) (s : MissionManager P) :
    Keeps s (s.commandSearch ext initiate land) := by
  unfold commandSearch
  dsimp only
  split_ifs
  · exact ((steady_statusText ..).trans (steady_restoreIfEnded _)).toKeeps
  · exact ((keeps_hold s).trans (steady_withPlanner ..).toKeeps).trans
      ((steady_statusText ..).trans (steady_restoreIfEnded _)).toKeeps
  · exact (keeps_hold s).trans ((steady_statusText ..).trans (steady_restoreIfEnded _)).toKeeps
  · exact ((steady_goToNewLocalWaypoint ..).trans (steady_restoreIfEnded _)).toKeeps
  · exact (Steady.refl s).toKeeps

/-- The commands of a search leave the vehicle alone unless they hold. -/
theorem steady_commandSearch {initiate land : Bool}
    (h : ¬ if initiate then land = false else (ext.isEnded s.planner : Prop)) :
    Steady s (s.commandSearch ext initiate land) := by
  unfold commandSearch
  cases initiate with
  | true =>
    cases land with
    | true => exact (steady_statusText ..).trans (steady_restoreIfEnded _)
    | false => exact absurd rfl h
  | false =>
    have hended : ¬ ext.isEnded s.planner := h
    rw [if_neg Bool.false_ne_true, if_neg hended]
    split_ifs
    · exact (steady_goToNewLocalWaypoint ..).trans (steady_restoreIfEnded _)
    · exact .refl s

theorem updateLandingSiteSearch_heading (ext : Externals P E) (i : TickInput E) (s : MissionManager P) :
    Keeps s (s.updateLandingSiteSearch ext i (s.config.safeLandingTryLandingAfterAction ≠ 0)) ∧
      (¬ UpdateHolds ext i s s.planner →
        Steady s (s.updateLandingSiteSearch ext i (s.config.safeLandingTryLandingAfterAction ≠ 0))) := by
  unfold updateLandingSiteSearch
  refine ⟨(steady_decideSearch s).toKeeps.trans (keeps_commandSearch ..), fun hholds => ?_⟩
  refine (steady_decideSearch s).trans (steady_commandSearch ?_)
  unfold UpdateHolds at hholds
  rw [planner_decideSearch_eq]
  simpa using hholds

theorem steady_endLandingSiteSearch (havoidance : s.obstacleAvoidanceEnabled) (hend : s.shouldEndLandingSiteSearch) :
    Steady s (s.endLandingSiteSearch ext) := by
  have hdebug : ∀ debug, Steady s ({ s with planner := ext.endSearch s.planner }.landingSiteSearchHasEnded debug) :=
    fun debug => (steady_withPlanner ..).trans (steady_landingSiteSearchHasEnded ..)
  unfold endLandingSiteSearch
  dsimp only
  split_ifs with hground hmanual hrtl
  · exact hdebug _
  · exact hdebug _
  · exact hdebug _
  · unfold shouldEndLandingSiteSearch at hend
    simp_all

/-- Landing at the waypoint is justified while it is headed for, and the waypoint is forgotten. -/
theorem landAtWaypoint_headingInv (hs : HeadingInv s) (hpending : s.waypointPending) : HeadingInv s.landAtWaypoint where
  heading h := absurd h Bool.false_ne_true
  justified := Bool.and_eq_true_iff.mpr ⟨hs.heading hpending, hs.justified⟩

theorem processActiveActions_headingInv (havoidance : s.obstacleAvoidanceEnabled) (hs : HeadingInv s)
    (hok : s.waypointPending → ext.isActive s.planner → ¬ s.shouldEndLandingSiteSearch →
      ¬ UpdateHolds ext i s s.planner) :
    HeadingInv (s.processActiveActions ext i) := by
  have htime : ∀ s : MissionManager P, Steady s { s with lastTime := i.now } :=
    fun _ => .of_log rfl rfl rfl rfl
  unfold processActiveActions
  dsimp only
  split_ifs with hactive hend hreset harrived
  · exact ((steady_endLandingSiteSearch havoidance hend).trans (htime _)).headingInv hs
  · obtain ⟨hkeeps, hsteady⟩ := updateLandingSiteSearch_heading ext i s
    by_cases hpending : s.waypointPending
    · exact ((hsteady (hok hpending hactive hend)).trans (htime _)).headingInv hs
    · exact (hkeeps.trans (htime _).toKeeps).headingInv hs hpending
  · exact (steady_withPlanner ..).headingInv hs
  · rw [Bool.and_eq_true, Bool.and_eq_true] at harrived
    exact landAtWaypoint_headingInv hs harrived.1.1
  · exact hs

/-- The planner that is asked what to do in an iteration: one that has just been started, or the one there was. -/
def searchPlanner (ext : Externals P E) (i : TickInput E) (s : MissionManager P) : P :=
  if s.takesAction i ∧ s.config.safeLandingOnNoSafeLand = "LANDING_SITE_SEARCH" ∧ s.globalOriginReferenceSet then
    s.startedPlanner ext i
  else s.planner

theorem planner_onNoSafeLand (ext : Externals P E) (havoidance : s.obstacleAvoidanceEnabled)
    (htakes : s.takesAction i) :
    (s.onNoSafeLand ext i).planner = s.searchPlanner ext i := by
  unfold searchPlanner
  rcases onNoSafeLand_cases ext i s with ⟨haction, hquiet⟩ | ⟨haction, hattempt⟩
  · rw [if_neg fun h => haction h.2.1]
    exact hquiet.planner
  · cases hattempt with
    | started effect planner active origin =>
      rw [if_pos ⟨htakes, haction, origin⟩]
      exact planner
    | failed ended planner inactive origin =>
      rw [if_pos ⟨htakes, haction, origin⟩]
      exact planner
    | refused ended planner missing =>
      have horigin : ¬ s.globalOriginReferenceSet := missing.resolve_right (not_not.mpr havoidance)
      rw [if_neg fun h => horigin h.2.2]
      exact planner

theorem searchPlanner_of_not_takes (htakes : ¬ s.takesAction i) : s.searchPlanner ext i = s.planner := by
  unfold searchPlanner
  rw [if_neg fun h => htakes h.1]

theorem planner_triggerSafeLanding (ext : Externals P E) (i : TickInput E) (havoidance : s.obstacleAvoidanceEnabled) :
    (s.triggerSafeLanding ext i).planner = s.searchPlanner ext i := by
  cases triggerSafeLanding_trigger ext i s with
  | unhealthy free triggered unhealthy result =>
    rw [result, searchPlanner_of_not_takes (not_takesAction_of_unhealthy unhealthy s)]
    exact (quiet_actionTriggered ..).planner.trans ((quiet_statusText ..).planner.trans (quiet_hold s).planner)
  | action free triggered takes result =>
    rw [result]
    exact (quiet_actionTriggered ..).planner.trans (planner_onNoSafeLand ext havoidance takes)
  | none takes result => rw [result, searchPlanner_of_not_takes takes]

/-! ### Iterations that keep the heading -/

/-- The iteration holds because of its search. -/
structure SearchHolds (ext : Externals P E) (i : TickInput E) (s : MissionManager P) : Prop where
  active : ext.isActive (s.searchPlanner ext i)
  continues : ¬ s.shouldEndLandingSiteSearch
  holds : UpdateHolds ext i s (s.searchPlanner ext i)

/-- While a waypoint is pending the handler commands nothing but to go to a waypoint: it stops no search with a
hold, its trigger neither holds nor returns to launch, and its search does not hold. -/
inductive StaysOnCourse (ext : Externals P E) (i : TickInput E) (s : MissionManager P) : Prop
  | off (off : s.config.safeLandingEnabled = 0 ∨ ¬ s.obstacleAvoidanceEnabled)
      (idle : s.waypointPending → ¬ ext.isActive s.planner)
  | on (on : s.config.safeLandingEnabled ≠ 0) (avoidance : s.obstacleAvoidanceEnabled)
      (trigger : s.waypointPending → ¬ TriggerDiverts ext i s)
      (search : s.pendingAfterTrigger ext i → ¬ SearchHolds ext i s)

theorem processed_headingInv (hs : HeadingInv s) (havoidance : s.obstacleAvoidanceEnabled)
    (htrigger : s.waypointPending → ¬ TriggerDiverts ext i s)
    (hsearch : s.pendingAfterTrigger ext i → ¬ SearchHolds ext i s) :
    HeadingInv ((s.triggerSafeLanding ext i).processActiveActions ext i) := by
  obtain ⟨hinv, hpending⟩ := triggerSafeLanding_headingInv hs htrigger
  obtain ⟨ended, started, heffect⟩ := effect_triggerSafeLanding ext i s
  have hplanner := planner_triggerSafeLanding ext i havoidance
  have hmotion := sameMotion_triggerSafeLanding ext i s
  refine processActiveActions_headingInv (heffect.avoidance.trans havoidance) hinv fun hafter hactive hstop hholds => ?_
  refine hsearch (hpending ▸ hafter) ⟨hplanner ▸ hactive, ?_, ?_⟩
  · unfold shouldEndLandingSiteSearch underManualControl at hstop ⊢
    rw [← heffect.landedState, ← heffect.flightMode, ← heffect.avoidance]
    exact hstop
  · unfold UpdateHolds at hholds ⊢
    rw [hmotion.decidedPlanner, hplanner, heffect.config] at hholds
    exact hholds

theorem handleSafeLanding_headingInv (hs : HeadingInv (s.updateObstacleAvoidanceStatus i.rosNow))
    (hok : StaysOnCourse ext i (s.updateObstacleAvoidanceStatus i.rosNow)) :
    HeadingInv (s.handleSafeLanding ext i) := by
  unfold handleSafeLanding
  generalize s.updateObstacleAvoidanceStatus i.rosNow = s at hs hok ⊢
  dsimp only
  cases hok with
  | off off idle =>
    rw [if_pos (by simpa using off)]
    split_ifs with hactive
    · have hkeeps := ((steady_withPlanner (ext.endSearch s.planner) s).toKeeps.trans (keeps_hold _)).trans
        (steady_landingSiteSearchHasEnded "DISABLED" _).toKeeps
      exact hkeeps.headingInv hs fun hpending => idle hpending hactive
    · exact hs
  | on on avoidance trigger search =>
    rw [if_neg (by simp [on, avoidance])]
    exact processed_headingInv hs avoidance trigger search

/-! ### Runs -/

/-- The decision maker is safe landing. -/
def InSafeLanding : MissionInput E → Prop
  | .tick i => i.config.decisionMakerInputType = "SAFE_LANDING"
  | _ => True

/-- While a waypoint is pending no manual mode is entered, and every iteration stays on course. -/
def KeepsHeading (ext : Externals P E) (s : MissionManager P) : MissionInput E → Prop
  | .flightMode mode => s.waypointPending → ¬ mode.isManual
  | .tick i => i.config.autopilotManagerEnabled ≠ 0 → StaysOnCourse ext i (s.beginTick i)
  | _ => True

theorem steady_config (config : MissionManagerConfiguration) (s : MissionManager P) :
    Steady s { s with config := config } := .of_log rfl rfl rfl rfl

theorem steady_afterHandler (s : MissionManager P) : Steady s (s.afterHandler i) := by
  have hhealthy : ∀ healthy, Steady s { s with isHealthy := healthy } := fun _ => .of_log rfl rfl rfl rfl
  exact (hhealthy _).trans (steady_actionTimeout ..)

theorem decisionMakerRun_headingInv (hs : HeadingInv s) (htype : i.config.decisionMakerInputType = "SAFE_LANDING")
    (hok : i.config.autopilotManagerEnabled ≠ 0 → StaysOnCourse ext i (s.beginTick i)) :
    HeadingInv (s.decisionMakerRun ext i) := by
  by_cases henabled : i.config.autopilotManagerEnabled = 0
  · cases decisionMakerRun_of_bypasses ext (.inl henabled) s with
    | disabled result => exact result ▸ (steady_config i.config s).headingInv hs
    | avoidance enabled => exact absurd henabled enabled
    | undecided enabled => exact absurd henabled enabled
  · rw [decisionMakerRun_of_calls ext fun h => h.elim henabled (· htype)]
    refine (steady_afterHandler _).headingInv ?_
    exact handleSafeLanding_headingInv ((steady_beginTick (i := i) s).headingInv hs) (hok henabled)

theorem steady_resetPlanner (s : MissionManager P) : Steady s (s.resetPlanner ext) := by
  unfold resetPlanner
  dsimp only
  refine Steady.trans ?_ (steady_withPlanner ..)
  split_ifs
  · exact (steady_withPlanner ..).trans (steady_landingSiteSearchHasEnded ..)
  · exact .refl s

theorem flightModeCallback_headingInv {mode : FlightMode} (hs : HeadingInv s)
    (hok : s.waypointPending → ¬ mode.isManual) : HeadingInv (s.flightModeCallback ext mode) := by
  have hcall : HeadingInv (s.emit (.flightModeCallback mode)) := by
    refine ⟨fun hpending => Bool.and_eq_true_iff.mpr ⟨?_, hs.heading hpending⟩, hs.justified⟩
    simpa using hok hpending
  have hmode : ∀ s : MissionManager P, Steady s { s with flightMode := mode } :=
    fun _ => .of_log rfl rfl rfl rfl
  exact flightModeCallback_induction hcall ((hmode _).headingInv hcall)
    (((hmode _).trans (steady_resetPlanner _)).headingInv hcall)

/-- The other callbacks leave the waypoint and the commands alone. -/
theorem Callback.steady (h : Callback ext s s') : Steady s s' := by
  cases h.log with
  | nothing log => exact .of_log h.waypoint.1 h.waypoint.2.1 h.waypoint.2.2 log
  | text type text log =>
    refine ⟨⟨h.waypoint, ?_⟩, fun lat lon altAmsl => ?_⟩
    · rw [log]
      rfl
    · rw [log]
      rfl
  | answer reply message log land =>
    refine ⟨⟨h.waypoint, ?_⟩, fun lat lon altAmsl => ?_⟩
    · rw [log]
      rfl
    · rw [log]
      rfl

theorem keeps_flightModeCallback (mode : FlightMode) (s : MissionManager P) :
    Keeps s (s.flightModeCallback ext mode) := by
  have hcall : Keeps s (s.emit (.flightModeCallback mode)) := ⟨⟨rfl, rfl, rfl⟩, rfl⟩
  have hmode : ∀ s : MissionManager P, Keeps s { s with flightMode := mode } := fun _ => ⟨⟨rfl, rfl, rfl⟩, rfl⟩
  exact flightModeCallback_induction hcall (hcall.trans (hmode _))
    ((hcall.trans (hmode _)).trans (steady_resetPlanner _).toKeeps)

theorem step_headingInv {input : MissionInput E} (hs : HeadingInv s) (htype : InSafeLanding input)
    (hok : KeepsHeading ext s input) : HeadingInv (step ext s input) := by
  rcases step_cases ext s input with ⟨i, rfl⟩ | ⟨mode, rfl⟩ | hcallback
  · exact decisionMakerRun_headingInv hs htype hok
  · exact flightModeCallback_headingInv hs hok
  · exact hcallback.steady.headingInv hs

/-- **Landings at a waypoint are justified**: in every run of safe landing in which, while a waypoint is pending, no
manual mode is entered and no iteration commands anything else, the module lands at a waypoint only when its last
command was to go there and no manual mode has been entered since. -/
theorem landings_justified (boot : Boot) (is : List (MissionInput E)) (htype : ∀ input ∈ is, InSafeLanding input)
    (hok : Meets (step ext) (KeepsHeading ext) (initial ext boot) is) :
    justified (run (step ext) (initial ext boot) is).log := by
  have hinitial : HeadingInv (initial ext boot) := ⟨fun h => absurd h Bool.false_ne_true, rfl⟩
  suffices h : HeadingInv (run (step ext) (initial ext boot) is) from h.justified
  generalize initial ext boot = s at hinitial hok ⊢
  induction is generalizing s with
  | nil => exact hinitial
  | cons input is ih =>
    refine ih (fun j hj => htype j (List.mem_cons_of_mem _ hj)) _ ?_ hok.2
    exact step_headingInv hinitial (htype input List.mem_cons_self) hok.1

/-! ### Two runs to a waypoint -/

/-- Safe landing by going to the waypoint (1, 1, 10), to land there. -/
def goToWaypointConfig : MissionManagerConfiguration :=
  { safeLandingBy "GO_TO_WAYPOINT" with
    globalPositionWaypointLat := 1
    globalPositionWaypointLon := 1
    globalPositionWaypointAltAmsl := 10
    safeLandingTryLandingAfterAction := 1 }

/-- A landing is triggered on bad ground, and the vehicle goes to the waypoint. -/
def waypointRun : List (MissionInput Bool) :=
  [.gpsGlobalOrigin (.success 1 1 0), .flightMode .land, .trajectory zeroTrajectory,
    .tick (tickOver .canNotLand goToWaypointConfig)]

/-- The vehicle arrives. -/
def arrivalRun : List (MissionInput Bool) := [.position 1 1 10, .tick (tickOver .canLand goToWaypointConfig)]

theorem landings_justified_arrival :
    justified (run (step phasePlanner) (initial phasePlanner zeroBoot) (waypointRun ++ arrivalRun)).log := by
  refine landings_justified zeroBoot (waypointRun ++ arrivalRun) ?_ ?_
  · simp [waypointRun, arrivalRun, InSafeLanding, tickOver, goToWaypointConfig, safeLandingBy]
  · refine ⟨trivial, fun _ => by decide, trivial, fun _ => ?_, trivial, fun _ => ?_, trivial⟩
    · refine .on (by decide +kernel) (by decide +kernel) (fun hpending => absurd hpending (by decide +kernel)) ?_
      exact fun _ hholds => absurd hholds.active (by decide +kernel)
    · refine .on (by decide +kernel) (by decide +kernel) ?_ fun _ hholds => absurd hholds.active (by decide +kernel)
      rintro - (⟨hfree, -, -⟩ | ⟨htakes, -⟩)
      · exact hfree (by decide +kernel)
      · exact absurd htakes (by decide +kernel)

/-- The pilot takes over on the way and flies past the waypoint: the module lands. -/
theorem landing_under_manual_control :
    (∀ input ∈ waypointRun ++ [.flightMode .posctl] ++ arrivalRun, InSafeLanding input) ∧
      ¬ justified (run (step phasePlanner) (initial phasePlanner zeroBoot)
        (waypointRun ++ [.flightMode .posctl] ++ arrivalRun)).log := by
  refine ⟨?_, by decide +kernel⟩
  simp [waypointRun, arrivalRun, InSafeLanding, tickOver, goToWaypointConfig, safeLandingBy]

end MissionManager

end AutopilotManager
