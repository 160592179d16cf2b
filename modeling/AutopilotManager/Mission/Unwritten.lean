import AutopilotManager.Mission.Frame

/-!
# Mission.Unwritten — what the decisions do not write

A decision writes the state of the module in few ways.  A reading of the state that none of these writes changes is
the same after every part of the decision, so it is enough to look at the writes.
-/

namespace AutopilotManager

open Lib

namespace MissionManager

variable {P E α : Type}

/-- A reading that the actions do not write: they log, move the planner, and set the two waypoints and the speeds of
landing. -/
structure Unacted (f : MissionManager P → α) : Prop where
  emit : ∀ e s, f (s.emit e) = f s
  withPlanner : ∀ p s, f { s with planner := p } = f s
  setNewWaypoint : ∀ lat lon altAmsl s, f (s.setNewWaypoint lat lon altAmsl) = f s
  setNewLocalWaypoint : ∀ x y yaw s, f (s.setNewLocalWaypoint x y yaw) = f s
  landingSpeeds : ∀ speed crawl altitude s,
    f { s with landingSpeed := speed, landingCrawlSpeed := crawl, landingCrawlAltitude := altitude } = f s

/-- A reading that the search does not write either: it counts and notes the time. -/
structure Unwritten (f : MissionManager P → α) : Prop extends Unacted f where
  debounce : ∀ n s, f { s with isStationaryDebounceCounter := n } = f s
  lastTime : ∀ now s, f { s with lastTime := now } = f s

/-- A reading that no part of an iteration writes. -/
structure Untouched (f : MissionManager P → α) : Prop extends Unwritten f where
  config : ∀ config s, f { s with config := config } = f s
  actionInProgress : ∀ inProgress s, f { s with actionInProgress := inProgress } = f s
  avoidance : ∀ enabled s, f { s with obstacleAvoidanceEnabled := enabled } = f s
  isHealthy : ∀ healthy s, f { s with isHealthy := healthy } = f s

/-- A reading that the actions and the callbacks do not write, but perhaps the one of a trajectory message. -/
structure Unheard (f : MissionManager P → α) : Prop extends Unacted f where
  flightMode : ∀ mode s, f { s with flightMode := mode } = f s
  landedState : ∀ previous landed s, f { s with previousLandedState := previous, landedState := landed } = f s
  position : ∀ lat lon alt s, f (s.positionCallback lat lon alt) = f s
  positionVelocity : ∀ n e d vn ve vd s, f (s.positionVelocityCallback n e d vn ve vd) = f s
  attitude : ∀ yawDeg s, f (s.attitudeCallback yawDeg) = f s
  reference : ∀ lat lon alt s, f { s with refLatitude := lat, refLongitude := lon, refAltitude := alt } = f s
  origin : ∀ isSet s, f { s with globalOriginReferenceSet := isSet } = f s

/-- The time of the last action is noted by decisions only. -/
theorem unheard_lastTime : Unheard (fun s : MissionManager P => s.lastTime) := by
  repeat' constructor
  all_goals intros; rfl

/-- A reading that no callback writes, but perhaps the one of a trajectory message. -/
structure Uncalled (f : MissionManager P → α) : Prop extends Unwritten f where
  flightMode : ∀ mode s, f { s with flightMode := mode } = f s
  landedState : ∀ previous landed s, f { s with previousLandedState := previous, landedState := landed } = f s
  position : ∀ lat lon alt s, f (s.positionCallback lat lon alt) = f s
  positionVelocity : ∀ n e d vn ve vd s, f (s.positionVelocityCallback n e d vn ve vd) = f s
  attitude : ∀ yawDeg s, f (s.attitudeCallback yawDeg) = f s
  reference : ∀ lat lon alt s, f { s with refLatitude := lat, refLongitude := lon, refAltitude := alt } = f s
  origin : ∀ isSet s, f { s with globalOriginReferenceSet := isSet } = f s
  vel : ∀ vel s, f { s with vel := vel } = f s

theorem Uncalled.unheard {f : MissionManager P → α} (hf : Uncalled f) : Unheard f :=
  ⟨hf.toUnacted, hf.flightMode, hf.landedState, hf.position, hf.positionVelocity, hf.attitude, hf.reference, hf.origin⟩

theorem uncalled_actionInProgress : Uncalled (fun s : MissionManager P => s.actionInProgress) := by
  repeat' constructor
  all_goals intros; rfl

theorem uncalled_isHealthy : Uncalled (fun s : MissionManager P => s.isHealthy) := by
  repeat' constructor
  all_goals intros; rfl

theorem uncalled_obstacleAvoidanceEnabled : Uncalled (fun s : MissionManager P => s.obstacleAvoidanceEnabled) := by
  repeat' constructor
  all_goals intros; rfl

theorem uncalled_timeLastTraj : Uncalled (fun s : MissionManager P => s.timeLastTraj) := by
  repeat' constructor
  all_goals intros; rfl

theorem untouched_timeLastTraj : Untouched (fun s : MissionManager P => s.timeLastTraj) where
  toUnwritten := uncalled_timeLastTraj.toUnwritten
  config _ _ := rfl
  actionInProgress _ _ := rfl
  avoidance _ _ := rfl
  isHealthy _ _ := rfl

variable {ext : Externals P E} {i : TickInput E} {f : MissionManager P → α}

/-! ### The actions -/

namespace Unacted

variable (hf : Unacted f)
include hf

theorem hold (s : MissionManager P) : f s.hold = f s := hf.emit _ s

theorem returnToLaunch (s : MissionManager P) : f s.returnToLaunch = f s := hf.emit _ s

theorem statusText (type : StatusTextType) (text : String) (s : MissionManager P) : f (s.statusText type text) = f s :=
  hf.emit _ s

theorem landingSiteSearchHasEnded (debug : String) (s : MissionManager P) :
    f (s.landingSiteSearchHasEnded debug) = f s := by
  unfold MissionManager.landingSiteSearchHasEnded
  dsimp only
  rw [hf.statusText, hf.emit, hf.setNewLocalWaypoint]

theorem goTo (lat lon altAmsl : Double) (s : MissionManager P) : f (s.goTo lat lon altAmsl) = f s := by
  unfold MissionManager.goTo
  rw [hf.setNewWaypoint, hf.emit]

theorem moveXyzWrtCurrent (s : MissionManager P) : f (s.moveXyzWrtCurrent ext) = f s := by
  unfold MissionManager.moveXyzWrtCurrent
  split_ifs
  · exact (hf.statusText ..).trans (hf.goTo ..)
  · exact (hf.statusText ..).trans (hf.hold s)

theorem goToWaypoint (s : MissionManager P) : f s.goToWaypoint = f s := by
  unfold MissionManager.goToWaypoint
  split_ifs
  · exact (hf.statusText ..).trans (hf.returnToLaunch s)
  · exact (hf.statusText ..).trans (hf.goTo ..)
  · exact (hf.statusText ..).trans (hf.hold s)

theorem startSearch (s : MissionManager P) : f (s.startSearch ext i) = f s :=
  (hf.withPlanner ..).trans (hf.emit ..)

theorem landingSiteSearch (s : MissionManager P) : f (s.landingSiteSearch ext i) = f s := by
  have hfailed : ∀ debug type text (s : MissionManager P),
      f ((s.hold.landingSiteSearchHasEnded debug).statusText type text) = f s := fun debug type text s =>
    (hf.statusText ..).trans ((hf.landingSiteSearchHasEnded ..).trans (hf.hold s))
  have hstarted : f (((s.statusText .warning "Starting Landing Site Search").updateLandingSpeedConfig i).startSearch
      ext i) = f s := (hf.startSearch _).trans ((hf.landingSpeeds ..).trans (hf.statusText ..))
  unfold MissionManager.landingSiteSearch
  dsimp only
  split_ifs
  · exact (hf.setNewLocalWaypoint ..).trans hstarted
  · exact (hfailed ..).trans hstarted
  · exact hfailed ..
  · exact hfailed ..
  · rfl

theorem onNoSafeLand (s : MissionManager P) : f (s.onNoSafeLand ext i) = f s := by
  cases onNoSafeLand_branch ext i s with
  | plain action result => rw [result, hf.statusText, hf.emit]
  | move action result => rw [result, hf.moveXyzWrtCurrent]
  | search action result => rw [result, hf.landingSiteSearch]
  | go action result => rw [result, hf.goToWaypoint]
  | unknown move search go result => rw [result]

theorem triggerSafeLanding (htriggered : ∀ now s, f (s.actionTriggered now) = f s) (s : MissionManager P) :
    f (s.triggerSafeLanding ext i) = f s := by
  cases triggerSafeLanding_trigger ext i s with
  | unhealthy free triggered unhealthy result => rw [result, htriggered, hf.statusText, hf.hold]
  | action free triggered takes result => rw [result, htriggered, hf.onNoSafeLand]
  | none takes result => rw [result]

theorem restoreIfEnded (s : MissionManager P) : f (s.restoreIfEnded ext) = f s := by
  unfold MissionManager.restoreIfEnded
  split_ifs
  · exact hf.landingSiteSearchHasEnded _ s
  · rfl

theorem commandSearch (initiate land : Bool) (s : MissionManager P) : f (s.commandSearch ext initiate land) = f s := by
  unfold MissionManager.commandSearch
  dsimp only
  split_ifs
  · exact (hf.restoreIfEnded _).trans (hf.statusText ..)
  · exact (hf.restoreIfEnded _).trans ((hf.statusText ..).trans ((hf.withPlanner ..).trans (hf.hold s)))
  · exact (hf.restoreIfEnded _).trans ((hf.statusText ..).trans (hf.hold s))
  · exact (hf.restoreIfEnded _).trans (hf.setNewLocalWaypoint ..)
  · rfl

theorem endLandingSiteSearch (s : MissionManager P) : f (s.endLandingSiteSearch ext) = f s := by
  unfold MissionManager.endLandingSiteSearch
  dsimp only
  split_ifs
  · exact (hf.landingSiteSearchHasEnded ..).trans (hf.withPlanner ..)
  · exact (hf.landingSiteSearchHasEnded ..).trans (hf.withPlanner ..)
  · exact (hf.landingSiteSearchHasEnded ..).trans (hf.withPlanner ..)
  · exact (hf.landingSiteSearchHasEnded ..).trans
      ((hf.statusText ..).trans ((hf.hold _).trans (hf.withPlanner ..)))

theorem landAtWaypoint (s : MissionManager P) : f s.landAtWaypoint = f s :=
  (hf.setNewWaypoint ..).trans ((hf.emit ..).trans (hf.emit ..))

theorem resetPlanner (s : MissionManager P) : f (s.resetPlanner ext) = f s := by
  unfold MissionManager.resetPlanner
  dsimp only
  split_ifs
  · exact (hf.withPlanner ..).trans ((hf.landingSiteSearchHasEnded ..).trans (hf.withPlanner ..))
  · exact hf.withPlanner _ s

theorem onObstacle (s : MissionManager P) : f s.onObstacle = f s := by
  unfold MissionManager.onObstacle
  dsimp only
  split_ifs <;> first | exact hf.hold s | exact hf.returnToLaunch s | exact hf.emit _ s | rfl

end Unacted

/-! ### The search -/

namespace Unwritten

variable (hf : Unwritten f)
include hf

theorem isStationary (s : MissionManager P) : f s.isStationary.2 = f s := by
  unfold MissionManager.isStationary
  dsimp only
  split_ifs <;> exact hf.debounce _ s

theorem decideSearch (s : MissionManager P) : f (s.decideSearch ext i) = f s := by
  unfold MissionManager.decideSearch
  split_ifs
  · exact (hf.withPlanner ..).trans (hf.statusText ..)
  · rfl
  · exact (hf.withPlanner ..).trans (hf.isStationary s)

theorem updateLandingSiteSearch (land : Bool) (s : MissionManager P) :
    f (s.updateLandingSiteSearch ext i land) = f s :=
  (hf.commandSearch ..).trans (hf.decideSearch s)

theorem processActiveActions (s : MissionManager P) : f (s.processActiveActions ext i) = f s := by
  unfold MissionManager.processActiveActions
  dsimp only
  split_ifs
  · exact (hf.lastTime ..).trans (hf.endLandingSiteSearch s)
  · exact (hf.lastTime ..).trans (hf.updateLandingSiteSearch _ s)
  · exact hf.withPlanner _ s
  · exact hf.landAtWaypoint s
  · rfl

end Unwritten

/-! ### The iteration -/

namespace Untouched

variable (hf : Untouched f)
include hf

theorem actionTriggered (now : ℤ) (s : MissionManager P) : f (s.actionTriggered now) = f s :=
  (hf.lastTime now { s with actionInProgress := true }).trans (hf.actionInProgress true s)

theorem updateObstacleAvoidanceStatus (rosNow : ℤ) (s : MissionManager P) :
    f (s.updateObstacleAvoidanceStatus rosNow) = f s := by
  unfold MissionManager.updateObstacleAvoidanceStatus
  split_ifs
  · rfl
  · exact hf.avoidance _ s

theorem handleSafeLanding (s : MissionManager P) : f (s.handleSafeLanding ext i) = f s := by
  have hstatus := hf.updateObstacleAvoidanceStatus i.rosNow s
  unfold MissionManager.handleSafeLanding
  dsimp only
  split_ifs
  · exact (hf.landingSiteSearchHasEnded ..).trans ((hf.hold _).trans ((hf.withPlanner ..).trans hstatus))
  · exact hstatus
  · exact (hf.processActiveActions _).trans ((hf.triggerSafeLanding hf.actionTriggered _).trans hstatus)

theorem handleSimpleCollisionAvoidance (s : MissionManager P) : f (s.handleSimpleCollisionAvoidance i) = f s := by
  rcases handleSimpleCollisionAvoidance_cases i s with ⟨-, hresult⟩ | hresult
  · rw [hresult, hf.actionTriggered, hf.onObstacle]
  · rw [hresult]

theorem actionTimeout (now : ℤ) (s : MissionManager P) : f (s.actionTimeout now) = f s := by
  unfold MissionManager.actionTimeout
  split_ifs
  · exact hf.actionInProgress _ s
  · rfl

/-- **An iteration leaves every untouched reading.** -/
theorem decisionMakerRun (s : MissionManager P) : f (s.decisionMakerRun ext i) = f s := by
  unfold MissionManager.decisionMakerRun MissionManager.makeDecision
  dsimp only
  split_ifs
  · exact (hf.actionTimeout ..).trans ((hf.isHealthy ..).trans ((hf.handleSafeLanding _).trans (hf.config ..)))
  · exact (hf.actionTimeout ..).trans ((hf.handleSimpleCollisionAvoidance _).trans (hf.config ..))
  · exact (hf.actionTimeout ..).trans (hf.config ..)
  · exact hf.config _ s

end Untouched

/-! ### The callbacks -/

namespace Unheard

variable (hf : Unheard f)
include hf

theorem flightModeCallback (mode : FlightMode) (s : MissionManager P) : f (s.flightModeCallback ext mode) = f s := by
  have hcall := hf.emit (.flightModeCallback mode) s
  have hmode := (hf.flightMode mode _).trans hcall
  exact flightModeCallback_induction (Q := fun s' => f s' = f s) hcall hmode ((hf.resetPlanner _).trans hmode)

theorem landedStateCallback (landed : LandedState) (s : MissionManager P) : f (s.landedStateCallback landed) = f s := by
  unfold MissionManager.landedStateCallback
  split_ifs
  · exact hf.landedState _ _ s
  · rfl

theorem setGlobalPositionReference (result : GpsGlobalOrigin) (s : MissionManager P) :
    f (s.setGlobalPositionReference result) = f s := by
  unfold MissionManager.setGlobalPositionReference
  cases result with
  | success lat lon alt =>
    dsimp only
    split_ifs
    · exact (hf.origin ..).trans ((hf.statusText ..).trans (hf.reference ..))
    · rfl
  | timeout => rfl
  | failed => rfl

/-- **A step that is neither an iteration nor a message leaves every such reading.** -/
theorem step (s : MissionManager P) {input : MissionInput E} (htick : ∀ i, input ≠ .tick i)
    (hmessage : ∀ t, input ≠ .trajectory t) : f (s.step ext input) = f s := by
  cases input with
  | tick i => exact absurd rfl (htick i)
  | flightMode mode => exact hf.flightModeCallback mode s
  | landedState landed => exact hf.landedStateCallback landed s
  | position lat lon alt => exact hf.position lat lon alt s
  | positionVelocity n e d vn ve vd => exact hf.positionVelocity n e d vn ve vd s
  | attitude yawDeg => exact hf.attitude yawDeg s
  | gpsGlobalOrigin result => exact hf.setGlobalPositionReference result s
  | trajectory t => exact absurd rfl (hmessage t)

/-- A message is answered in the log; it moves the smoothed velocity and the time of the last message. -/
theorem onMavlinkTrajectoryMessage (hvel : ∀ vel s, f { s with vel := vel } = f s) (t : TrajectoryInput)
    (s : MissionManager P) : f (s.onMavlinkTrajectoryMessage ext t) =
      if t.compid = mavCompIdObstacleAvoidance then f s else f { s with timeLastTraj := t.rosNow } := by
  cases onMavlinkTrajectoryMessage_answer ext t s with
  | own own result => rw [result, if_pos own]
  | land foreign active valid lands result => rw [result, if_neg foreign, hf.emit]
  | search foreign active valid searches result =>
    rw [result, if_neg foreign, hf.emit]
    exact hvel _ { s with timeLastTraj := t.rosNow }
  | forwarded foreign unready result => rw [result, if_neg foreign, hf.emit]

/-- A reading that neither of these touches is left by every step but iterations. -/
theorem step_of_untimed (hvel : ∀ vel s, f { s with vel := vel } = f s)
    (htime : ∀ t s, f { s with timeLastTraj := t } = f s) (s : MissionManager P) {input : MissionInput E}
    (htick : ∀ i, input ≠ .tick i) : f (s.step ext input) = f s := by
  by_cases hmessage : ∃ t, input = .trajectory t
  · obtain ⟨t, rfl⟩ := hmessage
    have hstep : f (s.onMavlinkTrajectoryMessage ext t) = _ := hf.onMavlinkTrajectoryMessage hvel t s
    rw [htime t.rosNow s, ite_self] at hstep
    exact hstep
  · exact hf.step s htick fun t ht => hmessage ⟨t, ht⟩

end Unheard

namespace Uncalled

variable (hf : Uncalled f)
include hf

/-- A trajectory message writes such a reading only by the time it notes. -/
theorem onMavlinkTrajectoryMessage (t : TrajectoryInput) (s : MissionManager P) :
    f (s.onMavlinkTrajectoryMessage ext t) =
      if t.compid = mavCompIdObstacleAvoidance then f s else f { s with timeLastTraj := t.rosNow } :=
  hf.unheard.onMavlinkTrajectoryMessage hf.vel t s

/-- A reading that the time of the last message does not touch is left by every step but iterations. -/
theorem step_of_untimed (htime : ∀ t s, f { s with timeLastTraj := t } = f s) (s : MissionManager P)
    {input : MissionInput E} (htick : ∀ i, input ≠ .tick i) : f (s.step ext input) = f s :=
  hf.unheard.step_of_untimed hf.vel htime s htick

end Uncalled

end MissionManager

end AutopilotManager
