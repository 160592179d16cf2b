import AutopilotManager.Mission.Commands
import AutopilotManager.Mission.Unwritten

/-!
# Mission.Undecided — what the decisions leave, but for the speeds of landing

Two readings are of this kind: the answers to trajectory messages, which no decision sends, and the speeds of landing,
which a decision reads from the vehicle where a search is about to start.
-/

namespace AutopilotManager

open Lib

namespace MissionManager

variable {P E α : Type}

/-- A reading that the decisions write, by `g`, only where they read the speeds of landing.  What they log is no answer
to a trajectory message. -/
structure Undecided (g : TickInput E → α → α) (f : MissionManager P → α) : Prop where
  read : ∀ i s, f (s.updateLandingSpeedConfig i) = g i (f s)
  emit : ∀ {e}, (∀ reply message, e ≠ .sent reply message) → ∀ s, f (s.emit e) = f s
  withPlanner : ∀ p s, f { s with planner := p } = f s
  setNewWaypoint : ∀ lat lon altAmsl s, f (s.setNewWaypoint lat lon altAmsl) = f s
  setNewLocalWaypoint : ∀ x y yaw s, f (s.setNewLocalWaypoint x y yaw) = f s
  debounce : ∀ n s, f { s with isStationaryDebounceCounter := n } = f s
  lastTime : ∀ now s, f { s with lastTime := now } = f s
  config : ∀ config s, f { s with config := config } = f s
  actionInProgress : ∀ inProgress s, f { s with actionInProgress := inProgress } = f s
  avoidance : ∀ enabled s, f { s with obstacleAvoidanceEnabled := enabled } = f s
  isHealthy : ∀ healthy s, f { s with isHealthy := healthy } = f s
  flightMode : ∀ mode s, f { s with flightMode := mode } = f s
  landedState : ∀ previous landed s, f { s with previousLandedState := previous, landedState := landed } = f s
  position : ∀ lat lon alt s, f (s.positionCallback lat lon alt) = f s
  positionVelocity : ∀ n e d vn ve vd s, f (s.positionVelocityCallback n e d vn ve vd) = f s
  attitude : ∀ yawDeg s, f (s.attitudeCallback yawDeg) = f s
  reference : ∀ lat lon alt s, f { s with refLatitude := lat, refLongitude := lon, refAltitude := alt } = f s
  origin : ∀ isSet s, f { s with globalOriginReferenceSet := isSet } = f s

/-- The action is a search that is about to start. -/
def startsReading (s : MissionManager P) : Bool :=
  s.config.safeLandingOnNoSafeLand = "LANDING_SITE_SEARCH" && (s.globalOriginReferenceSet && s.obstacleAvoidanceEnabled)

/-- The iteration reads the speeds of landing. -/
def readsParameters (i : TickInput E) (s : MissionManager P) : Bool :=
  i.judgesHealth && (!(s.beginTick i).isOff && ((s.beginTick i).takesAction i && (s.beginTick i).startsReading))

variable {ext : Externals P E} {i : TickInput E} {g : TickInput E → α → α} {f : MissionManager P → α}

namespace Undecided

variable (hf : Undecided g f)
include hf

/-! ### The actions -/

theorem command (c : Command) (s : MissionManager P) : f (s.emit (.command c)) = f s := hf.emit (by simp) s

theorem statusText (type : StatusTextType) (text : String) (s : MissionManager P) : f (s.statusText type text) = f s :=
  hf.emit (by simp) s

theorem landingSiteSearchHasEnded (debug : String) (s : MissionManager P) :
    f (s.landingSiteSearchHasEnded debug) = f s := by
  unfold MissionManager.landingSiteSearchHasEnded
  dsimp only
  rw [hf.statusText, hf.emit (by simp), hf.setNewLocalWaypoint]

theorem goTo (lat lon altAmsl : Double) (s : MissionManager P) : f (s.goTo lat lon altAmsl) = f s :=
  (hf.setNewWaypoint ..).trans (hf.command ..)

theorem moveXyzWrtCurrent (s : MissionManager P) : f (s.moveXyzWrtCurrent ext) = f s := by
  unfold MissionManager.moveXyzWrtCurrent
  split_ifs
  · exact (hf.statusText ..).trans (hf.goTo ..)
  · exact (hf.statusText ..).trans (hf.command _ s)

theorem goToWaypoint (s : MissionManager P) : f s.goToWaypoint = f s := by
  unfold MissionManager.goToWaypoint
  split_ifs
  · exact (hf.statusText ..).trans (hf.command _ s)
  · exact (hf.statusText ..).trans (hf.goTo ..)
  · exact (hf.statusText ..).trans (hf.command _ s)

/-- Where a search is about to start the speeds are read. -/
theorem landingSiteSearch (s : MissionManager P) : f (s.landingSiteSearch ext i) =
    if s.globalOriginReferenceSet && s.obstacleAvoidanceEnabled then g i (f s) else f s := by
  have hrefused (debug : String) (type : StatusTextType) (text : String) (s : MissionManager P) :
      f ((s.hold.landingSiteSearchHasEnded debug).statusText type text) = f s :=
    (hf.statusText ..).trans ((hf.landingSiteSearchHasEnded ..).trans (hf.command _ s))
  have hstarted (type : StatusTextType) (text : String) :
      f (((s.statusText type text).updateLandingSpeedConfig i).startSearch ext i) = g i (f s) := by
    refine (hf.withPlanner ..).trans ((hf.emit (by simp) _).trans ?_)
    rw [hf.read, hf.statusText]
  unfold MissionManager.landingSiteSearch
  dsimp only
  split_ifs
  · exact (hf.setNewLocalWaypoint ..).trans (hstarted ..)
  · exact (hrefused ..).trans (hstarted ..)
  · exact hrefused ..
  · exact hrefused ..
  · rfl

theorem onNoSafeLand (s : MissionManager P) : f (s.onNoSafeLand ext i) = if s.startsReading then g i (f s) else f s := by
  have hother (haction : s.config.safeLandingOnNoSafeLand ≠ "LANDING_SITE_SEARCH") : ¬ s.startsReading := by
    simp [startsReading, haction]
  cases onNoSafeLand_branch ext i s with
  | plain action result =>
    have hsearch : "LANDING_SITE_SEARCH" ∉ plainActions := by simp [plainActions]
    rw [if_neg (hother (ne_of_mem_of_not_mem action hsearch)), result, hf.statusText, hf.command]
  | move action result => rw [if_neg (hother (by rw [action]; simp)), result, hf.moveXyzWrtCurrent]
  | search action result =>
    rw [result, hf.landingSiteSearch]
    simp [startsReading, action]
  | go action result => rw [if_neg (hother (by rw [action]; simp)), result, hf.goToWaypoint]
  | unknown move search go result => rw [if_neg (hother search), result]

theorem actionTriggered (now : ℤ) (s : MissionManager P) : f (s.actionTriggered now) = f s :=
  (hf.lastTime now { s with actionInProgress := true }).trans (hf.actionInProgress true s)

theorem triggerSafeLanding (s : MissionManager P) : f (s.triggerSafeLanding ext i) =
    if s.takesAction i && s.startsReading then g i (f s) else f s := by
  cases triggerSafeLanding_trigger ext i s with
  | unhealthy free triggered unhealthy result =>
    rw [Bool.eq_false_iff.mpr (not_takesAction_of_unhealthy unhealthy s), result, hf.actionTriggered, hf.statusText]
    exact hf.command _ s
  | action free triggered takes result => rw [takes, Bool.true_and, result, hf.actionTriggered, hf.onNoSafeLand]
  | none takes result =>
    rw [Bool.eq_false_iff.mpr takes, result]
    rfl

/-! ### The search -/

theorem restoreIfEnded (s : MissionManager P) : f (s.restoreIfEnded ext) = f s := by
  unfold MissionManager.restoreIfEnded
  split_ifs
  · exact hf.landingSiteSearchHasEnded _ s
  · rfl

theorem commandSearch (initiate land : Bool) (s : MissionManager P) : f (s.commandSearch ext initiate land) = f s := by
  unfold MissionManager.commandSearch
  dsimp only
  split_ifs
  · exact (hf.restoreIfEnded _).trans (hf.statusText ..)
  · exact (hf.restoreIfEnded _).trans ((hf.statusText ..).trans ((hf.withPlanner ..).trans (hf.command _ s)))
  · exact (hf.restoreIfEnded _).trans ((hf.statusText ..).trans (hf.command _ s))
  · exact (hf.restoreIfEnded _).trans (hf.setNewLocalWaypoint ..)
  · rfl

theorem decideSearch (s : MissionManager P) : f (s.decideSearch ext i) = f s := by
  have hstationary : f s.isStationary.2 = f s := by
    unfold isStationary
    dsimp only
    split_ifs <;> exact hf.debounce _ s
  unfold MissionManager.decideSearch
  split_ifs
  · exact (hf.withPlanner ..).trans (hf.statusText ..)
  · rfl
  · exact (hf.withPlanner ..).trans hstationary

theorem endLandingSiteSearch (s : MissionManager P) : f (s.endLandingSiteSearch ext) = f s := by
  unfold MissionManager.endLandingSiteSearch
  dsimp only
  split_ifs
  · exact (hf.landingSiteSearchHasEnded ..).trans (hf.withPlanner ..)
  · exact (hf.landingSiteSearchHasEnded ..).trans (hf.withPlanner ..)
  · exact (hf.landingSiteSearchHasEnded ..).trans (hf.withPlanner ..)
  · exact (hf.landingSiteSearchHasEnded ..).trans
      ((hf.statusText ..).trans ((hf.command ..).trans (hf.withPlanner ..)))

theorem processActiveActions (s : MissionManager P) : f (s.processActiveActions ext i) = f s := by
  unfold MissionManager.processActiveActions
  dsimp only
  split_ifs
  · exact (hf.lastTime ..).trans (hf.endLandingSiteSearch s)
  · exact (hf.lastTime ..).trans ((hf.commandSearch ..).trans (hf.decideSearch s))
  · exact hf.withPlanner _ s
  · exact (hf.setNewWaypoint ..).trans ((hf.command ..).trans (hf.emit (by simp) s))
  · rfl

/-! ### The iteration -/

theorem beginTick (s : MissionManager P) : f (s.beginTick i) = f s := by
  rw [beginTick_eq]
  exact (hf.avoidance _ { s with config := i.config }).trans (hf.config _ s)

theorem handleSafeLanding (s : MissionManager P) : f (handleSafeLanding ext i { s with config := i.config }) =
    if !(s.beginTick i).isOff && ((s.beginTick i).takesAction i && (s.beginTick i).startsReading) then g i (f s)
    else f s := by
  have hbegin : f (s.beginTick i) = f s := hf.beginTick s
  rw [handleSafeLanding_beginTick, ← hbegin]
  generalize s.beginTick i = s
  by_cases hoff : s.isOff
  · rw [if_pos hoff, hoff]
    show _ = f s
    split_ifs
    · exact (hf.landingSiteSearchHasEnded ..).trans ((hf.command ..).trans (hf.withPlanner ..))
    · rfl
  · rw [if_neg hoff, Bool.eq_false_iff.mpr hoff, hf.processActiveActions, hf.triggerSafeLanding]
    rfl

theorem onObstacle (s : MissionManager P) : f s.onObstacle = f s := by
  unfold MissionManager.onObstacle
  dsimp only
  split_ifs <;> first | exact hf.command _ s | rfl

theorem actionTimeout (now : ℤ) (s : MissionManager P) : f (s.actionTimeout now) = f s := by
  unfold MissionManager.actionTimeout
  split_ifs
  · exact hf.actionInProgress _ s
  · rfl

/-- **What an iteration does to such a reading.** -/
theorem decisionMakerRun (ext : Externals P E) (i : TickInput E) (s : MissionManager P) :
    f (s.decisionMakerRun ext i) = if s.readsParameters i then g i (f s) else f s := by
  by_cases hbypass : i.bypasses
  · have hjudges : i.judgesHealth = false := Bool.eq_false_iff.mpr fun h => TickInput.judgesHealth_iff.mp h hbypass
    have hconfig : f { s with config := i.config } = f s := hf.config _ s
    rw [readsParameters, hjudges]
    show f (s.decisionMakerRun ext i) = f s
    cases decisionMakerRun_of_bypasses ext hbypass s with
    | disabled result => rw [result, hconfig]
    | avoidance enabled result =>
      rw [result, hf.actionTimeout]
      rcases handleSimpleCollisionAvoidance_cases i { s with config := i.config } with ⟨-, hobstacle⟩ | hnone
      · rw [hobstacle, hf.actionTriggered, hf.onObstacle, hconfig]
      · rw [hnone, hconfig]
    | undecided enabled result => rw [result, hf.actionTimeout, hconfig]
  · have hjudges : i.judgesHealth := TickInput.judgesHealth_iff.mpr hbypass
    rw [decisionMakerRun_of_calls ext hbypass, afterHandler, hf.actionTimeout, hf.isHealthy, readsParameters, hjudges]
    exact hf.handleSafeLanding s

/-! ### The callbacks -/

theorem flightModeCallback (mode : FlightMode) (s : MissionManager P) : f (s.flightModeCallback ext mode) = f s := by
  have hreset (s : MissionManager P) : f (s.resetPlanner ext) = f s := by
    unfold resetPlanner
    dsimp only
    split_ifs
    · exact (hf.withPlanner ..).trans ((hf.landingSiteSearchHasEnded ..).trans (hf.withPlanner ..))
    · exact hf.withPlanner _ s
  have hcall : f (s.emit (.flightModeCallback mode)) = f s := hf.emit (by simp) s
  have hmode := (hf.flightMode mode _).trans hcall
  exact flightModeCallback_induction (Q := fun s' => f s' = f s) hcall hmode ((hreset _).trans hmode)

theorem landedStateCallback (landed : LandedState) (s : MissionManager P) : f (s.landedStateCallback landed) = f s := by
  unfold MissionManager.landedStateCallback
  split_ifs
  · exact hf.landedState _ _ s
  · rfl

theorem setGlobalPositionReference (result : GpsGlobalOrigin) (s : MissionManager P) :
    f (s.setGlobalPositionReference result) = f s := by
  unfold MissionManager.setGlobalPositionReference
  cases result with
  | success lat lon alt =>
    dsimp only
    split_ifs
    · exact (hf.origin ..).trans ((hf.statusText ..).trans (hf.reference ..))
    · rfl
  | timeout => rfl
  | failed => rfl

/-- The other callbacks but that of a trajectory message leave it. -/
theorem step (s : MissionManager P) {input : MissionInput E} (htick : ∀ i, input ≠ .tick i)
    (hmessage : ∀ t, input ≠ .trajectory t) : f (s.step ext input) = f s := by
  cases input with
  | tick i => exact absurd rfl (htick i)
  | flightMode mode => exact hf.flightModeCallback mode s
  | landedState landed => exact hf.landedStateCallback landed s
  | position lat lon alt => exact hf.position lat lon alt s
  | positionVelocity n e d vn ve vd => exact hf.positionVelocity n e d vn ve vd s
  | attitude yawDeg => exact hf.attitude yawDeg s
  | gpsGlobalOrigin result => exact hf.setGlobalPositionReference result s
  | trajectory t => exact absurd rfl (hmessage t)

end Undecided

end MissionManager

end AutopilotManager
