import AutopilotManager.Mission.Step

/-!
# Mission.Frame — what the parts of an iteration change

Every part of an iteration is described once: what it does to the planner and to the override of the trajectory, how
many searches it starts and ends, and that it leaves what comes from outside as it was.  The invariants are derived
from these descriptions.
-/

namespace AutopilotManager

open Lib

namespace Event

def isSearchEnded : Event → Bool
  | searchEnded _ => true
  | _ => false

def isStartSearch : Event → Bool
  | startSearch _ => true
  | _ => false

end Event

/-- The handler of safe landing is not called: the module is disabled or makes another decision. -/
def TickInput.bypasses {E : Type} (i : TickInput E) : Prop :=
  i.config.autopilotManagerEnabled = 0 ∨ i.config.decisionMakerInputType ≠ "SAFE_LANDING"

/-- The iteration calls `handle_safe_landing` and writes the health bit. -/
def TickInput.judgesHealth {E : Type} (i : TickInput E) : Bool :=
  i.config.autopilotManagerEnabled ≠ 0 && i.config.decisionMakerInputType = "SAFE_LANDING"

theorem TickInput.judgesHealth_iff {E : Type} {i : TickInput E} : i.judgesHealth ↔ ¬ i.bypasses := by
  unfold judgesHealth bypasses
  simp

/-- A trajectory message of the vehicle, not one of the module's own. -/
def TrajectoryInput.isForeign (t : TrajectoryInput) : Bool := t.compid ≠ mavCompIdObstacleAvoidance

namespace MissionManager

variable {P E : Type}

/-- How often `landing_site_search_has_ended` has been called. -/
def searchesEnded (s : MissionManager P) : ℕ := s.log.countP Event.isSearchEnded

/-- How often `startSearch` has been called. -/
def searchesStarted (s : MissionManager P) : ℕ := s.log.countP Event.isStartSearch

/-- The override of the trajectory is unset. -/
def Unset (s : MissionManager P) : Prop := s.newX = .nan ∧ s.newY = .nan ∧ s.newYaw = .nan

/-- From `s` to `s'` the configuration, the state of the vehicle and the avoidance status stay, `ended` searches end
and `started` searches start. -/
structure Effect (ended started : ℕ) (s s' : MissionManager P) : Prop where
  config : s'.config = s.config
  flightMode : s'.flightMode = s.flightMode
  landedState : s'.landedState = s.landedState
  origin : s'.globalOriginReferenceSet = s.globalOriginReferenceSet
  avoidance : s'.obstacleAvoidanceEnabled = s.obstacleAvoidanceEnabled
  ends : s'.searchesEnded = s.searchesEnded + ended
  starts : s'.searchesStarted = s.searchesStarted + started

/-- An effect that leaves the planner and the override alone. -/
structure Quiet (s s' : MissionManager P) : Prop extends Effect 0 0 s s' where
  planner : s'.planner = s.planner
  override : s'.newX = s.newX ∧ s'.newY = s.newY ∧ s'.newYaw = s.newYaw

/-- An effect of `landing_site_search_has_ended`: the override is unset. -/
structure Ended (started : ℕ) (s s' : MissionManager P) : Prop extends Effect 1 started s s' where
  unset : s'.Unset

variable {s s' s'' : MissionManager P}

theorem Effect.trans {a b c d : ℕ} (h : Effect a b s s') (h' : Effect c d s' s'') :
    Effect (a + c) (b + d) s s'' where
  config := h'.config.trans h.config
  flightMode := h'.flightMode.trans h.flightMode
  landedState := h'.landedState.trans h.landedState
  origin := h'.origin.trans h.origin
  avoidance := h'.avoidance.trans h.avoidance
  ends := by rw [h'.ends, h.ends]; omega
  starts := by rw [h'.starts, h.starts]; omega

theorem Quiet.refl (s : MissionManager P) : Quiet s s := ⟨⟨rfl, rfl, rfl, rfl, rfl, rfl, rfl⟩, rfl, rfl, rfl, rfl⟩

theorem Quiet.trans (h : Quiet s s') (h' : Quiet s' s'') : Quiet s s'' where
  toEffect := h.toEffect.trans h'.toEffect
  planner := h'.planner.trans h.planner
  override := ⟨h'.override.1.trans h.override.1, h'.override.2.1.trans h.override.2.1,
    h'.override.2.2.trans h.override.2.2⟩

theorem Quiet.unset (h : Quiet s s') (hs : s.Unset) : s'.Unset :=
  ⟨h.override.1.trans hs.1, h.override.2.1.trans hs.2.1, h.override.2.2.trans hs.2.2⟩

/-! ### Elementary effects -/

/-- All entries of the log are quiet but the two that are counted. -/
theorem quiet_emit {e : Event} (hended : e.isSearchEnded = false) (hstart : e.isStartSearch = false)
    (s : MissionManager P) : Quiet s (s.emit e) := by
  refine ⟨⟨rfl, rfl, rfl, rfl, rfl, ?_, ?_⟩, rfl, rfl, rfl, rfl⟩
  · exact List.countP_cons_of_neg (ne_true_of_eq_false hended)
  · exact List.countP_cons_of_neg (ne_true_of_eq_false hstart)

theorem quiet_command (c : Command) (s : MissionManager P) : Quiet s (s.emit (.command c)) :=
  quiet_emit rfl rfl s

theorem quiet_hold (s : MissionManager P) : Quiet s s.hold := quiet_command .hold s

theorem quiet_returnToLaunch (s : MissionManager P) : Quiet s s.returnToLaunch := quiet_command .returnToLaunch s

theorem quiet_statusText (type : StatusTextType) (text : String) (s : MissionManager P) :
    Quiet s (s.statusText type text) := quiet_emit rfl rfl s

theorem quiet_setNewWaypoint (lat lon altAmsl : Double) (s : MissionManager P) :
    Quiet s (s.setNewWaypoint lat lon altAmsl) := ⟨⟨rfl, rfl, rfl, rfl, rfl, rfl, rfl⟩, rfl, rfl, rfl, rfl⟩

theorem quiet_goTo (lat lon altAmsl : Double) (s : MissionManager P) : Quiet s (s.goTo lat lon altAmsl) :=
  (quiet_command ..).trans (quiet_setNewWaypoint ..)

theorem quiet_actionTriggered (now : ℤ) (s : MissionManager P) : Quiet s (s.actionTriggered now) :=
  ⟨⟨rfl, rfl, rfl, rfl, rfl, rfl, rfl⟩, rfl, rfl, rfl, rfl⟩

theorem quiet_updateLandingSpeedConfig (i : TickInput E) (s : MissionManager P) :
    Quiet s (s.updateLandingSpeedConfig i) := ⟨⟨rfl, rfl, rfl, rfl, rfl, rfl, rfl⟩, rfl, rfl, rfl, rfl⟩

theorem quiet_landAtWaypoint (s : MissionManager P) : Quiet s s.landAtWaypoint := by
  have harrived : ∀ lat lon altAmsl, Quiet s (s.emit (.arrived lat lon altAmsl)) :=
    fun _ _ _ => quiet_emit rfl rfl s
  exact ((harrived ..).trans (quiet_command .land _)).trans (quiet_setNewWaypoint ..)

theorem effect_setNewLocalWaypoint (x y yaw : Double) (s : MissionManager P) :
    Effect 0 0 s (s.setNewLocalWaypoint x y yaw) := ⟨rfl, rfl, rfl, rfl, rfl, rfl, rfl⟩

theorem ended_landingSiteSearchHasEnded (debug : String) (s : MissionManager P) :
    Ended 0 s (s.landingSiteSearchHasEnded debug) := by
  have hend : ∀ s : MissionManager P, Effect 1 0 s (s.emit (.searchEnded debug)) := fun _ =>
    ⟨rfl, rfl, rfl, rfl, rfl, List.countP_cons_of_pos rfl, List.countP_cons_of_neg Bool.false_ne_true⟩
  refine ⟨?_, rfl, rfl, rfl⟩
  exact ((effect_setNewLocalWaypoint ..).trans (hend _)).trans (quiet_statusText ..).toEffect

theorem effect_goToNewLocalWaypoint (waypoint : LocalCoordinate) (s : MissionManager P) :
    Effect 0 0 s (s.goToNewLocalWaypoint waypoint) := effect_setNewLocalWaypoint _ _ _ s

theorem effect_withPlanner (p : P) (s : MissionManager P) : Effect 0 0 s { s with planner := p } :=
  ⟨rfl, rfl, rfl, rfl, rfl, rfl, rfl⟩

theorem effect_isStationary (s : MissionManager P) : Effect 0 0 s s.isStationary.2 := by
  unfold isStationary
  dsimp only
  split_ifs <;> exact ⟨rfl, rfl, rfl, rfl, rfl, rfl, rfl⟩

theorem planner_landingSiteSearchHasEnded (debug : String) (s : MissionManager P) :
    (s.landingSiteSearchHasEnded debug).planner = s.planner := rfl

/-! ### The actions -/

variable {ext : Externals P E} {i : TickInput E}

theorem quiet_moveXyzWrtCurrent (s : MissionManager P) : Quiet s (s.moveXyzWrtCurrent ext) := by
  unfold moveXyzWrtCurrent
  split_ifs
  · exact (quiet_goTo ..).trans (quiet_statusText ..)
  · exact (quiet_hold s).trans (quiet_statusText ..)

theorem quiet_goToWaypoint (s : MissionManager P) : Quiet s s.goToWaypoint := by
  unfold goToWaypoint
  split_ifs
  · exact (quiet_returnToLaunch s).trans (quiet_statusText ..)
  · exact (quiet_goTo ..).trans (quiet_statusText ..)
  · exact (quiet_hold s).trans (quiet_statusText ..)

/-- The planner after `startSearch` in state `s`. -/
def startedPlanner (ext : Externals P E) (i : TickInput E) (s : MissionManager P) : P :=
  ext.startSearch i.onStart s.currentPosX s.currentPosY s.currentYaw (-s.currentPosZ) (landingPlannerConfig s.config)
    s.planner

theorem effect_startSearch (ext : Externals P E) (i : TickInput E) (s : MissionManager P) :
    Effect 0 1 s (s.startSearch ext i) := by
  refine ⟨rfl, rfl, rfl, rfl, rfl, rfl, ?_⟩
  show List.countP Event.isStartSearch (.startSearch _ :: s.log) = s.searchesStarted + 1
  exact List.countP_cons_of_pos rfl

/-- The three ends of the action `LANDING_SITE_SEARCH`. -/
inductive SearchAttempt (ext : Externals P E) (i : TickInput E) (s s' : MissionManager P) : Prop
  /-- The planner is active and has given a waypoint. -/
  | started (effect : Effect 0 1 s s') (planner : s'.planner = s.startedPlanner ext i)
      (active : ext.isActive s'.planner) (origin : s.globalOriginReferenceSet)
  /-- The planner has been called and is not active. -/
  | failed (ended : Ended 1 s s') (planner : s'.planner = s.startedPlanner ext i)
      (inactive : ¬ ext.isActive s'.planner) (origin : s.globalOriginReferenceSet)
  /-- The planner has not been called. -/
  | refused (ended : Ended 0 s s') (planner : s'.planner = s.planner)
      (missing : ¬ s.globalOriginReferenceSet ∨ ¬ s.obstacleAvoidanceEnabled)

theorem ended_withText {started : ℕ} (h : Ended started s s') (type : StatusTextType) (text : String) :
    Ended started s (s'.statusText type text) :=
  ⟨h.toEffect.trans (quiet_statusText ..).toEffect, (quiet_statusText type text s').unset h.unset⟩

theorem landingSiteSearch_cases (s : MissionManager P) : SearchAttempt ext i s (s.landingSiteSearch ext i) := by
  unfold landingSiteSearch
  by_cases hready : s.globalOriginReferenceSet && s.obstacleAvoidanceEnabled
  · obtain ⟨horigin, -⟩ := Bool.and_eq_true_iff.mp hready
    have hstart := ((quiet_statusText .warning "Starting Landing Site Search" s).trans
      (quiet_updateLandingSpeedConfig i _)).toEffect.trans (effect_startSearch ext i _)
    simp only [hready, if_true]
    split_ifs with hactive
    · exact .started (hstart.trans (effect_goToNewLocalWaypoint _ _)) rfl hactive horigin
    · have hended := (hstart.trans (quiet_hold _).toEffect).trans (ended_landingSiteSearchHasEnded "NSC" _).toEffect
      exact .failed (ended_withText ⟨hended, rfl, rfl, rfl⟩ _ _) rfl hactive horigin
  · have hended : ∀ debug type text, Ended 0 s ((s.hold.landingSiteSearchHasEnded debug).statusText type text) :=
      fun debug type text => ended_withText
        ⟨(quiet_hold s).toEffect.trans (ended_landingSiteSearchHasEnded debug _).toEffect, rfl, rfl, rfl⟩ type text
    have hplanner : ∀ debug type text,
        ((s.hold.landingSiteSearchHasEnded debug).statusText type text).planner = s.planner :=
      fun debug type text => (quiet_statusText type text _).planner.trans
        ((planner_landingSiteSearchHasEnded debug _).trans (quiet_hold s).planner)
    rw [if_neg hready]
    by_cases horigin : s.globalOriginReferenceSet
    · have havoidance : ¬ s.obstacleAvoidanceEnabled := fun h => hready (by rw [horigin, h]; rfl)
      rw [if_neg (by simp [horigin]), if_pos (by simp [havoidance])]
      exact .refused (hended _ _ _) (hplanner _ _ _) (.inr havoidance)
    · rw [if_pos (by simp [horigin])]
      exact .refused (hended _ _ _) (hplanner _ _ _) (.inl horigin)

theorem SearchAttempt.quiet (h : SearchAttempt ext i s s') (hq : Quiet s' s'') : SearchAttempt ext i s s'' := by
  cases h with
  | started effect planner active origin =>
    exact .started (effect.trans hq.toEffect) (hq.planner.trans planner) (hq.planner ▸ active) origin
  | failed ended planner inactive origin =>
    exact .failed ⟨ended.toEffect.trans hq.toEffect, hq.unset ended.unset⟩ (hq.planner.trans planner)
      (hq.planner ▸ inactive) origin
  | refused ended planner missing =>
    exact .refused ⟨ended.toEffect.trans hq.toEffect, hq.unset ended.unset⟩ (hq.planner.trans planner) missing

/-- The actions that hold or return to launch. -/
def plainActions : List String :=
  ["HOLD", "RTL", "GO_TO_WAYPOINT_XYZ", "MOVE_LLA_WRT_CURRENT", "SCRIPT_CALL", "API_CALL"]

/-- The branches of the dispatch on the action. -/
inductive ActionBranch (ext : Externals P E) (i : TickInput E) (s s' : MissionManager P) : Prop
  | plain (action : s.config.safeLandingOnNoSafeLand ∈ plainActions) {c : Command} {type : StatusTextType}
      {text : String} (result : s' = (s.emit (.command c)).statusText type text)
  | move (action : s.config.safeLandingOnNoSafeLand = "MOVE_XYZ_WRT_CURRENT") (result : s' = s.moveXyzWrtCurrent ext)
  | search (action : s.config.safeLandingOnNoSafeLand = "LANDING_SITE_SEARCH") (result : s' = s.landingSiteSearch ext i)
  | go (action : s.config.safeLandingOnNoSafeLand = "GO_TO_WAYPOINT") (result : s' = s.goToWaypoint)
  | unknown (move : s.config.safeLandingOnNoSafeLand ≠ "MOVE_XYZ_WRT_CURRENT")
      (search : s.config.safeLandingOnNoSafeLand ≠ "LANDING_SITE_SEARCH")
      (go : s.config.safeLandingOnNoSafeLand ≠ "GO_TO_WAYPOINT") (result : s' = s)

theorem onNoSafeLand_branch (ext : Externals P E) (i : TickInput E) (s : MissionManager P) :
    ActionBranch ext i s (s.onNoSafeLand ext i) := by
  unfold onNoSafeLand
  dsimp only
  split_ifs with hhold hrtl hmove hsearch hxyz hlla hgo hscript hapi
  · exact .plain (by simp [hhold, plainActions]) rfl
  · exact .plain (by simp [hrtl, plainActions]) rfl
  · exact .move hmove rfl
  · exact .search hsearch rfl
  · exact .plain (by simp [hxyz, plainActions]) rfl
  · exact .plain (by simp [hlla, plainActions]) rfl
  · exact .go hgo rfl
  · exact .plain (by simp [hscript, plainActions]) rfl
  · exact .plain (by simp [hapi, plainActions]) rfl
  · exact .unknown hmove hsearch hgo rfl

theorem onNoSafeLand_cases (ext : Externals P E) (i : TickInput E) (s : MissionManager P) :
    s.config.safeLandingOnNoSafeLand ≠ "LANDING_SITE_SEARCH" ∧ Quiet s (s.onNoSafeLand ext i) ∨
      s.config.safeLandingOnNoSafeLand = "LANDING_SITE_SEARCH" ∧ SearchAttempt ext i s (s.onNoSafeLand ext i) := by
  cases onNoSafeLand_branch ext i s with
  | plain action result =>
    have hsearch : "LANDING_SITE_SEARCH" ∉ plainActions := by simp [plainActions]
    rw [result]
    exact .inl ⟨ne_of_mem_of_not_mem action hsearch, (quiet_command ..).trans (quiet_statusText ..)⟩
  | move action result =>
    rw [result, action]
    exact .inl ⟨by simp, quiet_moveXyzWrtCurrent s⟩
  | search action result => exact .inr ⟨action, result ▸ landingSiteSearch_cases s⟩
  | go action result =>
    rw [result, action]
    exact .inl ⟨by simp, quiet_goToWaypoint s⟩
  | unknown move search go result =>
    rw [result]
    exact .inl ⟨search, Quiet.refl s⟩

/-- The iteration takes the configured action. -/
def takesAction (i : TickInput E) (s : MissionManager P) : Bool :=
  !s.actionInProgress && s.landingTriggered && !unhealthyAndAbove i && shouldTriggerSafeLanding i

theorem not_takesAction_of_unhealthy (hunhealthy : unhealthyAndAbove i) (s : MissionManager P) :
    ¬ s.takesAction i := by
  unfold takesAction
  simp [hunhealthy]

/-- The three branches of the trigger. -/
inductive Trigger (ext : Externals P E) (i : TickInput E) (s s' : MissionManager P) : Prop
  | unhealthy (free : ¬ s.actionInProgress) (triggered : s.landingTriggered) (unhealthy : unhealthyAndAbove i)
      (result : s' = (s.hold.statusText .warning
        (out ++ "Safe landing system not healthy. Holding position...")).actionTriggered i.now)
  | action (free : ¬ s.actionInProgress) (triggered : s.landingTriggered) (takes : s.takesAction i)
      (result : s' = (s.onNoSafeLand ext i).actionTriggered i.now)
  | none (takes : ¬ s.takesAction i) (result : s' = s)

theorem triggerSafeLanding_trigger (ext : Externals P E) (i : TickInput E) (s : MissionManager P) :
    Trigger ext i s (s.triggerSafeLanding ext i) := by
  unfold triggerSafeLanding
  split_ifs with htrigger hunhealthy hshould
  · rw [Bool.and_eq_true, Bool.not_eq_true'] at htrigger
    exact .unhealthy (by simp [htrigger.1]) htrigger.2 hunhealthy rfl
  · have htakes : s.takesAction i := by
      unfold takesAction
      simp [htrigger, hunhealthy, hshould]
    rw [Bool.and_eq_true, Bool.not_eq_true'] at htrigger
    exact .action (by simp [htrigger.1]) htrigger.2 htakes rfl
  · refine .none (fun htakes => hshould ?_) rfl
    unfold takesAction at htakes
    exact (Bool.and_eq_true_iff.mp htakes).2
  · refine .none (fun htakes => htrigger ?_) rfl
    unfold takesAction at htakes
    exact (Bool.and_eq_true_iff.mp (Bool.and_eq_true_iff.mp htakes).1).1

/-- **What the trigger can do**: nothing to the planner and the override, or an attempt to search, which needs a
triggered landing and no action in progress. -/
theorem triggerSafeLanding_cases (ext : Externals P E) (i : TickInput E) (s : MissionManager P) :
    Quiet s (s.triggerSafeLanding ext i) ∨
      s.landingTriggered ∧ ¬ s.actionInProgress ∧ SearchAttempt ext i s (s.triggerSafeLanding ext i) := by
  cases triggerSafeLanding_trigger ext i s with
  | unhealthy free triggered unhealthy result =>
    rw [result]
    exact .inl (((quiet_hold s).trans (quiet_statusText ..)).trans (quiet_actionTriggered ..))
  | action free triggered takes result =>
    rw [result]
    rcases onNoSafeLand_cases ext i s with ⟨-, hquiet⟩ | ⟨-, hsearch⟩
    · exact .inl (hquiet.trans (quiet_actionTriggered ..))
    · exact .inr ⟨triggered, free, hsearch.quiet (quiet_actionTriggered ..)⟩
  | none takes result =>
    rw [result]
    exact .inl (Quiet.refl s)

theorem effect_triggerSafeLanding (ext : Externals P E) (i : TickInput E) (s : MissionManager P) :
    ∃ ended started, Effect ended started s (s.triggerSafeLanding ext i) := by
  rcases triggerSafeLanding_cases ext i s with hquiet | ⟨-, -, hattempt⟩
  · exact ⟨0, 0, hquiet.toEffect⟩
  · cases hattempt with
    | started effect planner active origin => exact ⟨0, 1, effect⟩
    | failed ended planner inactive origin => exact ⟨1, 1, ended.toEffect⟩
    | refused ended planner missing => exact ⟨1, 0, ended.toEffect⟩

/-! ### Active searches -/

theorem planner_isStationary (s : MissionManager P) : s.isStationary.2.planner = s.planner := by
  unfold isStationary
  dsimp only
  split_ifs <;> rfl

theorem effect_decideSearch (ext : Externals P E) (i : TickInput E) (s : MissionManager P) :
    Effect 0 0 s (s.decideSearch ext i) := by
  unfold decideSearch
  split_ifs
  · exact (quiet_statusText ..).toEffect.trans (effect_withPlanner ..)
  · exact (Quiet.refl s).toEffect
  · exact (effect_isStationary s).trans (effect_withPlanner ..)

/-- The planner after the first step of an update: a landing is aborted on bad ground and goes on elsewhere, a
search is updated. -/
theorem planner_decideSearch (ext : Externals P E) (i : TickInput E) (s : MissionManager P) :
    (ext.shouldLand s.planner ∧ i.landingState.isBad ∧ ∃ altitude height,
      (s.decideSearch ext i).planner = ext.abortLanding i.onUpdate altitude height s.planner) ∨
    (ext.shouldLand s.planner ∧ ¬ i.landingState.isBad ∧ (s.decideSearch ext i).planner = s.planner) ∨
    (¬ ext.shouldLand s.planner ∧ ∃ x y altitude height isStationary, (s.decideSearch ext i).planner =
      ext.updateSearch i.onUpdate x y altitude height isStationary i.landingState s.planner) := by
  unfold decideSearch
  split_ifs with hland hbad
  · exact .inl ⟨hland, hbad, _, _, rfl⟩
  · exact .inr (.inl ⟨hland, hbad, rfl⟩)
  · refine .inr (.inr ⟨hland, s.isStationary.2.currentPosX, s.isStationary.2.currentPosY,
      -s.isStationary.2.currentPosZ, i.heightAboveObstacle, s.isStationary.1, ?_⟩)
    exact congrArg (ext.updateSearch i.onUpdate s.isStationary.2.currentPosX s.isStationary.2.currentPosY
      (-s.isStationary.2.currentPosZ) i.heightAboveObstacle s.isStationary.1 i.landingState) (planner_isStationary s)

/-- The two ends of an update: the search goes on, or it has ended and the override is unset. -/
inductive SearchStep (ext : Externals P E) (s s' : MissionManager P) : Prop
  | continued (effect : Effect 0 0 s s') (running : ¬ ext.isEnded s'.planner)
  | ended (ended : Ended 0 s s') (isEnded : ext.isEnded s'.planner)

theorem restoreIfEnded_cases (h : Effect 0 0 s s') : SearchStep ext s (s'.restoreIfEnded ext) := by
  unfold restoreIfEnded
  split_ifs with hended
  · have hrestore := ended_landingSiteSearchHasEnded "END" s'
    exact .ended ⟨h.trans hrestore.toEffect, hrestore.unset⟩ hended
  · exact .continued h hended

theorem planner_restoreIfEnded (s : MissionManager P) : (s.restoreIfEnded ext).planner = s.planner := by
  unfold restoreIfEnded
  split_ifs <;> rfl

theorem commandSearch_cases (ext : Externals P E) (initiate land : Bool) (s : MissionManager P) :
    SearchStep ext s (s.commandSearch ext initiate land) := by
  unfold commandSearch
  split_ifs with hinitiate hland hended
  · exact restoreIfEnded_cases (quiet_statusText ..).toEffect
  · exact restoreIfEnded_cases
      (((quiet_hold s).toEffect.trans (effect_withPlanner ..)).trans (quiet_statusText ..).toEffect)
  · exact restoreIfEnded_cases ((quiet_hold s).trans (quiet_statusText ..)).toEffect
  · exact restoreIfEnded_cases (effect_goToNewLocalWaypoint ..)
  · exact .continued (Quiet.refl s).toEffect hended

/-- The planner after the commands: a landing site that is not to be used ends the search. -/
theorem planner_commandSearch (initiate land : Bool) (s : MissionManager P) :
    (s.commandSearch ext initiate land).planner =
      if initiate && !land then ext.endSearch s.planner else s.planner := by
  unfold commandSearch
  dsimp only
  cases initiate <;> cases land
  all_goals simp only [if_true, Bool.false_eq_true, if_false, Bool.not_false, Bool.not_true, Bool.and_false,
    Bool.and_true]
  · split_ifs
    · exact planner_restoreIfEnded _
    · exact planner_restoreIfEnded _
    · rfl
  · split_ifs
    · exact planner_restoreIfEnded _
    · exact planner_restoreIfEnded _
    · rfl
  · exact planner_restoreIfEnded _
  · exact planner_restoreIfEnded _

theorem updateLandingSiteSearch_cases (land : Bool) (s : MissionManager P) :
    SearchStep ext s (s.updateLandingSiteSearch ext i land) := by
  have hdecide := effect_decideSearch ext i s
  unfold updateLandingSiteSearch
  cases commandSearch_cases ext (!ext.shouldLand s.planner && ext.shouldLand (s.decideSearch ext i).planner)
    land (s.decideSearch ext i) with
  | continued effect running => exact .continued (hdecide.trans effect) running
  | ended ended isEnded => exact .ended ⟨hdecide.trans ended.toEffect, ended.unset⟩ isEnded

/-- The planner after an update: as decided, or ended because the landing site found is not to be used. -/
theorem planner_updateLandingSiteSearch (ext : Externals P E) (i : TickInput E) (land : Bool) (s : MissionManager P) :
    (s.updateLandingSiteSearch ext i land).planner = (s.decideSearch ext i).planner ∨
      ¬ land ∧ ext.shouldLand (s.decideSearch ext i).planner ∧
        (s.updateLandingSiteSearch ext i land).planner = ext.endSearch (s.decideSearch ext i).planner := by
  unfold updateLandingSiteSearch
  rw [planner_commandSearch]
  split_ifs with hfound
  · simp only [Bool.and_eq_true, Bool.not_eq_true'] at hfound
    exact .inr ⟨by simp [hfound.2], hfound.1.2, rfl⟩
  · exact .inl rfl

theorem endLandingSiteSearch_ended (ext : Externals P E) (s : MissionManager P) :
    Ended 0 s (s.endLandingSiteSearch ext) := by
  have hdebug : ∀ debug, Ended 0 s ({ s with planner := ext.endSearch s.planner }.landingSiteSearchHasEnded debug) :=
    fun debug => ⟨(effect_withPlanner ..).trans (ended_landingSiteSearchHasEnded debug _).toEffect, rfl, rfl, rfl⟩
  unfold endLandingSiteSearch
  dsimp only
  split_ifs
  · exact hdebug _
  · exact hdebug _
  · exact hdebug _
  · have hend := ended_landingSiteSearchHasEnded "No OA"
      ((hold { s with planner := ext.endSearch s.planner }).statusText .error
        "OA not active on PX4. Cancelling safe landing and holding position.")
    refine ⟨?_, hend.unset⟩
    exact (((effect_withPlanner ..).trans (quiet_hold _).toEffect).trans (quiet_statusText ..).toEffect).trans
      hend.toEffect

theorem planner_endLandingSiteSearch (s : MissionManager P) :
    (s.endLandingSiteSearch ext).planner = ext.endSearch s.planner := by
  unfold endLandingSiteSearch
  dsimp only
  split_ifs
  · rfl
  · rfl
  · rfl
  · exact (planner_landingSiteSearchHasEnded ..).trans ((quiet_statusText ..).planner.trans (quiet_hold _).planner)

/-- **What the processing of active actions can do.** -/
inductive Processed (ext : Externals P E) (i : TickInput E) (s s' : MissionManager P) : Prop
  /-- The search is stopped by the state of the vehicle. -/
  | stopped (active : ext.isActive s.planner) (stop : s.shouldEndLandingSiteSearch) (ended : Ended 0 s s')
      (planner : s'.planner = ext.endSearch s.planner)
  /-- The search is updated. -/
  | updated (active : ext.isActive s.planner) (continues : ¬ s.shouldEndLandingSiteSearch) (step : SearchStep ext s s')
      (planner : s'.planner =
        (s.updateLandingSiteSearch ext i (s.config.safeLandingTryLandingAfterAction ≠ 0)).planner)
  /-- An ended planner is reset on take-off. -/
  | reset (inactive : ¬ ext.isActive s.planner) (effect : Effect 0 0 s s')
      (override : s'.newX = s.newX ∧ s'.newY = s.newY ∧ s'.newYaw = s.newYaw)
      (planner : s'.planner = ext.reset s.planner)
  /-- There is no search. -/
  | idle (inactive : ¬ ext.isActive s.planner) (quiet : Quiet s s')

theorem effect_lastTime (now : ℤ) (s : MissionManager P) : Quiet s { s with lastTime := now } :=
  ⟨⟨rfl, rfl, rfl, rfl, rfl, rfl, rfl⟩, rfl, rfl, rfl, rfl⟩

theorem SearchStep.quiet (h : SearchStep ext s s') (hq : Quiet s' s'') : SearchStep ext s s'' := by
  cases h with
  | continued effect running => exact .continued (effect.trans hq.toEffect) (hq.planner ▸ running)
  | ended ended isEnded =>
    exact .ended ⟨ended.toEffect.trans hq.toEffect, hq.unset ended.unset⟩ (hq.planner ▸ isEnded)

theorem processActiveActions_cases (ext : Externals P E) (i : TickInput E) (s : MissionManager P) :
    Processed ext i s (s.processActiveActions ext i) := by
  unfold processActiveActions
  by_cases hactive : ext.isActive s.planner
  · by_cases hstop : s.shouldEndLandingSiteSearch
    · simp only [hactive, hstop, if_true]
      have hended := endLandingSiteSearch_ended ext s
      have htime := effect_lastTime i.now (s.endLandingSiteSearch ext)
      exact .stopped hactive hstop ⟨hended.toEffect.trans htime.toEffect, htime.unset hended.unset⟩
        (htime.planner.trans (planner_endLandingSiteSearch s))
    · simp only [hactive, hstop, if_true, if_false, Bool.false_eq_true]
      exact .updated hactive hstop ((updateLandingSiteSearch_cases ..).quiet (effect_lastTime ..)) rfl
  · simp only [hactive, if_false, Bool.false_eq_true]
    split_ifs
    · exact .reset hactive (effect_withPlanner ..) ⟨rfl, rfl, rfl⟩ rfl
    · exact .idle hactive (quiet_landAtWaypoint s)
    · exact .idle hactive (Quiet.refl s)

/-- Processing starts no search. -/
theorem effect_processActiveActions (ext : Externals P E) (i : TickInput E) (s : MissionManager P) :
    ∃ ended, Effect ended 0 s (s.processActiveActions ext i) := by
  cases processActiveActions_cases ext i s with
  | stopped active stop ended planner => exact ⟨1, ended.toEffect⟩
  | updated active continues step planner =>
    cases step with
    | continued effect running => exact ⟨0, effect⟩
    | ended ended isEnded => exact ⟨1, ended.toEffect⟩
  | reset inactive effect override planner => exact ⟨0, effect⟩
  | idle inactive quiet => exact ⟨0, quiet.toEffect⟩

/-! ### The iteration -/

/-- What `handle_safe_landing` does once the avoidance status is up to date. -/
inductive Handled (ext : Externals P E) (i : TickInput E) (s s' : MissionManager P) : Prop
  /-- Safe landing is off and a search is stopped. -/
  | disabled (off : s.config.safeLandingEnabled = 0 ∨ ¬ s.obstacleAvoidanceEnabled) (active : ext.isActive s.planner)
      (ended : Ended 0 s s') (planner : s'.planner = ext.endSearch s.planner)
  /-- Safe landing is off and there is no search. -/
  | skipped (off : s.config.safeLandingEnabled = 0 ∨ ¬ s.obstacleAvoidanceEnabled) (inactive : ¬ ext.isActive s.planner)
      (same : s' = s)
  | processed (on : s.config.safeLandingEnabled ≠ 0) (avoidance : s.obstacleAvoidanceEnabled)
      (process : s' = (s.triggerSafeLanding ext i).processActiveActions ext i)

theorem handleSafeLanding_cases (s : MissionManager P) :
    Handled ext i (s.updateObstacleAvoidanceStatus i.rosNow) (s.handleSafeLanding ext i) := by
  unfold handleSafeLanding
  generalize s.updateObstacleAvoidanceStatus i.rosNow = s
  dsimp only
  by_cases hoff : s.config.safeLandingEnabled = 0 || !s.obstacleAvoidanceEnabled
  · have hoff' : s.config.safeLandingEnabled = 0 ∨ ¬ s.obstacleAvoidanceEnabled := by simpa using hoff
    rw [if_pos hoff]
    by_cases hactive : ext.isActive s.planner
    · rw [if_pos hactive]
      have hend := ended_landingSiteSearchHasEnded "DISABLED" (hold { s with planner := ext.endSearch s.planner })
      refine .disabled hoff' hactive ⟨?_, hend.unset⟩ (planner_landingSiteSearchHasEnded ..)
      exact ((effect_withPlanner ..).trans (quiet_hold _).toEffect).trans hend.toEffect
    · rw [if_neg hactive]
      exact .skipped hoff' hactive rfl
  · rw [if_neg hoff]
    simp only [Bool.or_eq_true, decide_eq_true_eq, Bool.not_eq_true', not_or, Bool.not_eq_false] at hoff
    exact .processed hoff.1 hoff.2 rfl

theorem Handled.effect (h : Handled ext i s s') : ∃ ended started, Effect ended started s s' := by
  cases h with
  | disabled off active ended planner => exact ⟨1, 0, ended.toEffect⟩
  | skipped off inactive same => exact ⟨0, 0, same ▸ (Quiet.refl s).toEffect⟩
  | processed on avoidance process =>
    obtain ⟨ended, started, htrigger⟩ := effect_triggerSafeLanding ext i s
    obtain ⟨ended', hprocess⟩ := effect_processActiveActions ext i (s.triggerSafeLanding ext i)
    exact ⟨ended + ended', started + 0, process ▸ htrigger.trans hprocess⟩

theorem quiet_onObstacle (s : MissionManager P) : Quiet s s.onObstacle := by
  unfold onObstacle
  dsimp only
  split_ifs <;> first | exact quiet_hold s | exact quiet_returnToLaunch s | exact quiet_command .land s | exact .refl s

/-- The handler avoids an obstacle while no action is in progress, or does nothing. -/
theorem handleSimpleCollisionAvoidance_cases (i : TickInput E) (s : MissionManager P) :
    (¬ s.actionInProgress ∧ s.handleSimpleCollisionAvoidance i = s.onObstacle.actionTriggered i.now) ∨
      s.handleSimpleCollisionAvoidance i = s := by
  unfold handleSimpleCollisionAvoidance
  dsimp only
  split_ifs with henabled hobstacle
  · rw [Bool.and_eq_true, Bool.not_eq_true'] at hobstacle
    exact .inl ⟨ne_true_of_eq_false hobstacle.2, rfl⟩
  · exact .inr rfl
  · exact .inr rfl

theorem quiet_handleSimpleCollisionAvoidance (s : MissionManager P) :
    Quiet s (s.handleSimpleCollisionAvoidance i) := by
  rcases handleSimpleCollisionAvoidance_cases i s with ⟨-, hresult⟩ | hresult
  · rw [hresult]
    exact (quiet_onObstacle s).trans (quiet_actionTriggered ..)
  · rw [hresult]
    exact .refl s

theorem quiet_actionTimeout (now : ℤ) (s : MissionManager P) : Quiet s (s.actionTimeout now) := by
  unfold actionTimeout
  split_ifs
  · exact ⟨⟨rfl, rfl, rfl, rfl, rfl, rfl, rfl⟩, rfl, rfl, rfl, rfl⟩
  · exact .refl s

/-- What follows the handler in an iteration. -/
def afterHandler (i : TickInput E) (s : MissionManager P) : MissionManager P :=
  actionTimeout i.now { s with isHealthy := s.obstacleAvoidanceEnabled || s.underManualControl }

theorem quiet_afterHandler (s : MissionManager P) : Quiet s (s.afterHandler i) := by
  have hhealthy : ∀ healthy, Quiet s { s with isHealthy := healthy } :=
    fun _ => ⟨⟨rfl, rfl, rfl, rfl, rfl, rfl, rfl⟩, rfl, rfl, rfl, rfl⟩
  exact (hhealthy _).trans (quiet_actionTimeout ..)

/-- An iteration that calls the handler. -/
theorem decisionMakerRun_of_calls (ext : Externals P E) (hcalls : ¬ i.bypasses) (s : MissionManager P) :
    s.decisionMakerRun ext i = (handleSafeLanding ext i { s with config := i.config }).afterHandler i := by
  unfold TickInput.bypasses at hcalls
  rw [not_or, not_not] at hcalls
  unfold decisionMakerRun makeDecision
  dsimp only
  rw [if_pos hcalls.1, if_pos hcalls.2]
  rfl

/-- What an iteration does after it has read its configuration when it goes past the handler. -/
inductive Bypassed (i : TickInput E) (s s' : MissionManager P) : Prop
  | disabled (result : s' = s)
  | avoidance (enabled : i.config.autopilotManagerEnabled ≠ 0)
      (result : s' = (s.handleSimpleCollisionAvoidance i).actionTimeout i.now)
  | undecided (enabled : i.config.autopilotManagerEnabled ≠ 0) (result : s' = s.actionTimeout i.now)

theorem decisionMakerRun_of_bypasses (ext : Externals P E) (hbypass : i.bypasses) (s : MissionManager P) :
    Bypassed i { s with config := i.config } (s.decisionMakerRun ext i) := by
  unfold decisionMakerRun
  dsimp only
  split_ifs with henabled
  · unfold makeDecision
    dsimp only
    rw [if_neg (hbypass.resolve_left henabled)]
    split_ifs
    · exact .avoidance henabled rfl
    · exact .undecided henabled rfl
  · exact .disabled rfl

/-- The state in which the handler of safe landing decides. -/
def beginTick (i : TickInput E) (s : MissionManager P) : MissionManager P :=
  updateObstacleAvoidanceStatus i.rosNow { s with config := i.config }

/-- It has the new configuration and avoidance status, and nothing else. -/
theorem beginTick_eq (i : TickInput E) (s : MissionManager P) :
    s.beginTick i = { s with config := i.config, obstacleAvoidanceEnabled := s.recentTrajectory i.rosNow } := by
  have hrecent : recentTrajectory i.rosNow { s with config := i.config } = s.recentTrajectory i.rosNow := rfl
  unfold beginTick updateObstacleAvoidanceStatus
  split_ifs with h
  · rw [← hrecent, ← h]
  · rfl

theorem avoidance_beginTick (i : TickInput E) (s : MissionManager P) :
    (s.beginTick i).obstacleAvoidanceEnabled = s.recentTrajectory i.rosNow := by
  rw [beginTick_eq]

/-- **What one iteration can do.** -/
inductive Tick (ext : Externals P E) (i : TickInput E) (s s' : MissionManager P) : Prop
  | bypassed (bypasses : i.bypasses) (quiet : Quiet { s with config := i.config } s')
  | handled (calls : ¬ i.bypasses) {mid : MissionManager P} (handled : Handled ext i (s.beginTick i) mid)
      (quiet : Quiet mid s')

theorem decisionMakerRun_cases (ext : Externals P E) (i : TickInput E) (s : MissionManager P) :
    Tick ext i s (s.decisionMakerRun ext i) := by
  by_cases hbypass : i.bypasses
  · refine .bypassed hbypass ?_
    cases decisionMakerRun_of_bypasses ext hbypass s with
    | disabled result => exact result ▸ .refl _
    | avoidance enabled result =>
      rw [result]
      exact (quiet_handleSimpleCollisionAvoidance _).trans (quiet_actionTimeout ..)
    | undecided enabled result => exact result ▸ quiet_actionTimeout ..
  · rw [decisionMakerRun_of_calls ext hbypass]
    exact .handled hbypass (handleSafeLanding_cases { s with config := i.config }) (quiet_afterHandler _)

/-! ### The steps that leave the search alone -/

/-- The planner, the override, the counts and the flight mode stay, and an origin stays set. -/
structure Apart (s s' : MissionManager P) : Prop where
  planner : s'.planner = s.planner
  override : s'.newX = s.newX ∧ s'.newY = s.newY ∧ s'.newYaw = s.newYaw
  ends : s'.searchesEnded = s.searchesEnded
  starts : s'.searchesStarted = s.searchesStarted
  flightMode : s'.flightMode = s.flightMode
  origin : s.globalOriginReferenceSet → s'.globalOriginReferenceSet

theorem Quiet.apart (h : Quiet s s') : Apart s s' :=
  ⟨h.planner, h.override, h.ends, h.starts, h.flightMode, fun horigin => h.origin.trans horigin⟩

theorem Apart.trans (h : Apart s s') (h' : Apart s' s'') : Apart s s'' where
  planner := h'.planner.trans h.planner
  override := ⟨h'.override.1.trans h.override.1, h'.override.2.1.trans h.override.2.1,
    h'.override.2.2.trans h.override.2.2⟩
  ends := h'.ends.trans h.ends
  starts := h'.starts.trans h.starts
  flightMode := h'.flightMode.trans h.flightMode
  origin := h'.origin ∘ h.origin

theorem apart_config (config : MissionManagerConfiguration) (s : MissionManager P) :
    Apart s { s with config := config } := ⟨rfl, ⟨rfl, rfl, rfl⟩, rfl, rfl, rfl, id⟩

theorem apart_beginTick (s : MissionManager P) : Apart s (s.beginTick i) := by
  rw [beginTick_eq]
  exact ⟨rfl, ⟨rfl, rfl, rfl⟩, rfl, rfl, rfl, id⟩

/-! ### The other callbacks -/

/-- What a callback can add to the log: a status text, or the answer to a message. -/
inductive Adds (ext : Externals P E) (s s' : MissionManager P) : Prop
  | nothing (log : s'.log = s.log)
  | text (type : StatusTextType) (text : String) (log : s'.log = .statusText type text :: s.log)
  | answer (reply : Reply) (message : TrajectoryWaypoints) (log : s'.log = .sent reply message :: s.log)
      (land : reply = .land → ext.shouldLand s.planner)

/-- What a callback that is not the one of the flight mode leaves alone. -/
structure Callback (ext : Externals P E) (s s' : MissionManager P) : Prop where
  planner : s'.planner = s.planner
  override : s'.newX = s.newX ∧ s'.newY = s.newY ∧ s'.newYaw = s.newYaw
  waypoint : s'.newLatitude = s.newLatitude ∧ s'.newLongitude = s.newLongitude ∧
    s'.newAltitudeAmsl = s.newAltitudeAmsl
  flightMode : s'.flightMode = s.flightMode
  avoidance : s'.obstacleAvoidanceEnabled = s.obstacleAvoidanceEnabled
  origin : s.globalOriginReferenceSet → s'.globalOriginReferenceSet
  log : Adds ext s s'

theorem Callback.refl (s : MissionManager P) : Callback ext s s :=
  ⟨rfl, ⟨rfl, rfl, rfl⟩, ⟨rfl, rfl, rfl⟩, rfl, rfl, id, .nothing rfl⟩

theorem Callback.apart (h : Callback ext s s') : Apart s s' := by
  have hcounts : s'.searchesEnded = s.searchesEnded ∧ s'.searchesStarted = s.searchesStarted := by
    unfold searchesEnded searchesStarted
    cases h.log with
    | nothing log => rw [log]; exact ⟨rfl, rfl⟩
    | text type text log => rw [log]; exact ⟨rfl, rfl⟩
    | answer reply message log land => rw [log]; exact ⟨rfl, rfl⟩
  exact ⟨h.planner, h.override, hcounts.1, hcounts.2, h.flightMode, h.origin⟩

theorem callback_landedState (landedState : LandedState) (s : MissionManager P) :
    Callback ext s (s.landedStateCallback landedState) := by
  unfold landedStateCallback
  split_ifs
  · exact ⟨rfl, ⟨rfl, rfl, rfl⟩, ⟨rfl, rfl, rfl⟩, rfl, rfl, id, .nothing rfl⟩
  · exact .refl s

theorem callback_setGlobalPositionReference (result : GpsGlobalOrigin) (s : MissionManager P) :
    Callback ext s (s.setGlobalPositionReference result) := by
  unfold setGlobalPositionReference
  cases result with
  | success lat lon alt =>
    dsimp only
    split_ifs
    · exact ⟨rfl, ⟨rfl, rfl, rfl⟩, ⟨rfl, rfl, rfl⟩, rfl, rfl, fun _ => rfl, .text _ _ rfl⟩
    · exact .refl s
  | timeout => exact .refl s
  | failed => exact .refl s

/-- What becomes of a trajectory message: the module's own are not answered; the others are overridden during a search
with a finite waypoint, and sent back as they came else. -/
inductive TrajectoryAnswer (ext : Externals P E) (t : TrajectoryInput) (s s' : MissionManager P) : Prop
  | own (own : t.compid = mavCompIdObstacleAvoidance) (result : s' = s)
  | land (foreign : t.compid ≠ mavCompIdObstacleAvoidance) (active : ext.isActive s.planner) (valid : s.isPosValid)
      (lands : ext.shouldLand s.planner)
      (result : s' = emit (.sent .land (s.landMessage t)) { s with timeLastTraj := t.rosNow })
  | search (foreign : t.compid ≠ mavCompIdObstacleAvoidance) (active : ext.isActive s.planner) (valid : s.isPosValid)
      (searches : ¬ ext.shouldLand s.planner)
      (result : s' = emit (.sent .search (s.searchMessage ext t (s.smoothedVel ext)))
        { s with timeLastTraj := t.rosNow, vel := some (s.smoothedVel ext) })
  | forwarded (foreign : t.compid ≠ mavCompIdObstacleAvoidance) (unready : ¬ (ext.isActive s.planner ∧ s.isPosValid))
      (result : s' = emit (.sent .forwarded t.message) { s with timeLastTraj := t.rosNow })

theorem onMavlinkTrajectoryMessage_answer (ext : Externals P E) (t : TrajectoryInput) (s : MissionManager P) :
    TrajectoryAnswer ext t s (s.onMavlinkTrajectoryMessage ext t) := by
  unfold onMavlinkTrajectoryMessage
  split_ifs with hown
  · exact .own hown rfl
  · dsimp only
    split_ifs with hready hland
    · obtain ⟨hactive, hvalid⟩ := Bool.and_eq_true_iff.mp hready
      exact .land hown hactive hvalid hland rfl
    · obtain ⟨hactive, hvalid⟩ := Bool.and_eq_true_iff.mp hready
      exact .search hown hactive hvalid hland rfl
    · exact .forwarded hown (fun h => hready (Bool.and_eq_true_iff.mpr h)) rfl

theorem callback_onMavlinkTrajectoryMessage (t : TrajectoryInput) (s : MissionManager P) :
    Callback ext s (s.onMavlinkTrajectoryMessage ext t) := by
  cases onMavlinkTrajectoryMessage_answer ext t s with
  | own own result =>
    rw [result]
    exact .refl s
  | land foreign active valid lands result =>
    rw [result]
    exact ⟨rfl, ⟨rfl, rfl, rfl⟩, ⟨rfl, rfl, rfl⟩, rfl, rfl, id, .answer .land _ rfl fun _ => lands⟩
  | search foreign active valid searches result =>
    rw [result]
    exact ⟨rfl, ⟨rfl, rfl, rfl⟩, ⟨rfl, rfl, rfl⟩, rfl, rfl, id, .answer .search _ rfl nofun⟩
  | forwarded foreign unready result =>
    rw [result]
    exact ⟨rfl, ⟨rfl, rfl, rfl⟩, ⟨rfl, rfl, rfl⟩, rfl, rfl, id, .answer .forwarded _ rfl nofun⟩

/-- The callback of the flight mode is logged; a new mode is stored, and may reset the planner. -/
theorem flightModeCallback_induction {Q : MissionManager P → Prop} {mode : FlightMode}
    (hcall : Q (s.emit (.flightModeCallback mode)))
    (hmode : Q { s.emit (.flightModeCallback mode) with flightMode := mode })
    (hreset : Q (resetPlanner ext { s.emit (.flightModeCallback mode) with flightMode := mode })) :
    Q (s.flightModeCallback ext mode) := by
  unfold flightModeCallback
  dsimp only
  split_ifs
  · exact hreset
  · exact hmode
  · exact hcall

/-- **The three kinds of steps**: an iteration, a call of the flight mode callback, and all others. -/
theorem step_cases (ext : Externals P E) (s : MissionManager P) (input : MissionInput E) :
    (∃ i, input = .tick i) ∨ (∃ mode, input = .flightMode mode) ∨ Callback ext s (step ext s input) := by
  cases input with
  | tick i => exact .inl ⟨i, rfl⟩
  | flightMode mode => exact .inr (.inl ⟨mode, rfl⟩)
  | landedState landedState => exact .inr (.inr (callback_landedState landedState s))
  | position lat lon alt =>
    exact .inr (.inr ⟨rfl, ⟨rfl, rfl, rfl⟩, ⟨rfl, rfl, rfl⟩, rfl, rfl, id, .nothing rfl⟩)
  | positionVelocity n e d vn ve vd =>
    exact .inr (.inr ⟨rfl, ⟨rfl, rfl, rfl⟩, ⟨rfl, rfl, rfl⟩, rfl, rfl, id, .nothing rfl⟩)
  | attitude yawDeg => exact .inr (.inr ⟨rfl, ⟨rfl, rfl, rfl⟩, ⟨rfl, rfl, rfl⟩, rfl, rfl, id, .nothing rfl⟩)
  | gpsGlobalOrigin result => exact .inr (.inr (callback_setGlobalPositionReference result s))
  | trajectory t => exact .inr (.inr (callback_onMavlinkTrajectoryMessage t s))

end MissionManager

end AutopilotManager
