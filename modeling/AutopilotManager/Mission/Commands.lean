import AutopilotManager.Mission.Frame

/-!
# Mission.Commands — what the parts of an iteration command

Every part of an iteration is described by the commands that it issues: the command of the configured action, the one
of the trigger, and those of the processing of active actions.
-/

namespace AutopilotManager

/-- The command that an entry of the log records. -/
def Event.issued : Event → Option Command
  | command c => some c
  | _ => none

namespace MissionManager

variable {P E : Type} {ext : Externals P E} {i : TickInput E} {s s' s'' : MissionManager P} {cs ds : List Command}

/-- All commands so far, newest first. -/
def commands (s : MissionManager P) : List Command := s.log.filterMap Event.issued

/-- From `s` to `s'` the commands `cs` are issued, newest first. -/
def Issues (cs : List Command) (s s' : MissionManager P) : Prop := s'.commands = cs ++ s.commands

theorem Issues.refl (s : MissionManager P) : Issues [] s s := rfl

theorem Issues.trans (h : Issues cs s s') (h' : Issues ds s' s'') : Issues (ds ++ cs) s s'' := by
  unfold Issues at *
  rw [h', h, List.append_assoc]

/-- The commands of a step are determined. -/
theorem Issues.unique (h : Issues cs s s') (h' : Issues ds s s') : cs = ds :=
  List.append_cancel_right (h.symm.trans h')

theorem Issues.of_trans (h : Issues [] s s') (h' : Issues cs s' s'') : Issues cs s s'' :=
  List.append_nil cs ▸ h.trans h'

theorem Issues.then (h : Issues cs s s') (h' : Issues [] s' s'') : Issues cs s s'' := h.trans h'

theorem issues_command (c : Command) (s : MissionManager P) : Issues [c] s (s.emit (.command c)) := rfl

theorem issues_statusText (type : StatusTextType) (text : String) (s : MissionManager P) :
    Issues [] s (s.statusText type text) := rfl

theorem issues_isStationary (s : MissionManager P) : Issues [] s s.isStationary.2 := by
  unfold isStationary
  dsimp only
  split_ifs <;> rfl

theorem issues_beginTick (s : MissionManager P) : Issues [] s (s.beginTick i) := by
  rw [beginTick_eq]
  rfl

theorem issues_actionTimeout (now : ℤ) (s : MissionManager P) : Issues [] s (s.actionTimeout now) := by
  unfold actionTimeout
  split_ifs <;> rfl

theorem issues_afterHandler (s : MissionManager P) : Issues [] s (s.afterHandler i) :=
  issues_actionTimeout i.now { s with isHealthy := s.obstacleAvoidanceEnabled || s.underManualControl }

/-! ### The action -/

/-- The command of the action `MOVE_XYZ_WRT_CURRENT`. -/
def moveCommand (ext : Externals P E) (s : MissionManager P) : Command :=
  if s.globalOriginReferenceSet then
    let waypoint := s.getGlobalPositionFromLocalOffset ext s.config.localPositionOffsetX s.config.localPositionOffsetY
    .gotoLocation waypoint.latitudeDeg waypoint.longitudeDeg (s.currentAltitudeAmsl + s.config.localPositionOffsetZ) .nan
  else .hold

/-- The command of the action `GO_TO_WAYPOINT`. -/
def waypointCommand (s : MissionManager P) : Command :=
  if s.atConfiguredWaypoint then .returnToLaunch
  else if s.globalOriginReferenceSet then
    .gotoLocation s.config.globalPositionWaypointLat s.config.globalPositionWaypointLon
      s.config.globalPositionWaypointAltAmsl .nan
  else .hold

/-- The action `LANDING_SITE_SEARCH` starts a search. -/
def startsSearch (ext : Externals P E) (i : TickInput E) (s : MissionManager P) : Bool :=
  s.globalOriginReferenceSet && s.obstacleAvoidanceEnabled && ext.isActive (s.startedPlanner ext i)

/-- The command of the configured action. -/
def actionCommand (ext : Externals P E) (i : TickInput E) (s : MissionManager P) : Option Command :=
  let action := s.config.safeLandingOnNoSafeLand
  if action = "RTL" then some .returnToLaunch
  else if action = "MOVE_XYZ_WRT_CURRENT" then some (s.moveCommand ext)
  else if action = "LANDING_SITE_SEARCH" then if s.startsSearch ext i then none else some .hold
  else if action = "GO_TO_WAYPOINT" then some s.waypointCommand
  else if action ∈ plainActions then some .hold
  else none

theorem issues_moveXyzWrtCurrent (s : MissionManager P) : Issues [s.moveCommand ext] s (s.moveXyzWrtCurrent ext) := by
  unfold moveXyzWrtCurrent moveCommand
  split_ifs <;> rfl

theorem issues_goToWaypoint (s : MissionManager P) : Issues [s.waypointCommand] s s.goToWaypoint := by
  unfold goToWaypoint waypointCommand
  split_ifs <;> rfl

theorem issues_landingSiteSearch (ext : Externals P E) (i : TickInput E) (s : MissionManager P) :
    Issues (if s.startsSearch ext i then [] else [.hold]) s (s.landingSiteSearch ext i) := by
  unfold landingSiteSearch startsSearch
  dsimp only
  by_cases hready : s.globalOriginReferenceSet && s.obstacleAvoidanceEnabled
  · have hstarted : (((s.statusText .warning "Starting Landing Site Search").updateLandingSpeedConfig i).startSearch
        ext i).planner = s.startedPlanner ext i := rfl
    rw [if_pos hready, hready, Bool.true_and, hstarted]
    by_cases hactive : ext.isActive (s.startedPlanner ext i)
    · rw [if_pos hactive, if_pos hactive]
      rfl
    · rw [if_neg hactive, if_neg hactive]
      rfl
  · rw [if_neg hready, Bool.eq_false_iff.mpr hready, Bool.false_and, if_neg Bool.false_ne_true]
    by_cases horigin : s.globalOriginReferenceSet
    · have havoidance : s.obstacleAvoidanceEnabled = false := by simpa [horigin] using hready
      rw [if_neg (by simp [horigin]), if_pos (by simp [havoidance])]
      rfl
    · rw [if_pos (by simp [horigin])]
      rfl

/-- The actions that the dispatch knows. -/
def knownActions : List String := plainActions ++ ["MOVE_XYZ_WRT_CURRENT", "LANDING_SITE_SEARCH", "GO_TO_WAYPOINT"]

theorem mem_knownActions {action : String} : action ∈ knownActions ↔ action = "HOLD" ∨ action = "RTL" ∨
    action = "GO_TO_WAYPOINT_XYZ" ∨ action = "MOVE_LLA_WRT_CURRENT" ∨ action = "SCRIPT_CALL" ∨ action = "API_CALL" ∨
    action = "MOVE_XYZ_WRT_CURRENT" ∨ action = "LANDING_SITE_SEARCH" ∨ action = "GO_TO_WAYPOINT" := by
  simp [knownActions, plainActions]

theorem issues_onNoSafeLand (s : MissionManager P) :
    Issues (s.actionCommand ext i).toList s (s.onNoSafeLand ext i) := by
  have hsearch : Issues (if s.startsSearch ext i then none else some Command.hold).toList s
      (s.landingSiteSearch ext i) := by
    have hstarts := issues_landingSiteSearch ext i s
    split_ifs at hstarts ⊢ <;> exact hstarts
  unfold onNoSafeLand actionCommand
  dsimp only
  generalize s.config.safeLandingOnNoSafeLand = action
  by_cases hknown : action ∈ knownActions
  · rcases mem_knownActions.mp hknown with rfl | rfl | rfl | rfl | rfl | rfl | rfl | rfl | rfl
    case inr.inr.inr.inr.inr.inr.inl => exact issues_moveXyzWrtCurrent s
    case inr.inr.inr.inr.inr.inr.inr.inl => exact hsearch
    case inr.inr.inr.inr.inr.inr.inr.inr => exact issues_goToWaypoint s
    all_goals rfl
  · simp only [mem_knownActions, not_or] at hknown
    simp only [plainActions, hknown, List.mem_cons, List.not_mem_nil, or_false, if_false]
    rfl

/-- Of the known actions only the start of a search has no command. -/
theorem actionCommand_isSome (s : MissionManager P) :
    (s.actionCommand ext i).isSome = (decide (s.config.safeLandingOnNoSafeLand ∈ knownActions) &&
      !(s.config.safeLandingOnNoSafeLand = "LANDING_SITE_SEARCH" && s.startsSearch ext i)) := by
  unfold actionCommand
  dsimp only
  generalize s.config.safeLandingOnNoSafeLand = action
  by_cases hknown : action ∈ knownActions
  · rw [decide_eq_true hknown, Bool.true_and]
    rcases mem_knownActions.mp hknown with rfl | rfl | rfl | rfl | rfl | rfl | rfl | rfl | rfl
    case inr.inr.inr.inr.inr.inr.inr.inl => cases hstarts : s.startsSearch ext i <;> rfl
    all_goals rfl
  · rw [decide_eq_false hknown, Bool.false_and]
    simp only [mem_knownActions, not_or] at hknown
    simp only [plainActions, hknown, List.mem_cons, List.not_mem_nil, or_false, if_false]
    rfl

/-- The command of the trigger. -/
def triggerCommand (ext : Externals P E) (i : TickInput E) (s : MissionManager P) : Option Command :=
  if !s.actionInProgress && s.landingTriggered then
    if unhealthyAndAbove i then some .hold
    else if shouldTriggerSafeLanding i then s.actionCommand ext i
    else none
  else none

theorem issues_triggerSafeLanding (s : MissionManager P) :
    Issues (s.triggerCommand ext i).toList s (s.triggerSafeLanding ext i) := by
  unfold triggerSafeLanding triggerCommand
  split_ifs
  · rfl
  · exact issues_onNoSafeLand s
  · rfl
  · rfl

/-- The trigger issues a command: it is free, and the ground is not healthy or the configured action has one. -/
def triggerCommands (ext : Externals P E) (i : TickInput E) (s : MissionManager P) : Bool :=
  !s.actionInProgress && s.landingTriggered &&
    (unhealthyAndAbove i || shouldTriggerSafeLanding i && (s.config.safeLandingOnNoSafeLand ∈ knownActions &&
      !(s.config.safeLandingOnNoSafeLand = "LANDING_SITE_SEARCH" && s.startsSearch ext i)))

theorem triggerCommand_isSome (s : MissionManager P) : (s.triggerCommand ext i).isSome = s.triggerCommands ext i := by
  unfold triggerCommand triggerCommands
  rw [← actionCommand_isSome]
  split_ifs with htrigger hunhealthy hshould
  · rw [htrigger, hunhealthy]
    rfl
  · rw [htrigger, Bool.eq_false_iff.mpr hunhealthy, hshould, Bool.false_or, Bool.true_and, Bool.true_and]
  · rw [htrigger, Bool.eq_false_iff.mpr hunhealthy, Bool.eq_false_iff.mpr hshould]
    rfl
  · rw [Bool.eq_false_iff.mpr htrigger]
    rfl

theorem triggerCommand_of_takes (htakes : s.takesAction i) : s.triggerCommand ext i = s.actionCommand ext i := by
  unfold takesAction at htakes
  simp only [Bool.and_eq_true, Bool.not_eq_true'] at htakes
  obtain ⟨⟨⟨hfree, htriggered⟩, hhealthy⟩, hshould⟩ := htakes
  unfold triggerCommand
  rw [hfree, htriggered, hhealthy, hshould]
  rfl

/-- A trigger without a command leaves an active search active. -/
theorem triggerSafeLanding_of_silent (hsilent : ¬ s.triggerCommands ext i) :
    ∃ started, Effect 0 started s (s.triggerSafeLanding ext i) ∧
      (ext.isActive s.planner → ext.isActive (s.triggerSafeLanding ext i).planner) := by
  have hquiet : ∀ s', Quiet s s' → ∃ started, Effect 0 started s s' ∧
      (ext.isActive s.planner → ext.isActive s'.planner) := fun s' h => ⟨0, h.toEffect, fun hs => h.planner ▸ hs⟩
  cases triggerSafeLanding_trigger ext i s with
  | none takes result =>
    rw [result]
    exact hquiet s (.refl s)
  | unhealthy free triggered unhealthy result =>
    refine absurd ?_ hsilent
    unfold triggerCommands
    rw [Bool.eq_false_iff.mpr free, triggered, unhealthy]
    rfl
  | action free triggered takes result =>
    rw [result]
    rcases onNoSafeLand_cases ext i s with ⟨-, hsame⟩ | ⟨hsearch, hattempt⟩
    · exact hquiet _ (hsame.trans (quiet_actionTriggered ..))
    · -- a trigger that commands nothing can only be a search that starts
      have hstarts : s.startsSearch ext i := by
        unfold takesAction at takes
        rw [Bool.and_eq_true] at takes
        by_contra hnot
        refine hsilent ?_
        unfold triggerCommands
        rw [Bool.eq_false_iff.mpr free, triggered, takes.2, hsearch, Bool.eq_false_iff.mpr hnot]
        simp [mem_knownActions]
      unfold startsSearch at hstarts
      simp only [Bool.and_eq_true] at hstarts
      cases hattempt.quiet (quiet_actionTriggered i.now _) with
      | started effect planner active origin => exact ⟨1, effect, fun _ => active⟩
      | failed ended planner inactive origin =>
        rw [planner] at inactive
        exact absurd hstarts.2 inactive
      | refused ended planner missing =>
        exact absurd missing (not_or.mpr ⟨not_not.mpr hstarts.1.1, not_not.mpr hstarts.1.2⟩)

/-! ### Active actions -/

theorem issues_endLandingSiteSearch (havoidance : s.obstacleAvoidanceEnabled) (hend : s.shouldEndLandingSiteSearch) :
    Issues [] s (s.endLandingSiteSearch ext) := by
  unfold shouldEndLandingSiteSearch at hend
  simp only [havoidance, Bool.not_true, Bool.or_false, Bool.or_eq_true, decide_eq_true_eq] at hend
  unfold endLandingSiteSearch
  dsimp only
  split_ifs with hground hmanual hrtl
  · rfl
  · rfl
  · rfl
  · simp only [Bool.or_eq_true, decide_eq_true_eq] at hground hrtl
    rcases hend with ((hend | hend) | hend) | hend
    · exact absurd (.inl hend) hground
    · exact absurd (.inr hend) hground
    · exact absurd hend hmanual
    · exact absurd hend hrtl

theorem shouldEndLandingSiteSearch_triggerSafeLanding (ext : Externals P E) (i : TickInput E) (s : MissionManager P) :
    (s.triggerSafeLanding ext i).shouldEndLandingSiteSearch = s.shouldEndLandingSiteSearch := by
  obtain ⟨ended, started, heffect⟩ := effect_triggerSafeLanding ext i s
  unfold shouldEndLandingSiteSearch underManualControl
  rw [heffect.landedState, heffect.flightMode, heffect.avoidance]

theorem issues_restoreIfEnded (s : MissionManager P) : Issues [] s (s.restoreIfEnded ext) := by
  unfold restoreIfEnded
  split_ifs <;> rfl

theorem issues_decideSearch (s : MissionManager P) : Issues [] s (s.decideSearch ext i) := by
  unfold decideSearch
  split_ifs
  · rfl
  · rfl
  · exact issues_isStationary s

/-- A search that is found to be over holds, unless the vehicle lands at the site. -/
def searchCommand (ext : Externals P E) (initiate land : Bool) (s : MissionManager P) : Option Command :=
  if initiate then if land then none else some .hold
  else if ext.isEnded s.planner then some .hold else none

theorem issues_commandSearch (initiate land : Bool) (s : MissionManager P) :
    Issues (s.searchCommand ext initiate land).toList s (s.commandSearch ext initiate land) := by
  unfold commandSearch searchCommand
  split_ifs
  · exact (issues_statusText ..).then (issues_restoreIfEnded _)
  · exact (issues_command .hold s).then (issues_restoreIfEnded _)
  · exact (issues_command .hold s).then (issues_restoreIfEnded _)
  · exact issues_restoreIfEnded (s.goToNewLocalWaypoint _)
  · rfl

/-- The vehicle lands at the waypoint of an action. -/
def landsAtWaypoint (ext : Externals P E) (s : MissionManager P) : Bool :=
  !(ext.isEnded s.planner && s.landedState = .takingOff) && s.waypointPending && s.arrivedToNewWaypoint &&
    s.config.safeLandingTryLandingAfterAction ≠ 0

theorem issues_processActiveActions_stopped (hactive : ext.isActive s.planner)
    (havoidance : s.obstacleAvoidanceEnabled) (hend : s.shouldEndLandingSiteSearch) :
    Issues [] s (s.processActiveActions ext i) := by
  unfold processActiveActions
  dsimp only
  rw [if_pos hactive, if_pos hend]
  exact issues_endLandingSiteSearch havoidance hend

theorem issues_processActiveActions_idle (i : TickInput E) (hinactive : ¬ ext.isActive s.planner) :
    Issues (if s.landsAtWaypoint ext then [.land] else []) s (s.processActiveActions ext i) := by
  unfold processActiveActions landsAtWaypoint
  dsimp only
  rw [if_neg hinactive]
  by_cases hreset : ext.isEnded s.planner && s.landedState = .takingOff
  · rw [if_pos hreset, hreset]
    rfl
  · rw [if_neg hreset, Bool.eq_false_iff.mpr hreset, Bool.not_false, Bool.true_and]
    split_ifs <;> rfl

/-- An update issues what the search commands after its decision. -/
theorem issues_updateLandingSiteSearch (land : Bool) (s : MissionManager P) :
    Issues ((s.decideSearch ext i).searchCommand ext
      (!ext.shouldLand s.planner && ext.shouldLand (s.decideSearch ext i).planner) land).toList s
      (s.updateLandingSiteSearch ext i land) :=
  (issues_decideSearch s).of_trans (issues_commandSearch ..)

theorem issues_processActiveActions_updated (hactive : ext.isActive s.planner)
    (hcontinues : ¬ s.shouldEndLandingSiteSearch) :
    Issues ((s.decideSearch ext i).searchCommand ext
      (!ext.shouldLand s.planner && ext.shouldLand (s.decideSearch ext i).planner)
      (s.config.safeLandingTryLandingAfterAction ≠ 0)).toList s (s.processActiveActions ext i) := by
  unfold processActiveActions
  dsimp only
  rw [if_pos hactive, if_neg hcontinues]
  exact issues_updateLandingSiteSearch ..

theorem eq_hold_of_mem_searchCommand {initiate land : Bool} {c : Command}
    (hc : c ∈ (s.searchCommand ext initiate land).toList) : c = .hold := by
  unfold searchCommand at hc
  split_ifs at hc <;> simp_all

/-- Processing holds, or lands at the waypoint. -/
theorem exists_issues_processActiveActions (ext : Externals P E) (i : TickInput E)
    (havoidance : s.obstacleAvoidanceEnabled) :
    ∃ cs, Issues cs s (s.processActiveActions ext i) ∧ ∀ c ∈ cs, c = .hold ∨ c = .land := by
  by_cases hactive : ext.isActive s.planner
  · by_cases hend : s.shouldEndLandingSiteSearch
    · exact ⟨_, issues_processActiveActions_stopped hactive havoidance hend, by simp⟩
    · exact ⟨_, issues_processActiveActions_updated hactive hend, fun c hc => .inl (eq_hold_of_mem_searchCommand hc)⟩
  · refine ⟨_, issues_processActiveActions_idle i hactive, fun c hc => .inr ?_⟩
    split_ifs at hc
    · exact List.mem_singleton.mp hc
    · exact absurd hc List.not_mem_nil

/-! ### The iteration -/

/-- Safe landing is switched off, or the obstacle avoidance is lost. -/
def isOff (s : MissionManager P) : Bool := s.config.safeLandingEnabled = 0 || !s.obstacleAvoidanceEnabled

theorem isOff_iff (s : MissionManager P) :
    s.isOff ↔ s.config.safeLandingEnabled = 0 ∨ ¬ s.obstacleAvoidanceEnabled := by
  simp [isOff]

theorem avoidance_of_on (hon : ¬ s.isOff) : s.obstacleAvoidanceEnabled := by
  rw [isOff_iff, not_or, not_not] at hon
  exact hon.2

theorem handleSafeLanding_beginTick (ext : Externals P E) (i : TickInput E) (s : MissionManager P) :
    handleSafeLanding ext i { s with config := i.config } =
      if (s.beginTick i).isOff then
        if ext.isActive (s.beginTick i).planner then
          (hold { s.beginTick i with planner := ext.endSearch (s.beginTick i).planner }).landingSiteSearchHasEnded
            "DISABLED"
        else s.beginTick i
      else ((s.beginTick i).triggerSafeLanding ext i).processActiveActions ext i := rfl

/-- With safe landing off an iteration stops a search and does nothing else. -/
theorem decisionMakerRun_off_cases (ext : Externals P E) (hcalls : ¬ i.bypasses) (hoff : (s.beginTick i).isOff) :
    ext.isActive s.planner ∧ Ended 0 (s.beginTick i) (s.decisionMakerRun ext i) ∧
        (s.decisionMakerRun ext i).planner = ext.endSearch s.planner ∨
      ¬ ext.isActive s.planner ∧ Quiet (s.beginTick i) (s.decisionMakerRun ext i) := by
  have hplanner : (s.beginTick i).planner = s.planner := (apart_beginTick s).planner
  cases decisionMakerRun_cases ext i s with
  | bypassed bypasses quiet => exact absurd bypasses hcalls
  | handled calls handled quiet =>
    cases handled with
    | disabled off active ended planner =>
      rw [hplanner] at active planner
      have hended := ended.toEffect.trans quiet.toEffect
      exact .inl ⟨active, ⟨hended, quiet.unset ended.unset⟩, quiet.planner.trans planner⟩
    | skipped off inactive same =>
      rw [hplanner] at inactive
      exact .inr ⟨inactive, same ▸ quiet⟩
    | processed on avoidance process => exact absurd ((isOff_iff _).mp hoff) (not_or.mpr ⟨on, not_not.mpr avoidance⟩)

/-- With safe landing on it is the trigger and the processing. -/
theorem quiet_decisionMakerRun_on (ext : Externals P E) (hcalls : ¬ i.bypasses) (hon : ¬ (s.beginTick i).isOff) :
    Quiet (((s.beginTick i).triggerSafeLanding ext i).processActiveActions ext i) (s.decisionMakerRun ext i) := by
  rw [decisionMakerRun_of_calls ext hcalls, handleSafeLanding_beginTick, if_neg hon]
  exact quiet_afterHandler _

/-- With safe landing off an iteration holds where it stops a search. -/
theorem issues_decisionMakerRun_off (ext : Externals P E) (hcalls : ¬ i.bypasses) (hoff : (s.beginTick i).isOff) :
    Issues (if ext.isActive s.planner then [.hold] else []) s (s.decisionMakerRun ext i) := by
  have hplanner : (s.beginTick i).planner = s.planner := (apart_beginTick s).planner
  rw [decisionMakerRun_of_calls ext hcalls, handleSafeLanding_beginTick, if_pos hoff, hplanner]
  refine ((issues_beginTick s).of_trans (?_ : Issues _ (s.beginTick i) _)).then (issues_afterHandler _)
  split_ifs <;> rfl

/-- With safe landing on it issues what the trigger and the processing do. -/
theorem issues_decisionMakerRun_on (hcalls : ¬ i.bypasses) (hon : ¬ (s.beginTick i).isOff)
    (h : Issues cs ((s.beginTick i).triggerSafeLanding ext i)
      (((s.beginTick i).triggerSafeLanding ext i).processActiveActions ext i)) :
    Issues (cs ++ ((s.beginTick i).triggerCommand ext i).toList) s (s.decisionMakerRun ext i) := by
  rw [decisionMakerRun_of_calls ext hcalls, handleSafeLanding_beginTick, if_neg hon]
  refine ((issues_beginTick s).of_trans (?_ : Issues _ (s.beginTick i) _)).then (issues_afterHandler _)
  exact (issues_triggerSafeLanding _).trans h

theorem exists_issues_decisionMakerRun_on (ext : Externals P E) (hcalls : ¬ i.bypasses)
    (hon : ¬ (s.beginTick i).isOff) :
    ∃ cs, (∀ c ∈ cs, c = .hold ∨ c = .land) ∧
      Issues (cs ++ ((s.beginTick i).triggerCommand ext i).toList) s (s.decisionMakerRun ext i) := by
  obtain ⟨ended, started, heffect⟩ := effect_triggerSafeLanding ext i (s.beginTick i)
  obtain ⟨cs, hcs, hplain⟩ := exists_issues_processActiveActions ext i (heffect.avoidance.trans (avoidance_of_on hon))
  exact ⟨cs, hplain, issues_decisionMakerRun_on hcalls hon hcs⟩

end MissionManager

end AutopilotManager
