import AutopilotManager.Mission.Commands
import AutopilotManager.Mission.InProgress
import AutopilotManager.Mission.Waypoint

/-!
# Mission.Dispatch — what follows when an action is said to be in progress

The two dispatches on the configured action know a list of names and do nothing for others, but the action is said to
be in progress in any case, which blocks the next one for five seconds.  A search that is started on the ground is
ended in the same iteration, without a command.
-/

namespace AutopilotManager

open Lib

namespace MissionManager

variable {P E : Type} {ext : Externals P E} {i : TickInput E} {s s' : MissionManager P}

/-- From `s` to `s'` something is commanded, or a search is active at the end. -/
def Responds (ext : Externals P E) (s s' : MissionManager P) : Prop :=
  (∃ cs, Issues cs s s' ∧ cs ≠ []) ∨ ext.isActive s'.planner

theorem responds_iff {cs : List Command} (h : Issues cs s s') :
    Responds ext s s' ↔ cs ≠ [] ∨ ext.isActive s'.planner := by
  refine or_congr_left ⟨?_, fun hne => ⟨cs, h, hne⟩⟩
  rintro ⟨ds, hds, hne⟩
  rwa [h.unique hds]

/-! ### Active actions -/

section LifeCycle

variable (hext : ext.LifeCycle) (hland : ∀ p, ext.shouldLand p → ext.isActive p)

include hext hland in
/-- An update holds, or the search goes on. -/
theorem responds_updateLandingSiteSearch (land : Bool) (hactive : ext.isActive s.planner) :
    Responds ext s (s.updateLandingSiteSearch ext i land) := by
  refine (responds_iff (issues_updateLandingSiteSearch land s)).mpr ?_
  have hplanner : (s.updateLandingSiteSearch ext i land).planner = _ := planner_commandSearch ..
  rw [hplanner]
  have hdecided := active_or_ended_decideSearch (i := i) hext hactive
  generalize s.decideSearch ext i = d at hdecided
  unfold searchCommand
  cases hfound : !ext.shouldLand s.planner && ext.shouldLand d.planner with
  | true =>
    cases land with
    | true => exact .inr (hland _ (Bool.and_eq_true_iff.mp hfound).2)
    | false => exact .inl (List.cons_ne_nil _ _)
  | false =>
    by_cases hended : ext.isEnded d.planner
    · rw [if_neg Bool.false_ne_true, if_pos hended]
      exact .inl (List.cons_ne_nil _ _)
    · exact .inr (hdecided.resolve_right hended)

include hext hland in
/-- **When processing responds**: in a search that is not stopped, or by landing at the waypoint. -/
theorem responds_processActiveActions_iff (havoidance : s.obstacleAvoidanceEnabled) :
    Responds ext s (s.processActiveActions ext i) ↔
      if ext.isActive s.planner then ¬ s.shouldEndLandingSiteSearch else s.landsAtWaypoint ext := by
  cases processActiveActions_cases ext i s with
  | stopped active stop ended planner =>
    rw [if_pos active, responds_iff (issues_processActiveActions_stopped active havoidance stop), planner]
    have hinactive : ¬ ext.isActive (ext.endSearch s.planner) := hext.ended _ (hext.endSearch _)
    exact ⟨fun h => absurd (h.resolve_left (not_not.mpr rfl)) hinactive, fun h => absurd stop h⟩
  | updated active continues step planner =>
    rw [if_pos active]
    refine iff_of_true ?_ continues
    have hupdate := responds_updateLandingSiteSearch (i := i) hext hland
      (s.config.safeLandingTryLandingAfterAction ≠ 0) active
    rw [responds_iff (issues_updateLandingSiteSearch _ s)] at hupdate
    rw [responds_iff (issues_processActiveActions_updated active continues), planner]
    exact hupdate
  | reset inactive effect override planner =>
    rw [if_neg inactive, responds_iff (issues_processActiveActions_idle i inactive), planner]
    have hreset : ¬ ext.isActive (ext.reset s.planner) := hext.reset _
    split_ifs with hlands
    · exact iff_of_true (.inl (List.cons_ne_nil _ _)) hlands
    · exact ⟨fun h => absurd (h.resolve_left (not_not.mpr rfl)) hreset, fun h => absurd h hlands⟩
  | idle inactive quiet =>
    rw [if_neg inactive, responds_iff (issues_processActiveActions_idle i inactive), quiet.planner]
    split_ifs with hlands
    · exact iff_of_true (.inl (List.cons_ne_nil _ _)) hlands
    · exact ⟨fun h => absurd (h.resolve_left (not_not.mpr rfl)) inactive, fun h => absurd h hlands⟩

/-! ### Safe landing -/

/-- The trigger is answered: by `hold` over ground that is not healthy, by the command of a known action, by a search
that is not stopped at once, or, for an unknown action, by what was going on before. -/
def IsAnswered (ext : Externals P E) (i : TickInput E) (s : MissionManager P) : Prop :=
  unhealthyAndAbove i ∨
    if s.config.safeLandingOnNoSafeLand ∈ knownActions then
      s.config.safeLandingOnNoSafeLand = "LANDING_SITE_SEARCH" → s.startsSearch ext i → ¬ s.shouldEndLandingSiteSearch
    else if ext.isActive s.planner then ¬ s.shouldEndLandingSiteSearch
    else s.landsAtWaypoint ext

/-- What an iteration with safe landing on responds comes from the trigger or from the processing. -/
theorem responds_decisionMakerRun_on (hcalls : ¬ i.bypasses) (hon : ¬ (s.beginTick i).isOff) :
    Responds ext s (s.decisionMakerRun ext i) ↔ ((s.beginTick i).triggerCommand ext i).isSome ∨
      Responds ext ((s.beginTick i).triggerSafeLanding ext i)
        (((s.beginTick i).triggerSafeLanding ext i).processActiveActions ext i) := by
  obtain ⟨ended, started, heffect⟩ := effect_triggerSafeLanding ext i (s.beginTick i)
  obtain ⟨cs, hcs, -⟩ := exists_issues_processActiveActions ext i (heffect.avoidance.trans (avoidance_of_on hon))
  have hplanner := (quiet_decisionMakerRun_on ext hcalls hon).planner
  rw [responds_iff (issues_decisionMakerRun_on hcalls hon hcs), responds_iff hcs, hplanner]
  cases (s.beginTick i).triggerCommand ext i with
  | none => simp
  | some c => simp

theorem onNoSafeLand_of_unknown (hunknown : s.config.safeLandingOnNoSafeLand ∉ knownActions) :
    s.onNoSafeLand ext i = s := by
  simp only [mem_knownActions, not_or] at hunknown
  unfold onNoSafeLand
  simp only [hunknown, if_false]

include hext hland in
/-- An action that the trigger starts is answered by its command or by the processing. -/
theorem responds_trigger_iff (havoidance : s.obstacleAvoidanceEnabled) (hfree : ¬ s.actionInProgress)
    (hset : (s.triggerSafeLanding ext i).actionInProgress) :
    ((s.triggerCommand ext i).isSome ∨
      Responds ext (s.triggerSafeLanding ext i) ((s.triggerSafeLanding ext i).processActiveActions ext i)) ↔
      IsAnswered ext i s := by
  obtain ⟨ended, started, heffect⟩ := effect_triggerSafeLanding ext i s
  rw [responds_processActiveActions_iff hext hland (heffect.avoidance.trans havoidance),
    shouldEndLandingSiteSearch_triggerSafeLanding]
  cases triggerSafeLanding_trigger ext i s with
  | none takes result =>
    rw [result] at hset
    exact absurd hset hfree
  | unhealthy free triggered unhealthy result =>
    refine iff_of_true (.inl ?_) (.inl unhealthy)
    rw [triggerCommand_isSome, triggerCommands, Bool.eq_false_iff.mpr free, triggered, unhealthy]
    rfl
  | action free triggered takes result =>
    -- without an alarm the trigger is an action for bad ground
    have hhealthy : ¬ unhealthyAndAbove i := fun h => not_takesAction_of_unhealthy h s takes
    rw [triggerCommand_of_takes takes, actionCommand_isSome, IsAnswered, or_iff_right hhealthy]
    by_cases hknown : s.config.safeLandingOnNoSafeLand ∈ knownActions
    · rw [if_pos hknown, decide_eq_true hknown, Bool.true_and]
      by_cases hstarts : s.config.safeLandingOnNoSafeLand = "LANDING_SITE_SEARCH" ∧ s.startsSearch ext i
      · -- a search commands nothing itself: the active planner answers in the same iteration
        obtain ⟨hsearch, hstarts⟩ := hstarts
        have hready := hstarts
        unfold startsSearch at hready
        simp only [Bool.and_eq_true] at hready
        have hactive : ext.isActive (s.triggerSafeLanding ext i).planner := by
          rw [planner_triggerSafeLanding ext i havoidance, searchPlanner, if_pos ⟨takes, hsearch, hready.1.1⟩]
          exact hready.2
        rw [decide_eq_true hsearch, hstarts, if_pos hactive]
        simp [hsearch]
      · refine iff_of_true (.inl ?_) fun hsearch h => absurd ⟨hsearch, h⟩ hstarts
        rw [Bool.not_eq_true', Bool.eq_false_iff]
        simpa using hstarts
    · rw [if_neg hknown, decide_eq_false hknown, result, onNoSafeLand_of_unknown hknown, Bool.false_and,
        or_iff_right Bool.false_ne_true]
      rfl

end LifeCycle

/-! ### Simple collision avoidance -/

/-- The actions that the dispatch on an obstacle knows. -/
def avoidActions : List String :=
  ["HOLD", "RTL", "MOVE_XYZ_WRT_CURRENT", "GO_TO_WAYPOINT_XYZ", "MOVE_LLA_WRT_CURRENT", "GO_TO_WAYPOINT", "LAND",
    "SCRIPT_CALL", "API_CALL"]

/-- A known action has a command, another has none. -/
theorem issues_onObstacle (s : MissionManager P) : ∃ cs, Issues cs s s.onObstacle ∧
    (cs ≠ [] ↔ s.config.simpleCollisionAvoidActionOnConditionTrue ∈ avoidActions) := by
  have hknown : ∀ c, s.config.simpleCollisionAvoidActionOnConditionTrue ∈ avoidActions →
      ∃ cs, Issues cs s (s.emit (.command c)) ∧
        (cs ≠ [] ↔ s.config.simpleCollisionAvoidActionOnConditionTrue ∈ avoidActions) :=
    fun c hmem => ⟨[c], rfl, iff_of_true (List.cons_ne_nil _ _) hmem⟩
  unfold onObstacle
  dsimp only
  split_ifs with hhold hrtl hmove hxyz hlla hgo hland hscript hapi
  · exact hknown .hold (by simp [avoidActions, hhold])
  · exact hknown .returnToLaunch (by simp [avoidActions, hrtl])
  · exact hknown .hold (by simp [avoidActions, hmove])
  · exact hknown .hold (by simp [avoidActions, hxyz])
  · exact hknown .hold (by simp [avoidActions, hlla])
  · exact hknown .hold (by simp [avoidActions, hgo])
  · exact hknown .land (by simp [avoidActions, hland])
  · exact hknown .hold (by simp [avoidActions, hscript])
  · exact hknown .hold (by simp [avoidActions, hapi])
  · refine ⟨[], .refl s, iff_of_false (not_not.mpr rfl) ?_⟩
    simp [avoidActions, hhold, hrtl, hmove, hxyz, hlla, hgo, hland, hscript, hapi]

/-- An iteration that starts to avoid an obstacle issues the command of the action, and leaves the planner alone. -/
theorem responds_avoidance_iff (hfree : ¬ s.actionInProgress)
    (hset : (s.handleSimpleCollisionAvoidance i).actionInProgress) :
    Responds ext s (s.handleSimpleCollisionAvoidance i) ↔
      s.config.simpleCollisionAvoidActionOnConditionTrue ∈ avoidActions ∨ ext.isActive s.planner := by
  have hplanner := (quiet_handleSimpleCollisionAvoidance (i := i) s).planner
  obtain ⟨cs, hcs, hknown⟩ := issues_onObstacle s
  have hissues : Issues cs s (s.handleSimpleCollisionAvoidance i) := by
    rcases handleSimpleCollisionAvoidance_cases i s with ⟨-, hresult⟩ | hresult
    · rw [hresult]
      exact hcs
    · rw [hresult] at hset
      exact absurd hset hfree
  rw [responds_iff hissues, hknown, hplanner]

/-! ### The iteration -/

theorem actionInProgress_of_actionTimeout {now : ℤ} (h : (s.actionTimeout now).actionInProgress) :
    s.actionInProgress := by
  unfold actionTimeout at h
  split_ifs at h
  exact h

theorem actionInProgress_of_afterHandler (h : (s.afterHandler i).actionInProgress) : s.actionInProgress :=
  actionInProgress_of_actionTimeout (s := { s with isHealthy := s.obstacleAvoidanceEnabled || s.underManualControl }) h

/-- The early return marks nothing. -/
theorem actionInProgress_disabled (ext : Externals P E) (s : MissionManager P) :
    (if ext.isActive s.planner then
      (hold { s with planner := ext.endSearch s.planner }).landingSiteSearchHasEnded "DISABLED"
    else s).actionInProgress = s.actionInProgress := by
  have hread := (uncalled_actionInProgress (P := P)).toUnacted
  split_ifs
  · exact (hread.landingSiteSearchHasEnded ..).trans ((hread.hold _).trans (hread.withPlanner ..))
  · rfl

/-- What commands nothing before and after leaves the response. -/
theorem responds_frame {s₁ s₂ : MissionManager P} (hbefore : Issues [] s s₁) (hafter : Issues [] s₂ s')
    (hplanner : s'.planner = s₂.planner) : Responds ext s s' ↔ Responds ext s₁ s₂ := by
  have hcommands : ∀ cs, Issues cs s s' ↔ Issues cs s₁ s₂ := fun cs => by
    unfold Issues at *
    rw [hbefore, hafter, List.nil_append, List.nil_append]
  unfold Responds
  simp only [hcommands, hplanner]

/-- **When an action in progress stands for something**: an iteration that says that an action is in progress commands
something or leaves a search active exactly when the configured action is known to the dispatch and no search that it
starts is stopped at once, or what was going on before responds in its place. -/
theorem dispatch_answered_iff (hext : ext.LifeCycle) (hland : ∀ p, ext.shouldLand p → ext.isActive p)
    (hfree : ¬ s.actionInProgress) (hset : (s.decisionMakerRun ext i).actionInProgress) :
    Responds ext s (s.decisionMakerRun ext i) ↔
      if i.config.decisionMakerInputType = "SAFE_LANDING" then IsAnswered ext i (s.beginTick i)
      else i.config.simpleCollisionAvoidActionOnConditionTrue ∈ avoidActions ∨ ext.isActive s.planner := by
  split_ifs with hsafe
  · have henabled : i.config.autopilotManagerEnabled ≠ 0 := fun hdisabled => by
      rw [decisionMakerRun_of_disabled hdisabled] at hset
      exact hfree hset
    have hcalls : ¬ i.bypasses := not_or.mpr ⟨henabled, not_not.mpr hsafe⟩
    have hfree' : ¬ (s.beginTick i).actionInProgress := by
      rw [actionInProgress_beginTick]
      exact hfree
    rw [decisionMakerRun_of_calls ext hcalls, handleSafeLanding_beginTick] at hset
    have hhandled := actionInProgress_of_afterHandler hset
    by_cases hoff : (s.beginTick i).isOff
    · rw [if_pos hoff, actionInProgress_disabled] at hhandled
      exact absurd hhandled hfree'
    · rw [if_neg hoff] at hhandled
      -- the flag is up at the end and only the trigger raises it
      have htriggered : ((s.beginTick i).triggerSafeLanding ext i).actionInProgress := by
        exact (uncalled_actionInProgress.processActiveActions _).symm.trans hhandled
      rw [responds_decisionMakerRun_on hcalls hoff]
      exact responds_trigger_iff hext hland (avoidance_of_on hoff) hfree' htriggered
  · cases decisionMakerRun_of_bypasses ext (.inr hsafe) s with
    | disabled result =>
      rw [result] at hset
      exact absurd hset hfree
    | undecided enabled result =>
      rw [result] at hset
      exact absurd (actionInProgress_of_actionTimeout hset) hfree
    | avoidance enabled result =>
      rw [result] at hset ⊢
      have hconfig : Issues [] s { s with config := i.config } := .refl s
      rw [responds_frame hconfig (issues_actionTimeout i.now _) (quiet_actionTimeout i.now _).planner]
      exact responds_avoidance_iff (s := { s with config := i.config }) hfree (actionInProgress_of_actionTimeout hset)

/-- In land mode, ten meters above the ground, with the obstacle avoidance running. -/
def descending : MissionManager Phase :=
  run (step phasePlanner) (initial phasePlanner zeroBoot) [.flightMode .land, .trajectory zeroTrajectory]

theorem phasePlanner_searches (p : Phase) (hp : phasePlanner.shouldLand p) : phasePlanner.isActive p := by
  have hlanding : p = .landing := of_decide_eq_true hp
  rw [hlanding]
  rfl

theorem dispatch_answered_hold : Responds phasePlanner descending
    (descending.decisionMakerRun phasePlanner (tickOver .canNotLand (safeLandingBy "HOLD"))) := by
  refine (dispatch_answered_iff phasePlanner_lifeCycle phasePlanner_searches (by decide +kernel)
    (by decide +kernel)).mpr ?_
  have hsafe : (tickOver .canNotLand (safeLandingBy "HOLD")).config.decisionMakerInputType = "SAFE_LANDING" := rfl
  rw [if_pos hsafe, IsAnswered]
  exact .inr (by decide +kernel)

/-- An action that is spelled wrong is said to be in progress. -/
theorem dispatch_unanswered : ¬ descending.actionInProgress ∧
    (descending.decisionMakerRun phasePlanner (tickOver .canNotLand (safeLandingBy "Hold"))).actionInProgress ∧
    ¬ Responds phasePlanner descending
      (descending.decisionMakerRun phasePlanner (tickOver .canNotLand (safeLandingBy "Hold"))) := by
  have hnone : Issues [] descending
      (descending.decisionMakerRun phasePlanner (tickOver .canNotLand (safeLandingBy "Hold"))) :=
    (by decide +kernel : _ = _)
  refine ⟨by decide +kernel, by decide +kernel, ?_⟩
  rw [responds_iff hnone]
  decide +kernel

end MissionManager

end AutopilotManager
