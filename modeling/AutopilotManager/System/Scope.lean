import AutopilotManager.Mission.Answers
import AutopilotManager.Mission.Departure
import AutopilotManager.Mission.Dispatch
import AutopilotManager.Mission.Trajectory
import AutopilotManager.System.AvoidanceFlag
import AutopilotManager.System.SearchHeight

/-!
# System.Scope — what a configuration lets the module do

The configuration names the decision maker, its switches and one action for each condition.  A run over it commands
only what these stand for: the commands of the action, a landing at the waypoint of the action, and the setpoints of a
search only where the action is a search.
-/

namespace AutopilotManager

open Lib

namespace MissionManagerConfiguration

/-- The decisions are those of safe landing, and it is switched on. -/
def landsSafely (c : MissionManagerConfiguration) : Bool :=
  c.autopilotManagerEnabled ≠ 0 && c.decisionMakerInputType = "SAFE_LANDING" && c.safeLandingEnabled ≠ 0

/-- The decisions are those of simple collision avoidance, and it is switched on. -/
def avoidsObstacles (c : MissionManagerConfiguration) : Bool :=
  c.autopilotManagerEnabled ≠ 0 && c.decisionMakerInputType = "SIMPLE_COLLISION_AVOIDANCE" &&
    c.simpleCollisionAvoidEnabled ≠ 0

/-- Safe landing searches for a site. -/
def searches (c : MissionManagerConfiguration) : Bool :=
  c.landsSafely && c.safeLandingOnNoSafeLand = "LANDING_SITE_SEARCH"

/-- Safe landing goes to a waypoint. -/
def goesAway (c : MissionManagerConfiguration) : Bool :=
  c.landsSafely &&
    (c.safeLandingOnNoSafeLand = "MOVE_XYZ_WRT_CURRENT" || c.safeLandingOnNoSafeLand = "GO_TO_WAYPOINT")

/-- What safe landing may command: it may always hold, lands where it has gone, and goes to no other waypoint than the
configured one unless it moves relative to the vehicle. -/
def MayLand (c : MissionManagerConfiguration) : Command → Prop
  | .hold => True
  | .returnToLaunch => c.safeLandingOnNoSafeLand = "RTL" ∨ c.safeLandingOnNoSafeLand = "GO_TO_WAYPOINT"
  | .gotoLocation lat lon altAmsl yaw =>
    yaw = .nan ∧ (c.safeLandingOnNoSafeLand = "MOVE_XYZ_WRT_CURRENT" ∨
      c.safeLandingOnNoSafeLand = "GO_TO_WAYPOINT" ∧ lat = c.globalPositionWaypointLat ∧
        lon = c.globalPositionWaypointLon ∧ altAmsl = c.globalPositionWaypointAltAmsl)
  | .land => c.goesAway ∧ c.safeLandingTryLandingAfterAction ≠ 0

/-- The command of the action on an obstacle. -/
def obstacleCommand (c : MissionManagerConfiguration) : Option Command :=
  let action := c.simpleCollisionAvoidActionOnConditionTrue
  if action = "RTL" then some .returnToLaunch
  else if action = "LAND" then some .land
  else if action ∈ MissionManager.avoidActions then some .hold
  else none

/-- What a run over the configuration may command. -/
def Permits (c : MissionManagerConfiguration) (command : Command) : Prop :=
  c.landsSafely ∧ c.MayLand command ∨ c.avoidsObstacles ∧ c.obstacleCommand = some command

end MissionManagerConfiguration

/-! ### Landings after a move -/

namespace Command

/-- The command sends the vehicle to a position. -/
def isGoto : Command → Bool
  | gotoLocation _ _ _ _ => true
  | _ => false

/-- Of the commands, newest first, each landing comes after one that sends the vehicle to a position. -/
def landsAfterMove : List Command → Bool
  | [] => true
  | land :: earlier => earlier.any isGoto && landsAfterMove earlier
  | _ :: earlier => landsAfterMove earlier

theorem landsAfterMove_cons {command : Command} (hcommand : command ≠ land) (earlier : List Command) :
    landsAfterMove (command :: earlier) = landsAfterMove earlier := by
  cases command with
  | land => exact absurd rfl hcommand
  | _ => rfl

theorem landsAfterMove_append {cs : List Command} (hcs : land ∉ cs) (earlier : List Command) :
    landsAfterMove (cs ++ earlier) = landsAfterMove earlier := by
  induction cs with
  | nil => rfl
  | cons command cs ih =>
    rw [List.mem_cons, not_or] at hcs
    rw [List.cons_append, landsAfterMove_cons (Ne.symm hcs.1), ih hcs.2]

end Command

namespace MissionManager

variable {P E : Type} {ext : Externals P E} {i : TickInput E} {s s' : MissionManager P}
  {c : MissionManagerConfiguration}

/-- What has been done so far, and what is going on, stays within the configuration; under safe landing the vehicle
lands only after it has been sent to a position. -/
structure Within (ext : Externals P E) (c : MissionManagerConfiguration) (s : MissionManager P) : Prop where
  commands : ∀ command ∈ s.commands, c.Permits command
  lands : c.landsSafely → Command.landsAfterMove s.commands
  sent : s.waypointPending → s.commands.any Command.isGoto
  starts : ∀ config ∈ s.searchConfigs, c.searches ∧ config = landingPlannerConfig c
  answers : ∀ a ∈ s.answers, a.1 ≠ .forwarded → c.searches
  active : ext.isActive s.planner → c.searches
  pending : s.waypointPending → c.goesAway

theorem config_beginTick (s : MissionManager P) : (s.beginTick i).config = i.config := by
  rw [beginTick_eq]

theorem landsSafely_of_on (hcalls : ¬ i.bypasses) (hon : ¬ (s.beginTick i).isOff) :
    (s.beginTick i).config.landsSafely := by
  unfold TickInput.bypasses at hcalls
  rw [isOff_iff, not_or, config_beginTick] at hon
  rw [config_beginTick]
  unfold MissionManagerConfiguration.landsSafely
  simpa [hon.1] using hcalls

/-! ### The commands of an iteration -/

/-- The action on an obstacle has one command. -/
theorem issues_obstacleCommand (s : MissionManager P) : Issues s.config.obstacleCommand.toList s s.onObstacle := by
  unfold onObstacle MissionManagerConfiguration.obstacleCommand
  generalize s.config.simpleCollisionAvoidActionOnConditionTrue = action
  dsimp only
  by_cases hknown : action ∈ avoidActions
  · have hcases := hknown
    simp only [avoidActions, List.mem_cons, List.not_mem_nil, or_false] at hcases
    rcases hcases with rfl | rfl | rfl | rfl | rfl | rfl | rfl | rfl | rfl <;> rfl
  · have hnone := hknown
    simp only [avoidActions, List.mem_cons, List.not_mem_nil, or_false, not_or] at hnone
    simp only [hknown, hnone, if_false]
    rfl

/-- An iteration that goes past the handler commands only what stands for the action on an obstacle. -/
theorem issues_decisionMakerRun_bypassed (ext : Externals P E) (hbypass : i.bypasses) (s : MissionManager P) :
    ∃ cs, Issues cs s (s.decisionMakerRun ext i) ∧ ∀ command ∈ cs, i.config.Permits command := by
  have hquiet (h : Issues [] s (s.decisionMakerRun ext i)) :
      ∃ cs, Issues cs s (s.decisionMakerRun ext i) ∧ ∀ command ∈ cs, i.config.Permits command := ⟨[], h, by simp⟩
  by_cases henabled : i.config.autopilotManagerEnabled = 0
  · rw [decisionMakerRun_of_disabled henabled] at hquiet ⊢
    exact hquiet rfl
  by_cases hmaker : i.config.decisionMakerInputType = "SIMPLE_COLLISION_AVOIDANCE"
  · rw [AvoidanceSystem.decisionMakerRun_of_avoidance ext i s henabled hmaker] at hquiet ⊢
    split_ifs at hquiet ⊢ with hobstacle
    · have hissues : Issues i.config.obstacleCommand.toList s (onObstacle { s with config := i.config }) :=
        issues_obstacleCommand { s with config := i.config }
      refine ⟨_, hissues.then (issues_actionTimeout i.now (actionTriggered i.now _)), ?_⟩
      refine fun command hcommand => .inr ⟨?_, ?_⟩
      · unfold AvoidanceSystem.triggersAction AvoidanceSystem.findsObstacle at hobstacle
        simp only [Bool.and_eq_true] at hobstacle
        unfold MissionManagerConfiguration.avoidsObstacles
        simp only [Bool.and_eq_true]
        exact hobstacle.1.1.1.1
      · exact Option.mem_toList.mp hcommand
    · exact hquiet (issues_actionTimeout i.now { s with config := i.config })
  · refine hquiet ?_
    unfold decisionMakerRun makeDecision
    dsimp only
    rw [if_pos henabled, if_neg (hbypass.resolve_left henabled), if_neg hmaker]
    exact issues_actionTimeout i.now { s with config := i.config }

theorem mayLand_moveCommand (haction : s.config.safeLandingOnNoSafeLand = "MOVE_XYZ_WRT_CURRENT") :
    s.config.MayLand (s.moveCommand ext) := by
  unfold moveCommand
  split_ifs
  · exact ⟨rfl, .inl haction⟩
  · trivial

theorem mayLand_waypointCommand (haction : s.config.safeLandingOnNoSafeLand = "GO_TO_WAYPOINT") :
    s.config.MayLand s.waypointCommand := by
  unfold waypointCommand
  split_ifs
  · exact .inr haction
  · exact ⟨rfl, .inr ⟨haction, rfl, rfl, rfl⟩⟩
  · trivial

theorem mayLand_actionCommand {command : Command} (hcommand : s.actionCommand ext i = some command) :
    s.config.MayLand command := by
  unfold actionCommand at hcommand
  dsimp only at hcommand
  split_ifs at hcommand with hrtl hmove hsearch hstarts hgo hplain
  · rw [← Option.some.inj hcommand]
    exact .inl hrtl
  · rw [← Option.some.inj hcommand]
    exact mayLand_moveCommand hmove
  · rw [← Option.some.inj hcommand]
    trivial
  · rw [← Option.some.inj hcommand]
    exact mayLand_waypointCommand hgo
  · rw [← Option.some.inj hcommand]
    trivial

theorem mayLand_triggerCommand {command : Command} (hcommand : s.triggerCommand ext i = some command) :
    s.config.MayLand command := by
  unfold triggerCommand at hcommand
  split_ifs at hcommand
  · rw [← Option.some.inj hcommand]
    trivial
  · exact mayLand_actionCommand hcommand

/-- The trigger does not land. -/
theorem triggerCommand_ne_land (s : MissionManager P) : s.triggerCommand ext i ≠ some .land := by
  unfold triggerCommand actionCommand moveCommand waypointCommand
  dsimp only
  split_ifs <;> simp

/-- An action with a waypoint sends the vehicle there. -/
theorem triggerCommand_of_actionWaypoint {lat lon altAmsl : Double} (takes : s.takesAction i)
    (hwaypoint : s.actionWaypoint ext = some (lat, lon, altAmsl)) :
    s.triggerCommand ext i = some (.gotoLocation lat lon altAmsl .nan) := by
  unfold takesAction at takes
  simp only [Bool.and_eq_true, Bool.not_eq_true'] at takes
  obtain ⟨⟨⟨hfree, htriggered⟩, hhealthy⟩, hshould⟩ := takes
  have hcommand : s.triggerCommand ext i = s.actionCommand ext i := by
    unfold triggerCommand
    rw [hfree, htriggered, hhealthy, hshould]
    rfl
  rw [hcommand]
  unfold actionWaypoint at hwaypoint
  unfold actionCommand moveCommand waypointCommand
  split_ifs at hwaypoint with hmove hgo
  · simp only [Option.some.injEq, Prod.mk.injEq] at hwaypoint
    obtain ⟨rfl, rfl, rfl⟩ := hwaypoint
    simp [hmove.1, hmove.2]
  · simp only [Option.some.injEq, Prod.mk.injEq] at hwaypoint
    obtain ⟨rfl, rfl, rfl⟩ := hwaypoint
    simp [hgo.1, hgo.2.1, hgo.2.2]

/-! ### The waypoint -/

theorem goesAway_of_actionWaypoint {waypoint : Double × Double × Double} (hsafe : s.config.landsSafely)
    (hwaypoint : s.actionWaypoint ext = some waypoint) : s.config.goesAway := by
  unfold actionWaypoint at hwaypoint
  unfold MissionManagerConfiguration.goesAway
  split_ifs at hwaypoint with hmove hgo
  · simp [hsafe, hmove.1]
  · simp [hsafe, hgo.1]

/-- A waypoint is pending after the trigger if it was, or if the action goes to one and the vehicle is sent there. -/
theorem pending_triggerSafeLanding (hsafe : s.config.landsSafely)
    (hafter : (s.triggerSafeLanding ext i).waypointPending) :
    s.waypointPending ∨ s.config.goesAway ∧ (s.triggerCommand ext i).toList.any Command.isGoto := by
  cases triggerSafeLanding_trigger ext i s with
  | unhealthy free triggered unhealthy result =>
    have hkeeps : Keeps s (s.triggerSafeLanding ext i) := by
      rw [result]
      exact ((keeps_hold s).trans (steady_statusText ..).toKeeps).trans (steady_actionTriggered ..).toKeeps
    exact .inl (hkeeps.pending ▸ hafter)
  | action free triggered takes result =>
    rw [result] at hafter
    have hstep : ActionStep ext i s (s.onNoSafeLand ext i) := onNoSafeLand_step s
    cases hstep.afterwards (steady_actionTriggered i.now _) with
    | steady none steady => exact .inl (steady.pending ▸ hafter)
    | goes some goes =>
      refine .inr ⟨goesAway_of_actionWaypoint hsafe some, ?_⟩
      rw [triggerCommand_of_actionWaypoint takes some]
      rfl
    | diverts none keeps diverts => exact .inl (keeps.pending ▸ hafter)
  | none takes result => exact .inl (result ▸ hafter)

theorem keeps_endLandingSiteSearch (s : MissionManager P) : Keeps s (s.endLandingSiteSearch ext) := by
  have hend := steady_withPlanner (ext.endSearch s.planner) s
  have hdebug (debug : String) := hend.trans (steady_landingSiteSearchHasEnded debug _)
  unfold endLandingSiteSearch
  dsimp only
  split_ifs
  · exact (hdebug _).toKeeps
  · exact (hdebug _).toKeeps
  · exact (hdebug _).toKeeps
  · exact ((hend.toKeeps.trans (keeps_hold _)).trans (steady_statusText ..).toKeeps).trans
      (steady_landingSiteSearchHasEnded ..).toKeeps

/-- The processing of active actions forgets a waypoint, and sets none. -/
theorem pending_processActiveActions (hafter : (s.processActiveActions ext i).waypointPending) : s.waypointPending := by
  have htime (s : MissionManager P) : Steady s { s with lastTime := i.now } := .of_log rfl rfl rfl rfl
  unfold processActiveActions at hafter
  dsimp only at hafter
  split_ifs at hafter
  · rwa [(htime _).pending, (keeps_endLandingSiteSearch s).pending] at hafter
  · rwa [(htime _).pending, (updateLandingSiteSearch_heading ext i s).1.pending] at hafter
  · exact hafter
  · exact absurd hafter Bool.false_ne_true
  · exact hafter

theorem pending_handleSimpleCollisionAvoidance (s : MissionManager P) :
    (s.handleSimpleCollisionAvoidance i).waypointPending = s.waypointPending := by
  rcases handleSimpleCollisionAvoidance_cases i s with ⟨-, hresult⟩ | hresult
  · rw [hresult]
    unfold onObstacle
    dsimp only
    split_ifs <;> rfl
  · rw [hresult]

theorem pending_decisionMakerRun (hafter : (s.decisionMakerRun ext i).waypointPending) :
    s.waypointPending ∨ i.config.goesAway ∧ (s.decisionMakerRun ext i).commands.any Command.isGoto := by
  have hbegin : (s.beginTick i).waypointPending = s.waypointPending := (steady_beginTick s).pending
  by_cases hbypass : i.bypasses
  · refine .inl ?_
    cases decisionMakerRun_of_bypasses ext hbypass s with
    | disabled result =>
      rw [result] at hafter
      exact hafter
    | avoidance enabled result =>
      rw [result, (steady_actionTimeout ..).pending, pending_handleSimpleCollisionAvoidance] at hafter
      exact hafter
    | undecided enabled result =>
      rw [result, (steady_actionTimeout ..).pending] at hafter
      exact hafter
  · have hissues := exists_issues_decisionMakerRun_on (s := s) ext hbypass
    rw [decisionMakerRun_of_calls ext hbypass, (steady_afterHandler _).pending, handleSafeLanding_beginTick] at hafter
    split_ifs at hafter with hoff hactive
    · have hkeeps := ((steady_withPlanner (ext.endSearch (s.beginTick i).planner) (s.beginTick i)).toKeeps.trans
        (keeps_hold _)).trans (steady_landingSiteSearchHasEnded "DISABLED" _).toKeeps
      rw [hkeeps.pending, hbegin] at hafter
      exact .inl hafter
    · exact .inl (hbegin ▸ hafter)
    · rw [← config_beginTick s, ← hbegin]
      refine (pending_triggerSafeLanding (landsSafely_of_on hbypass hoff) (pending_processActiveActions hafter)).imp_right ?_
      rintro ⟨hgoes, hgoto⟩
      obtain ⟨cs, -, hcs⟩ := hissues hoff
      refine ⟨hgoes, ?_⟩
      rw [hcs, List.any_append, List.any_append, hgoto, Bool.or_true, Bool.true_or]

/-! ### The iteration -/

/-- The processing holds, or lands at the waypoint of the action, to which the vehicle has been sent. -/
theorem issues_processActiveActions_within (i : TickInput E) (havoidance : s.obstacleAvoidanceEnabled)
    (hpending : s.waypointPending → s.config.goesAway) :
    ∃ cs, Issues cs s (s.processActiveActions ext i) ∧ (∀ command ∈ cs, s.config.MayLand command) ∧
      ∀ earlier, (s.waypointPending → earlier.any Command.isGoto) → Command.landsAfterMove earlier →
        Command.landsAfterMove (cs ++ earlier) := by
  by_cases hactive : ext.isActive s.planner
  · by_cases hend : s.shouldEndLandingSiteSearch
    · exact ⟨_, issues_processActiveActions_stopped hactive havoidance hend, by simp, fun _ _ h => h⟩
    · refine ⟨_, issues_processActiveActions_updated hactive hend, fun command hcommand => ?_, fun earlier _ h => ?_⟩
      · rw [eq_hold_of_mem_searchCommand hcommand]
        trivial
      · rw [Command.landsAfterMove_append fun hland => ?_]
        · exact h
        · cases eq_hold_of_mem_searchCommand hland
  · refine ⟨_, issues_processActiveActions_idle i hactive, ?_⟩
    split_ifs with hlands
    · unfold landsAtWaypoint at hlands
      simp only [Bool.and_eq_true, decide_eq_true_eq] at hlands
      refine ⟨fun command hcommand => ?_, fun earlier hsent h => ?_⟩
      · rw [List.mem_singleton.mp hcommand]
        exact ⟨hpending hlands.1.1.2, hlands.2⟩
      · exact Bool.and_eq_true_iff.mpr ⟨hsent hlands.1.1.2, h⟩
    · exact ⟨by simp, fun _ _ h => h⟩

/-- An iteration commands only what its configuration permits, and under safe landing it lands only where the vehicle
has been sent to a position. -/
theorem issues_decisionMakerRun_within (hs : s.Within ext i.config) :
    ∃ cs, Issues cs s (s.decisionMakerRun ext i) ∧ (∀ command ∈ cs, i.config.Permits command) ∧
      (i.config.landsSafely → Command.landsAfterMove (cs ++ s.commands)) := by
  by_cases hbypass : i.bypasses
  · obtain ⟨cs, hcs, hpermits⟩ := issues_decisionMakerRun_bypassed ext hbypass s
    refine ⟨cs, hcs, hpermits, fun hsafe => absurd hbypass ?_⟩
    unfold MissionManagerConfiguration.landsSafely at hsafe
    unfold TickInput.bypasses
    simp only [Bool.and_eq_true, decide_eq_true_eq] at hsafe
    exact not_or.mpr ⟨hsafe.1.1, not_not.mpr hsafe.1.2⟩
  have hconfig : (s.beginTick i).config = i.config := config_beginTick s
  by_cases hoff : (s.beginTick i).isOff
  · refine ⟨_, issues_decisionMakerRun_off ext hbypass hoff, ?_⟩
    split_ifs with hsearch
    · refine ⟨fun command hcommand => ?_, hs.lands⟩
      rw [List.mem_singleton.mp hcommand]
      exact .inl ⟨(Bool.and_eq_true_iff.mp (hs.active hsearch)).1, trivial⟩
    · exact ⟨by simp, hs.lands⟩
  · have hsafe : (s.beginTick i).config.landsSafely := landsSafely_of_on hbypass hoff
    obtain ⟨ended, started, heffect⟩ := effect_triggerSafeLanding ext i (s.beginTick i)
    have hbegin : (s.beginTick i).waypointPending = s.waypointPending := (steady_beginTick s).pending
    -- a waypoint that is pending after the trigger was pending before, or the trigger goes to it
    have hafter : ((s.beginTick i).triggerSafeLanding ext i).waypointPending → s.waypointPending ∨
        (s.beginTick i).config.goesAway ∧ ((s.beginTick i).triggerCommand ext i).toList.any Command.isGoto := fun h =>
      hbegin ▸ pending_triggerSafeLanding hsafe h
    have havoidance := heffect.avoidance.trans (avoidance_of_on hoff)
    obtain ⟨cs, hcs, hmay, hlands⟩ := issues_processActiveActions_within i havoidance fun h => by
      rw [heffect.config]
      refine (hafter h).elim (fun hbefore => ?_) And.left
      rw [hconfig]
      exact hs.pending hbefore
    refine ⟨_, issues_decisionMakerRun_on hbypass hoff hcs, fun command hcommand => .inl ⟨hconfig ▸ hsafe, ?_⟩, ?_⟩
    · rw [← hconfig]
      rcases List.mem_append.mp hcommand with hprocess | htrigger
      · exact heffect.config ▸ hmay command hprocess
      · exact mayLand_triggerCommand (Option.mem_toList.mp htrigger)
    · intro hland
      rw [List.append_assoc]
      refine hlands _ (fun h => ?_) ?_
      · rw [List.any_append]
        rcases hafter h with hbefore | ⟨-, hgoto⟩
        · rw [hs.sent hbefore, Bool.or_true]
        · rw [hgoto, Bool.true_or]
      · rw [Command.landsAfterMove_append fun h => triggerCommand_ne_land _ (Option.mem_toList.mp h)]
        exact hs.lands hland

/-- An iteration starts a search only where the action is one. -/
theorem starts_decisionMakerRun_within (ext : Externals P E) (hsearches : ¬ i.config.searches) (s : MissionManager P) :
    (s.decisionMakerRun ext i).searchesStarted = s.searchesStarted := by
  have hbegin := apart_beginTick (i := i) s
  by_cases hbypass : i.bypasses
  · cases decisionMakerRun_cases ext i s with
    | bypassed bypasses quiet => exact quiet.starts
    | handled calls handled quiet => exact absurd hbypass calls
  by_cases hoff : (s.beginTick i).isOff
  · exact starts_decisionMakerRun_off hbypass hoff
  · have hsafe : (s.beginTick i).config.landsSafely := landsSafely_of_on hbypass hoff
    have hquiet : (s.beginTick i).config.safeLandingOnNoSafeLand ≠ "LANDING_SITE_SEARCH" := fun haction => by
      rw [config_beginTick] at hsafe haction
      exact hsearches (by simp [MissionManagerConfiguration.searches, hsafe, haction])
    rw [starts_decisionMakerRun_on hbypass hoff, ← hbegin.starts]
    cases triggerSafeLanding_trigger ext i (s.beginTick i) with
    | unhealthy free triggered unhealthy result =>
      rw [result]
      exact (((quiet_hold _).trans (quiet_statusText ..)).trans (quiet_actionTriggered ..)).starts
    | action free triggered takes result =>
      rw [result]
      rcases onNoSafeLand_cases ext i (s.beginTick i) with ⟨-, hsame⟩ | ⟨haction, -⟩
      · exact (hsame.trans (quiet_actionTriggered ..)).starts
      · exact absurd haction hquiet
    | none takes result => rw [result]

/-! ### Every run -/

theorem issues_flightModeCallback (mode : FlightMode) (s : MissionManager P) :
    Issues [] s (s.flightModeCallback ext mode) := by
  refine flightModeCallback_induction rfl rfl ?_
  unfold resetPlanner
  split_ifs <;> rfl

theorem Callback.issues (h : Callback ext s s') : Issues [] s s' := by
  unfold Issues MissionManager.commands
  cases h.log with
  | nothing log => rw [log]; rfl
  | text type text log => rw [log]; rfl
  | answer reply message log land => rw [log]; rfl

theorem searchesStarted_eq (s : MissionManager P) : s.searchesStarted = s.searchConfigs.length := by
  unfold searchesStarted searchConfigs
  rw [List.length_filterMap_eq_countP]
  exact List.countP_congr fun e _ => by cases e <;> simp [Event.isStartSearch, Event.searchConfig]

/-- Over one configuration a step commands only what it permits. -/
theorem issues_step_within {input : MissionInput E} (hs : s.Within ext c)
    (hread : ∀ i, input = .tick i → i.config = c) :
    ∃ cs, Issues cs s (step ext s input) ∧ (∀ command ∈ cs, c.Permits command) ∧
      (c.landsSafely → Command.landsAfterMove (cs ++ s.commands)) := by
  rcases step_cases ext s input with ⟨i, rfl⟩ | ⟨mode, rfl⟩ | hcallback
  · obtain rfl := hread i rfl
    exact issues_decisionMakerRun_within hs
  · exact ⟨[], issues_flightModeCallback mode s, by simp, hs.lands⟩
  · exact ⟨[], hcallback.issues, by simp, hs.lands⟩

/-- It starts a search only where the action is one. -/
theorem starts_step_within (ext : Externals P E) (s : MissionManager P) {input : MissionInput E}
    (hread : ∀ i, input = .tick i → i.config = c) (hsearches : ¬ c.searches) :
    (step ext s input).searchesStarted = s.searchesStarted := by
  rcases step_cases ext s input with ⟨i, rfl⟩ | ⟨mode, rfl⟩ | hcallback
  · obtain rfl := hread i rfl
    exact starts_decisionMakerRun_within ext hsearches s
  · exact (flightModeCallback_effect ext mode s).2.1
  · exact hcallback.apart.starts

/-- The waypoint of an action is pending only where the action goes to one. -/
theorem pending_step_within {input : MissionInput E} (hs : s.Within ext c)
    (hread : ∀ i, input = .tick i → i.config = c) (hafter : (step ext s input).waypointPending) : c.goesAway := by
  rcases step_cases ext s input with ⟨i, rfl⟩ | ⟨mode, rfl⟩ | hcallback
  · obtain rfl := hread i rfl
    exact (pending_decisionMakerRun hafter).elim hs.pending And.left
  · exact hs.pending ((keeps_flightModeCallback mode s).pending ▸ hafter)
  · exact hs.pending (hcallback.steady.pending ▸ hafter)

/-- A pending waypoint is one that the vehicle has been sent to. -/
theorem sent_step_within {input : MissionInput E} (hs : s.Within ext c) (hread : ∀ i, input = .tick i → i.config = c)
    (hafter : (step ext s input).waypointPending) : (step ext s input).commands.any Command.isGoto := by
  obtain ⟨cs, hcs, -⟩ := issues_step_within hs hread
  have hgrows (hbefore : s.waypointPending) : (step ext s input).commands.any Command.isGoto := by
    rw [hcs, List.any_append, hs.sent hbefore, Bool.or_true]
  rcases step_cases ext s input with ⟨i, rfl⟩ | ⟨mode, rfl⟩ | hcallback
  · exact (pending_decisionMakerRun hafter).elim hgrows And.right
  · exact hgrows ((keeps_flightModeCallback mode s).pending ▸ hafter)
  · exact hgrows (hcallback.steady.pending ▸ hafter)

/-- A message is overridden only during a search. -/
theorem answers_step_within {input : MissionInput E} (hs : s.Within ext c) :
    ∀ a ∈ (step ext s input).answers, a.1 ≠ .forwarded → c.searches := by
  obtain ⟨as, hstep, -⟩ := answers_step ext input s
  rw [hstep.sent]
  exact List.forall_mem_append.mpr ⟨fun a ha h => hs.active (hstep.overrides a ha h), hs.answers⟩

theorem within_initial (hinitial : ¬ ext.isActive ext.initial) (boot : Boot) : (initial ext boot).Within ext c where
  commands _ h := absurd h List.not_mem_nil
  lands _ := rfl
  sent h := absurd h Bool.false_ne_true
  starts _ h := absurd h List.not_mem_nil
  answers _ h := absurd h List.not_mem_nil
  active h := absurd h hinitial
  pending h := absurd h Bool.false_ne_true

/-- **A step stays within the configuration** that its iteration reads. -/
theorem within_step (hreset : ∀ p, ¬ ext.isActive (ext.reset p)) {input : MissionInput E} (hs : s.Within ext c)
    (hread : ∀ i, input = .tick i → i.config = c) : (step ext s input).Within ext c where
  commands := by
    obtain ⟨cs, hcs, hpermits, -⟩ := issues_step_within hs hread
    rw [hcs]
    exact List.forall_mem_append.mpr ⟨hpermits, hs.commands⟩
  lands hsafe := by
    obtain ⟨cs, hcs, -, hlands⟩ := issues_step_within hs hread
    rw [hcs]
    exact hlands hsafe
  sent := sent_step_within hs hread
  starts config hconfig := by
    by_cases hsearches : c.searches
    · obtain ⟨n, hn⟩ := startsWith_step ext s fun i hi => congrArg landingPlannerConfig (hread i hi)
      rw [hn] at hconfig
      rcases List.mem_append.mp hconfig with hnew | hold
      · exact ⟨hsearches, List.eq_of_mem_replicate hnew⟩
      · exact hs.starts config hold
    · obtain ⟨n, hn⟩ := startsWith_step ext s fun i hi => congrArg landingPlannerConfig (hread i hi)
      -- where the action is no search none is started, so the list of searches has not grown
      have hnone := starts_step_within ext s hread hsearches
      rw [searchesStarted_eq, searchesStarted_eq, hn, List.length_append, List.length_replicate] at hnone
      obtain rfl : n = 0 := by omega
      rw [hn] at hconfig
      exact hs.starts config hconfig
  answers := answers_step_within hs
  active hactive := by
    by_contra hsearches
    have hinactive : ¬ ext.isActive s.planner := fun h => hsearches (hs.active h)
    exact step_stays_inactive hreset hinactive (starts_step_within ext s hread hsearches) hactive
  pending := pending_step_within hs hread

end MissionManager

namespace AutopilotProcess

variable {P R E : Type} {ext : Externals P E} {lib : DownsamplerLibrary R} {launch : Launch R} {files : Files}

/-- **The process stays within its configuration**: over any files, and whatever its threads do in whatever order, it
commands nothing that the configuration read at the start does not permit, lands under safe landing only after it has
sent the vehicle to a position, starts searches and overrides setpoints only where the action is a search, and searches
with the parameters of that configuration. -/
theorem stays_within (hinitial : ¬ ext.isActive ext.initial) (hreset : ∀ p, ¬ ext.isActive (ext.reset p))
    (lib : DownsamplerLibrary R) (launch : Launch R) (files : Files) (is : List (ProcessInput E)) :
    (run (step ext lib launch) (initial ext launch files) is).mission.Within ext
      (missionManagerConfig (provisioned launch files)) := by
  induction is using List.reverseRecOn with
  | nil => exact MissionManager.within_initial hinitial launch.boot
  | append_singleton is i ih =>
    have hs := constructing_run ext lib launch files is
    rw [run_concat]
    generalize run (step ext lib launch) (initial ext launch files) is = s at ih hs ⊢
    cases i with
    | mission input =>
      rw [step]
      split_ifs with hruns
      · refine MissionManager.within_step hreset ih fun j hj => ?_
        cases input with
        | tick i =>
          cases hj
          exact congrArg missionManagerConfig (live_eq hs (by rw [hs.running hruns]; rfl))
        | _ => exact absurd hj (by simp [missionInput])
      · exact ih
    | _ =>
      rw [mission_step hs]
      · exact ih
      · simp

/-- The vehicle is held in front of an obstacle. -/
theorem stays_within_obstacle :
    let files := savedFile plainLaunch.configPath bothLive
    (run (step phasePlanner onePixel plainLaunch) (initial phasePlanner plainLaunch files)
        (obstacleAhead ++ [.mission (.tick (MissionManager.tickOver .unknown {}))])).mission.commands = [.hold] ∧
      (missionManagerConfig (provisioned plainLaunch files)).Permits .hold := by
  have hread := initialProvisioning_savedFile legible_bothLive rfl plainLaunch.configPath
  have hheld : (run (step phasePlanner onePixel plainLaunch)
      (initial phasePlanner plainLaunch (savedFile plainLaunch.configPath bothLive))
      (obstacleAhead ++ [.mission (.tick (MissionManager.tickOver .unknown {}))])).mission.commands = [.hold] := by
    rw [run_append, obstacleAhead, run_append, run_startingUp hread]
    decide +kernel
  have hwithin := stays_within phasePlanner_lifeCycle.initial phasePlanner_lifeCycle.reset onePixel plainLaunch
    (savedFile plainLaunch.configPath bothLive)
    (obstacleAhead ++ [.mission (.tick (MissionManager.tickOver .unknown {}))])
  exact ⟨hheld, hwithin.commands .hold (by rw [hheld]; exact List.mem_singleton_self _)⟩

end AutopilotProcess

end AutopilotManager
