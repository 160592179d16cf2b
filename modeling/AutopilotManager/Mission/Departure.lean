import AutopilotManager.Mission.Commands
import AutopilotManager.Mission.Waypoint

/-!
# Mission.Departure — commands that move the vehicle

The trigger does not ask whether the vehicle is in the air, so in land mode a vehicle on the ground is sent away when
the configured action departs.  The action `GO_TO_WAYPOINT` is to return to launch at its own waypoint, but compares
the altitude with a member that is zero in every reachable state.
-/

namespace AutopilotManager

open Lib

namespace MissionManager

variable {P E : Type} {ext : Externals P E} {i : TickInput E} {s s' : MissionManager P}

/-! ### The altitude of the previous waypoint -/

theorem uncalled_previouslySetWaypointAltitudeAmsl :
    Uncalled (fun s : MissionManager P => s.previouslySetWaypointAltitudeAmsl) := by
  repeat' constructor
  all_goals intros; rfl

theorem untouched_previouslySetWaypointAltitudeAmsl :
    Untouched (fun s : MissionManager P => s.previouslySetWaypointAltitudeAmsl) where
  toUnwritten := uncalled_previouslySetWaypointAltitudeAmsl.toUnwritten
  config _ _ := rfl
  actionInProgress _ _ := rfl
  avoidance _ _ := rfl
  isHealthy _ _ := rfl

/-- The member is never set. -/
theorem run_previouslySetWaypointAltitudeAmsl (ext : Externals P E) (boot : Boot) (is : List (MissionInput E)) :
    (run (step ext) (initial ext boot) is).previouslySetWaypointAltitudeAmsl = 0 := by
  have hstep : ∀ (s : MissionManager P) input, s.previouslySetWaypointAltitudeAmsl = 0 →
      (step ext s input).previouslySetWaypointAltitudeAmsl = 0 := by
    intro s input hs
    by_cases htick : ∃ i, input = .tick i
    · obtain ⟨i, rfl⟩ := htick
      exact (untouched_previouslySetWaypointAltitudeAmsl.decisionMakerRun s).trans hs
    · exact (uncalled_previouslySetWaypointAltitudeAmsl.step_of_untimed (fun _ _ => rfl) s
        fun i hi => htick ⟨i, hi⟩).trans hs
  exact run_invariant hstep rfl is

/-! ### The waypoint of the action -/

/-- The vehicle is at the configured waypoint. -/
def isAtWaypoint (s : MissionManager P) : Bool :=
  within s.config.globalPositionWaypointLat s.currentLatitude (1 / 10 ^ 5) &&
    within s.config.globalPositionWaypointLon s.currentLongitude (1 / 10 ^ 5) &&
      within s.config.globalPositionWaypointAltAmsl s.currentAltitudeAmsl 1

/-- From `s` to `s'` the vehicle is commanded to return to launch, and not to go anywhere else. -/
def ReturnsOnly (s s' : MissionManager P) : Prop :=
  ∃ cs, Issues cs s s' ∧ .returnToLaunch ∈ cs ∧ ∀ lat lon altAmsl yaw, .gotoLocation lat lon altAmsl yaw ∉ cs

/-- The iteration takes the action with safe landing on. -/
structure Triggers (i : TickInput E) (s : MissionManager P) : Prop where
  calls : ¬ i.bypasses
  on : ¬ (s.beginTick i).isOff
  takes : (s.beginTick i).takesAction i

/-- **When the guard against being stuck works**: of the iterations that go to the waypoint where the vehicle is, those
return to launch instead that find the vehicle at most one meter from altitude zero. -/
theorem stuck_guard_iff (boot : Boot) (is : List (MissionInput E))
    (htriggers : Triggers i (run (step ext) (initial ext boot) is))
    (haction : i.config.safeLandingOnNoSafeLand = "GO_TO_WAYPOINT")
    (hat : ((run (step ext) (initial ext boot) is).beginTick i).isAtWaypoint) :
    ReturnsOnly (run (step ext) (initial ext boot) is) ((run (step ext) (initial ext boot) is).decisionMakerRun ext i) ↔
      within 0 (run (step ext) (initial ext boot) is).currentAltitudeAmsl 1 := by
  have hnever := run_previouslySetWaypointAltitudeAmsl ext boot is
  generalize run (step ext) (initial ext boot) is = s at htriggers hat hnever ⊢
  have hreads : (s.beginTick i).config = i.config ∧ (s.beginTick i).currentAltitudeAmsl = s.currentAltitudeAmsl ∧
      (s.beginTick i).previouslySetWaypointAltitudeAmsl = 0 := by
    rw [← hnever]
    rw [beginTick_eq]
    exact ⟨rfl, rfl, rfl⟩
  obtain ⟨hconfig, haltitude, hprevious⟩ := hreads
  -- the member that the guard compares is never written, so it compares the altitude with 0
  have hguard : (s.beginTick i).atConfiguredWaypoint = within 0 s.currentAltitudeAmsl 1 := by
    unfold isAtWaypoint at hat
    rw [Bool.and_eq_true, Bool.and_eq_true] at hat
    unfold atConfiguredWaypoint
    rw [hat.1.1, hat.1.2, Bool.true_and, Bool.true_and, hprevious, haltitude]
  have hcommand : (s.beginTick i).actionCommand ext i = some (s.beginTick i).waypointCommand := by
    unfold actionCommand
    rw [hconfig, haction]
    rfl
  -- of the commands of the iteration all but that of the action are plain
  obtain ⟨cs, hplain, hissues⟩ := exists_issues_decisionMakerRun_on ext htriggers.calls htriggers.on
  rw [triggerCommand_of_takes htriggers.takes, hcommand, Option.toList_some] at hissues
  rw [← hguard]
  constructor
  · rintro ⟨ds, hds, hreturns, -⟩
    rw [hds.unique hissues, List.mem_append, List.mem_singleton] at hreturns
    rcases hreturns with hreturns | hreturns
    · exact absurd (hplain _ hreturns) (by simp)
    · by_contra haway
      unfold waypointCommand at hreturns
      rw [if_neg haway] at hreturns
      split_ifs at hreturns
  · intro hhere
    have hreturn : (s.beginTick i).waypointCommand = .returnToLaunch := if_pos hhere
    rw [hreturn] at hissues
    refine ⟨_, hissues, by simp, fun lat lon altAmsl yaw hgo => ?_⟩
    rcases List.mem_append.mp hgo with hgo | hgo
    · exact absurd (hplain _ hgo) (by simp)
    · exact absurd (List.mem_singleton.mp hgo) nofun

/-- A landing is triggered at the point (1, 1). -/
def landingAt (altAmsl : Double) : List (MissionInput Bool) :=
  [.gpsGlobalOrigin (.success 1 1 0), .flightMode .land, .trajectory zeroTrajectory, .position 1 1 altAmsl]

/-- Over bad ground with the waypoint at the point (1, 1). -/
def waypointTick (altAmsl : Double) : TickInput Bool :=
  tickOver .canNotLand { goToWaypointConfig with globalPositionWaypointAltAmsl := altAmsl }

theorem triggers_waypointTick {altAmsl : Double} {s : MissionManager Phase}
    (hon : ¬ (s.beginTick (waypointTick altAmsl)).isOff)
    (htakes : (s.beginTick (waypointTick altAmsl)).takesAction (waypointTick altAmsl)) :
    Triggers (waypointTick altAmsl) s :=
  ⟨not_or.mpr ⟨(by decide : (1 : UInt8) ≠ 0), not_not.mpr rfl⟩, hon, htakes⟩

theorem stuck_guard_seaLevel :
    ReturnsOnly (run (step phasePlanner) (initial phasePlanner zeroBoot) (landingAt 0))
      ((run (step phasePlanner) (initial phasePlanner zeroBoot) (landingAt 0)).decisionMakerRun phasePlanner
        (waypointTick 0)) :=
  (stuck_guard_iff zeroBoot (landingAt 0) (triggers_waypointTick (by decide +kernel) (by decide +kernel)) rfl
    (by decide +kernel)).mpr (by decide +kernel)

/-- At an altitude of ten meters the vehicle is sent to the waypoint where it is, and to land there. -/
theorem stuck_at_waypoint :
    Triggers (waypointTick 10) (run (step phasePlanner) (initial phasePlanner zeroBoot) (landingAt 10)) ∧
    ((run (step phasePlanner) (initial phasePlanner zeroBoot) (landingAt 10)).beginTick (waypointTick 10)).isAtWaypoint ∧
    ¬ ReturnsOnly (run (step phasePlanner) (initial phasePlanner zeroBoot) (landingAt 10))
      ((run (step phasePlanner) (initial phasePlanner zeroBoot) (landingAt 10)).decisionMakerRun phasePlanner
        (waypointTick 10)) := by
  have hgoes : Issues [.land, .gotoLocation 1 1 10 .nan]
      (run (step phasePlanner) (initial phasePlanner zeroBoot) (landingAt 10))
      ((run (step phasePlanner) (initial phasePlanner zeroBoot) (landingAt 10)).decisionMakerRun phasePlanner
        (waypointTick 10)) := (by decide +kernel : _ = _)
  refine ⟨triggers_waypointTick (by decide +kernel) (by decide +kernel), by decide +kernel, ?_⟩
  rintro ⟨cs, hcs, -, haway⟩
  exact haway 1 1 10 .nan (by rw [hcs.unique hgoes]; simp)

/-! ### On the ground -/

/-- The configured action moves the vehicle. -/
def actionDeparts (s : MissionManager P) : Bool :=
  s.config.safeLandingOnNoSafeLand = "RTL" ||
    s.config.safeLandingOnNoSafeLand ∈ ["MOVE_XYZ_WRT_CURRENT", "LANDING_SITE_SEARCH", "GO_TO_WAYPOINT"] &&
      s.globalOriginReferenceSet ||
    s.config.safeLandingOnNoSafeLand = "GO_TO_WAYPOINT" && s.atConfiguredWaypoint

/-- From `s` to `s'` nothing but `hold` is commanded, and no search is started. -/
structure Stays (s s' : MissionManager P) : Prop where
  commands : ∃ cs, Issues cs s s' ∧ ∀ c ∈ cs, c = .hold
  starts : s'.searchesStarted = s.searchesStarted

/-- What an action that does not depart leaves for the processing. -/
structure Remains (ext : Externals P E) (s s' : MissionManager P) : Prop extends Stays s s' where
  planner : s'.planner = s.planner
  lands : s'.landsAtWaypoint ext = s.landsAtWaypoint ext

theorem Remains.refl (s : MissionManager P) : Remains ext s s := ⟨⟨⟨[], .refl s, by simp⟩, rfl⟩, rfl, rfl⟩

theorem remains_hold (type : StatusTextType) (text : String) (s : MissionManager P) :
    Remains ext s (s.hold.statusText type text) := by
  have hquiet := (quiet_hold s).trans (quiet_statusText type text s.hold)
  exact ⟨⟨⟨[.hold], rfl, by simp⟩, hquiet.starts⟩, hquiet.planner, rfl⟩

theorem landsAtWaypoint_emit (e : Event) (s : MissionManager P) :
    (s.emit e).landsAtWaypoint ext = s.landsAtWaypoint ext := rfl

theorem remains_refused (debug : String) (type : StatusTextType) (text : String) (s : MissionManager P) :
    Remains ext s ((s.hold.landingSiteSearchHasEnded debug).statusText type text) := by
  have hended := (quiet_hold s).toEffect.trans (ended_landingSiteSearchHasEnded debug s.hold).toEffect
  have htext := quiet_statusText type text (s.hold.landingSiteSearchHasEnded debug)
  have hlands : (s.hold.landingSiteSearchHasEnded debug).landsAtWaypoint ext = s.landsAtWaypoint ext := by
    unfold landingSiteSearchHasEnded
    dsimp only
    rw [statusText, landsAtWaypoint_emit, landsAtWaypoint_emit]
    rfl
  have hstarts : ((s.hold.landingSiteSearchHasEnded debug).statusText type text).searchesStarted = s.searchesStarted := by
    rw [htext.starts, Nat.add_zero, hended.starts, Nat.add_zero]
  exact ⟨⟨⟨[.hold], rfl, by simp⟩, hstarts⟩,
    htext.planner.trans (planner_landingSiteSearchHasEnded ..), (landsAtWaypoint_emit ..).trans hlands⟩

theorem Remains.actionTriggered (h : Remains ext s s') (now : ℤ) : Remains ext s (s'.actionTriggered now) := by
  have hquiet := quiet_actionTriggered now s'
  obtain ⟨cs, hcs, hhold⟩ := h.commands
  exact ⟨⟨⟨cs, hcs, hhold⟩, hquiet.starts.trans h.starts⟩, hquiet.planner.trans h.planner, h.lands⟩

/-- An action that does not depart holds, or does nothing. -/
theorem remains_onNoSafeLand (hstays : ¬ s.actionDeparts) : Remains ext s (s.onNoSafeLand ext i) := by
  have hnoOrigin : s.config.safeLandingOnNoSafeLand ∈ ["MOVE_XYZ_WRT_CURRENT", "LANDING_SITE_SEARCH", "GO_TO_WAYPOINT"] →
      s.globalOriginReferenceSet = false := fun haction => by
    by_contra horigin
    exact hstays (by unfold actionDeparts; simp [haction, horigin])
  unfold onNoSafeLand
  dsimp only
  split_ifs with hhold hrtl hmove hsearch hxyz hlla hgo
  · exact remains_hold ..
  · exact absurd (by unfold actionDeparts; simp [hrtl]) hstays
  · unfold moveXyzWrtCurrent
    rw [hnoOrigin (by simp [hmove]), if_neg Bool.false_ne_true]
    exact remains_hold ..
  · unfold landingSiteSearch
    rw [hnoOrigin (by simp [hsearch]), Bool.false_and, if_neg Bool.false_ne_true, Bool.not_false, if_pos rfl]
    exact remains_refused ..
  · exact remains_hold ..
  · exact remains_hold ..
  · have haway : s.atConfiguredWaypoint = false := by
      by_contra hat
      exact hstays (by unfold actionDeparts; simp [hgo, hat])
    unfold goToWaypoint
    rw [haway, hnoOrigin (by simp [hgo]), if_neg Bool.false_ne_true, if_neg Bool.false_ne_true]
    exact remains_hold ..
  · exact remains_hold ..
  · exact remains_hold ..
  · exact .refl s

theorem remains_triggerSafeLanding (ext : Externals P E) (hstays : ¬ (s.takesAction i ∧ s.actionDeparts)) :
    Remains ext s (s.triggerSafeLanding ext i) := by
  cases triggerSafeLanding_trigger ext i s with
  | unhealthy free triggered unhealthy result =>
    rw [result]
    exact (remains_hold ..).actionTriggered i.now
  | action free triggered takes result =>
    rw [result]
    exact (remains_onNoSafeLand fun hdeparts => hstays ⟨takes, hdeparts⟩).actionTriggered i.now
  | none takes result =>
    rw [result]
    exact .refl s

/-- An action that departs commands something else than to hold, or starts a search. -/
theorem departs_onNoSafeLand (ext : Externals P E) (i : TickInput E) (havoidance : s.obstacleAvoidanceEnabled)
    (hdeparts : s.actionDeparts) :
    (∃ c ∈ s.actionCommand ext i, c ≠ .hold) ∨
      (s.onNoSafeLand ext i).searchesStarted = s.searchesStarted + 1 := by
  unfold actionDeparts at hdeparts
  simp only [Bool.or_eq_true, Bool.and_eq_true, decide_eq_true_eq, List.mem_cons, List.not_mem_nil, or_false] at hdeparts
  -- the four actions that lead away, each with what it needs
  have hdeparts : s.config.safeLandingOnNoSafeLand = "RTL" ∨
      s.config.safeLandingOnNoSafeLand = "MOVE_XYZ_WRT_CURRENT" ∧ s.globalOriginReferenceSet ∨
      s.config.safeLandingOnNoSafeLand = "LANDING_SITE_SEARCH" ∧ s.globalOriginReferenceSet ∨
      s.config.safeLandingOnNoSafeLand = "GO_TO_WAYPOINT" ∧ (s.globalOriginReferenceSet ∨ s.atConfiguredWaypoint) := by
    tauto
  rcases hdeparts with hrtl | ⟨hmove, horigin⟩ | ⟨hsearch, horigin⟩ | ⟨hgo, hready⟩
  · exact .inl ⟨.returnToLaunch, by unfold actionCommand; rw [hrtl]; rfl, nofun⟩
  · refine .inl ⟨s.moveCommand ext, by unfold actionCommand; rw [hmove]; rfl, ?_⟩
    unfold moveCommand
    rw [if_pos horigin]
    nofun
  · refine .inr ?_
    rcases onNoSafeLand_cases ext i s with ⟨hother, -⟩ | ⟨-, hattempt⟩
    · exact absurd hsearch hother
    · cases hattempt with
      | started effect planner active origin => exact effect.starts
      | failed ended planner inactive origin => exact ended.starts
      | refused ended planner missing =>
        exact absurd missing (not_or.mpr ⟨not_not.mpr horigin, not_not.mpr havoidance⟩)
  · refine .inl ⟨s.waypointCommand, by unfold actionCommand; rw [hgo]; rfl, ?_⟩
    unfold waypointCommand
    by_cases hat : s.atConfiguredWaypoint
    · rw [if_pos hat]
      nofun
    · rw [if_neg hat, if_pos (hready.resolve_right hat)]
      nofun

/-- The iteration takes an action that departs, or lands at the waypoint of an earlier one. -/
def Departs (ext : Externals P E) (i : TickInput E) (s : MissionManager P) : Prop :=
  s.takesAction i ∧ s.actionDeparts ∨ ¬ ext.isActive s.planner ∧ s.landsAtWaypoint ext

theorem starts_decisionMakerRun_off (hcalls : ¬ i.bypasses) (hoff : (s.beginTick i).isOff) :
    (s.decisionMakerRun ext i).searchesStarted = s.searchesStarted := by
  have hbegin := apart_beginTick (i := i) s
  rcases decisionMakerRun_off_cases ext hcalls hoff with ⟨-, hended, -⟩ | ⟨-, hquiet⟩
  · exact hended.starts.trans hbegin.starts
  · exact hquiet.starts.trans hbegin.starts

/-- With safe landing on only the trigger starts a search. -/
theorem starts_decisionMakerRun_on (hcalls : ¬ i.bypasses) (hon : ¬ (s.beginTick i).isOff) :
    (s.decisionMakerRun ext i).searchesStarted = ((s.beginTick i).triggerSafeLanding ext i).searchesStarted := by
  obtain ⟨ended, hprocess⟩ := effect_processActiveActions ext i ((s.beginTick i).triggerSafeLanding ext i)
  exact (quiet_decisionMakerRun_on ext hcalls hon).starts.trans hprocess.starts

/-- An iteration that departs does not stay. -/
theorem not_stays_of_departs (hcalls : ¬ i.bypasses) (hon : ¬ (s.beginTick i).isOff)
    (hdeparts : Departs ext i (s.beginTick i)) : ¬ Stays s (s.decisionMakerRun ext i) := by
  rintro ⟨⟨ds, hds, hhold⟩, hstarts⟩
  have hbegin := apart_beginTick (i := i) s
  by_cases haction : (s.beginTick i).takesAction i ∧ (s.beginTick i).actionDeparts
  · obtain ⟨htakes, hleaves⟩ := haction
    rcases departs_onNoSafeLand ext i (avoidance_of_on hon) hleaves with ⟨c, hc, hne⟩ | hsearch
    · obtain ⟨cs, -, hcs⟩ := exists_issues_decisionMakerRun_on ext hcalls hon
      rw [triggerCommand_of_takes htakes] at hcs
      refine hne (hhold c ?_)
      rw [hds.unique hcs]
      exact List.mem_append_right _ (Option.mem_toList.mpr hc)
    · have htrigger : (s.beginTick i).triggerSafeLanding ext i =
          ((s.beginTick i).onNoSafeLand ext i).actionTriggered i.now := by
        cases triggerSafeLanding_trigger ext i (s.beginTick i) with
        | unhealthy free triggered unhealthy result => exact absurd htakes (not_takesAction_of_unhealthy unhealthy _)
        | action free triggered takes result => exact result
        | none takes result => exact absurd htakes takes
      rw [starts_decisionMakerRun_on hcalls hon, htrigger, (quiet_actionTriggered ..).starts, hsearch, hbegin.starts]
        at hstarts
      omega
  · obtain ⟨hinactive, hlands⟩ := hdeparts.resolve_left haction
    have hremains := remains_triggerSafeLanding ext haction
    have hidle : Issues _ ((s.beginTick i).triggerSafeLanding ext i) _ :=
      issues_processActiveActions_idle i (hremains.planner ▸ hinactive)
    rw [hremains.lands, if_pos hlands] at hidle
    have hland := hhold .land (by rw [hds.unique (issues_decisionMakerRun_on hcalls hon hidle)]; simp)
    cases hland

/-- On the ground an iteration that does not depart stays. -/
theorem stays_of_not_departs (hground : s.landedState = .onGround) (hcalls : ¬ i.bypasses)
    (hon : ¬ (s.beginTick i).isOff) (hdeparts : ¬ Departs ext i (s.beginTick i)) :
    Stays s (s.decisionMakerRun ext i) := by
  obtain ⟨haction, hwaypoint⟩ := not_or.mp hdeparts
  have hremains := remains_triggerSafeLanding ext haction
  obtain ⟨ended, started, heffect⟩ := effect_triggerSafeLanding ext i (s.beginTick i)
  have hprocess : Issues [] ((s.beginTick i).triggerSafeLanding ext i)
      (((s.beginTick i).triggerSafeLanding ext i).processActiveActions ext i) := by
    by_cases hactive : ext.isActive ((s.beginTick i).triggerSafeLanding ext i).planner
    · have hstop : ((s.beginTick i).triggerSafeLanding ext i).landedState = .onGround := by
        rw [heffect.landedState, ← hground]
        rw [beginTick_eq]
      refine issues_processActiveActions_stopped hactive (heffect.avoidance.trans (avoidance_of_on hon)) ?_
      unfold shouldEndLandingSiteSearch
      rw [hstop]
      rfl
    · have hidle := issues_processActiveActions_idle i hactive
      rw [hremains.planner] at hactive
      rwa [hremains.lands, if_neg fun hlands => hwaypoint ⟨hactive, hlands⟩] at hidle
  obtain ⟨cs, hcs, hhold⟩ := hremains.commands
  refine ⟨⟨_, issues_decisionMakerRun_on hcalls hon hprocess, ?_⟩, ?_⟩
  · rw [List.nil_append, (issues_triggerSafeLanding _).unique hcs]
    exact hhold
  · rw [starts_decisionMakerRun_on hcalls hon, hremains.starts]
    exact (apart_beginTick s).starts

/-- **When a vehicle on the ground is left there**: exactly when safe landing is off, or the iteration takes no action
that departs and does not land at the waypoint of an earlier one. -/
theorem no_departure_iff (hground : s.landedState = .onGround) (hcalls : ¬ i.bypasses) :
    Stays s (s.decisionMakerRun ext i) ↔ (¬ (s.beginTick i).isOff → ¬ Departs ext i (s.beginTick i)) := by
  by_cases hoff : (s.beginTick i).isOff
  · refine ⟨fun _ hon => absurd hoff hon, fun _ => ⟨⟨_, issues_decisionMakerRun_off ext hcalls hoff, ?_⟩, ?_⟩⟩
    · intro c hc
      split_ifs at hc
      · exact List.mem_singleton.mp hc
      · exact absurd hc List.not_mem_nil
    · exact starts_decisionMakerRun_off hcalls hoff
  · exact ⟨fun hstays _ hdeparts => not_stays_of_departs hcalls hoff hdeparts hstays,
      fun h => stays_of_not_departs hground hcalls hoff (h hoff)⟩

/-- In land mode on the ground. -/
def grounded : MissionManager Phase :=
  run (step phasePlanner) (initial phasePlanner zeroBoot)
    [.flightMode .land, .landedState .onGround, .trajectory zeroTrajectory]

theorem no_departure_hold :
    Stays grounded (grounded.decisionMakerRun phasePlanner (tickOver .canNotLand (safeLandingBy "HOLD"))) := by
  have hcalls : ¬ (tickOver .canNotLand (safeLandingBy "HOLD")).bypasses := not_or.mpr ⟨by decide, not_not.mpr rfl⟩
  refine (no_departure_iff (by decide +kernel) hcalls).mpr fun _ => ?_
  rintro (⟨-, hdeparts⟩ | ⟨-, hlands⟩)
  · exact absurd hdeparts (by decide +kernel)
  · exact absurd hlands (by decide +kernel)

/-- A vehicle that stands on bad ground in land mode is sent home. -/
theorem departure_from_ground : grounded.landedState = .onGround ∧
    Issues [.returnToLaunch] grounded
      (grounded.decisionMakerRun phasePlanner (tickOver .canNotLand (safeLandingBy "RTL"))) ∧
    ¬ Stays grounded (grounded.decisionMakerRun phasePlanner (tickOver .canNotLand (safeLandingBy "RTL"))) := by
  have hreturns : Issues [.returnToLaunch] grounded
      (grounded.decisionMakerRun phasePlanner (tickOver .canNotLand (safeLandingBy "RTL"))) :=
    (by decide +kernel : _ = _)
  refine ⟨by decide +kernel, hreturns, fun h => ?_⟩
  obtain ⟨cs, hcs, hhold⟩ := h.commands
  exact absurd (hhold .returnToLaunch (by rw [hcs.unique hreturns]; simp)) nofun

end MissionManager

end AutopilotManager
