import AutopilotManager.Mission.Planner

/-!
# Mission.Trajectory — how trajectory messages are answered

The messages between two iterations are answered from what the first one leaves behind: no landing setpoint once an
iteration has seen bad ground, and the message itself once safe landing has been switched off, as long as the switch
does not go past `handle_safe_landing` while a search is active.
-/

namespace AutopilotManager

open Lib

/-- The planner lands only in a search, and starts no landing on bad ground. -/
structure LandingPlanner.LandsOnGoodGround {P E : Type} (planner : LandingPlanner P E) : Prop where
  active : ∀ p, planner.shouldLand p → planner.isActive p
  endSearch : ∀ p, ¬ planner.shouldLand (planner.endSearch p)
  reset : ∀ p, ¬ planner.shouldLand (planner.reset p)
  abortLanding : ∀ e altitude height p, ¬ planner.shouldLand (planner.abortLanding e altitude height p)
  updateSearch : ∀ e x y altitude height isStationary state p, state.isBad → ¬ planner.shouldLand p →
    ¬ planner.shouldLand (planner.updateSearch e x y altitude height isStationary state p)

theorem phasePlanner_landsOnGoodGround : phasePlanner.LandsOnGoodGround where
  active p hland := by
    have hp : p = .landing := of_decide_eq_true hland
    rw [hp]
    rfl
  endSearch _ := Bool.false_ne_true
  reset _ := Bool.false_ne_true
  abortLanding placeLeft _ _ _ := by cases placeLeft <;> simp [phasePlanner]
  updateSearch placeLeft x y altitude height isStationary state p hbad _ := by
    have hgood : state ≠ .canLand := by rintro rfl; exact absurd hbad Bool.false_ne_true
    cases placeLeft <;> simp [phasePlanner, hgood]

def MissionInput.isTick {E : Type} : MissionInput E → Bool
  | tick _ => true
  | _ => false

/-- The configuration of the iteration has the module, the decision maker or safe landing switched off. -/
def TickInput.switchedOff {E : Type} (i : TickInput E) : Prop := i.bypasses ∨ i.config.safeLandingEnabled = 0

namespace MissionManager

variable {P E : Type} {ext : Externals P E} {i : TickInput E} {s s' s'' : MissionManager P}

def isLandingSetpoint : Event → Bool
  | .sent .land _ => true
  | _ => false

/-- How many landing setpoints have been sent. -/
def landingSetpoints (s : MissionManager P) : ℕ := s.log.countP isLandingSetpoint

/-! ### Landing setpoints -/

theorem landingSetpoints_landingSiteSearchHasEnded (debug : String) (s : MissionManager P) :
    (s.landingSiteSearchHasEnded debug).landingSetpoints = s.landingSetpoints := rfl

theorem landingSetpoints_withPlanner (p : P) (s : MissionManager P) :
    landingSetpoints { s with planner := p } = s.landingSetpoints := rfl

theorem landingSetpoints_resetPlanner (s : MissionManager P) :
    (s.resetPlanner ext).landingSetpoints = s.landingSetpoints := by
  unfold resetPlanner
  dsimp only
  rw [landingSetpoints_withPlanner]
  split_ifs
  · rw [landingSetpoints_landingSiteSearchHasEnded, landingSetpoints_withPlanner]
  · rfl

theorem landingSetpoints_flightModeCallback (mode : FlightMode) (s : MissionManager P) :
    (s.flightModeCallback ext mode).landingSetpoints = s.landingSetpoints := by
  exact flightModeCallback_induction (Q := fun s' => s'.landingSetpoints = s.landingSetpoints) rfl rfl
    (landingSetpoints_resetPlanner _)

/-- A message is answered by a landing setpoint only if the planner wants to land. -/
theorem Callback.landingSetpoints (h : Callback ext s s') (hland : ¬ ext.shouldLand s.planner) :
    s'.landingSetpoints = s.landingSetpoints := by
  unfold MissionManager.landingSetpoints
  cases h.log with
  | nothing log => rw [log]
  | text type text log =>
    rw [log]
    rfl
  | answer reply message log land =>
    rw [log]
    cases reply with
    | forwarded => rfl
    | search => rfl
    | land => exact absurd (land rfl) hland

/-- Between iterations nothing but the planner can bring a landing setpoint. -/
theorem landingSetpoints_step (hland : ¬ ext.shouldLand s.planner) {input : MissionInput E} (hinput : ¬ input.isTick) :
    (step ext s input).landingSetpoints = s.landingSetpoints := by
  rcases step_cases ext s input with ⟨i, rfl⟩ | ⟨mode, rfl⟩ | hcallback
  · exact absurd rfl hinput
  · exact landingSetpoints_flightModeCallback mode s
  · exact hcallback.landingSetpoints hland

section LandsOnGoodGround

variable (hext : ext.LandsOnGoodGround)
include hext

theorem not_shouldLand_decideSearch (hbad : i.landingState.isBad) :
    ¬ ext.shouldLand (s.decideSearch ext i).planner := by
  rcases planner_decideSearch ext i s with
    ⟨-, -, altitude, height, habort⟩ | ⟨-, hgood, -⟩ | ⟨hland, x, y, altitude, height, isStationary, hupdate⟩
  · rw [habort]
    exact hext.abortLanding _ _ _ _
  · exact absurd hbad hgood
  · rw [hupdate]
    exact hext.updateSearch _ _ _ _ _ _ _ _ hbad hland

theorem not_shouldLand_updateLandingSiteSearch (hbad : i.landingState.isBad) (land : Bool) :
    ¬ ext.shouldLand (s.updateLandingSiteSearch ext i land).planner := by
  rcases planner_updateLandingSiteSearch ext i land s with hdecide | ⟨-, hland, -⟩
  · rw [hdecide]
    exact not_shouldLand_decideSearch hext hbad
  · exact absurd hland (not_shouldLand_decideSearch hext hbad)

theorem not_shouldLand_processActiveActions (hbad : i.landingState.isBad) :
    ¬ ext.shouldLand (s.processActiveActions ext i).planner := by
  cases processActiveActions_cases ext i s with
  | stopped active stop ended planner => exact planner ▸ hext.endSearch _
  | updated active continues step planner => exact planner ▸ not_shouldLand_updateLandingSiteSearch hext hbad _
  | reset inactive effect override planner => exact planner ▸ hext.reset _
  | idle inactive quiet => exact quiet.planner ▸ fun hland => inactive (hext.active _ hland)

/-- Every path of the handler leaves the planner not landing when the ground is bad, whatever it was before. -/
theorem Handled.not_shouldLand (h : Handled ext i s s') (hbad : i.landingState.isBad) :
    ¬ ext.shouldLand s'.planner := by
  cases h with
  | disabled off active ended planner => exact planner ▸ hext.endSearch _
  | skipped off inactive same => exact same ▸ fun hland => inactive (hext.active _ hland)
  | processed on avoidance process => exact process ▸ not_shouldLand_processActiveActions hext hbad

theorem not_shouldLand_decisionMakerRun (hcalls : ¬ i.bypasses) (hbad : i.landingState.isBad) :
    ¬ ext.shouldLand (s.decisionMakerRun ext i).planner := by
  cases decisionMakerRun_cases ext i s with
  | bypassed bypasses quiet => exact absurd bypasses hcalls
  | handled calls handled quiet => exact quiet.planner ▸ handled.not_shouldLand hext hbad

/-- Between iterations the planner does not begin to land. -/
theorem not_shouldLand_step (hland : ¬ ext.shouldLand s.planner) {input : MissionInput E} (hinput : ¬ input.isTick) :
    ¬ ext.shouldLand (step ext s input).planner := by
  rcases step_cases ext s input with ⟨i, rfl⟩ | ⟨mode, rfl⟩ | hcallback
  · exact absurd rfl hinput
  · exact (flightModeCallback_cases ext mode s).planner_of_reset (Q := fun p => ¬ ext.shouldLand p) hland hext.reset
  · exact hcallback.planner ▸ hland

theorem landingSetpoints_run (hland : ¬ ext.shouldLand s.planner) {is : List (MissionInput E)}
    (his : ∀ input ∈ is, ¬ input.isTick) : (run (step ext) s is).landingSetpoints = s.landingSetpoints := by
  induction is generalizing s with
  | nil => rfl
  | cons input is ih =>
    have hinput : ¬ input.isTick := his input List.mem_cons_self
    rw [run_cons, ih (not_shouldLand_step hext hland hinput) fun j hj => his j (List.mem_cons_of_mem _ hj)]
    exact landingSetpoints_step hland hinput

/-- **No descent onto bad ground**: after an iteration that has read a bad landing state, no message handled before
the next iteration is answered by a landing setpoint. -/
theorem no_landing_setpoint_on_bad_ground (boot : Boot) (before after : List (MissionInput E)) (i : TickInput E)
    (hcalls : ¬ i.bypasses) (hbad : i.landingState.isBad) (hafter : ∀ input ∈ after, ¬ input.isTick) :
    (run (step ext) (initial ext boot) (before ++ [.tick i] ++ after)).landingSetpoints =
      (run (step ext) (initial ext boot) (before ++ [.tick i])).landingSetpoints := by
  rw [run_append]
  refine landingSetpoints_run hext ?_ hafter
  rw [run_concat]
  exact not_shouldLand_decisionMakerRun hext hcalls hbad

end LandsOnGoodGround

/-- A landing at a site is aborted when the ground turns bad. -/
theorem no_landing_setpoint_on_bad_ground_abort :
    (run (step phasePlanner) (initial phasePlanner zeroBoot)
      (searchRun ++ [.tick (tickOver .canLand (safeLandingBy "LANDING_SITE_SEARCH"))] ++
        [.tick (tickOver .unknown (safeLandingBy "LANDING_SITE_SEARCH"))] ++ [.trajectory zeroTrajectory])).landingSetpoints
      = (run (step phasePlanner) (initial phasePlanner zeroBoot)
      (searchRun ++ [.tick (tickOver .canLand (safeLandingBy "LANDING_SITE_SEARCH"))] ++
        [.tick (tickOver .unknown (safeLandingBy "LANDING_SITE_SEARCH"))])).landingSetpoints :=
  no_landing_setpoint_on_bad_ground phasePlanner_landsOnGoodGround zeroBoot
    (searchRun ++ [.tick (tickOver .canLand (safeLandingBy "LANDING_SITE_SEARCH"))]) [.trajectory zeroTrajectory]
    (tickOver .unknown (safeLandingBy "LANDING_SITE_SEARCH"))
    (by unfold TickInput.bypasses; decide +kernel) rfl (by decide)

/-! ### Switching off -/

/-- An iteration goes past the handler only while no search is active. -/
def SwitchesIdle (ext : Externals P E) (i : TickInput E) (s : MissionManager P) : Prop :=
  i.bypasses → ¬ ext.isActive s.planner

section Stops

variable (hend : ∀ p, ¬ ext.isActive (ext.endSearch p)) (hreset : ∀ p, ¬ ext.isActive (ext.reset p))

include hend in
/-- An iteration with safe landing switched off leaves no search. -/
theorem decisionMakerRun_switchedOff (hoff : i.switchedOff) (hidle : SwitchesIdle ext i s) :
    ¬ ext.isActive (s.decisionMakerRun ext i).planner := by
  cases decisionMakerRun_cases ext i s with
  | bypassed bypasses quiet => exact quiet.planner ▸ hidle bypasses
  | handled calls handled quiet =>
    rw [quiet.planner]
    cases handled with
    | disabled off active ended planner => exact planner ▸ hend _
    | skipped off inactive same => exact same ▸ inactive
    | processed on avoidance process =>
      have hconfig : (s.beginTick i).config = i.config := by
        rw [beginTick_eq]
      exact absurd (hoff.resolve_left calls) (hconfig ▸ on)

include hreset

/-- Without a search, the handler leaves none unless it starts one. -/
theorem Handled.stays_inactive (h : Handled ext i s s') (hinactive : ¬ ext.isActive s.planner)
    (hstarts : s'.searchesStarted = s.searchesStarted) : ¬ ext.isActive s'.planner := by
  cases h with
  | disabled off active ended planner => exact absurd active hinactive
  | skipped off inactive same => exact same ▸ inactive
  | processed on avoidance process =>
    rw [process] at hstarts ⊢
    obtain ⟨ended, hprocess⟩ := effect_processActiveActions ext i (s.triggerSafeLanding ext i)
    rw [hprocess.starts] at hstarts
    refine (processActiveActions_idle hreset ?_).1
    rcases triggerSafeLanding_cases ext i s with hquiet | ⟨-, -, hattempt⟩
    · exact hquiet.planner ▸ hinactive
    · cases hattempt with
      | started effect planner active origin =>
        have hcount := effect.starts
        omega
      | failed ended planner inactive origin => exact inactive
      | refused ended planner missing => exact planner ▸ hinactive

theorem step_stays_inactive (hinactive : ¬ ext.isActive s.planner) {input : MissionInput E}
    (hstarts : (step ext s input).searchesStarted = s.searchesStarted) :
    ¬ ext.isActive (step ext s input).planner := by
  rcases step_cases ext s input with ⟨i, rfl⟩ | ⟨mode, rfl⟩ | hcallback
  · have hrun : (s.decisionMakerRun ext i).searchesStarted = s.searchesStarted := hstarts
    show ¬ ext.isActive (s.decisionMakerRun ext i).planner
    cases decisionMakerRun_cases ext i s with
    | bypassed bypasses quiet => exact quiet.planner ▸ hinactive
    | handled calls handled quiet =>
      have hbegin := apart_beginTick (i := i) s
      rw [quiet.planner]
      refine handled.stays_inactive hreset (hbegin.planner ▸ hinactive) ?_
      exact quiet.starts.symm.trans (hrun.trans hbegin.starts.symm)
  · exact (flightModeCallback_cases ext mode s).planner_of_reset (Q := fun p => ¬ ext.isActive p) hinactive hreset
  · exact hcallback.planner ▸ hinactive

include hend in
/-- **Switched off is off**: after an iteration with the module, the decision maker or safe landing switched off that
does not go past the handler while a search is active, every message from the vehicle is answered by itself, until an
iteration starts a search. -/
theorem forwarded_after_switch_off (boot : Boot) (before after : List (MissionInput E)) (i : TickInput E)
    (t : TrajectoryInput) (hoff : i.switchedOff)
    (hidle : SwitchesIdle ext i (run (step ext) (initial ext boot) before))
    (hafter : Meets (step ext) (fun s input => (step ext s input).searchesStarted = s.searchesStarted)
      (run (step ext) (initial ext boot) (before ++ [.tick i])) after)
    (ht : t.compid ≠ mavCompIdObstacleAvoidance) :
    (step ext (run (step ext) (initial ext boot) (before ++ [.tick i] ++ after)) (.trajectory t)).log =
      .sent .forwarded t.message :: (run (step ext) (initial ext boot) (before ++ [.tick i] ++ after)).log := by
  have hoffRun : ¬ ext.isActive (run (step ext) (initial ext boot) (before ++ [.tick i])).planner := by
    rw [run_concat]
    exact decisionMakerRun_switchedOff hend hoff hidle
  have hstep : ∀ s input, ¬ ext.isActive s.planner → (step ext s input).searchesStarted = s.searchesStarted →
      ¬ ext.isActive (step ext s input).planner := fun s input hs hstarts => step_stays_inactive hreset hs hstarts
  have hinactive := hafter.invariant hstep hoffRun
  rw [← run_append] at hinactive
  rw [log_trajectory hinactive, if_neg ht]

end Stops

/-- During a search with a finite waypoint a message is overridden. -/
theorem overridden (hactive : ext.isActive s.planner) (hvalid : s.isPosValid) {t : TrajectoryInput}
    (ht : t.compid ≠ mavCompIdObstacleAvoidance) :
    ∃ reply message, reply ≠ .forwarded ∧
      (s.onMavlinkTrajectoryMessage ext t).log = .sent reply message :: s.log := by
  cases onMavlinkTrajectoryMessage_answer ext t s with
  | own own => exact absurd own ht
  | land foreign active valid lands result => exact ⟨.land, _, by decide, by rw [result]; rfl⟩
  | search foreign active valid searches result => exact ⟨.search, _, by decide, by rw [result]; rfl⟩
  | forwarded foreign unready => exact absurd ⟨hactive, hvalid⟩ unready

/-- An iteration that goes past the handler while a search is active leaves the override in force. -/
theorem overridden_after_bypass (hbypass : i.bypasses) (hactive : ext.isActive s.planner) (hvalid : s.isPosValid)
    {t : TrajectoryInput} (ht : t.compid ≠ mavCompIdObstacleAvoidance) :
    ∃ reply message, reply ≠ .forwarded ∧
      (step ext (step ext s (.tick i)) (.trajectory t)).log = .sent reply message :: (step ext s (.tick i)).log := by
  have hquiet : Quiet { s with config := i.config } (s.decisionMakerRun ext i) := by
    cases decisionMakerRun_cases ext i s with
    | bypassed bypasses quiet => exact quiet
    | handled calls handled quiet => exact absurd hbypass calls
  have hvalid' : (s.decisionMakerRun ext i).isPosValid := by
    unfold isPosValid
    rw [hquiet.override.1, hquiet.override.2.1, hquiet.override.2.2]
    exact hvalid
  exact overridden (hquiet.planner ▸ hactive) hvalid' ht

theorem forwarded_after_switch_off_disabled :
    (step phasePlanner (run (step phasePlanner) (initial phasePlanner zeroBoot)
      (searchRun ++ [.tick (tickOver .canNotLand { safeLandingBy "LANDING_SITE_SEARCH" with safeLandingEnabled := 0 })]
        ++ [])) (.trajectory zeroTrajectory)).log =
      .sent .forwarded zeroMessage :: (run (step phasePlanner) (initial phasePlanner zeroBoot)
      (searchRun ++ [.tick (tickOver .canNotLand { safeLandingBy "LANDING_SITE_SEARCH" with safeLandingEnabled := 0 })]
        ++ [])).log :=
  forwarded_after_switch_off (fun p => phasePlanner_lifeCycle.ended _ (phasePlanner_lifeCycle.endSearch p))
    phasePlanner_lifeCycle.reset zeroBoot searchRun []
    (tickOver .canNotLand { safeLandingBy "LANDING_SITE_SEARCH" with safeLandingEnabled := 0 }) zeroTrajectory
    (.inr rfl) (fun h => absurd h (by unfold TickInput.bypasses; decide +kernel)) trivial (by decide)

/-- With the module disabled in the middle of a search, the next message is still overridden. -/
theorem overridden_after_disabling :
    TickInput.switchedOff (tickOver .canNotLand { safeLandingBy "LANDING_SITE_SEARCH" with autopilotManagerEnabled := 0 }) ∧
    zeroTrajectory.compid ≠ mavCompIdObstacleAvoidance ∧
    (step phasePlanner (run (step phasePlanner) (initial phasePlanner zeroBoot) (searchRun ++
      [.tick (tickOver .canNotLand { safeLandingBy "LANDING_SITE_SEARCH" with autopilotManagerEnabled := 0 })]))
        (.trajectory zeroTrajectory)).log ≠
      .sent .forwarded zeroMessage :: (run (step phasePlanner) (initial phasePlanner zeroBoot) (searchRun ++
      [.tick (tickOver .canNotLand { safeLandingBy "LANDING_SITE_SEARCH" with autopilotManagerEnabled := 0 })])).log :=
  ⟨.inl (.inl rfl), by decide, by decide +kernel⟩

end MissionManager

end AutopilotManager
