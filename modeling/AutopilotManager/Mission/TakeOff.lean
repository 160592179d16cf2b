import AutopilotManager.Mission.InProgress
import AutopilotManager.Mission.Stationary

/-!
# Mission.TakeOff — the reset on take-off

An ended planner is reset by the iteration that finds the vehicle taking off.  The reset is the second alternative
behind the trigger, behind the early return of a safe landing that is off, and behind the two switches of the decision
loop: it is made exactly when the iteration gets there without an active search.
-/

namespace AutopilotManager

open Lib

namespace MissionManager

variable {P E : Type} {ext : Externals P E} {i : TickInput E} {s : MissionManager P}

/-- The iteration decides about safe landing and finds the vehicle taking off. -/
def ObservesTakeOff (s : MissionManager P) (i : TickInput E) : Prop :=
  i.config.decisionMakerInputType = "SAFE_LANDING" ∧ s.landedState = .takingOff

instance (s : MissionManager P) (i : TickInput E) : Decidable (ObservesTakeOff s i) :=
  inferInstanceAs (Decidable (_ ∧ _))

/-- The iteration calls `startSearch`. -/
def StartsSearch (ext : Externals P E) (s : MissionManager P) (i : TickInput E) : Prop :=
  s.searchesStarted < (step ext s (.tick i)).searchesStarted

instance (ext : Externals P E) (s : MissionManager P) (i : TickInput E) : Decidable (StartsSearch ext s i) :=
  Nat.decLt _ _

/-- The module is enabled, safe landing is on, and the trigger leaves no active search. -/
def ReachesReset (ext : Externals P E) (s : MissionManager P) (i : TickInput E) : Prop :=
  i.config.autopilotManagerEnabled ≠ 0 ∧ ¬ (s.beginTick i).isOff ∧
    ¬ ext.isActive ((s.beginTick i).searchPlanner ext i)

instance (ext : Externals P E) (s : MissionManager P) (i : TickInput E) : Decidable (ReachesReset ext s i) :=
  inferInstanceAs (Decidable (_ ∧ _))

/-- Every take-off that is observed with an ended planner reaches the reset. -/
def TakeOffReachesReset (ext : Externals P E) (s : MissionManager P) : MissionInput E → Prop
  | .tick i => ObservesTakeOff s i → ext.isEnded s.planner → ReachesReset ext s i
  | _ => True

instance (ext : Externals P E) (s : MissionManager P) (input : MissionInput E) :
    Decidable (TakeOffReachesReset ext s input) :=
  match input with
  | .tick i => inferInstanceAs (Decidable (ObservesTakeOff s i → ext.isEnded s.planner → ReachesReset ext s i))
  | .flightMode _ | .landedState _ | .position .. | .positionVelocity .. | .attitude _ | .gpsGlobalOrigin _
  | .trajectory _ => .isTrue trivial

/-! ### One iteration -/

theorem landedState_triggerSafeLanding_beginTick (ext : Externals P E) (i : TickInput E) (s : MissionManager P) :
    ((s.beginTick i).triggerSafeLanding ext i).landedState = s.landedState := by
  obtain ⟨ended, started, heffect⟩ := effect_triggerSafeLanding ext i (s.beginTick i)
  rw [heffect.landedState, beginTick_eq]

/-- Without an active search a vehicle that takes off leaves no ended planner. -/
theorem not_isEnded_processActiveActions (hreset : ∀ p, ¬ ext.isEnded (ext.reset p))
    (hinactive : ¬ ext.isActive s.planner) (htakeOff : s.landedState = .takingOff) :
    ¬ ext.isEnded (s.processActiveActions ext i).planner := by
  unfold processActiveActions
  dsimp only
  rw [if_neg hinactive]
  by_cases hended : ext.isEnded s.planner
  · rw [if_pos (by simp [hended, htakeOff])]
    exact hreset _
  · rw [if_neg (by simp [hended])]
    split_ifs
    · exact hended
    · exact hended

/-- The reset is not reached: the planner stays ended, or the search that has just been started is ended at once. -/
theorem isEnded_of_not_reachesReset (hext : ext.LifeCycle) (hobserves : ObservesTakeOff s i)
    (hended : ext.isEnded s.planner) (hreaches : ¬ ReachesReset ext s i) :
    ext.isEnded (s.decisionMakerRun ext i).planner := by
  obtain ⟨hsafe, htakeOff⟩ := hobserves
  by_cases hdisabled : i.config.autopilotManagerEnabled = 0
  · rw [decisionMakerRun_of_disabled hdisabled]
    exact hended
  have hcalls : ¬ i.bypasses := not_or.mpr ⟨hdisabled, not_not.mpr hsafe⟩
  by_cases hoff : (s.beginTick i).isOff
  · rcases decisionMakerRun_off_cases ext hcalls hoff with ⟨-, -, hend⟩ | ⟨-, hquiet⟩
    · rw [hend]
      exact hext.endSearch _
    · rw [hquiet.planner, (apart_beginTick s).planner]
      exact hended
  -- the one way left to miss the reset: the trigger has started a search in the same iteration
  have hactive : ext.isActive ((s.beginTick i).triggerSafeLanding ext i).planner := by
    rw [planner_triggerSafeLanding ext i (avoidance_of_on hoff)]
    by_contra hinactive
    exact hreaches ⟨hdisabled, hoff, hinactive⟩
  -- and a take-off ends it at once
  have hstop : ((s.beginTick i).triggerSafeLanding ext i).shouldEndLandingSiteSearch := by
    unfold shouldEndLandingSiteSearch
    rw [landedState_triggerSafeLanding_beginTick, htakeOff]
    rfl
  rw [(quiet_decisionMakerRun_on ext hcalls hoff).planner]
  cases processActiveActions_cases ext i ((s.beginTick i).triggerSafeLanding ext i) with
  | stopped active stop ended planner =>
    rw [planner]
    exact hext.endSearch _
  | updated active continues step planner => exact absurd hstop continues
  | reset inactive effect override planner => exact absurd hactive inactive
  | idle inactive quiet => exact absurd hactive inactive

/-- The reset is reached: no ended planner is left. -/
theorem not_isEnded_of_reachesReset (hreset : ∀ p, ¬ ext.isEnded (ext.reset p)) (hobserves : ObservesTakeOff s i)
    (hreaches : ReachesReset ext s i) : ¬ ext.isEnded (s.decisionMakerRun ext i).planner := by
  obtain ⟨hsafe, htakeOff⟩ := hobserves
  obtain ⟨henabled, hon, hinactive⟩ := hreaches
  have hcalls : ¬ i.bypasses := not_or.mpr ⟨henabled, not_not.mpr hsafe⟩
  rw [← planner_triggerSafeLanding ext i (avoidance_of_on hon)] at hinactive
  rw [(quiet_decisionMakerRun_on ext hcalls hon).planner]
  exact not_isEnded_processActiveActions hreset hinactive
    ((landedState_triggerSafeLanding_beginTick ext i s).trans htakeOff)

/-- **When a take-off resets an ended planner**: exactly when the iteration reaches the reset. -/
theorem not_isEnded_decisionMakerRun_iff (hext : ext.LifeCycle) (hreset : ∀ p, ¬ ext.isEnded (ext.reset p))
    (hobserves : ObservesTakeOff s i) (hended : ext.isEnded s.planner) :
    ¬ ext.isEnded (s.decisionMakerRun ext i).planner ↔ ReachesReset ext s i := by
  refine ⟨fun hnot => ?_, not_isEnded_of_reachesReset hreset hobserves⟩
  by_contra hreaches
  exact hnot (isEnded_of_not_reachesReset hext hobserves hended hreaches)

/-! ### Runs -/

/-- **Reset on take-off**: from a state with an ended planner, over an iteration that observes a take-off, to a later
iteration that starts a search, there is a state in which the planner is not ended. -/
def ResetOnTakeOff (ext : Externals P E) (s₀ : MissionManager P) (is : List (MissionInput E)) : Prop :=
  ∀ before wait i mid j after, is = before ++ wait ++ [.tick i] ++ mid ++ [.tick j] ++ after →
    ext.isEnded (run (step ext) s₀ before).planner →
    ObservesTakeOff (run (step ext) s₀ (before ++ wait)) i →
    StartsSearch ext (run (step ext) s₀ (before ++ wait ++ [.tick i] ++ mid)) j →
    ∃ js, before <+: js ∧ js <+: before ++ wait ++ [.tick i] ++ mid ∧ ¬ ext.isEnded (run (step ext) s₀ js).planner

/-- **Runs reset on take-off** if every take-off that is observed with an ended planner reaches the reset. -/
theorem reset_on_take_off (hreset : ∀ p, ¬ ext.isEnded (ext.reset p)) (boot : Boot) (is : List (MissionInput E))
    (hmeets : Meets (step ext) (TakeOffReachesReset ext) (initial ext boot) is) :
    ResetOnTakeOff ext (initial ext boot) is := by
  rintro before wait i mid j after rfl - hobserves -
  by_cases hended : ext.isEnded (run (step ext) (initial ext boot) (before ++ wait)).planner
  · have htick : Meets (step ext) (TakeOffReachesReset ext) (initial ext boot) (before ++ wait ++ [.tick i]) := by
      refine meets_prefixes hmeets ⟨mid ++ [.tick j] ++ after, ?_⟩
      simp
    have hreaches := (meets_concat.mp htick).2 hobserves hended
    refine ⟨before ++ wait ++ [.tick i], ⟨wait ++ [.tick i], by simp⟩, ⟨mid, rfl⟩, ?_⟩
    rw [run_concat]
    exact not_isEnded_of_reachesReset hreset hobserves hreaches
  · exact ⟨before ++ wait, ⟨wait, rfl⟩, ⟨[.tick i] ++ mid, by simp⟩, hended⟩

/-- An iteration of a search, `now` nanoseconds after the start. -/
def missionTick (now : ℤ) : TickInput Bool := { tickOver .canNotLand (safeLandingBy "LANDING_SITE_SEARCH") with now }

/-- A search in the middle of a mission, ended by the touchdown. -/
def landedRun : List (MissionInput Bool) :=
  [.gpsGlobalOrigin (.success 1 1 0), .flightMode .mission, .landedState .landing, .trajectory zeroTrajectory,
    .tick (missionTick 0), .landedState .onGround, .tick (missionTick 1)]

/-- The iteration that observes the next take-off, `rosNow` nanoseconds after the last message. -/
def takeOffTick (rosNow : ℤ) : TickInput Bool := { missionTick 5000000001 with rosNow }

/-- The next landing of the mission. -/
def nextLanding (rosNow : ℤ) : List (MissionInput Bool) :=
  [.trajectory { zeroTrajectory with rosNow }, .landedState .landing]

/-- The iteration that starts the second search. -/
def secondStart (rosNow : ℤ) : TickInput Bool := { missionTick 5000000002 with rosNow }

theorem phasePlanner_reset_not_isEnded (p : Phase) : ¬ phasePlanner.isEnded (phasePlanner.reset p) :=
  Bool.false_ne_true

/-- With recent messages the planner is reset before the second search. -/
theorem reset_on_take_off_second :
    let s := run (step phasePlanner) (initial phasePlanner zeroBoot) (landedRun ++ [.landedState .takingOff])
    phasePlanner.isEnded s.planner ∧ ObservesTakeOff s (takeOffTick 0) ∧
      ResetOnTakeOff phasePlanner (initial phasePlanner zeroBoot)
        (landedRun ++ [.landedState .takingOff] ++ [.tick (takeOffTick 0)] ++ nextLanding 0 ++
          [.tick (secondStart 0)] ++ []) :=
  ⟨by decide +kernel, by decide +kernel,
    reset_on_take_off phasePlanner_reset_not_isEnded zeroBoot _ (by decide +kernel)⟩

/-- Half a second after the last message the take-off is observed in the early return, and the second search starts on
an ended planner. -/
theorem second_search_without_reset : ¬ ResetOnTakeOff phasePlanner (initial phasePlanner zeroBoot)
    (landedRun ++ [.landedState .takingOff] ++ [.tick (takeOffTick 500000000)] ++ nextLanding 500000000 ++
      [.tick (secondStart 500000000)] ++ []) := by
  intro h
  obtain ⟨js, ⟨rest, rfl⟩, hrest, hreset⟩ := h landedRun [.landedState .takingOff] (takeOffTick 500000000)
    (nextLanding 500000000) (secondStart 500000000) [] rfl (by decide +kernel) (by decide +kernel) (by decide +kernel)
  rw [List.append_assoc, List.append_assoc, List.prefix_append_right_inj] at hrest
  have hlength : rest.length < 5 := Nat.lt_succ_of_le hrest.length_le
  have hended : ∀ n < 5, phasePlanner.isEnded (run (step phasePlanner) (initial phasePlanner zeroBoot) (landedRun ++
      ([MissionInput.landedState .takingOff] ++ ([MissionInput.tick (takeOffTick 500000000)] ++
        nextLanding 500000000)).take n)).planner := by
    decide +kernel
  rw [List.prefix_iff_eq_take.mp hrest] at hreset
  exact hreset (hended rest.length hlength)

end MissionManager

end AutopilotManager
