import AutopilotManager.Mission.Waypoint
import AutopilotManager.System.Basic

/-!
# System.Verdict — what the landing state is worth to a landing

Two ways in which a landing proceeds on a state that says nothing about the ground below: the height that has never
been measured counts as near the ground, and the state of an earlier period is used when avoidance comes back.
-/

namespace AutopilotManager

open Lib

namespace MissionManager

variable {P E : Type} {ext : Externals P E} {i : TickInput E} {s s' s'' : MissionManager P}

/-- The handler has a landing to judge: safe landing and avoidance are on, and a landing is triggered with no action
in progress. -/
structure JudgesLanding (i : TickInput E) (s : MissionManager P) : Prop where
  calls : ¬ i.bypasses
  enabled : i.config.safeLandingEnabled ≠ 0
  avoidance : s.recentTrajectory i.rosNow
  free : ¬ s.actionInProgress
  triggered : s.landingTriggered

/-! ### A module with nothing to do -/

/-- There is no search and no waypoint. -/
structure Idle (ext : Externals P E) (s : MissionManager P) : Prop where
  inactive : ¬ ext.isActive s.planner
  notPending : ¬ s.waypointPending

theorem Idle.of_keeps (h : Idle ext s) (hplanner : s'.planner = s.planner) (hkeeps : Keeps s s') : Idle ext s' where
  inactive := by
    rw [hplanner]
    exact h.inactive
  notPending := by
    rw [hkeeps.pending]
    exact h.notPending

/-- Nothing is sent or started from `s` to `s'`, and no action begins. -/
structure Silent (s s' : MissionManager P) : Prop where
  log : s'.log = s.log
  action : s'.actionInProgress → s.actionInProgress

theorem Silent.trans (h : Silent s s') (h' : Silent s' s'') : Silent s s'' where
  log := h'.log.trans h.log
  action := h.action ∘ h'.action

theorem silent_beginTick (s : MissionManager P) : Silent s (s.beginTick i) := by
  rw [beginTick_eq]
  exact ⟨rfl, id⟩

theorem triggerSafeLanding_eq_self (hunhealthy : ¬ unhealthyAndAbove i) (hshould : ¬ shouldTriggerSafeLanding i)
    (s : MissionManager P) : s.triggerSafeLanding ext i = s := by
  cases triggerSafeLanding_trigger ext i s with
  | unhealthy free triggered unhealthy result => exact absurd unhealthy hunhealthy
  | action free triggered takes result =>
    unfold takesAction at takes
    exact absurd (Bool.and_eq_true_iff.mp takes).2 hshould
  | none takes result => exact result

theorem processActiveActions_eq (hs : Idle ext s) :
    s.processActiveActions ext i = s ∨ s.processActiveActions ext i = { s with planner := ext.reset s.planner } := by
  have hpending : s.waypointPending = false := by simpa using hs.notPending
  unfold processActiveActions
  dsimp only
  rw [if_neg hs.inactive, hpending]
  simp only [Bool.false_and, Bool.false_eq_true, if_false]
  split_ifs
  · exact .inr rfl
  · exact .inl rfl

theorem keeps_onObstacle (s : MissionManager P) : Keeps s s.onObstacle := by
  unfold onObstacle
  dsimp only
  split_ifs <;>
    first | exact keeps_hold s | exact keeps_returnToLaunch s | exact ⟨⟨rfl, rfl, rfl⟩, rfl⟩

theorem keeps_handleSimpleCollisionAvoidance (s : MissionManager P) : Keeps s (s.handleSimpleCollisionAvoidance i) := by
  rcases handleSimpleCollisionAvoidance_cases i s with ⟨-, hresult⟩ | hresult
  · rw [hresult]
    exact (keeps_onObstacle s).trans (steady_actionTriggered ..).toKeeps
  · rw [hresult]
    exact (Steady.refl s).toKeeps

theorem keeps_bypass (hbypass : i.bypasses) (s : MissionManager P) : Keeps s (s.decisionMakerRun ext i) := by
  refine (steady_config i.config s).toKeeps.trans ?_
  cases decisionMakerRun_of_bypasses ext hbypass s with
  | disabled result => exact result ▸ (Steady.refl _).toKeeps
  | avoidance enabled result =>
    rw [result]
    exact (keeps_handleSimpleCollisionAvoidance _).trans (steady_actionTimeout ..).toKeeps
  | undecided enabled result => exact result ▸ (steady_actionTimeout ..).toKeeps

/-- What follows the handler begins no action. -/
theorem silent_afterHandler (s : MissionManager P) : Silent s (s.afterHandler i) := by
  unfold afterHandler actionTimeout
  split_ifs
  · exact ⟨rfl, fun h => absurd h Bool.false_ne_true⟩
  · exact ⟨rfl, id⟩

section Reset

variable (hreset : ∀ p, ¬ ext.isActive (ext.reset p))
include hreset

/-- The handler does nothing with nothing to do. -/
theorem handleSafeLanding_idle (hunhealthy : ¬ unhealthyAndAbove i) (hshould : ¬ shouldTriggerSafeLanding i)
    (hs : Idle ext (s.updateObstacleAvoidanceStatus i.rosNow)) :
    Idle ext (s.handleSafeLanding ext i) ∧
      Silent (s.updateObstacleAvoidanceStatus i.rosNow) (s.handleSafeLanding ext i) := by
  unfold handleSafeLanding
  generalize s.updateObstacleAvoidanceStatus i.rosNow = s at hs ⊢
  dsimp only
  rw [if_neg hs.inactive, triggerSafeLanding_eq_self hunhealthy hshould]
  split_ifs
  · exact ⟨hs, rfl, id⟩
  · rcases processActiveActions_eq (i := i) hs with hsame | hplanner
    · rw [hsame]
      exact ⟨hs, rfl, id⟩
    · rw [hplanner]
      exact ⟨⟨hreset _, hs.notPending⟩, rfl, id⟩

theorem decisionMakerRun_idle (hunhealthy : ¬ unhealthyAndAbove i) (hshould : ¬ shouldTriggerSafeLanding i)
    (hs : Idle ext s) :
    Idle ext (s.decisionMakerRun ext i) ∧ (¬ i.bypasses → Silent s (s.decisionMakerRun ext i)) := by
  by_cases hbypass : i.bypasses
  · refine ⟨hs.of_keeps ?_ (keeps_bypass hbypass s), fun h => absurd hbypass h⟩
    cases decisionMakerRun_cases ext i s with
    | bypassed bypasses quiet => exact quiet.planner
    | handled calls handled quiet => exact absurd hbypass calls
  · have hbegin : Idle ext (s.beginTick i) :=
      hs.of_keeps (apart_beginTick s).planner (steady_beginTick s).toKeeps
    obtain ⟨hidle, hsilent⟩ :=
      handleSafeLanding_idle (s := { s with config := i.config }) hreset hunhealthy hshould hbegin
    rw [decisionMakerRun_of_calls ext hbypass]
    exact ⟨hidle.of_keeps (quiet_afterHandler _).planner (steady_afterHandler _).toKeeps,
      fun _ => ((silent_beginTick s).trans hsilent).trans (silent_afterHandler _)⟩

theorem step_idle (hs : Idle ext s) {input : MissionInput E}
    (hinput : ∀ i, input = .tick i → ¬ unhealthyAndAbove i ∧ ¬ shouldTriggerSafeLanding i) :
    Idle ext (step ext s input) := by
  rcases step_cases ext s input with ⟨i, rfl⟩ | ⟨mode, rfl⟩ | hcallback
  · exact (decisionMakerRun_idle hreset (hinput i rfl).1 (hinput i rfl).2 hs).1
  · refine ⟨?_, (keeps_flightModeCallback mode s).pending ▸ hs.notPending⟩
    exact (flightModeCallback_cases ext mode s).planner_of_reset (Q := fun p => ¬ ext.isActive p) hs.inactive hreset
  · exact hs.of_keeps hcallback.planner hcallback.steady.toKeeps

end Reset

end MissionManager

namespace System

variable {P E : Type} {ext : Externals P E} {s : System P}

/-! ### The height before the first image -/

/-- The step is a cycle of the mapper that processes its image. -/
def ProcessesImage (s : System P) : SystemInput E → Prop
  | .mapper m => LandingManager.processesImage (landingManagerConfig s.live) m s.landing
  | _ => False

/-- Nothing has been measured, and nothing is under way. -/
structure Unmeasured (ext : Externals P E) (s : System P) : Prop where
  height : s.landing.heightAboveObstacle = 0
  state : s.landing.state = .unhealthy ∨ s.landing.state = .unknown
  idle : MissionManager.Idle ext s.mission

/-- The height that has not been measured is not above 1.5 m. -/
theorem not_isAbove_zero : ¬ MissionManager.isAbove 0 := by decide +kernel

theorem Unmeasured.no_trigger (hs : Unmeasured ext s) (i : TickInput E) :
    ¬ MissionManager.unhealthyAndAbove (s.tickInput i) ∧ ¬ MissionManager.shouldTriggerSafeLanding (s.tickInput i) := by
  have habove : MissionManager.isAbove (s.tickInput i).heightAboveObstacle = false := by
    show MissionManager.isAbove s.landing.heightAboveObstacle = false
    rw [hs.height]
    exact Bool.eq_false_iff.mpr not_isAbove_zero
  have hstate : (s.tickInput i).landingState ≠ .canNotLand := by
    show s.landing.state ≠ .canNotLand
    rcases hs.state with h | h <;> rw [h] <;> decide
  unfold MissionManager.unhealthyAndAbove MissionManager.shouldTriggerSafeLanding
  rw [habove]
  simp [hstate]

theorem step_unmeasured (hreset : ∀ p, ¬ ext.isActive (ext.reset p)) (hs : Unmeasured ext s) {input : SystemInput E}
    (hblind : ¬ s.ProcessesImage input) : Unmeasured ext (step ext s input) := by
  cases input with
  | configure live => exact ⟨hs.height, hs.state, hs.idle⟩
  | run sensorManagerHealthy =>
    obtain ⟨hmission, hstate, hheight⟩ := runOnce_frame sensorManagerHealthy s
    refine ⟨hheight.trans hs.height, ?_, ?_⟩
    · show (s.runOnce sensorManagerHealthy).landing.state = _ ∨ (s.runOnce sensorManagerHealthy).landing.state = _
      rw [hstate]
      exact hs.state
    · show MissionManager.Idle ext (s.runOnce sensorManagerHealthy).mission
      rw [hmission]
      exact hs.idle
  | mapper m =>
    cases LandingManager.mapper_cases (landingManagerConfig s.live) m s.landing with
    | measured processes state height => exact absurd processes hblind
    | blind skips writes state height => exact ⟨height.trans hs.height, state, hs.idle⟩
    | kept skips keeps state height => exact ⟨height.trans hs.height, state ▸ hs.state, hs.idle⟩
  | printStats => exact ⟨hs.height, hs.state, hs.idle⟩
  | mission input =>
    refine ⟨hs.height, hs.state, MissionManager.step_idle hreset hs.idle ?_⟩
    intro i hi
    cases input <;> simp only [missionInput, reduceCtorEq, MissionInput.tick.injEq] at hi
    rw [← hi]
    exact hs.no_trigger _

/-- The iteration has a landing to judge on the state unhealthy or unknown. -/
structure JudgesBlindly (i : TickInput E) (s : System P) : Prop where
  judges : MissionManager.JudgesLanding (s.tickInput i) s.mission
  state : s.landing.state = .unhealthy ∨ s.landing.state = .unknown

/-- The iteration intervenes: it sends or starts something, or an action is in progress after it. -/
def Intervenes (ext : Externals P E) (i : TickInput E) (s : System P) : Prop :=
  (step ext s (.mission (.tick i))).mission.log ≠ s.mission.log ∨
    (step ext s (.mission (.tick i))).mission.actionInProgress

/-- **Before the first image no landing is stopped**: in every run in which no cycle has processed an image, an
iteration that judges a landing on the state unhealthy or unknown does not intervene. -/
theorem no_intervention_before_first_image (hinitial : ¬ ext.isActive ext.initial)
    (hreset : ∀ p, ¬ ext.isActive (ext.reset p)) (live : AutopilotManagerConfig) (parameter : MapperParameter)
    (boot : Boot) (is : List (SystemInput E))
    (hblind : Meets (step ext) (fun s input => ¬ s.ProcessesImage input) (initial ext live parameter boot) is)
    (i : TickInput E) (hjudges : JudgesBlindly i (run (step ext) (initial ext live parameter boot) is)) :
    ¬ Intervenes ext i (run (step ext) (initial ext live parameter boot) is) := by
  have hstart : Unmeasured ext (initial ext live parameter boot) := by
    refine ⟨rfl, .inr rfl, ⟨hinitial, ?_⟩⟩
    show ¬ (MissionManager.initial ext boot).waypointPending
    exact Bool.false_ne_true
  have hstep : ∀ s input, Unmeasured ext s → ¬ s.ProcessesImage input → Unmeasured ext (step ext s input) :=
    fun s input hs hblind => step_unmeasured hreset hs hblind
  have hrun := hblind.invariant hstep hstart
  generalize run (step ext) (initial ext live parameter boot) is = s at hrun hjudges ⊢
  obtain ⟨hunhealthy, hshould⟩ := hrun.no_trigger i
  obtain ⟨hlog, haction⟩ :=
    (MissionManager.decisionMakerRun_idle hreset hunhealthy hshould hrun.idle).2 hjudges.judges.calls
  rintro (hlogged | hacts)
  · exact hlogged hlog
  · exact hjudges.judges.free (haction hacts)

/-! ### The age of the landing state -/

/-- The step changes the avoidance flag of the Mission Manager from disabled to enabled. -/
def TurnsOn (ext : Externals P E) (s : System P) (input : SystemInput E) : Prop :=
  ¬ s.mission.obstacleAvoidanceEnabled ∧ (step ext s input).mission.obstacleAvoidanceEnabled

/-- The step is a cycle of the mapper that writes the landing state. -/
def WritesState (s : System P) : SystemInput E → Prop
  | .mapper m => LandingManager.writesState (landingManagerConfig s.live) m s.landing
  | _ => False

/-- In the run `is` from `s₀` the landing state has been written after the avoidance flag last turned on. -/
def Fresh (ext : Externals P E) (s₀ : System P) (is : List (SystemInput E)) : Prop :=
  ∃ before write after, is = before ++ [write] ++ after ∧ WritesState (run (step ext) s₀ before) write ∧
    Meets (step ext) (fun s input => ¬ TurnsOn ext s input) (run (step ext) s₀ (before ++ [write])) after

/-- The iteration lets a landing proceed because of the landing state. -/
structure Approves (i : TickInput E) (s : System P) : Prop where
  judges : MissionManager.JudgesLanding (s.tickInput i) s.mission
  good : ¬ s.landing.state.isBad

/-- An iteration that turns avoidance on finds a landing state that allows no landing. -/
def RejectsOnReturn (s : System P) : SystemInput E → Prop
  | .mission (.tick i) => ¬ (s.tickInput i).bypasses → ¬ s.mission.obstacleAvoidanceEnabled →
      s.mission.recentTrajectory i.rosNow → s.landing.state.isBad
  | _ => True

/-- The flag after an iteration. -/
theorem avoidance_decisionMakerRun (ext : Externals P E) (i : TickInput E) (s : MissionManager P) :
    (i.bypasses → (s.decisionMakerRun ext i).obstacleAvoidanceEnabled = s.obstacleAvoidanceEnabled) ∧
      (¬ i.bypasses → (s.decisionMakerRun ext i).obstacleAvoidanceEnabled = s.recentTrajectory i.rosNow) := by
  cases MissionManager.decisionMakerRun_cases ext i s with
  | bypassed bypasses quiet => exact ⟨fun _ => quiet.avoidance, fun calls => absurd bypasses calls⟩
  | handled calls handled quiet =>
    obtain ⟨ended, started, heffect⟩ := handled.effect
    refine ⟨fun bypasses => absurd bypasses calls, fun _ => ?_⟩
    exact quiet.avoidance.trans (heffect.avoidance.trans (MissionManager.avoidance_beginTick i s))

/-- All steps but iterations leave the flag alone. -/
theorem avoidance_step (ext : Externals P E) (s : MissionManager P) (input : MissionInput E) :
    (∃ i, input = .tick i) ∨ (s.step ext input).obstacleAvoidanceEnabled = s.obstacleAvoidanceEnabled := by
  by_cases htick : ∃ i, input = .tick i
  · exact .inl htick
  · refine .inr ?_
    exact MissionManager.uncalled_obstacleAvoidanceEnabled.step_of_untimed (fun _ _ => rfl) s fun i hi => htick ⟨i, hi⟩

/-- Only an iteration that calls the handler turns the flag on, because of a recent trajectory message. -/
theorem TurnsOn.tick {input : SystemInput E} (h : TurnsOn ext s input) :
    ∃ i, input = .mission (.tick i) ∧ ¬ (s.tickInput i).bypasses ∧ s.mission.recentTrajectory i.rosNow := by
  obtain ⟨hoff, hon⟩ := h
  cases input with
  | configure live => exact absurd hon hoff
  | run sensorManagerHealthy =>
    have hsame : (step ext s (.run sensorManagerHealthy)).mission = s.mission :=
      (runOnce_frame sensorManagerHealthy s).1
    rw [hsame] at hon
    exact absurd hon hoff
  | mapper m => exact absurd hon hoff
  | printStats => exact absurd hon hoff
  | mission input =>
    rcases avoidance_step ext s.mission (s.missionInput input) with ⟨i, hi⟩ | hsame
    · cases input <;> simp only [missionInput, reduceCtorEq, MissionInput.tick.injEq] at hi
      rename_i i
      have hon' : (s.mission.decisionMakerRun ext (s.tickInput i)).obstacleAvoidanceEnabled := hon
      obtain ⟨hbypassed, hhandled⟩ := avoidance_decisionMakerRun ext (s.tickInput i) s.mission
      by_cases hbypass : (s.tickInput i).bypasses
      · rw [hbypassed hbypass] at hon'
        exact absurd hon' hoff
      · rw [hhandled hbypass] at hon'
        exact ⟨i, rfl, hbypass, hon'⟩
    · have hon' : (s.mission.step ext (s.missionInput input)).obstacleAvoidanceEnabled := hon
      rw [hsame] at hon'
      exact absurd hon' hoff

theorem fresh_iff_since {s₀ : System P} {is : List (SystemInput E)} :
    Fresh ext s₀ is ↔ Since (step ext) WritesState (TurnsOn ext) s₀ is := Iff.rfl

theorem Fresh.concat {s₀ : System P} {is : List (SystemInput E)} (h : Fresh ext s₀ is) {input : SystemInput E}
    (hinput : ¬ TurnsOn ext (run (step ext) s₀ is) input) : Fresh ext s₀ (is ++ [input]) :=
  since_concat.mpr (.inr ⟨fresh_iff_since.mp h, hinput⟩)

theorem fresh_of_write {s₀ : System P} {is : List (SystemInput E)} {input : SystemInput E}
    (hwrites : WritesState (run (step ext) s₀ is) input) : Fresh ext s₀ (is ++ [input]) :=
  fresh_iff_since.mpr (since_concat.mpr (.inl hwrites))

/-- A state is never fresh in the iteration that turns avoidance on. -/
theorem not_fresh_of_turnsOn {s₀ : System P} {is : List (SystemInput E)} {input : SystemInput E}
    (h : TurnsOn ext (run (step ext) s₀ is) input) : ¬ Fresh ext s₀ (is ++ [input]) := by
  rw [fresh_iff_since, since_concat]
  rintro (hwrites | ⟨-, hkept⟩)
  · -- an iteration does not write the state
    obtain ⟨i, rfl, -, -⟩ := h.tick
    exact hwrites
  · exact hkept h

/-- While avoidance is on, the landing state is fresh or allows no landing. -/
theorem bad_or_fresh {s₀ : System P} (hoff : ¬ s₀.mission.obstacleAvoidanceEnabled) {is : List (SystemInput E)}
    (hok : Meets (step ext) RejectsOnReturn s₀ is) (hon : (run (step ext) s₀ is).mission.obstacleAvoidanceEnabled) :
    (run (step ext) s₀ is).landing.state.isBad ∨ Fresh ext s₀ is := by
  induction is using List.reverseRecOn with
  | nil => exact absurd hon hoff
  | append_singleton is input ih =>
    rw [meets_concat] at hok
    by_cases hturns : TurnsOn ext (run (step ext) s₀ is) input
    · -- the condition: the state found is bad, and an iteration does not write it
      obtain ⟨i, rfl, hcalls, hrecent⟩ := hturns.tick
      rw [run_concat]
      exact .inl (hok.2 hcalls hturns.1 hrecent)
    · have hbefore : (run (step ext) s₀ is).mission.obstacleAvoidanceEnabled := by
        rw [run_concat] at hon
        by_contra h
        exact hturns ⟨h, hon⟩
      rcases ih hok.1 hbefore with hbad | hfresh
      · rw [run_concat]
        cases input with
        | configure live => exact .inl hbad
        | run sensorManagerHealthy =>
          refine .inl ?_
          show ((run (step ext) s₀ is).runOnce sensorManagerHealthy).landing.state.isBad
          rw [(runOnce_frame sensorManagerHealthy _).2.1]
          exact hbad
        | mapper m =>
          cases LandingManager.mapper_cases (landingManagerConfig (run (step ext) s₀ is).live) m
            (run (step ext) s₀ is).landing with
          | measured processes state height =>
            exact .inr (fresh_of_write (LandingManager.writesState_of_processesImage processes))
          | blind skips writes state height => exact .inr (fresh_of_write writes)
          | kept skips keeps state height =>
            refine .inl ?_
            show ((run (step ext) s₀ is).landing.mapper _ m).state.isBad
            rw [state]
            exact hbad
        | printStats => exact .inl hbad
        | mission input => exact .inl hbad
      · exact .inr (hfresh.concat hturns)

/-- **Approvals are fresh**: in every run in which avoidance is turned on only over a landing state that allows no
landing, an iteration that approves a landing uses a state written since then. -/
theorem approvals_fresh (live : AutopilotManagerConfig) (parameter : MapperParameter) (boot : Boot)
    (is : List (SystemInput E)) (i : TickInput E)
    (hok : Meets (step ext) RejectsOnReturn (initial ext live parameter boot) (is ++ [.mission (.tick i)]))
    (happroves : Approves i (run (step ext) (initial ext live parameter boot) is)) :
    Fresh ext (initial ext live parameter boot) (is ++ [.mission (.tick i)]) := by
  rw [meets_concat] at hok
  have hturns : ¬ TurnsOn ext (run (step ext) (initial ext live parameter boot) is) (.mission (.tick i)) :=
    fun h => happroves.good (hok.2 happroves.judges.calls h.1 happroves.judges.avoidance)
  have hon : (run (step ext) (initial ext live parameter boot) is).mission.obstacleAvoidanceEnabled := by
    by_contra h
    exact happroves.good (hok.2 happroves.judges.calls h happroves.judges.avoidance)
  have hoff : ¬ (initial ext live parameter boot).mission.obstacleAvoidanceEnabled := Bool.false_ne_true
  rcases bad_or_fresh hoff hok.1 hon with hbad | hfresh
  · exact absurd hbad happroves.good
  · exact hfresh.concat hturns

/-! ### Runs -/

/-- Safe landing by holding, as the live configuration. -/
def holdLive : AutopilotManagerConfig :=
  { autopilotManagerEnabled := 1, decisionMakerInputType := "SAFE_LANDING", safeLandingEnabled := 1,
    safeLandingOnNoSafeLand := "HOLD" }

def holdSystem : System Phase := initial phasePlanner holdLive {} MissionManager.zeroBoot

/-- A trajectory message and an iteration at the time `t`. -/
def messageAt (t : ℤ) : SystemInput Bool := .mission (.trajectory { MissionManager.zeroTrajectory with rosNow := t })
def tickAt (t : ℤ) : TickInput Bool := { MissionManager.tickOver .unknown {} with now := t, rosNow := t }

/-- The Landing Manager learns that avoidance is on and gets six times no image. -/
def noImageRun : List (SystemInput Bool) :=
  [messageAt 0, .mission (.tick (tickAt 0)), .run true] ++ List.replicate 6 (.mapper ⟨none, .canLand, 0⟩) ++
    [.mission (.flightMode .land)]

theorem judges_unhealthy :
    JudgesBlindly (tickAt 0) (run (step phasePlanner) holdSystem noImageRun) ∧
      (run (step phasePlanner) holdSystem noImageRun).landing.state = .unhealthy := by
  refine ⟨⟨⟨?_, by decide +kernel, by decide +kernel, by decide +kernel, by decide +kernel⟩, by decide +kernel⟩,
    by decide +kernel⟩
  unfold TickInput.bypasses
  decide +kernel

theorem no_intervention_before_first_image_unhealthy :
    ¬ Intervenes phasePlanner (tickAt 0) (run (step phasePlanner) holdSystem noImageRun) := by
  have hnull : ∀ s : System Phase, ¬ s.ProcessesImage (.mapper (E := Bool) ⟨none, .canLand, 0⟩) :=
    fun s => LandingManager.not_processesImage_of_none rfl s.landing
  refine no_intervention_before_first_image phasePlanner_lifeCycle.initial phasePlanner_lifeCycle.reset holdLive {}
    MissionManager.zeroBoot noImageRun ?_ (tickAt 0) judges_unhealthy.1
  exact ⟨id, id, id, hnull _, hnull _, hnull _, hnull _, hnull _, hnull _, id, trivial⟩

/-- A landing is triggered before the first image: nothing is known about the ground, and nothing is done. -/
theorem landing_on_unknown_ground :
    JudgesBlindly (tickAt 0) (run (step phasePlanner) holdSystem [.mission (.flightMode .land), messageAt 0]) ∧
      ¬ Intervenes phasePlanner (tickAt 0)
        (run (step phasePlanner) holdSystem [.mission (.flightMode .land), messageAt 0]) := by
  refine ⟨⟨⟨?_, by decide +kernel, by decide +kernel, by decide +kernel, by decide +kernel⟩, by decide +kernel⟩, ?_⟩
  · unfold TickInput.bypasses
    decide +kernel
  · unfold Intervenes
    decide +kernel

/-- The mapper finds good ground while avoidance is on. -/
def goodGroundRun : List (SystemInput Bool) :=
  [messageAt 0, .mission (.tick (tickAt 0)), .run true, .mapper ⟨some ⟨1, 1⟩, .canLand, 10⟩]

theorem approvals_fresh_goodGround :
    Fresh phasePlanner holdSystem
      (goodGroundRun ++ [.mission (.flightMode .land)] ++ [.mission (.tick (tickAt 0))]) := by
  refine approvals_fresh holdLive {} MissionManager.zeroBoot (goodGroundRun ++ [.mission (.flightMode .land)])
    (tickAt 0) ?_ ?_
  · refine ⟨trivial, fun _ _ _ => rfl, trivial, trivial, trivial, fun _ hoff _ => ?_, trivial⟩
    exact absurd (by decide +kernel) hoff
  · refine ⟨⟨?_, by decide +kernel, by decide +kernel, by decide +kernel, by decide +kernel⟩, by decide +kernel⟩
    unfold TickInput.bypasses
    decide +kernel

/-- Avoidance is lost over good ground, and comes back two seconds later with a landing. -/
def returnRun : List (SystemInput Bool) :=
  goodGroundRun ++ [.mission (.tick (tickAt 1000000000)), .mission (.flightMode .land), messageAt 2000000000]

theorem stale_state_approves :
    Approves (tickAt 2000000000) (run (step phasePlanner) holdSystem returnRun) ∧
      ¬ Fresh phasePlanner holdSystem (returnRun ++ [.mission (.tick (tickAt 2000000000))]) := by
  refine ⟨⟨⟨?_, by decide +kernel, by decide +kernel, by decide +kernel, by decide +kernel⟩, by decide +kernel⟩, ?_⟩
  · unfold TickInput.bypasses
    decide +kernel
  · refine not_fresh_of_turnsOn ⟨by decide +kernel, by decide +kernel⟩

end System

end AutopilotManager
