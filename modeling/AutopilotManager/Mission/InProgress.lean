import AutopilotManager.Mission.Planner
import AutopilotManager.Mission.Unwritten

/-!
# Mission.InProgress — the mark of a running search

While a search is active an action should be in progress: this is what keeps the two handlers from starting another.
Every iteration that processes the search renews the time of the last action.  An iteration that goes past
`handle_safe_landing` does not, and clears the mark when five seconds have passed.
-/

namespace AutopilotManager

open Lib

namespace MissionManager

variable {P E : Type} {ext : Externals P E} {i : TickInput E} {s s' s'' : MissionManager P}

/-- An active search is marked as an action in progress. -/
def Marked (ext : Externals P E) (s : MissionManager P) : Prop := ext.isActive s.planner → s.actionInProgress

/-- Five seconds have passed since the last action, in whole milliseconds. -/
def timedOut (now : ℤ) (s : MissionManager P) : Bool := 5000 ≤ (now - s.lastTime).tdiv 1000000

/-- An iteration that makes another decision while a search is active comes within five seconds of the last action. -/
def InTime (ext : Externals P E) (s : MissionManager P) : MissionInput E → Prop
  | .tick i => ext.isActive s.planner → i.config.autopilotManagerEnabled ≠ 0 →
      i.config.decisionMakerInputType ≠ "SAFE_LANDING" → ¬ s.timedOut i.now
  | _ => True

instance (ext : Externals P E) (s : MissionManager P) (input : MissionInput E) : Decidable (s.InTime ext input) :=
  match input with
  | .tick i => inferInstanceAs (Decidable (ext.isActive s.planner → i.config.autopilotManagerEnabled ≠ 0 →
      i.config.decisionMakerInputType ≠ "SAFE_LANDING" → ¬ s.timedOut i.now))
  | .flightMode _ | .landedState _ | .position .. | .positionVelocity .. | .attitude _ | .gpsGlobalOrigin _
  | .trajectory _ => .isTrue trivial

/-! ### The mark in the parts of an iteration -/

theorem actionInProgress_beginTick (s : MissionManager P) : (s.beginTick i).actionInProgress = s.actionInProgress := by
  rw [beginTick_eq]

/-- Processing an active search leaves the mark and renews the time. -/
theorem processActiveActions_of_active (hactive : ext.isActive s.planner) :
    (s.processActiveActions ext i).actionInProgress = s.actionInProgress ∧
      (s.processActiveActions ext i).lastTime = i.now := by
  refine ⟨uncalled_actionInProgress.processActiveActions s, ?_⟩
  unfold processActiveActions
  simp only [hactive, if_true]

/-- Whatever the trigger starts is marked. -/
theorem triggerSafeLanding_marked (hs : Marked ext s) : Marked ext (s.triggerSafeLanding ext i) := by
  cases triggerSafeLanding_trigger ext i s with
  | unhealthy free triggered unhealthy result => exact fun _ => by rw [result]; rfl
  | action free triggered takes result => exact fun _ => by rw [result]; rfl
  | none takes result =>
    rw [result]
    exact hs

/-- A marked action keeps the trigger from starting another. -/
theorem triggerSafeLanding_of_inProgress (hmark : s.actionInProgress) : s.triggerSafeLanding ext i = s := by
  unfold triggerSafeLanding
  rw [hmark, Bool.not_true, Bool.false_and, if_neg Bool.false_ne_true]

theorem handleSimpleCollisionAvoidance_of_inProgress (hmark : s.actionInProgress) :
    s.handleSimpleCollisionAvoidance i = s := by
  rcases handleSimpleCollisionAvoidance_cases i s with ⟨hfree, -⟩ | hresult
  · exact absurd hmark hfree
  · exact hresult

/-! ### The timeout -/

theorem actionTimeout_of_timedOut {now : ℤ} (hlate : s.timedOut now) :
    (s.actionTimeout now).actionInProgress = false := by
  have hpast : 5000 ≤ (now - s.lastTime).tdiv 1000000 := of_decide_eq_true hlate
  unfold actionTimeout
  cases hmark : s.actionInProgress with
  | false =>
    rw [Bool.false_and, if_neg Bool.false_ne_true]
    exact hmark
  | true => rw [Bool.true_and, if_pos (by simpa using hpast)]

theorem actionTimeout_of_not_timedOut {now : ℤ} (hintime : ¬ s.timedOut now) : s.actionTimeout now = s := by
  have hpast : ¬ 5000 ≤ (now - s.lastTime).tdiv 1000000 := fun h => hintime (decide_eq_true h)
  unfold actionTimeout
  rw [decide_eq_false hpast, Bool.and_false, if_neg Bool.false_ne_true]

/-- The time of an action that has just been renewed has not passed. -/
theorem not_timedOut_self {now : ℤ} (htime : s.lastTime = now) : ¬ s.timedOut now := by
  unfold timedOut
  rw [htime, sub_self]
  decide

/-- The timeout clears the mark of an active search. -/
theorem actionTimeout_marked_iff {now : ℤ} (hactive : ext.isActive s.planner) (hmark : s.actionInProgress) :
    ¬ s.timedOut now ↔ Marked ext (s.actionTimeout now) := by
  constructor
  · intro hintime
    rw [actionTimeout_of_not_timedOut hintime]
    exact fun _ => hmark
  · intro hmarked hlate
    have hstill : ext.isActive (s.actionTimeout now).planner := by
      rw [(quiet_actionTimeout now s).planner]
      exact hactive
    have hcleared := hmarked hstill
    rw [actionTimeout_of_timedOut hlate] at hcleared
    exact Bool.false_ne_true hcleared

theorem actionInProgress_afterHandler (htime : s.lastTime = i.now) :
    (s.afterHandler i).actionInProgress = s.actionInProgress := by
  have hintime : ¬ timedOut i.now { s with isHealthy := s.obstacleAvoidanceEnabled || s.underManualControl } :=
    not_timedOut_self htime
  unfold afterHandler
  rw [actionTimeout_of_not_timedOut hintime]

/-! ### One step -/

theorem decisionMakerRun_of_disabled (hdisabled : i.config.autopilotManagerEnabled = 0) (s : MissionManager P) :
    s.decisionMakerRun ext i = { s with config := i.config } := by
  unfold decisionMakerRun
  dsimp only
  rw [if_neg (not_not.mpr hdisabled)]

/-- While an action is in progress, an iteration that makes another decision only looks at the time. -/
theorem decisionMakerRun_of_other (henabled : i.config.autopilotManagerEnabled ≠ 0)
    (hother : i.config.decisionMakerInputType ≠ "SAFE_LANDING") (hmark : s.actionInProgress) :
    s.decisionMakerRun ext i = actionTimeout i.now { s with config := i.config } := by
  unfold decisionMakerRun makeDecision
  dsimp only
  rw [if_pos henabled, if_neg hother]
  split_ifs
  · rw [handleSimpleCollisionAvoidance_of_inProgress (s := { s with config := i.config }) hmark]
  · rfl

section LifeCycle

variable (hext : ext.LifeCycle)
include hext

/-- A search that is active after `handle_safe_landing` has been processed in it. -/
theorem Handled.renewed (h : Handled ext i s s') (hs : Marked ext s) (hactive : ext.isActive s'.planner) :
    s'.actionInProgress ∧ s'.lastTime = i.now := by
  cases h with
  | disabled off active ended planner =>
    rw [planner] at hactive
    exact absurd hactive (hext.ended _ (hext.endSearch _))
  | skipped off inactive same => exact absurd (same ▸ hactive) inactive
  | processed on avoidance process =>
    rw [process] at hactive ⊢
    by_cases hmid : ext.isActive (s.triggerSafeLanding ext i).planner
    · obtain ⟨hmark, htime⟩ := processActiveActions_of_active (i := i) hmid
      exact ⟨hmark.trans (triggerSafeLanding_marked hs hmid), htime⟩
    · exact absurd hactive (processActiveActions_idle hext.reset hmid).1

theorem decisionMakerRun_marked_of_calls (hs : Marked ext s) (hcalls : ¬ i.bypasses) :
    Marked ext (s.decisionMakerRun ext i) := by
  have hbegin := apart_beginTick (i := i) s
  have hmarked : Marked ext (s.beginTick i) :=
    fun h => (actionInProgress_beginTick s).trans (hs (hbegin.planner ▸ h))
  intro hactive
  rw [decisionMakerRun_of_calls ext hcalls] at hactive ⊢
  rw [(quiet_afterHandler _).planner] at hactive
  obtain ⟨hprogress, htime⟩ := (handleSafeLanding_cases { s with config := i.config }).renewed hext hmarked hactive
  rw [actionInProgress_afterHandler htime]
  exact hprogress

/-- An iteration keeps an active search marked exactly when it comes in time. -/
theorem decisionMakerRun_marked_iff (hs : Marked ext s) :
    s.InTime ext (.tick i) ↔ Marked ext (s.decisionMakerRun ext i) := by
  by_cases hactive : ext.isActive s.planner
  · have hmark := hs hactive
    by_cases henabled : i.config.autopilotManagerEnabled = 0
    · rw [decisionMakerRun_of_disabled henabled]
      exact iff_of_true (fun _ h => absurd henabled h) hs
    · by_cases hother : i.config.decisionMakerInputType = "SAFE_LANDING"
      · have hcalls : ¬ i.bypasses := fun h => h.elim henabled fun h => h hother
        exact iff_of_true (fun _ _ h => absurd hother h) (decisionMakerRun_marked_of_calls hext hs hcalls)
      · rw [decisionMakerRun_of_other henabled hother hmark]
        rw [← actionTimeout_marked_iff (s := { s with config := i.config }) hactive hmark]
        exact ⟨fun hintime => hintime hactive henabled hother, fun hintime _ _ _ => hintime⟩
  · refine iff_of_true (fun h => absurd h hactive) ?_
    by_cases hbypass : i.bypasses
    · intro h
      cases decisionMakerRun_cases ext i s with
      | bypassed bypasses quiet => exact absurd (quiet.planner ▸ h) hactive
      | handled calls handled quiet => exact absurd hbypass calls
    · exact decisionMakerRun_marked_of_calls hext hs hbypass

theorem step_marked_iff (hs : Marked ext s) (input : MissionInput E) :
    s.InTime ext input ↔ Marked ext (step ext s input) := by
  by_cases htick : ∃ i, input = .tick i
  · obtain ⟨i, rfl⟩ := htick
    exact decisionMakerRun_marked_iff hext hs
  · have hintime : s.InTime ext input := by
      cases input with
      | tick i => exact absurd ⟨i, rfl⟩ htick
      | _ => trivial
    -- a callback leaves the mark, and no callback starts a search
    have hmark : (step ext s input).actionInProgress = s.actionInProgress :=
      uncalled_actionInProgress.step_of_untimed (fun _ _ => rfl) s fun i hi => htick ⟨i, hi⟩
    refine iff_of_true hintime fun hactive => ?_
    rw [hmark]
    rcases step_cases ext s input with h | ⟨mode, rfl⟩ | hcallback
    · exact absurd h htick
    · cases flightModeCallback_cases ext mode s with
      | kept planner override ends manual => exact hs (planner ▸ hactive)
      | reset planner override ends inactive => exact absurd (planner ▸ hactive) (hext.reset _)
      | ended planner unset ends active => exact absurd (planner ▸ hactive) (hext.reset _)
    · exact hs (hcallback.planner ▸ hactive)

end LifeCycle

/-! ### Every run -/

/-- An active search is marked, no step starts another, and neither handler triggers an action. -/
structure SearchProtected (ext : Externals P E) (s : MissionManager P) : Prop where
  marked : ext.isActive s.planner → s.actionInProgress
  starts : ext.isActive s.planner → ∀ input, (step ext s input).searchesStarted = s.searchesStarted
  noSafeLand : ext.isActive s.planner → ∀ i : TickInput E,
    (s.beginTick i).triggerSafeLanding ext i = s.beginTick i
  collision : ext.isActive s.planner → ∀ i : TickInput E,
    handleSimpleCollisionAvoidance i { s with config := i.config } = { s with config := i.config }

theorem Handled.starts_of_inProgress (h : Handled ext i s s') (hmark : s.actionInProgress) :
    s'.searchesStarted = s.searchesStarted := by
  cases h with
  | disabled off active ended planner => exact ended.starts
  | skipped off inactive same => rw [same]
  | processed on avoidance process =>
    rw [process, triggerSafeLanding_of_inProgress hmark]
    obtain ⟨ended, heffect⟩ := effect_processActiveActions ext i s
    exact heffect.starts

theorem step_starts_of_inProgress (hmark : s.actionInProgress) (input : MissionInput E) :
    (step ext s input).searchesStarted = s.searchesStarted := by
  rcases step_cases ext s input with ⟨i, rfl⟩ | ⟨mode, rfl⟩ | hcallback
  · cases decisionMakerRun_cases ext i s with
    | bypassed bypasses quiet => exact quiet.starts
    | handled calls handled quiet =>
      have hbegin : (s.beginTick i).actionInProgress := (actionInProgress_beginTick s).trans hmark
      exact quiet.starts.trans ((handled.starts_of_inProgress hbegin).trans (apart_beginTick s).starts)
  · exact (flightModeCallback_effect ext mode s).2.1
  · exact hcallback.apart.starts

theorem Marked.protected (hs : Marked ext s) : SearchProtected ext s where
  marked := hs
  starts hactive := step_starts_of_inProgress (hs hactive)
  noSafeLand hactive _ := triggerSafeLanding_of_inProgress ((actionInProgress_beginTick s).trans (hs hactive))
  collision hactive i := handleSimpleCollisionAvoidance_of_inProgress (s := { s with config := i.config }) (hs hactive)

/-- **A running search is not restarted or overridden** all along a run if and only if every iteration that makes
another decision while a search is active comes within five seconds of the last action. -/
theorem search_protected_iff (hext : ext.LifeCycle) (boot : Boot) (is : List (MissionInput E)) :
    Meets (step ext) (InTime ext) (initial ext boot) is ↔
      ∀ js, js <+: is → SearchProtected ext (run (step ext) (initial ext boot) js) := by
  have hinitial : Marked ext (initial ext boot) := fun h => absurd h hext.initial
  have hmarked : Meets (step ext) (InTime ext) (initial ext boot) is ↔
      ∀ js, js <+: is → Marked ext (run (step ext) (initial ext boot) js) :=
    meets_iff_prefixes (Marked ext) (fun _ input hs => step_marked_iff hext hs input) hinitial
  rw [hmarked]
  exact ⟨fun h js hjs => (h js hjs).protected, fun h js hjs => (h js hjs).marked⟩

/-- An iteration of the other decision maker, `now` nanoseconds after the start. -/
def otherTick (now : ℤ) : TickInput Bool :=
  { tickOver .canLand { autopilotManagerEnabled := 1, decisionMakerInputType := "SIMPLE_COLLISION_AVOIDANCE" } with now }

/-- Less than five seconds after the start of the search. -/
theorem search_protected_inTime :
    SearchProtected phasePlanner (run (step phasePlanner) (initial phasePlanner zeroBoot)
      (searchRun ++ [.tick (otherTick 4999999999)])) :=
  (search_protected_iff phasePlanner_lifeCycle zeroBoot (searchRun ++ [.tick (otherTick 4999999999)])).mp
    (by decide +kernel) _ (List.prefix_refl _)

/-- Five seconds after its start the mark of the search is cleared, and the search is started again. -/
theorem search_restarted :
    ¬ ∀ (boot : Boot) (is : List (MissionInput Bool)),
      SearchProtected phasePlanner (run (step phasePlanner) (initial phasePlanner boot) is) := by
  intro h
  have hactive : phasePlanner.isActive
      (run (step phasePlanner) (initial phasePlanner zeroBoot) (searchRun ++ [.tick (otherTick 5000000000)])).planner := by
    decide +kernel
  have hstarts := (h zeroBoot (searchRun ++ [.tick (otherTick 5000000000)])).starts hactive
    (.tick { tickOver .canNotLand (safeLandingBy "LANDING_SITE_SEARCH") with now := 5000000000 })
  exact absurd hstarts (by decide +kernel)

end MissionManager

end AutopilotManager
