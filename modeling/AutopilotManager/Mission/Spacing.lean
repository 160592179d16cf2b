import AutopilotManager.Mission.InProgress

/-!
# Mission.Spacing — the time between two actions

Both handlers start an action only while none is in progress, mark it and note its time; only the timeout at the end of an
iteration takes the mark away.  The note may be renewed by a search, so what a run keeps is one-sided: the noted
time is not before the last action, and without the mark five seconds have passed since then.
-/

namespace AutopilotManager

open Lib

namespace MissionManager

variable {P E : Type} {ext : Externals P E} {i : TickInput E} {s s' s'' : MissionManager P} {t now : ℤ}

/-! ### The time of the last action -/

/-- A callback does not write the time. -/
theorem lastTime_step_of_callback (s : MissionManager P) {input : MissionInput E} (htick : ∀ i, input ≠ .tick i) :
    (step ext s input).lastTime = s.lastTime := by
  exact unheard_lastTime.step_of_untimed (fun _ _ => rfl) (fun _ _ => rfl) s htick

/-! ### What a decision does to the mark and the time -/

/-- From `s` to `s'` at the clock reading `now`: the mark stays and the time may be renewed, or an action is triggered. -/
inductive Decided (now : ℤ) (s s' : MissionManager P) : Prop
  | kept (mark : s'.actionInProgress = s.actionInProgress) (time : s'.lastTime = s.lastTime ∨ s'.lastTime = now)
  | triggered (free : ¬ s.actionInProgress) (mark : s'.actionInProgress) (time : s'.lastTime = now)

theorem decided_of_eq (h : s' = s) : Decided now s s' := h ▸ .kept rfl (.inl rfl)

/-- What comes after the trigger leaves the mark. -/
theorem Decided.trans_kept (h : Decided now s s') (hmark : s''.actionInProgress = s'.actionInProgress)
    (htime : s''.lastTime = s'.lastTime ∨ s''.lastTime = now) : Decided now s s'' := by
  cases h with
  | kept mark time =>
    refine .kept (hmark.trans mark) ?_
    rcases htime with htime | htime
    · rw [htime]
      exact time
    · exact .inr htime
  | triggered free mark time =>
    refine .triggered free (hmark ▸ mark) ?_
    rcases htime with htime | htime
    · exact htime.trans time
    · exact htime

theorem decided_triggerSafeLanding (ext : Externals P E) (i : TickInput E) (s : MissionManager P) :
    Decided i.now s (s.triggerSafeLanding ext i) := by
  cases triggerSafeLanding_trigger ext i s with
  | unhealthy free triggered unhealthy result => exact .triggered free (by rw [result]; rfl) (by rw [result]; rfl)
  | action free triggered takes result => exact .triggered free (by rw [result]; rfl) (by rw [result]; rfl)
  | none takes result => exact decided_of_eq result

/-- Processing the active actions renews the time during a search and leaves it else. -/
theorem lastTime_processActiveActions (s : MissionManager P) :
    (s.processActiveActions ext i).lastTime = s.lastTime ∨ (s.processActiveActions ext i).lastTime = i.now := by
  by_cases hactive : ext.isActive s.planner
  · exact .inr (processActiveActions_of_active hactive).2
  · refine .inl ?_
    unfold processActiveActions
    dsimp only
    rw [if_neg hactive]
    split_ifs
    · rfl
    · exact unheard_lastTime.landAtWaypoint s
    · rfl

theorem decided_handleSafeLanding (s : MissionManager P) : Decided i.now s (s.handleSafeLanding ext i) := by
  have hmark : Unacted (fun s : MissionManager P => s.actionInProgress) := uncalled_actionInProgress.toUnacted
  have hstatus : Decided i.now s (s.updateObstacleAvoidanceStatus i.rosNow) := by
    unfold updateObstacleAvoidanceStatus
    split_ifs
    · exact .kept rfl (.inl rfl)
    · exact .kept rfl (.inl rfl)
  unfold handleSafeLanding
  generalize s.updateObstacleAvoidanceStatus i.rosNow = s' at hstatus ⊢
  dsimp only
  split_ifs
  · refine hstatus.trans_kept ?_ (.inl ?_)
    · exact (hmark.landingSiteSearchHasEnded ..).trans ((hmark.hold _).trans (hmark.withPlanner ..))
    · exact (unheard_lastTime.landingSiteSearchHasEnded ..).trans
        ((unheard_lastTime.hold _).trans (unheard_lastTime.withPlanner ..))
  · exact hstatus
  · have htrigger : Decided i.now s (s'.triggerSafeLanding ext i) := by
      cases decided_triggerSafeLanding ext i s' with
      | kept mark time => exact hstatus.trans_kept mark time
      | triggered free mark time =>
        cases hstatus with
        | kept mark' time' => exact .triggered (mark' ▸ free) mark time
        | triggered free' mark' time' => exact absurd mark' free
    exact htrigger.trans_kept (uncalled_actionInProgress.processActiveActions _) (lastTime_processActiveActions _)

theorem decided_handleSimpleCollisionAvoidance (s : MissionManager P) :
    Decided i.now s (s.handleSimpleCollisionAvoidance i) := by
  rcases handleSimpleCollisionAvoidance_cases i s with ⟨hfree, hresult⟩ | hresult
  · rw [hresult]
    exact .triggered hfree rfl rfl
  · exact decided_of_eq hresult

/-- **A decision leaves the mark, or triggers an action and notes its time.** -/
theorem decided_makeDecision (ext : Externals P E) (i : TickInput E) (s : MissionManager P) :
    Decided i.now s (s.makeDecision ext i) := by
  unfold makeDecision
  dsimp only
  split_ifs
  · exact (decided_handleSafeLanding s).trans_kept rfl (.inl rfl)
  · exact decided_handleSimpleCollisionAvoidance s
  · exact .kept rfl (.inl rfl)

/-! ### Five seconds -/

/-- The action triggered at `t` is at least five seconds ago at `now`, or is kept in mind by the mark and its time. -/
structure Spaced (t now : ℤ) (s : MissionManager P) : Prop where
  past : t ≤ now
  busy : s.actionInProgress → t ≤ s.lastTime
  free : ¬ s.actionInProgress → t + 5000 * 1000000 ≤ now

theorem Spaced.mono {now' : ℤ} (h : Spaced t now s) (hnow : now ≤ now') : Spaced t now' s :=
  ⟨h.past.trans hnow, h.busy, fun hfree => (h.free hfree).trans hnow⟩

theorem Decided.spaced (h : Decided now s s') (hs : Spaced t now s) : Spaced t now s' := by
  cases h with
  | kept mark time =>
    refine ⟨hs.past, fun hbusy => ?_, fun hfree => hs.free (mark ▸ hfree)⟩
    rcases time with time | time
    · rw [time]
      exact hs.busy (mark ▸ hbusy)
    · rw [time]
      exact hs.past
  | triggered free mark time => exact ⟨hs.past, fun _ => time ▸ hs.past, fun hfree => absurd mark hfree⟩

/-- Whole milliseconds are truncated. -/
theorem le_of_tdiv {x : ℤ} (h : 5000 ≤ x.tdiv 1000000) : 5000 * 1000000 ≤ x := by
  by_contra hlt
  rcases le_or_gt 0 x with hx | hx
  · rw [Int.tdiv_eq_ediv_of_nonneg hx] at h
    omega
  · have hneg : x.tdiv 1000000 = -((-x) / 1000000) := by
      rw [← Int.tdiv_eq_ediv_of_nonneg (by omega), Int.neg_tdiv, neg_neg]
    omega

/-- The timeout takes the mark away only after five seconds. -/
theorem Spaced.actionTimeout (hs : Spaced t now s) : Spaced t now (s.actionTimeout now) := by
  by_cases hlate : s.timedOut now
  · have hpast : 5000 ≤ (now - s.lastTime).tdiv 1000000 := of_decide_eq_true hlate
    refine ⟨hs.past, fun hbusy => ?_, fun _ => ?_⟩
    · rw [actionTimeout_of_timedOut hlate] at hbusy
      exact absurd hbusy Bool.false_ne_true
    · by_cases hbusy : s.actionInProgress
      · have htime := hs.busy hbusy
        have hpast := le_of_tdiv hpast
        omega
      · exact hs.free hbusy
  · rw [actionTimeout_of_not_timedOut hlate]
    exact hs

/-- The reading of the clock that an iteration takes if the module is enabled. -/
def clockReading : MissionInput E → Option ℤ
  | .tick i => if i.config.autopilotManagerEnabled ≠ 0 then some i.now else none
  | _ => none

/-- The readings of the clock along a run. -/
def clockReadings (is : List (MissionInput E)) : List ℤ := is.filterMap clockReading

theorem clockReading_tick (henabled : i.config.autopilotManagerEnabled ≠ 0) : clockReading (.tick i) = some i.now :=
  if_pos henabled

/-- An enabled iteration keeps the distance at its own reading. -/
theorem spaced_decisionMakerRun (henabled : i.config.autopilotManagerEnabled ≠ 0) (hs : Spaced t i.now s) :
    Spaced t i.now (s.decisionMakerRun ext i) := by
  have hconfig : Spaced t i.now { s with config := i.config } := ⟨hs.past, hs.busy, hs.free⟩
  unfold decisionMakerRun
  dsimp only
  rw [if_pos henabled]
  exact ((decided_makeDecision ext i _).spaced hconfig).actionTimeout

/-- A step that does not read the clock keeps the mark and its time. -/
theorem spaced_step_of_unread {input : MissionInput E} (hunread : clockReading input = none) (hs : Spaced t now s) :
    Spaced t now (step ext s input) := by
  by_cases htick : ∃ i, input = .tick i
  · obtain ⟨i, rfl⟩ := htick
    have hdisabled : i.config.autopilotManagerEnabled = 0 := by
      by_contra henabled
      rw [clockReading_tick henabled] at hunread
      cases hunread
    have hstep : step ext s (.tick i) = { s with config := i.config } := decisionMakerRun_of_disabled hdisabled s
    rw [hstep]
    exact ⟨hs.past, hs.busy, hs.free⟩
  · have hmark : (step ext s input).actionInProgress = s.actionInProgress :=
      uncalled_actionInProgress.step_of_untimed (fun _ _ => rfl) s fun i hi => htick ⟨i, hi⟩
    have htime : (step ext s input).lastTime = s.lastTime := lastTime_step_of_callback s fun i hi => htick ⟨i, hi⟩
    exact ⟨hs.past, fun hbusy => htime ▸ hs.busy (hmark ▸ hbusy), fun hfree => hs.free (hmark ▸ hfree)⟩

/-- **What every run keeps** while the clock does not go back. -/
theorem run_spaced {last : ℤ} (hs : Spaced t now s) (is : List (MissionInput E))
    (hclock : (now :: (clockReadings is ++ [last])).Pairwise (· ≤ ·)) : Spaced t last (run (step ext) s is) := by
  induction is generalizing s now with
  | nil =>
    have hle : now ≤ last := (List.pairwise_cons.mp hclock).1 last (by simp)
    exact hs.mono hle
  | cons input is ih =>
    cases hread : clockReading input with
    | none =>
      have hrest : clockReadings (input :: is) = clockReadings is := List.filterMap_cons_none hread
      rw [hrest] at hclock
      exact ih (spaced_step_of_unread hread hs) hclock
    | some reading =>
      have hrest : clockReadings (input :: is) = reading :: clockReadings is := List.filterMap_cons_some hread
      rw [hrest, List.cons_append] at hclock
      obtain ⟨hle, hclock⟩ := List.pairwise_cons.mp hclock
      refine ih ?_ hclock
      cases input with
      | tick i =>
        have henabled : i.config.autopilotManagerEnabled ≠ 0 := by
          by_contra hdisabled
          have hnone : clockReading (.tick i) = none := if_neg (not_not.mpr hdisabled)
          rw [hnone] at hread
          cases hread
        rw [clockReading_tick henabled] at hread
        obtain rfl := Option.some.inj hread
        exact spaced_decisionMakerRun henabled (hs.mono (hle i.now (by simp)))
      | _ => cases hread

/-! ### Actions -/

/-- The iteration triggers an action: `_action_in_progress` goes from false to true. -/
def StartsAction (ext : Externals P E) (s : MissionManager P) (i : TickInput E) : Prop :=
  ¬ s.actionInProgress ∧ (step ext s (.tick i)).actionInProgress

theorem StartsAction.enabled (h : StartsAction ext s i) : i.config.autopilotManagerEnabled ≠ 0 := by
  intro hdisabled
  have hstep : step ext s (.tick i) = { s with config := i.config } := decisionMakerRun_of_disabled hdisabled s
  have hmark := h.2
  rw [hstep] at hmark
  exact h.1 hmark

/-- The time noted is that of the action. -/
theorem StartsAction.spaced (h : StartsAction ext s i) : Spaced i.now i.now (step ext s (.tick i)) := by
  refine ⟨le_refl _, fun _ => ?_, fun hfree => absurd h.2 hfree⟩
  have hstep : step ext s (.tick i) = (makeDecision ext i { s with config := i.config }).actionTimeout i.now := by
    change s.decisionMakerRun ext i = _
    unfold decisionMakerRun
    dsimp only
    rw [if_pos h.enabled]
  have hmark := h.2
  rw [hstep] at hmark ⊢
  by_cases hlate : timedOut i.now (makeDecision ext i { s with config := i.config })
  · rw [actionTimeout_of_timedOut hlate] at hmark
    exact absurd hmark Bool.false_ne_true
  · rw [actionTimeout_of_not_timedOut hlate] at hmark ⊢
    cases decided_makeDecision ext i { s with config := i.config } with
    | kept mark time => exact absurd (mark ▸ hmark) h.1
    | triggered free mark time => exact time.ge

/-- **Actions are five seconds apart**: any two iterations of a run that trigger an action have clock readings at least
5000 ms apart, as long as the clock does not go back. -/
theorem actions_spaced (ext : Externals P E) (boot : Boot) (before mid after : List (MissionInput E))
    {i j : TickInput E}
    (hclock : (clockReadings (before ++ [.tick i] ++ mid ++ [.tick j] ++ after)).Pairwise (· ≤ ·))
    (hi : StartsAction ext (run (step ext) (initial ext boot) before) i)
    (hj : StartsAction ext (run (step ext) (initial ext boot) (before ++ [.tick i] ++ mid)) j) :
    i.now + 5000 * 1000000 ≤ j.now := by
  have hreadings : clockReadings (before ++ [.tick i] ++ mid ++ [.tick j] ++ after) =
      clockReadings before ++ (i.now :: (clockReadings mid ++ [j.now])) ++ clockReadings after := by
    simp [clockReadings, List.filterMap_append, clockReading_tick hi.enabled, clockReading_tick hj.enabled]
  rw [hreadings, List.pairwise_append, List.pairwise_append] at hclock
  have hspaced : Spaced i.now j.now (run (step ext) (initial ext boot) (before ++ [.tick i] ++ mid)) := by
    rw [run_append, run_concat]
    exact run_spaced hi.spaced mid hclock.1.2.1
  exact hspaced.free hj.1

/-- An iteration over bad ground that holds the position, `now` nanoseconds after the start. -/
def holdTick (now : ℤ) : TickInput Bool := { tickOver .canNotLand (safeLandingBy "HOLD") with now }

/-- The vehicle is about to land, holds its position, and holds it again as soon as the first action is over. -/
theorem actions_spaced_hold :
    let landing : List (MissionInput Bool) := [.flightMode .land, .trajectory zeroTrajectory]
    StartsAction phasePlanner (run (step phasePlanner) (initial phasePlanner zeroBoot)
      (landing ++ [.tick (holdTick 0)] ++ [.tick (holdTick 5000000000)])) (holdTick 5000000001) ∧
      (holdTick 0).now + 5000 * 1000000 ≤ (holdTick 5000000001).now := by
  have hj : StartsAction phasePlanner (run (step phasePlanner) (initial phasePlanner zeroBoot)
      ([.flightMode .land, .trajectory zeroTrajectory] ++ [.tick (holdTick 0)] ++ [.tick (holdTick 5000000000)]))
      (holdTick 5000000001) := ⟨by decide +kernel, by decide +kernel⟩
  have hi : StartsAction phasePlanner (run (step phasePlanner) (initial phasePlanner zeroBoot)
      [.flightMode .land, .trajectory zeroTrajectory]) (holdTick 0) := ⟨by decide +kernel, by decide +kernel⟩
  exact ⟨hj, actions_spaced phasePlanner zeroBoot _ _ [] (by decide +kernel) hi hj⟩

end MissionManager

end AutopilotManager
