import AutopilotManager.Lib.Streak
import AutopilotManager.Mission.Departure

/-!
# Mission.Stationary — what the debouncing has counted

The counter of `debounce_is_stationary` moves only in the iterations that update a search, and no search resets it.
It counts consecutive slow iterations of the search under way as long as a search begins with the counter at zero and
no iteration that leaves the counter alone finds the vehicle moving.
-/

namespace AutopilotManager

open Lib

instance {E : Type} (i : TickInput E) : Decidable i.bypasses :=
  inferInstanceAs (Decidable (i.config.autopilotManagerEnabled = 0 ∨ i.config.decisionMakerInputType ≠ "SAFE_LANDING"))

/-- The module, and whether the vehicle was slow in each iteration of the search under way. -/
structure SearchWatch (P : Type) where
  manager : MissionManager P
  ticks : List Bool := []

namespace MissionManager

variable {P E : Type} {ext : Externals P E} {i : TickInput E} {s s' : MissionManager P}

/-! ### Iterations of a search -/

/-- The iterations of the search under way: the first is the one that starts it. -/
def searchTicks (ext : Externals P E) (i : TickInput E) (s : MissionManager P) (ticks : List Bool) : List Bool :=
  if s.searchesStarted < (s.decisionMakerRun ext i).searchesStarted then [s.isSlow]
  else if ext.isActive s.planner then ticks ++ [s.isSlow]
  else []

/-- A search is active once the trigger of the iteration is through, and is not stopped. -/
def searchGoesOn (ext : Externals P E) (i : TickInput E) (s : MissionManager P) : Bool :=
  if i.bypasses then ext.isActive s.planner
  else !(s.beginTick i).isOff && ext.isActive ((s.beginTick i).searchPlanner ext i) &&
    !(s.beginTick i).shouldEndLandingSiteSearch

/-- The iteration starts a search that goes on. -/
def beginsSearch (ext : Externals P E) (i : TickInput E) (s : MissionManager P) : Bool :=
  !decide i.bypasses && s.searchGoesOn ext i && (s.beginTick i).takesAction i &&
    (s.beginTick i).config.safeLandingOnNoSafeLand = "LANDING_SITE_SEARCH" && (s.beginTick i).globalOriginReferenceSet

/-- The iteration updates its search. -/
def updatesSearch (ext : Externals P E) (i : TickInput E) (s : MissionManager P) : Bool :=
  !decide i.bypasses && s.searchGoesOn ext i && !ext.shouldLand ((s.beginTick i).searchPlanner ext i)

/-- The iteration updates its search with `is_stationary` true. -/
def passesStationary (ext : Externals P E) (i : TickInput E) (s : MissionManager P) : Bool :=
  s.updatesSearch ext i && ((s.beginTick i).triggerSafeLanding ext i).isStationary.1

/-- The debouncing counts on: a search starts with the counter at zero, unless the counter is cleared at once, and an
iteration that leaves its search alone finds the vehicle slow, or the counter at zero. -/
def CountsOn (ext : Externals P E) (s : MissionManager P) : MissionInput E → Prop
  | .tick i =>
    (s.beginsSearch ext i → s.isStationaryDebounceCounter = 0 ∨ s.updatesSearch ext i ∧ ¬ s.isSlow) ∧
      (s.searchGoesOn ext i → s.updatesSearch ext i ∨ s.isStationaryDebounceCounter = 0 ∨ s.isSlow)
  | _ => True

instance (ext : Externals P E) (s : MissionManager P) (input : MissionInput E) : Decidable (CountsOn ext s input) :=
  match input with
  | .tick i =>
    inferInstanceAs (Decidable
      ((s.beginsSearch ext i → s.isStationaryDebounceCounter = 0 ∨ s.updatesSearch ext i ∧ ¬ s.isSlow) ∧
        (s.searchGoesOn ext i → s.updatesSearch ext i ∨ s.isStationaryDebounceCounter = 0 ∨ s.isSlow)))
  | .flightMode _ | .landedState _ | .position .. | .positionVelocity .. | .attitude _ | .gpsGlobalOrigin _
  | .trajectory _ => .isTrue trivial

theorem searchGoesOn_of_bypasses (hbypass : i.bypasses) : s.searchGoesOn ext i = ext.isActive s.planner :=
  if_pos hbypass

theorem searchGoesOn_of_calls (hcalls : ¬ i.bypasses) :
    s.searchGoesOn ext i ↔ ¬ (s.beginTick i).isOff ∧ ext.isActive ((s.beginTick i).searchPlanner ext i) ∧
      ¬ (s.beginTick i).shouldEndLandingSiteSearch := by
  unfold searchGoesOn
  rw [if_neg hcalls]
  simp [and_assoc]

theorem updatesSearch_of_bypasses (hbypass : i.bypasses) : s.updatesSearch ext i = false := by
  unfold updatesSearch
  rw [decide_eq_true hbypass, Bool.not_true, Bool.false_and, Bool.false_and]

/-- **A search that is active after an iteration has gone on in it.** -/
theorem searchGoesOn_of_active (hext : ext.LifeCycle) (hactive : ext.isActive (s.decisionMakerRun ext i).planner) :
    s.searchGoesOn ext i := by
  have hended : ∀ p, ¬ ext.isActive (ext.endSearch p) := fun p => hext.ended _ (hext.endSearch p)
  by_cases hbypass : i.bypasses
  · rw [searchGoesOn_of_bypasses hbypass]
    cases decisionMakerRun_cases ext i s with
    | bypassed bypasses quiet => rwa [quiet.planner] at hactive
    | handled calls handled quiet => exact absurd hbypass calls
  rw [searchGoesOn_of_calls hbypass]
  by_cases hoff : (s.beginTick i).isOff
  · rcases decisionMakerRun_off_cases ext hbypass hoff with ⟨-, -, hplanner⟩ | ⟨hinactive, hquiet⟩
    · rw [hplanner] at hactive
      exact absurd hactive (hended _)
    · rw [hquiet.planner, (apart_beginTick s).planner] at hactive
      exact absurd hactive hinactive
  · refine ⟨hoff, ?_⟩
    rw [(quiet_decisionMakerRun_on ext hbypass hoff).planner] at hactive
    rw [← planner_triggerSafeLanding ext i (avoidance_of_on hoff), ← shouldEndLandingSiteSearch_triggerSafeLanding ext i]
    cases processActiveActions_cases ext i ((s.beginTick i).triggerSafeLanding ext i) with
    | stopped active stop ended planner =>
      rw [planner] at hactive
      exact absurd hactive (hended _)
    | updated active continues step planner => exact ⟨active, continues⟩
    | reset inactive effect override planner =>
      rw [planner] at hactive
      exact absurd hactive (hext.reset _)
    | idle inactive quiet =>
      rw [quiet.planner] at hactive
      exact absurd hactive inactive

/-- A search that goes on without having been started was active before. -/
theorem active_of_searchGoesOn (hgoes : s.searchGoesOn ext i) (hbegins : ¬ s.beginsSearch ext i) :
    ext.isActive s.planner := by
  by_cases hbypass : i.bypasses
  · rwa [searchGoesOn_of_bypasses hbypass] at hgoes
  · have hplanner : (s.beginTick i).searchPlanner ext i = s.planner := by
      refine (if_neg fun hstart => hbegins ?_).trans (apart_beginTick s).planner
      unfold beginsSearch
      rw [hgoes, hstart.1, hstart.2.1, hstart.2.2]
      simpa using hbypass
    rw [← hplanner]
    exact ((searchGoesOn_of_calls hbypass).mp hgoes).2.1

/-- The trigger starts a search exactly where the planner of the iteration is a new one. -/
theorem starts_triggerSafeLanding (ext : Externals P E) (i : TickInput E) (havoidance : s.obstacleAvoidanceEnabled) :
    s.searchesStarted < (s.triggerSafeLanding ext i).searchesStarted ↔
      s.takesAction i ∧ s.config.safeLandingOnNoSafeLand = "LANDING_SITE_SEARCH" ∧ s.globalOriginReferenceSet := by
  have hsame : ∀ {n m : ℕ}, m = n → ¬ n < m := fun h hlt => absurd h hlt.ne'
  cases triggerSafeLanding_trigger ext i s with
  | unhealthy free triggered unhealthy result =>
    rw [result, (quiet_actionTriggered ..).starts, (quiet_statusText ..).starts, (quiet_hold s).starts]
    exact iff_of_false (lt_irrefl _) fun h => not_takesAction_of_unhealthy unhealthy s h.1
  | none takes result =>
    rw [result]
    exact iff_of_false (lt_irrefl _) fun h => takes h.1
  | action free triggered takes result =>
    rw [result, (quiet_actionTriggered ..).starts]
    rcases onNoSafeLand_cases ext i s with ⟨haction, hquiet⟩ | ⟨haction, hattempt⟩
    · exact iff_of_false (hsame hquiet.starts) fun h => haction h.2.1
    · cases hattempt with
      | started effect planner active origin =>
        exact iff_of_true (effect.starts ▸ Nat.lt_succ_self _) ⟨takes, haction, origin⟩
      | failed ended planner inactive origin =>
        exact iff_of_true (ended.starts ▸ Nat.lt_succ_self _) ⟨takes, haction, origin⟩
      | refused ended planner missing =>
        exact iff_of_false (hsame ended.starts) fun h => missing.elim (fun horigin => horigin h.2.2)
          fun hmissing => hmissing havoidance

/-- Of the iterations in which a search goes on, those that start one begin it. -/
theorem starts_decisionMakerRun_iff (hgoes : s.searchGoesOn ext i) :
    s.searchesStarted < (s.decisionMakerRun ext i).searchesStarted ↔ s.beginsSearch ext i := by
  by_cases hbypass : i.bypasses
  · refine iff_of_false ?_ ?_
    · cases decisionMakerRun_cases ext i s with
      | bypassed bypasses quiet =>
        rw [quiet.starts]
        exact lt_irrefl _
      | handled calls handled quiet => exact absurd hbypass calls
    · unfold beginsSearch
      rw [decide_eq_true hbypass]
      exact Bool.false_ne_true
  · have hon := ((searchGoesOn_of_calls hbypass).mp hgoes).1
    rw [starts_decisionMakerRun_on hbypass hon, ← (apart_beginTick (i := i) s).starts,
      starts_triggerSafeLanding ext i (avoidance_of_on hon)]
    unfold beginsSearch
    rw [decide_eq_false hbypass, hgoes]
    simp [and_assoc]

/-! ### The counter -/

theorem unheard_isStationaryDebounceCounter :
    Unheard (fun s : MissionManager P => s.isStationaryDebounceCounter) := by
  repeat' constructor
  all_goals intros; rfl

theorem counter_beginTick (s : MissionManager P) :
    (s.beginTick i).isStationaryDebounceCounter = s.isStationaryDebounceCounter := by
  rw [beginTick_eq]

theorem counter_actionTimeout (now : ℤ) (s : MissionManager P) :
    (s.actionTimeout now).isStationaryDebounceCounter = s.isStationaryDebounceCounter := by
  unfold actionTimeout
  split_ifs <;> rfl

theorem counter_afterHandler (s : MissionManager P) :
    (s.afterHandler i).isStationaryDebounceCounter = s.isStationaryDebounceCounter :=
  counter_actionTimeout i.now { s with isHealthy := s.obstacleAvoidanceEnabled || s.underManualControl }

theorem counter_handleSimpleCollisionAvoidance (s : MissionManager P) :
    (s.handleSimpleCollisionAvoidance i).isStationaryDebounceCounter = s.isStationaryDebounceCounter := by
  rcases handleSimpleCollisionAvoidance_cases i s with ⟨-, hresult⟩ | hresult
  · rw [hresult]
    exact unheard_isStationaryDebounceCounter.onObstacle s
  · rw [hresult]

/-- The counter after an update of a search. -/
def debounced (s : MissionManager P) : ℕ :=
  if s.isSlow then
    if debounceCountRequired ≤ s.isStationaryDebounceCounter + 1 then 0 else s.isStationaryDebounceCounter + 1
  else 0

theorem unacted_debounced : Unacted (fun s : MissionManager P => s.debounced) := by
  constructor <;> intros <;> rfl

theorem debounced_beginTick (s : MissionManager P) : (s.beginTick i).debounced = s.debounced := by
  rw [beginTick_eq]
  rfl

theorem counter_isStationary (s : MissionManager P) : s.isStationary.2.isStationaryDebounceCounter = s.debounced := by
  unfold isStationary debounced
  dsimp only
  split_ifs <;> rfl

/-- Processing moves the counter when it updates a search. -/
theorem counter_processActiveActions (ext : Externals P E) (i : TickInput E) (s : MissionManager P) :
    (s.processActiveActions ext i).isStationaryDebounceCounter =
      if ext.isActive s.planner && !s.shouldEndLandingSiteSearch && !ext.shouldLand s.planner then
        s.debounced
      else s.isStationaryDebounceCounter := by
  have hread := unheard_isStationaryDebounceCounter (P := P)
  unfold processActiveActions
  by_cases hactive : ext.isActive s.planner
  · by_cases hend : s.shouldEndLandingSiteSearch
    · simp only [hactive, hend, if_true, Bool.not_true, Bool.and_false, Bool.false_and, Bool.false_eq_true, if_false]
      exact hread.endLandingSiteSearch s
    · simp only [hactive, hend, if_true, if_false, Bool.not_false, Bool.true_and, Bool.false_eq_true]
      refine (hread.commandSearch ..).trans ?_
      unfold decideSearch
      cases ext.shouldLand s.planner with
      | true => split_ifs <;> first | rfl | contradiction
      | false => exact counter_isStationary s
  · simp only [hactive, if_false, Bool.false_and, Bool.false_eq_true]
    split_ifs
    · rfl
    · exact hread.landAtWaypoint s
    · rfl

theorem counter_disabled (ext : Externals P E) (s : MissionManager P) :
    (if ext.isActive s.planner then
      (hold { s with planner := ext.endSearch s.planner }).landingSiteSearchHasEnded "DISABLED"
    else s).isStationaryDebounceCounter = s.isStationaryDebounceCounter := by
  have hread := unheard_isStationaryDebounceCounter (P := P)
  split_ifs
  · exact (hread.landingSiteSearchHasEnded ..).trans ((hread.hold _).trans (hread.withPlanner ..))
  · rfl

/-- **What an iteration does to the counter.** -/
theorem counter_decisionMakerRun (ext : Externals P E) (i : TickInput E) (s : MissionManager P) :
    (s.decisionMakerRun ext i).isStationaryDebounceCounter =
      if s.updatesSearch ext i then s.debounced else s.isStationaryDebounceCounter := by
  have hread := unheard_isStationaryDebounceCounter (P := P)
  by_cases hbypass : i.bypasses
  · rw [updatesSearch_of_bypasses hbypass, if_neg Bool.false_ne_true]
    cases decisionMakerRun_of_bypasses ext hbypass s with
    | disabled result => rw [result]
    | avoidance enabled result => rw [result, counter_actionTimeout, counter_handleSimpleCollisionAvoidance]
    | undecided enabled result => rw [result, counter_actionTimeout]
  · rw [decisionMakerRun_of_calls ext hbypass, handleSafeLanding_beginTick, counter_afterHandler]
    unfold updatesSearch searchGoesOn
    rw [decide_eq_false hbypass, Bool.not_false, Bool.true_and, if_neg hbypass]
    by_cases hoff : (s.beginTick i).isOff
    · rw [if_pos hoff, hoff, Bool.not_true, Bool.false_and, Bool.false_and, Bool.false_and, if_neg Bool.false_ne_true,
        counter_disabled, counter_beginTick]
    · rw [if_neg hoff, counter_processActiveActions, shouldEndLandingSiteSearch_triggerSafeLanding,
        planner_triggerSafeLanding ext i (avoidance_of_on hoff), Bool.eq_false_iff.mpr hoff, Bool.not_false,
        Bool.true_and, unacted_debounced.triggerSafeLanding (fun _ _ => rfl), debounced_beginTick,
        hread.triggerSafeLanding (fun _ _ => rfl), counter_beginTick]

/-- Only iterations move the counter. -/
theorem counter_step (s : MissionManager P) {input : MissionInput E} (htick : ∀ i, input ≠ .tick i) :
    (s.step ext input).isStationaryDebounceCounter = s.isStationaryDebounceCounter := by
  exact unheard_isStationaryDebounceCounter.step_of_untimed (fun _ _ => rfl) (fun _ _ => rfl) s htick

/-- An update counts at most one more slow iteration. -/
theorem debounced_le {n : ℕ} (h : s.isStationaryDebounceCounter ≤ n) : s.debounced ≤ if s.isSlow then n + 1 else 0 := by
  unfold debounced
  split_ifs
  · exact Nat.zero_le _
  · exact Nat.succ_le_succ h
  · exact Nat.zero_le _

/-- What `is_stationary` answers. -/
theorem isStationary_fst (s : MissionManager P) :
    s.isStationary.1 = (s.isSlow && debounceCountRequired ≤ s.isStationaryDebounceCounter + 1) := by
  unfold isStationary
  dsimp only
  split_ifs with hslow hcount
  · rw [hslow, decide_eq_true hcount]
    rfl
  · rw [decide_eq_false hcount, Bool.and_false]
  · rw [Bool.eq_false_iff.mpr hslow, Bool.false_and]

theorem passesStationary_iff (ext : Externals P E) (i : TickInput E) (s : MissionManager P) :
    s.passesStationary ext i ↔
      s.updatesSearch ext i ∧ s.isSlow ∧ debounceCountRequired ≤ s.isStationaryDebounceCounter + 1 := by
  have hslow : Unacted (fun s : MissionManager P => s.isSlow) := by constructor <;> intros <;> rfl
  have hbegin : (s.beginTick i).isSlow = s.isSlow := by
    rw [beginTick_eq]
    rfl
  unfold passesStationary
  rw [isStationary_fst, hslow.triggerSafeLanding (fun _ _ => rfl), hbegin,
    unheard_isStationaryDebounceCounter.triggerSafeLanding (fun _ _ => rfl), counter_beginTick]
  simp

/-- The answer is what the update of the planner is called with. -/
theorem planner_decideSearch_of_updates (hupdates : s.updatesSearch ext i) :
    ∃ x y altitude height, (((s.beginTick i).triggerSafeLanding ext i).decideSearch ext i).planner =
      ext.updateSearch i.onUpdate x y altitude height (s.passesStationary ext i) i.landingState
        ((s.beginTick i).searchPlanner ext i) := by
  have hsearching := hupdates
  unfold updatesSearch at hsearching
  simp only [Bool.and_eq_true, Bool.not_eq_true', decide_eq_false_iff_not] at hsearching
  obtain ⟨⟨hcalls, hgoes⟩, hsearching⟩ := hsearching
  have hon := ((searchGoesOn_of_calls hcalls).mp hgoes).1
  unfold passesStationary
  rw [hupdates, Bool.true_and, ← planner_triggerSafeLanding ext i (avoidance_of_on hon)]
  rw [← planner_triggerSafeLanding ext i (avoidance_of_on hon)] at hsearching
  generalize (s.beginTick i).triggerSafeLanding ext i = m at hsearching
  unfold decideSearch
  rw [if_neg (Bool.eq_false_iff.mp hsearching), ← planner_isStationary m]
  exact ⟨_, _, _, _, rfl⟩

end MissionManager

/-! ### Runs -/

namespace SearchWatch

variable {P E : Type}

/-- One step of the module; an iteration is entered into the record. -/
def step (ext : Externals P E) (w : SearchWatch P) : MissionInput E → SearchWatch P
  | .tick i => ⟨w.manager.decisionMakerRun ext i, w.manager.searchTicks ext i w.ticks⟩
  | input => ⟨w.manager.step ext input, w.ticks⟩

def initial (ext : Externals P E) (boot : Boot) : SearchWatch P := { manager := .initial ext boot }

variable {ext : Externals P E} {w : SearchWatch P}

theorem manager_step (w : SearchWatch P) (input : MissionInput E) :
    (w.step ext input).manager = w.manager.step ext input := by
  cases input <;> rfl

theorem manager_run (ext : Externals P E) (w : SearchWatch P) (is : List (MissionInput E)) :
    (run (step ext) w is).manager = run (MissionManager.step ext) w.manager is :=
  run_project manager_step w is

/-- While a search is active the counter counts no more than the slow iterations at its end. -/
def Counted (ext : Externals P E) (w : SearchWatch P) : Prop :=
  ext.isActive w.manager.planner → w.manager.isStationaryDebounceCounter ≤ streak id w.ticks

/-- The record after an iteration in which the search goes on. -/
theorem ticks_tick {i : TickInput E} (hgoes : w.manager.searchGoesOn ext i) :
    (w.step ext (.tick i)).ticks =
      (if w.manager.beginsSearch ext i then [] else w.ticks) ++ [w.manager.isSlow] := by
  show w.manager.searchTicks ext i w.ticks = _
  unfold MissionManager.searchTicks
  simp only [MissionManager.starts_decisionMakerRun_iff hgoes]
  by_cases hbegins : w.manager.beginsSearch ext i
  · rw [if_pos hbegins, if_pos hbegins]
    rfl
  · rw [if_neg hbegins, if_neg hbegins, if_pos (MissionManager.active_of_searchGoesOn hgoes hbegins)]

/-- What has been counted before the iteration, if it counts, belongs to its search. -/
theorem counter_le_streak {i : TickInput E} (hw : Counted ext w) (hgoes : w.manager.searchGoesOn ext i)
    (hbegins : w.manager.beginsSearch ext i → w.manager.isStationaryDebounceCounter = 0) :
    w.manager.isStationaryDebounceCounter ≤
      streak id (if w.manager.beginsSearch ext i then [] else w.ticks) := by
  split_ifs with hbegin
  · rw [hbegins hbegin]
    exact Nat.zero_le _
  · exact hw (MissionManager.active_of_searchGoesOn hgoes hbegin)

theorem counted_tick (hext : ext.LifeCycle) (i : TickInput E) (hw : Counted ext w)
    (hok : w.manager.CountsOn ext (.tick i)) : Counted ext (w.step ext (.tick i)) := by
  intro hactive
  have hgoes := MissionManager.searchGoesOn_of_active hext hactive
  obtain ⟨hbegins, hleaves⟩ := hok
  rw [ticks_tick hgoes, streak_concat, id]
  show (w.manager.decisionMakerRun ext i).isStationaryDebounceCounter ≤ _
  rw [MissionManager.counter_decisionMakerRun]
  by_cases hslow : w.manager.isSlow
  · have hcount := counter_le_streak hw hgoes fun hbegin =>
      (hbegins hbegin).resolve_right fun hfast => hfast.2 hslow
    rw [if_pos hslow]
    by_cases hupdates : w.manager.updatesSearch ext i
    · rw [if_pos hupdates]
      have hdebounced := MissionManager.debounced_le hcount
      rwa [if_pos hslow] at hdebounced
    · rw [if_neg hupdates]
      exact Nat.le_succ_of_le hcount
  · rw [if_neg hslow]
    by_cases hupdates : w.manager.updatesSearch ext i
    · rw [if_pos hupdates]
      exact Nat.le_of_eq (if_neg hslow)
    · rw [if_neg hupdates]
      exact Nat.le_of_eq (((hleaves hgoes).resolve_left hupdates).resolve_right hslow)

theorem ticks_step (w : SearchWatch P) {input : MissionInput E} (htick : ∀ i, input ≠ .tick i) :
    (w.step ext input).ticks = w.ticks := by
  cases input with
  | tick i => exact absurd rfl (htick i)
  | _ => rfl

/-- **Every step that counts on keeps the invariant**: only an iteration moves the counter, and the callback of the
flight mode keeps a search or resets it. -/
theorem counted_step (hext : ext.LifeCycle) (w : SearchWatch P) (input : MissionInput E) (hw : Counted ext w)
    (hok : w.manager.CountsOn ext input) : Counted ext (w.step ext input) := by
  by_cases htick : ∃ i, input = .tick i
  · obtain ⟨i, rfl⟩ := htick
    exact counted_tick hext i hw hok
  · have hother : ∀ i, input ≠ .tick i := fun i hi => htick ⟨i, hi⟩
    intro hactive
    rw [manager_step] at hactive ⊢
    rw [MissionManager.counter_step _ hother, ticks_step w hother]
    refine hw ?_
    rcases MissionManager.step_cases ext w.manager input with hi | ⟨mode, rfl⟩ | hcallback
    · exact absurd hi htick
    · have hreset : ∀ p, ext.isActive (ext.reset p) → ext.isActive w.manager.planner :=
        fun p h => absurd h (hext.reset p)
      exact (MissionManager.flightModeCallback_cases ext mode w.manager).planner_of_reset
        (Q := fun p => ext.isActive p → ext.isActive w.manager.planner) id hreset hactive
    · rwa [hcallback.planner] at hactive

theorem counted_run (hext : ext.LifeCycle) {boot : Boot} {is : List (MissionInput E)}
    (hmeets : Meets (MissionManager.step ext) (MissionManager.CountsOn ext) (.initial ext boot) is) :
    Counted ext (run (step ext) (initial ext boot) is) :=
  Meets.invariant (counted_step hext) (fun hactive => absurd hactive hext.initial)
    ((meets_project (t := initial ext boot) manager_step).mpr hmeets)

end SearchWatch

namespace MissionManager

variable {P E : Type} {ext : Externals P E} {i : TickInput E}

/-- **Stationary means stationary now** in the runs whose debouncing counts on: an iteration that updates the search
with `is_stationary` true is the tenth slow one in a row, all of the same search. -/
theorem stationary_now (hext : ext.LifeCycle) (boot : Boot) {is before after : List (MissionInput E)}
    (hmeets : Meets (step ext) (CountsOn ext) (initial ext boot) is) (his : is = before ++ [.tick i] ++ after)
    (hpasses : (run (step ext) (initial ext boot) before).passesStationary ext i) :
    List.replicate 10 true <:+
      (run (SearchWatch.step ext) (SearchWatch.initial ext boot) (before ++ [.tick i])).ticks := by
  subst his
  obtain ⟨hbefore, hok⟩ := meets_concat.mp (meets_append.mp hmeets).1
  have hcounted := SearchWatch.counted_run hext hbefore
  have hmanager : (run (SearchWatch.step ext) (.initial ext boot) before).manager =
      run (step ext) (initial ext boot) before := SearchWatch.manager_run ext _ before
  rw [run_concat]
  generalize run (SearchWatch.step ext) (.initial ext boot) before = w at hcounted hmanager ⊢
  rw [← hmanager] at hok hpasses
  obtain ⟨hupdates, hslow, hcount⟩ := (passesStationary_iff ext i w.manager).mp hpasses
  have hgoes : w.manager.searchGoesOn ext i := by
    unfold updatesSearch at hupdates
    simp only [Bool.and_eq_true] at hupdates
    exact hupdates.1.2
  have hstreak := SearchWatch.counter_le_streak hcounted hgoes fun hbegin =>
    (hok.1 hbegin).resolve_right fun hfast => hfast.2 hslow
  rw [SearchWatch.ticks_tick hgoes]
  refine replicate_suffix_of_le_streak ?_
  rw [streak_concat, id, if_pos hslow]
  exact hcount.trans (Nat.succ_le_succ hstreak)

/-- An iteration over bad ground with the search as its action. -/
def searchTick : TickInput Bool := tickOver .canNotLand (safeLandingBy "LANDING_SITE_SEARCH")

/-- Nine iterations of a search with the vehicle at rest. -/
def restingRun : List (MissionInput Bool) := searchRun ++ List.replicate 8 (.tick searchTick)

theorem stationary_now_resting : List.replicate 10 true <:+ (run (SearchWatch.step phasePlanner)
    (SearchWatch.initial phasePlanner zeroBoot) (restingRun ++ [.tick searchTick])).ticks :=
  stationary_now phasePlanner_lifeCycle zeroBoot (by decide +kernel)
    (List.append_nil (restingRun ++ [.tick searchTick])).symm (by decide +kernel)

/-- Five seconds later the next action can be taken. -/
def laterTick : TickInput Bool := { searchTick with now := 5000000000 }

/-- After five iterations at rest the pilot takes over; the vehicle is put into land mode again, and searches for four
iterations. -/
def resumedRun : List (MissionInput Bool) :=
  searchRun ++ List.replicate 4 (.tick searchTick) ++ [.flightMode .posctl, .tick laterTick, .flightMode .land] ++
    List.replicate 4 (.tick laterTick)

/-- The fifth iteration of the second search is said to be stationary. -/
theorem stationary_across_searches :
    (run (step phasePlanner) (initial phasePlanner zeroBoot) resumedRun).passesStationary phasePlanner laterTick ∧
    (run (SearchWatch.step phasePlanner) (SearchWatch.initial phasePlanner zeroBoot)
      (resumedRun ++ [.tick laterTick])).ticks.length = 5 ∧
    ¬ List.replicate 10 true <:+ (run (SearchWatch.step phasePlanner) (SearchWatch.initial phasePlanner zeroBoot)
      (resumedRun ++ [.tick laterTick])).ticks := by
  refine ⟨by decide +kernel, by decide +kernel, by decide +kernel⟩

end MissionManager

end AutopilotManager
