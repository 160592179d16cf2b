import AutopilotManager.Mission.Frame

/-!
# Mission.Planner — searches, the override and the pilot

In every reachable state the override of the trajectory is unset when no search is active, each search that stops is
ended once, and no search is active while the pilot flies.
-/

namespace AutopilotManager

open Lib

/-- The life of a search as the planner promises it: idle, active or ended. -/
structure LandingPlanner.LifeCycle {P E : Type} (planner : LandingPlanner P E) : Prop where
  initial : ¬ planner.isActive planner.initial
  endSearch : ∀ p, planner.isEnded (planner.endSearch p)
  reset : ∀ p, ¬ planner.isActive (planner.reset p)
  ended : ∀ p, planner.isEnded p → ¬ planner.isActive p
  updateSearch : ∀ e x y altitude height isStationary state p, planner.isActive p →
    planner.isActive (planner.updateSearch e x y altitude height isStationary state p) ∨
      planner.isEnded (planner.updateSearch e x y altitude height isStationary state p)
  abortLanding : ∀ e altitude height p, planner.isActive p →
    planner.isActive (planner.abortLanding e altitude height p) ∨
      planner.isEnded (planner.abortLanding e altitude height p)

/-- The phase of a search. -/
inductive Phase
  | idle
  | searching
  | landing
  | ended
  deriving DecidableEq

/-- A planner that is no more than its phase: what its calls read is whether there is a place left to search, and a
site is found over good ground. -/
def phasePlanner : Externals Phase Bool where
  initial := .idle
  isActive p := p = .searching || p = .landing
  isEnded p := p = .ended
  shouldLand p := p = .landing
  waypointUpdated _ := false
  getCurrentWaypoint _ := ⟨0, 0⟩
  getSearchAltitude _ := 0
  startSearch placeLeft _ _ _ _ _ _ := if placeLeft then .searching else .idle
  endSearch _ := .ended
  reset _ := .idle
  updateSearch placeLeft _ _ _ _ _ state _ :=
    if state = .canLand then .landing else if placeLeft then .searching else .ended
  abortLanding placeLeft _ _ _ := if placeLeft then .searching else .ended
  cos _ := 1
  sin _ := 0
  globalFromLocal reference _ := reference
  normalized v := v

theorem phasePlanner_lifeCycle : phasePlanner.LifeCycle where
  initial := Bool.false_ne_true
  endSearch _ := rfl
  reset _ := Bool.false_ne_true
  ended p hended := by
    have hp : p = .ended := of_decide_eq_true hended
    rw [hp]
    exact Bool.false_ne_true
  updateSearch placeLeft x y altitude height isStationary state p _ := by
    by_cases hgood : state = .canLand
    · exact .inl (by simp [phasePlanner, hgood])
    · cases placeLeft <;> simp [phasePlanner, hgood]
  abortLanding placeLeft altitude height p _ := by cases placeLeft <;> simp [phasePlanner]

namespace MissionManager

variable {P E : Type} {ext : Externals P E} {i : TickInput E} {s s' s'' : MissionManager P}

/-! ### The flight mode callback -/

/-- What `flight_mode_callback` does to a search. -/
inductive ModeChange (ext : Externals P E) (mode : FlightMode) (s s' : MissionManager P) : Prop
  /-- The search stays; so it is whenever the new mode is not manual. -/
  | kept (planner : s'.planner = s.planner) (override : s'.newX = s.newX ∧ s'.newY = s.newY ∧ s'.newYaw = s.newYaw)
      (ends : s'.searchesEnded = s.searchesEnded) (manual : mode.isManual → mode = s.flightMode)
  /-- There is no search, and the planner is reset. -/
  | reset (planner : s'.planner = ext.reset s.planner)
      (override : s'.newX = s.newX ∧ s'.newY = s.newY ∧ s'.newYaw = s.newYaw)
      (ends : s'.searchesEnded = s.searchesEnded) (inactive : ¬ ext.isActive s.planner)
  /-- The search is ended and the planner is reset. -/
  | ended (planner : s'.planner = ext.reset (ext.endSearch s.planner)) (unset : s'.Unset)
      (ends : s'.searchesEnded = s.searchesEnded + 1) (active : ext.isActive s.planner)

theorem flightModeCallback_effect (ext : Externals P E) (mode : FlightMode) (s : MissionManager P) :
    (s.flightModeCallback ext mode).flightMode = mode ∧
      (s.flightModeCallback ext mode).searchesStarted = s.searchesStarted ∧
      (s.flightModeCallback ext mode).globalOriginReferenceSet = s.globalOriginReferenceSet := by
  unfold flightModeCallback resetPlanner
  dsimp only
  split_ifs with hmode
  · exact ⟨rfl, rfl, rfl⟩
  · exact ⟨rfl, rfl, rfl⟩
  · exact ⟨rfl, rfl, rfl⟩
  · exact ⟨(not_not.mp hmode).symm, rfl, rfl⟩

theorem flightModeCallback_cases (ext : Externals P E) (mode : FlightMode) (s : MissionManager P) :
    ModeChange ext mode s (s.flightModeCallback ext mode) := by
  unfold flightModeCallback resetPlanner
  dsimp only
  split_ifs with hmode hreset hactive
  · refine .ended rfl ⟨rfl, rfl, rfl⟩ ?_ hactive
    exact (ended_landingSiteSearchHasEnded "MODE" { s with planner := ext.endSearch s.planner }).ends
  · exact .reset rfl ⟨rfl, rfl, rfl⟩ rfl hactive
  · refine .kept rfl ⟨rfl, rfl, rfl⟩ rfl fun hmanual => absurd ?_ hreset
    rw [Bool.or_eq_true]
    exact .inr hmanual
  · exact .kept rfl ⟨rfl, rfl, rfl⟩ rfl fun _ => not_not.mp hmode

/-- What holds of the planner and of every planner that is reset holds after the callback. -/
theorem ModeChange.planner_of_reset {Q : P → Prop} {mode : FlightMode} (h : ModeChange ext mode s s')
    (hs : Q s.planner) (hreset : ∀ p, Q (ext.reset p)) : Q s'.planner := by
  cases h with
  | kept planner override ends manual => exact planner ▸ hs
  | reset planner override ends inactive => exact planner ▸ hreset _
  | ended planner unset ends active => exact planner ▸ hreset _

/-! ### The override -/

/-- An active search needs the origin, and without one the override is unset. -/
structure SearchInv (ext : Externals P E) (s : MissionManager P) : Prop where
  origin : ext.isActive s.planner → s.globalOriginReferenceSet
  unset : ¬ ext.isActive s.planner → s.Unset

/-- The invariant holds after the step, and a search that stops in it is ended once. -/
structure KeepsSearch (ext : Externals P E) (s s' : MissionManager P) : Prop where
  inv : SearchInv ext s'
  once : ext.isActive s.planner → ¬ ext.isActive s'.planner → s'.searchesEnded = s.searchesEnded + 1

theorem Apart.keepsSearch (h : Apart s s') (hs : SearchInv ext s) : KeepsSearch ext s s' := by
  refine ⟨⟨fun hactive => ?_, fun hinactive => ?_⟩, fun hactive hinactive => ?_⟩
  · rw [h.planner] at hactive
    exact h.origin (hs.origin hactive)
  · rw [h.planner] at hinactive
    obtain ⟨hx, hy, hyaw⟩ := hs.unset hinactive
    exact ⟨h.override.1.trans hx, h.override.2.1.trans hy, h.override.2.2.trans hyaw⟩
  · rw [h.planner] at hinactive
    exact absurd hactive hinactive

/-- Nothing that counts happens before the step. -/
theorem KeepsSearch.of_apart (h : Apart s s') (h' : KeepsSearch ext s' s'') : KeepsSearch ext s s'' := by
  refine ⟨h'.inv, fun hactive hinactive => ?_⟩
  rw [← h.ends]
  exact h'.once (h.planner ▸ hactive) hinactive

/-- Nothing that counts happens after the step. -/
theorem KeepsSearch.apart (h : KeepsSearch ext s s') (h' : Apart s' s'') : KeepsSearch ext s s'' := by
  refine ⟨(h'.keepsSearch h.inv).inv, fun hactive hinactive => ?_⟩
  rw [h'.ends]
  exact h.once hactive (h'.planner ▸ hinactive)

/-- A search that has been ended in the step, with the override unset. -/
theorem Ended.keepsSearch {started : ℕ} (h : Ended started s s') (hinactive : ¬ ext.isActive s'.planner) :
    KeepsSearch ext s s' := ⟨⟨fun hactive => absurd hactive hinactive, fun _ => h.unset⟩, fun _ _ => h.ends⟩

/-- The trigger ends a search only when it leaves none: a refused attempt lacks the origin, so there was no search. -/
theorem triggerSafeLanding_keepsSearch (hs : SearchInv ext s) (havoidance : s.obstacleAvoidanceEnabled) :
    KeepsSearch ext s (s.triggerSafeLanding ext i) ∧
      (ext.isActive (s.triggerSafeLanding ext i).planner →
        (s.triggerSafeLanding ext i).searchesEnded = s.searchesEnded) := by
  rcases triggerSafeLanding_cases ext i s with hquiet | ⟨-, -, hattempt⟩
  · exact ⟨hquiet.apart.keepsSearch hs, fun _ => hquiet.ends⟩
  · cases hattempt with
    | started effect planner active origin =>
      exact ⟨⟨⟨fun _ => effect.origin.trans origin, fun h => absurd active h⟩, fun _ h => absurd active h⟩,
        fun _ => effect.ends⟩
    | failed ended planner inactive origin => exact ⟨ended.keepsSearch inactive, fun h => absurd h inactive⟩
    | refused ended planner missing =>
      have horigin : ¬ s.globalOriginReferenceSet := missing.resolve_right (not_not.mpr havoidance)
      have hinactive : ¬ ext.isActive (s.triggerSafeLanding ext i).planner := by
        rw [planner]
        exact fun hactive => horigin (hs.origin hactive)
      exact ⟨ended.keepsSearch hinactive, fun h => absurd h hinactive⟩

section LifeCycle

variable (hext : ext.LifeCycle)
include hext

theorem active_or_ended_decideSearch (hactive : ext.isActive s.planner) :
    ext.isActive (s.decideSearch ext i).planner ∨ ext.isEnded (s.decideSearch ext i).planner := by
  rcases planner_decideSearch ext i s with
    ⟨-, -, altitude, height, habort⟩ | ⟨-, -, hsame⟩ | ⟨-, x, y, altitude, height, isStationary, hupdate⟩
  · rw [habort]
    exact hext.abortLanding _ _ _ _ hactive
  · rw [hsame]
    exact .inl hactive
  · rw [hupdate]
    exact hext.updateSearch _ _ _ _ _ _ _ _ hactive

theorem active_or_ended_updateLandingSiteSearch (land : Bool) (hactive : ext.isActive s.planner) :
    ext.isActive (s.updateLandingSiteSearch ext i land).planner ∨
      ext.isEnded (s.updateLandingSiteSearch ext i land).planner := by
  rcases planner_updateLandingSiteSearch ext i land s with hdecide | ⟨-, -, hend⟩
  · rw [hdecide]
    exact active_or_ended_decideSearch hext hactive
  · rw [hend]
    exact .inr (hext.endSearch _)

/-- Processing keeps the invariant, and does not end a search when there is none. -/
theorem processActiveActions_keepsSearch (hs : SearchInv ext s) :
    KeepsSearch ext s (s.processActiveActions ext i) ∧
      (¬ ext.isActive s.planner → ¬ ext.isActive (s.processActiveActions ext i).planner ∧
        (s.processActiveActions ext i).searchesEnded = s.searchesEnded) := by
  cases processActiveActions_cases ext i s with
  | stopped active stop ended planner =>
    refine ⟨ended.keepsSearch (hext.ended _ ?_), fun h => absurd active h⟩
    rw [planner]
    exact hext.endSearch _
  | updated active continues step planner =>
    refine ⟨?_, fun h => absurd active h⟩
    cases step with
    | continued effect running =>
      have hactive : ext.isActive (s.processActiveActions ext i).planner := by
        rw [planner] at running ⊢
        exact (active_or_ended_updateLandingSiteSearch hext _ active).resolve_right running
      exact ⟨⟨fun _ => effect.origin.trans (hs.origin active), fun h => absurd hactive h⟩, fun _ h => absurd hactive h⟩
    | ended ended isEnded => exact ended.keepsSearch (hext.ended _ isEnded)
  | reset inactive effect override planner =>
    have hinactive : ¬ ext.isActive (s.processActiveActions ext i).planner := by
      rw [planner]
      exact hext.reset _
    obtain ⟨hx, hy, hyaw⟩ := hs.unset inactive
    have hunset : (s.processActiveActions ext i).Unset :=
      ⟨override.1.trans hx, override.2.1.trans hy, override.2.2.trans hyaw⟩
    exact ⟨⟨⟨fun h => absurd h hinactive, fun _ => hunset⟩, fun h => absurd h inactive⟩,
      fun _ => ⟨hinactive, effect.ends⟩⟩
  | idle inactive quiet =>
    exact ⟨quiet.apart.keepsSearch hs, fun _ => ⟨quiet.planner ▸ inactive, quiet.ends⟩⟩

theorem Handled.keepsSearch (h : Handled ext i s s') (hs : SearchInv ext s) : KeepsSearch ext s s' := by
  cases h with
  | disabled off active ended planner =>
    refine ended.keepsSearch (hext.ended _ ?_)
    rw [planner]
    exact hext.endSearch _
  | skipped off inactive same =>
    rw [same]
    exact (Quiet.refl s).apart.keepsSearch hs
  | processed on avoidance process =>
    obtain ⟨htrigger, hended⟩ := triggerSafeLanding_keepsSearch (i := i) hs avoidance
    obtain ⟨hprocess, hidle⟩ := processActiveActions_keepsSearch (i := i) hext htrigger.inv
    rw [process]
    refine ⟨hprocess.inv, fun hactive hinactive => ?_⟩
    by_cases hmid : ext.isActive (s.triggerSafeLanding ext i).planner
    · rw [hprocess.once hmid hinactive, hended hmid]
    · rw [(hidle hmid).2, htrigger.once hactive hmid]

theorem ModeChange.keepsSearch {mode : FlightMode} (h : ModeChange ext mode s s')
    (horigin : s'.globalOriginReferenceSet = s.globalOriginReferenceSet) (hs : SearchInv ext s) :
    KeepsSearch ext s s' := by
  cases h with
  | kept planner override ends manual =>
    refine ⟨⟨fun h => horigin.trans (hs.origin (planner ▸ h)), fun h => ?_⟩,
      fun hactive h => absurd hactive (planner ▸ h)⟩
    obtain ⟨hx, hy, hyaw⟩ := hs.unset (planner ▸ h)
    exact ⟨override.1.trans hx, override.2.1.trans hy, override.2.2.trans hyaw⟩
  | reset planner override ends inactive =>
    obtain ⟨hx, hy, hyaw⟩ := hs.unset inactive
    exact ⟨⟨fun h => absurd h (planner ▸ hext.reset _),
      fun _ => ⟨override.1.trans hx, override.2.1.trans hy, override.2.2.trans hyaw⟩⟩, fun h => absurd h inactive⟩
  | ended planner unset ends active =>
    exact ⟨⟨fun h => absurd h (planner ▸ hext.reset _), fun _ => unset⟩, fun _ _ => ends⟩

/-- Every step keeps the invariant and ends a search that stops in it once. -/
theorem step_keepsSearch (hs : SearchInv ext s) (input : MissionInput E) : KeepsSearch ext s (step ext s input) := by
  rcases step_cases ext s input with ⟨i, rfl⟩ | ⟨mode, rfl⟩ | hcallback
  · cases decisionMakerRun_cases ext i s with
    | bypassed bypasses quiet => exact ((apart_config _ s).trans quiet.apart).keepsSearch hs
    | handled calls handled quiet =>
      have hbegin := apart_beginTick (i := i) s
      exact ((handled.keepsSearch hext (hbegin.keepsSearch hs).inv).apart quiet.apart).of_apart hbegin
  · exact (flightModeCallback_cases ext mode s).keepsSearch hext (flightModeCallback_effect ext mode s).2.2 hs
  · exact hcallback.apart.keepsSearch hs

theorem run_searchInv (boot : Boot) (is : List (MissionInput E)) :
    SearchInv ext (run (step ext) (initial ext boot) is) := by
  have hinitial : SearchInv ext (initial ext boot) :=
    ⟨fun hactive => absurd hactive hext.initial, fun _ => ⟨rfl, rfl, rfl⟩⟩
  have hstep : ∀ s input, SearchInv ext s → SearchInv ext (step ext s input) :=
    fun s input hs => (step_keepsSearch hext hs input).inv
  exact run_invariant hstep hinitial is

/-- **The override ends with the search**: in every reachable state without an active search the override is unset,
and every step from an active search to none calls `landing_site_search_has_ended` once. -/
theorem override_ends_with_search (boot : Boot) (is : List (MissionInput E)) :
    (¬ ext.isActive (run (step ext) (initial ext boot) is).planner →
      (run (step ext) (initial ext boot) is).newX = .nan ∧ (run (step ext) (initial ext boot) is).newY = .nan ∧
        (run (step ext) (initial ext boot) is).newYaw = .nan) ∧
    ∀ input, ext.isActive (run (step ext) (initial ext boot) is).planner →
      ¬ ext.isActive (step ext (run (step ext) (initial ext boot) is) input).planner →
      (step ext (run (step ext) (initial ext boot) is) input).searchesEnded =
        (run (step ext) (initial ext boot) is).searchesEnded + 1 := by
  have hinv := run_searchInv hext boot is
  exact ⟨hinv.unset, fun input => (step_keepsSearch hext hinv input).once⟩

end LifeCycle

/-! ### The pilot -/

theorem not_landingTriggered (hmanual : s.flightMode.isManual) : ¬ s.landingTriggered := by
  unfold landingTriggered
  cases hmode : s.flightMode <;> rw [hmode] at hmanual <;> first | exact absurd hmanual (by decide) | simp

theorem flightMode_decisionMakerRun (ext : Externals P E) (i : TickInput E) (s : MissionManager P) :
    (s.decisionMakerRun ext i).flightMode = s.flightMode := by
  cases decisionMakerRun_cases ext i s with
  | bypassed bypasses quiet => exact quiet.flightMode
  | handled calls handled quiet =>
    obtain ⟨ended, started, heffect⟩ := handled.effect
    exact quiet.flightMode.trans (heffect.flightMode.trans (apart_beginTick s).flightMode)

section Pilot

variable (hreset : ∀ p, ¬ ext.isActive (ext.reset p))
include hreset

/-- Without a search and a trigger, processing starts nothing. -/
theorem processActiveActions_idle (hinactive : ¬ ext.isActive s.planner) :
    ¬ ext.isActive (s.processActiveActions ext i).planner ∧
      (s.processActiveActions ext i).searchesStarted = s.searchesStarted := by
  cases processActiveActions_cases ext i s with
  | stopped active stop ended planner => exact absurd active hinactive
  | updated active continues step planner => exact absurd active hinactive
  | reset inactive effect override planner => exact ⟨planner ▸ hreset _, effect.starts⟩
  | idle inactive quiet => exact ⟨quiet.planner ▸ inactive, quiet.starts⟩

theorem Handled.idle (h : Handled ext i s s') (htrigger : ¬ s.landingTriggered)
    (hinactive : ¬ ext.isActive s.planner) :
    ¬ ext.isActive s'.planner ∧ s'.searchesStarted = s.searchesStarted := by
  cases h with
  | disabled off active ended planner => exact absurd active hinactive
  | skipped off inactive same => exact ⟨same ▸ hinactive, by rw [same]⟩
  | processed on avoidance process =>
    have hquiet : Quiet s (s.triggerSafeLanding ext i) :=
      (triggerSafeLanding_cases ext i s).resolve_right fun h => htrigger h.1
    rw [process]
    obtain ⟨hidle, hstarts⟩ := processActiveActions_idle (i := i) hreset
      (s := s.triggerSafeLanding ext i) (hquiet.planner ▸ hinactive)
    exact ⟨hidle, hstarts.trans hquiet.starts⟩

/-- An iteration under manual control leaves the planner inactive and starts nothing. -/
theorem decisionMakerRun_manual (hmanual : s.flightMode.isManual) (hinactive : ¬ ext.isActive s.planner) :
    ¬ ext.isActive (s.decisionMakerRun ext i).planner ∧
      (s.decisionMakerRun ext i).searchesStarted = s.searchesStarted := by
  cases decisionMakerRun_cases ext i s with
  | bypassed bypasses quiet => exact ⟨quiet.planner ▸ hinactive, quiet.starts⟩
  | handled calls handled quiet =>
    have hbegin := apart_beginTick (i := i) s
    have htrigger : ¬ (s.beginTick i).landingTriggered := not_landingTriggered (hbegin.flightMode ▸ hmanual)
    obtain ⟨hidle, hstarts⟩ := handled.idle hreset htrigger (hbegin.planner ▸ hinactive)
    exact ⟨quiet.planner ▸ hidle, quiet.starts.trans (hstarts.trans hbegin.starts)⟩

/-- Entering a manual mode leaves the planner inactive. -/
theorem ModeChange.manual {mode : FlightMode} (h : ModeChange ext mode s s') (hmanual : mode.isManual)
    (hinactive : s.flightMode.isManual → ¬ ext.isActive s.planner) : ¬ ext.isActive s'.planner := by
  cases h with
  | kept planner override ends manual => exact planner ▸ hinactive (manual hmanual ▸ hmanual)
  | reset planner override ends inactive => exact planner ▸ hreset _
  | ended planner unset ends active => exact planner ▸ hreset _

theorem step_manual (hs : s.flightMode.isManual → ¬ ext.isActive s.planner) (input : MissionInput E) :
    (step ext s input).flightMode.isManual → ¬ ext.isActive (step ext s input).planner := by
  intro hmanual
  rcases step_cases ext s input with ⟨i, rfl⟩ | ⟨mode, rfl⟩ | hcallback
  · have hbefore : s.flightMode.isManual := flightMode_decisionMakerRun ext i s ▸ hmanual
    exact (decisionMakerRun_manual hreset hbefore (hs hbefore)).1
  · have hmode : mode.isManual := (flightModeCallback_effect ext mode s).1 ▸ hmanual
    exact (flightModeCallback_cases ext mode s).manual hreset hmode hs
  · rw [hcallback.planner]
    exact hs (hcallback.flightMode ▸ hmanual)

/-- No step under manual control starts a search. -/
theorem step_starts (hmanual : s.flightMode.isManual) (hinactive : ¬ ext.isActive s.planner) (input : MissionInput E) :
    (step ext s input).searchesStarted = s.searchesStarted := by
  rcases step_cases ext s input with ⟨i, rfl⟩ | ⟨mode, rfl⟩ | hcallback
  · exact (decisionMakerRun_manual hreset hmanual hinactive).2
  · exact (flightModeCallback_effect ext mode s).2.1
  · exact hcallback.apart.starts

omit hreset in
/-- Without a search a trajectory message is sent back as it came; the module's own messages are not answered. -/
theorem log_trajectory (hinactive : ¬ ext.isActive s.planner) (t : TrajectoryInput) :
    (step ext s (.trajectory t)).log =
      if t.compid = mavCompIdObstacleAvoidance then s.log else .sent .forwarded t.message :: s.log := by
  show (s.onMavlinkTrajectoryMessage ext t).log = _
  cases onMavlinkTrajectoryMessage_answer ext t s with
  | own own result => rw [result, if_pos own]
  | land foreign active => exact absurd active hinactive
  | search foreign active => exact absurd active hinactive
  | forwarded foreign unready result =>
    rw [result, if_neg foreign]
    rfl

/-- **The pilot has authority**: in every reachable state whose flight mode is manual the planner is not active, every
trajectory message is sent back unmodified, and no step starts a search. -/
theorem pilot_authority (boot : Boot) (is : List (MissionInput E))
    (hmanual : (run (step ext) (initial ext boot) is).flightMode.isManual) :
    ¬ ext.isActive (run (step ext) (initial ext boot) is).planner ∧
    (∀ t, (step ext (run (step ext) (initial ext boot) is) (.trajectory t)).log =
      if t.compid = mavCompIdObstacleAvoidance then (run (step ext) (initial ext boot) is).log
      else .sent .forwarded t.message :: (run (step ext) (initial ext boot) is).log) ∧
    ∀ input, (step ext (run (step ext) (initial ext boot) is) input).searchesStarted =
      (run (step ext) (initial ext boot) is).searchesStarted := by
  have hinitial : (initial ext boot).flightMode.isManual → ¬ ext.isActive (initial ext boot).planner :=
    fun h => absurd h Bool.false_ne_true
  have hstep : ∀ (s : MissionManager P) input, (s.flightMode.isManual → ¬ ext.isActive s.planner) →
      ((step ext s input).flightMode.isManual → ¬ ext.isActive (step ext s input).planner) :=
    fun s input hs => step_manual hreset hs input
  have hinactive := run_invariant hstep hinitial is hmanual
  exact ⟨hinactive, log_trajectory hinactive, step_starts hreset hmanual hinactive⟩

end Pilot

/-! ### Runs of the planner that is its phase -/

/-- All that the constructor leaves open is zero. -/
def zeroBoot : Boot := ⟨0, 0, 0, 0, 0, 0, 0, 0, 0, 0, 0, 0⟩

/-- A point at rest, and the message that repeats it. -/
def zeroMessage : TrajectoryWaypoints := ⟨0, 1, ⟨0, 0, 0, 0, 0, 0, 0, 0, 0, 0, 0, 0⟩, []⟩

/-- A trajectory message from the vehicle, ten meters above the ground. -/
def zeroTrajectory : TrajectoryInput := ⟨1, zeroMessage, 0, 10⟩

/-- Safe landing by the action `action`. -/
def safeLandingBy (action : String) : MissionManagerConfiguration :=
  { autopilotManagerEnabled := 1, decisionMakerInputType := "SAFE_LANDING", safeLandingEnabled := 1,
    safeLandingOnNoSafeLand := action }

/-- An iteration ten meters above the ground, with places left to search. -/
def tickOver (state : LandingMapperState) (config : MissionManagerConfiguration) : TickInput Bool :=
  ⟨config, 0, 0, state, 10, .nan, .nan, none, none, none, true, true⟩

/-- A search is started. -/
def searchRun : List (MissionInput Bool) :=
  [.gpsGlobalOrigin (.success 1 1 0), .flightMode .land, .trajectory zeroTrajectory,
    .tick (tickOver .canNotLand (safeLandingBy "LANDING_SITE_SEARCH"))]

theorem override_ends_with_search_posctl :
    (step phasePlanner (run (step phasePlanner) (initial phasePlanner zeroBoot) searchRun)
      (.flightMode .posctl)).searchesEnded =
    (run (step phasePlanner) (initial phasePlanner zeroBoot) searchRun).searchesEnded + 1 :=
  (override_ends_with_search phasePlanner_lifeCycle zeroBoot searchRun).2 (.flightMode .posctl) (by decide +kernel)
    (by decide +kernel)

theorem pilot_authority_posctl :
    ¬ phasePlanner.isActive (run (step phasePlanner) (initial phasePlanner zeroBoot)
      (searchRun ++ [.flightMode .posctl])).planner :=
  (pilot_authority phasePlanner_lifeCycle.reset zeroBoot (searchRun ++ [.flightMode .posctl]) (by decide +kernel)).1

end MissionManager

end AutopilotManager
