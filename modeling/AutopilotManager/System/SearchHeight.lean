import AutopilotManager.Landing.Parameters
import AutopilotManager.Mission.Commands
import AutopilotManager.System.Verdict

/-!
# System.SearchHeight — the height of a search and the height of the mapper

One setting, the distance to the ground, is read by two modules: the planner gets it as it is, the mapper after a test
of its range.  Outside of that range the planner searches at one height and the mapper judges the ground for another.
-/

namespace AutopilotManager

open Lib

/-- The configuration that an entry of the log hands to the planner. -/
def Event.searchConfig : Event → Option LandingPlannerConfig
  | startSearch config => some config
  | _ => none

namespace MissionManager

variable {P E : Type} {ext : Externals P E} {i : TickInput E} {s s' s'' : MissionManager P} {c : LandingPlannerConfig}

/-- With what the searches so far have been started, newest first. -/
def searchConfigs (s : MissionManager P) : List LandingPlannerConfig := s.log.filterMap Event.searchConfig

/-! ### The searches of an iteration -/

/-- From `s` to `s'` searches are started with `c` only. -/
def StartsWith (c : LandingPlannerConfig) (s s' : MissionManager P) : Prop :=
  ∃ n, s'.searchConfigs = List.replicate n c ++ s.searchConfigs

theorem StartsWith.refl (s : MissionManager P) : StartsWith c s s := ⟨0, rfl⟩

theorem StartsWith.trans (h : StartsWith c s s') (h' : StartsWith c s' s'') : StartsWith c s s'' := by
  obtain ⟨n, hn⟩ := h
  obtain ⟨m, hm⟩ := h'
  refine ⟨m + n, ?_⟩
  rw [hm, hn, ← List.append_assoc, List.replicate_append_replicate]

theorem startsWith_landingSiteSearch (s : MissionManager P) :
    StartsWith (landingPlannerConfig s.config) s (s.landingSiteSearch ext i) := by
  unfold landingSiteSearch
  dsimp only
  split_ifs
  · exact ⟨1, rfl⟩
  · exact ⟨1, rfl⟩
  · exact ⟨0, rfl⟩
  · exact ⟨0, rfl⟩
  · exact .refl s

theorem startsWith_onNoSafeLand (s : MissionManager P) :
    StartsWith (landingPlannerConfig s.config) s (s.onNoSafeLand ext i) := by
  cases onNoSafeLand_branch ext i s with
  | plain action result => exact result ▸ ⟨0, rfl⟩
  | move action result =>
    rw [result]
    unfold moveXyzWrtCurrent
    split_ifs <;> exact ⟨0, rfl⟩
  | search action result => exact result ▸ startsWith_landingSiteSearch s
  | go action result =>
    rw [result]
    unfold goToWaypoint
    split_ifs <;> exact ⟨0, rfl⟩
  | unknown move search go result =>
    rw [result]
    exact .refl s

theorem startsWith_triggerSafeLanding (ext : Externals P E) (i : TickInput E) (s : MissionManager P) :
    StartsWith (landingPlannerConfig s.config) s (s.triggerSafeLanding ext i) := by
  cases triggerSafeLanding_trigger ext i s with
  | unhealthy free triggered unhealthy result => exact result ▸ ⟨0, rfl⟩
  | action free triggered takes result => exact result ▸ startsWith_onNoSafeLand s
  | none takes result =>
    rw [result]
    exact .refl s

theorem startsWith_restoreIfEnded (s : MissionManager P) : StartsWith c s (s.restoreIfEnded ext) := by
  unfold restoreIfEnded
  split_ifs <;> exact ⟨0, rfl⟩

theorem startsWith_decideSearch (s : MissionManager P) : StartsWith c s (s.decideSearch ext i) := by
  unfold decideSearch isStationary
  dsimp only
  split_ifs <;> exact ⟨0, rfl⟩

theorem startsWith_commandSearch (initiate land : Bool) (s : MissionManager P) :
    StartsWith c s (s.commandSearch ext initiate land) := by
  unfold commandSearch
  split_ifs
  · exact startsWith_restoreIfEnded (s.statusText _ _)
  · exact startsWith_restoreIfEnded (statusText _ _ { s.hold with planner := ext.endSearch s.planner })
  · exact startsWith_restoreIfEnded (s.hold.statusText _ _)
  · exact startsWith_restoreIfEnded (s.goToNewLocalWaypoint _)
  · exact .refl s

theorem startsWith_endLandingSiteSearch (s : MissionManager P) : StartsWith c s (s.endLandingSiteSearch ext) := by
  unfold endLandingSiteSearch
  dsimp only
  split_ifs <;> exact ⟨0, rfl⟩

/-- The processing of active actions starts no search. -/
theorem startsWith_processActiveActions (s : MissionManager P) :
    StartsWith c s (s.processActiveActions ext i) := by
  unfold processActiveActions
  dsimp only
  split_ifs
  · exact startsWith_endLandingSiteSearch s
  · exact (startsWith_decideSearch s).trans (startsWith_commandSearch ..)
  · exact ⟨0, rfl⟩
  · exact ⟨0, rfl⟩
  · exact .refl s

theorem startsWith_actionTimeout (now : ℤ) (s : MissionManager P) : StartsWith c s (s.actionTimeout now) := by
  unfold actionTimeout
  split_ifs <;> exact ⟨0, rfl⟩

theorem startsWith_handleSimpleCollisionAvoidance (s : MissionManager P) :
    StartsWith c s (s.handleSimpleCollisionAvoidance i) := by
  rcases handleSimpleCollisionAvoidance_cases i s with ⟨-, hresult⟩ | hresult
  · rw [hresult]
    unfold onObstacle
    dsimp only
    split_ifs <;> exact ⟨0, rfl⟩
  · rw [hresult]
    exact .refl s

/-- The searches of an iteration are started with the configuration that the iteration has read. -/
theorem startsWith_decisionMakerRun (ext : Externals P E) (i : TickInput E) (s : MissionManager P) :
    StartsWith (landingPlannerConfig i.config) s (s.decisionMakerRun ext i) := by
  by_cases hbypass : i.bypasses
  · have hread : StartsWith (landingPlannerConfig i.config) s { s with config := i.config } := ⟨0, rfl⟩
    cases decisionMakerRun_of_bypasses ext hbypass s with
    | disabled result => exact result ▸ hread
    | avoidance enabled result =>
      rw [result]
      exact (hread.trans (startsWith_handleSimpleCollisionAvoidance _)).trans (startsWith_actionTimeout ..)
    | undecided enabled result =>
      rw [result]
      exact hread.trans (startsWith_actionTimeout ..)
  · have hbegin : StartsWith (landingPlannerConfig i.config) s (s.beginTick i) := by
      rw [beginTick_eq]
      exact ⟨0, rfl⟩
    have hconfig : (s.beginTick i).config = i.config := by
      rw [beginTick_eq]
    have hafter : ∀ s' : MissionManager P, StartsWith (landingPlannerConfig i.config) s' (s'.afterHandler i) := fun s' =>
      startsWith_actionTimeout i.now { s' with isHealthy := s'.obstacleAvoidanceEnabled || s'.underManualControl }
    rw [decisionMakerRun_of_calls ext hbypass, handleSafeLanding_beginTick]
    refine (hbegin.trans ?_).trans (hafter _)
    split_ifs
    · exact ⟨0, rfl⟩
    · exact .refl _
    · have htrigger := startsWith_triggerSafeLanding ext i (s.beginTick i)
      rw [hconfig] at htrigger
      exact htrigger.trans (startsWith_processActiveActions _)

/-- **Only iterations start searches**, with the configuration that they read. -/
theorem startsWith_step (ext : Externals P E) (s : MissionManager P) {input : MissionInput E}
    (hread : ∀ i, input = .tick i → landingPlannerConfig i.config = c) : StartsWith c s (s.step ext input) := by
  rcases step_cases ext s input with ⟨i, rfl⟩ | ⟨mode, rfl⟩ | hcallback
  · rw [← hread i rfl]
    exact startsWith_decisionMakerRun ext i s
  · refine flightModeCallback_induction ⟨0, rfl⟩ ⟨0, rfl⟩ ?_
    unfold resetPlanner
    split_ifs <;> exact ⟨0, rfl⟩
  · refine ⟨0, ?_⟩
    unfold searchConfigs
    cases hcallback.log with
    | nothing log => rw [log]; rfl
    | text type text log => rw [log]; rfl
    | answer reply message log land => rw [log]; rfl

end MissionManager

namespace System

variable {P E : Type}

/-- Of the whole, too, a step starts searches with the live configuration only. -/
theorem startsWith_step (ext : Externals P E) (s : System P) (input : SystemInput E) :
    MissionManager.StartsWith (MissionManager.landingPlannerConfig (missionManagerConfig s.live)) s.mission
      (s.step ext input).mission := by
  cases input with
  | configure live => exact .refl _
  | run healthy => exact (runOnce_frame healthy s).1 ▸ .refl _
  | mapper m => exact .refl _
  | printStats => exact .refl _
  | mission input =>
    refine MissionManager.startsWith_step ext s.mission fun i hi => ?_
    cases input with
    | tick j =>
      cases hi
      rfl
    | _ => exact absurd hi (by simp [missionInput])

/-! ### The two heights -/

/-- The height that `updateParameters` derives from the live configuration. -/
def mapperAltitude (s : System P) : Double :=
  (s.landing.updateParameters (landingManagerConfig s.live)).parameter.searchAltitudeM

/-- The planner and the mapper take a distance to the ground for the same height: the mapper does not refuse it, or it
is the height that replaces what is refused. -/
def SameHeight (distance maxSearchAltitudeM : Double) : Prop :=
  LandingManager.refused distance maxSearchAltitudeM → distance.toFloat = .ofRat (15 / 2)

instance : DecidableRel SameHeight := fun _ _ => inferInstanceAs (Decidable (_ → _))

theorem mapperAltitude_eq (s : System P) : s.mapperAltitude =
    if LandingManager.refused s.live.safeLandingDistanceToGround s.landing.parameter.maxSearchAltitudeM then
      .ofRat (15 / 2)
    else s.live.safeLandingDistanceToGround.toFloat := by
  rw [mapperAltitude, LandingManager.updateParameters_parameter]
  exact LandingManager.stored_eq

/-- **When planner and mapper agree on the height of a search**: with the height of a search that a step starts, the one
of the mapper is the same exactly when the two take the distance for the same height, and it is equal as a number when
in addition the distance is a number. -/
theorem searchHeight_agrees_iff (ext : Externals P E) (s : System P) (input : SystemInput E)
    (configs : List LandingPlannerConfig)
    (hstarts : (s.step ext input).mission.searchConfigs = configs ++ s.mission.searchConfigs) :
    ∀ c ∈ configs,
      (c.maxHeight = s.mapperAltitude ↔
        SameHeight s.live.safeLandingDistanceToGround s.landing.parameter.maxSearchAltitudeM) ∧
      (c.maxHeight.eq s.mapperAltitude ↔ s.live.safeLandingDistanceToGround ≠ .nan ∧
        SameHeight s.live.safeLandingDistanceToGround s.landing.parameter.maxSearchAltitudeM) := by
  intro c hc
  obtain ⟨n, hn⟩ := startsWith_step ext s input
  have hconfigs := List.append_cancel_right (hstarts.symm.trans hn)
  have hheight : c.maxHeight = s.live.safeLandingDistanceToGround.toFloat := by
    rw [hconfigs] at hc
    rw [List.eq_of_mem_replicate hc]
    rfl
  have hsame : c.maxHeight = s.mapperAltitude ↔
      SameHeight s.live.safeLandingDistanceToGround s.landing.parameter.maxSearchAltitudeM := by
    rw [hheight, mapperAltitude_eq, SameHeight]
    split_ifs with hrefused
    · exact ⟨fun h _ => h, fun h => h hrefused⟩
    · exact iff_of_true rfl fun h => absurd h hrefused
  refine ⟨hsame, ?_⟩
  rw [Double.eq_iff, hsame, and_comm, and_congr_left_iff, hheight]
  rintro -
  exact ⟨fun h hnan => h (by rw [hnan]; rfl), Double.toFloat_ne_nan⟩

/-! ### A landing over bad ground -/

/-- A landing site search from a distance to the ground. -/
def searchLive (distance : Double) : AutopilotManagerConfig :=
  { holdLive with safeLandingOnNoSafeLand := "LANDING_SITE_SEARCH", safeLandingDistanceToGround := distance }

/-- The mapper has found bad ground, and a landing is triggered. -/
def badGround (distance : Double) : System Phase :=
  run (step phasePlanner) (initial phasePlanner (searchLive distance) {} MissionManager.zeroBoot)
    [.mission (.gpsGlobalOrigin (.success 1 1 0)), messageAt 0, .mission (.tick (tickAt 0)), .run true,
      .mapper ⟨some ⟨1, 1⟩, .canNotLand, 10⟩, .mission (.flightMode .land)]

/-- What the planner is given for a search from a distance to the ground. -/
def searchConfig (distance : Double) : LandingPlannerConfig :=
  MissionManager.landingPlannerConfig (missionManagerConfig (searchLive distance))

/-- At the distance of the configuration file they agree. -/
theorem searchHeight_agrees_six : (searchConfig 6).maxHeight.eq (badGround 6).mapperAltitude :=
  (searchHeight_agrees_iff phasePlanner (badGround 6) (.mission (.tick (tickAt 0))) [searchConfig 6] (by decide +kernel)
    (searchConfig 6) List.mem_cons_self).2.mpr ⟨by decide +kernel, by decide +kernel⟩

/-- With the default distance the search is started at height zero, and the mapper judges the ground for 7.5 meters. -/
theorem searchHeight_default_differs :
    ((badGround 0).step phasePlanner (.mission (.tick (tickAt 0)))).mission.searchConfigs =
        searchConfig 0 :: (badGround 0).mission.searchConfigs ∧
      (searchConfig 0).maxHeight = 0 ∧ (badGround 0).mapperAltitude = .ofRat (15 / 2) ∧
      (searchConfig 0).maxHeight ≠ (badGround 0).mapperAltitude := by
  refine ⟨by decide +kernel, by decide +kernel, by decide +kernel, by decide +kernel⟩

end System

end AutopilotManager
