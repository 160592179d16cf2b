import AutopilotManager.Collision.Distance
import AutopilotManager.System.Basic

/-!
# System.Obstacle — the age of the distance behind a collision avoidance action

The Collision Avoidance Manager stores a distance at its own pace, and only while the configuration enables it; the
Mission Manager looks at the stored distance at its pace.  Nothing is done to the distance when collision avoidance is
switched off, so after the switch back the first iteration may act on a distance of the earlier period.
-/

namespace AutopilotManager

open Lib

/-- The whole with the Collision Avoidance Manager. -/
structure AvoidanceSystem (P : Type) extends System P where
  collision : CollisionAvoidanceManager := {}

/-- One atomic step: a call of the timer of the Collision Avoidance Manager, or a step of the rest. -/
inductive AvoidanceInput (E : Type)
  | computeDistance (i : DistanceInput)
  | system (input : SystemInput E)

namespace AvoidanceSystem

variable {P E : Type} (ext : Externals P E)

/-- What an iteration reads, with the distance of the Collision Avoidance Manager. -/
def distanceTickInput (i : TickInput E) (s : AvoidanceSystem P) : TickInput E :=
  { s.toSystem.tickInput i with
    distanceFinite := s.collision.getLatestDistance
    distanceCompared := s.collision.getLatestDistance }

/-- The inputs of the rest, with the distance an iteration reads. -/
def withDistance (s : AvoidanceSystem P) : SystemInput E → SystemInput E
  | .mission (.tick i) => .mission (.tick (s.distanceTickInput i))
  | input => input

def step (s : AvoidanceSystem P) : AvoidanceInput E → AvoidanceSystem P
  | .computeDistance i =>
    { s with collision := s.collision.computeDistanceToObstacle (collisionAvoidanceManagerConfig s.live) i }
  | .system input => { s with toSystem := s.toSystem.step ext (s.withDistance input) }

def initial (live : AutopilotManagerConfig) (parameter : MapperParameter) (boot : Boot) : AvoidanceSystem P where
  toSystem := .initial ext live parameter boot

/-! ### Switches, distances and actions -/

/-- Collision avoidance is on: its switch and that of the Autopilot Manager. -/
def isOn (live : AutopilotManagerConfig) : Bool :=
  CollisionAvoidanceManager.isEnabledInConfig (collisionAvoidanceManagerConfig live)

/-- The step switches collision avoidance on. -/
def switchesOn (s : AvoidanceSystem P) : AvoidanceInput E → Bool
  | .system (.configure live) => !isOn s.live && isOn live
  | _ => false

/-- The step stores a distance. -/
def storesDistance (s : AvoidanceSystem P) : AvoidanceInput E → Bool
  | .computeDistance _ => isOn s.live
  | _ => false

/-- The iteration looks at the distance and finds it within the threshold. -/
def findsObstacle (i : TickInput E) : Bool :=
  i.config.autopilotManagerEnabled ≠ 0 && i.config.decisionMakerInputType = "SIMPLE_COLLISION_AVOIDANCE" &&
    i.config.simpleCollisionAvoidEnabled ≠ 0 && i.distanceFinite.isFinite &&
    i.distanceCompared.le i.config.simpleCollisionAvoidDistanceThreshold

/-- The iteration triggers the action of `handle_simple_collision_avoidance`. -/
def triggersAction (i : TickInput E) (s : MissionManager P) : Bool :=
  findsObstacle i && s.landedState = .inAir && !s.actionInProgress

/-- An iteration of this decision maker acts exactly when it triggers the action. -/
theorem decisionMakerRun_of_avoidance (i : TickInput E) (s : MissionManager P)
    (henabled : i.config.autopilotManagerEnabled ≠ 0)
    (hmaker : i.config.decisionMakerInputType = "SIMPLE_COLLISION_AVOIDANCE") :
    s.decisionMakerRun ext i = MissionManager.actionTimeout i.now
      (if triggersAction i s then
        MissionManager.actionTriggered i.now (MissionManager.onObstacle { s with config := i.config })
      else { s with config := i.config }) := by
  have hhandle : MissionManager.handleSimpleCollisionAvoidance i { s with config := i.config } =
      if triggersAction i s then
        MissionManager.actionTriggered i.now (MissionManager.onObstacle { s with config := i.config })
      else { s with config := i.config } := by
    unfold MissionManager.handleSimpleCollisionAvoidance triggersAction findsObstacle
    dsimp only
    by_cases hswitch : i.config.simpleCollisionAvoidEnabled = 0
    · simp [hswitch]
    · simp [henabled, hmaker, hswitch]
  unfold MissionManager.decisionMakerRun MissionManager.makeDecision
  dsimp only
  rw [if_pos henabled, if_neg (by rw [hmaker]; decide), if_pos hmaker, hhandle]

/-! ### Histories -/

/-- In the run `is` from `s₀` the distance that is stored at the end was stored after collision avoidance was last
switched on. -/
def Justified (s₀ : AvoidanceSystem P) (is : List (AvoidanceInput E)) : Prop :=
  ∃ before i after, is = before ++ [.computeDistance i] ++ after ∧
    storesDistance (run (step ext) s₀ before) (.computeDistance i : AvoidanceInput E) ∧
    (run (step ext) s₀ is).collision.getLatestDistance =
      CollisionAvoidanceManager.distance (run (step ext) s₀ before).collision.roiSettings i ∧
    Meets (step ext) (fun s input => ¬ switchesOn s input) (run (step ext) s₀ (before ++ [.computeDistance i])) after

/-- The system with a watch on the order of its steps: collision avoidance has been switched on, and no distance has
been stored since. -/
structure Watched (P : Type) where
  system : AvoidanceSystem P
  leftOver : Bool := false

def watchedStep (w : Watched P) (input : AvoidanceInput E) : Watched P :=
  ⟨w.system.step ext input, (w.leftOver || w.system.switchesOn input) && !w.system.storesDistance input⟩

/-- After collision avoidance has been switched on, no iteration finds an obstacle by the distance left over: a
distance is stored first, or the one left over is not within the threshold. -/
def DistanceFirst (w : Watched P) : AvoidanceInput E → Prop
  | .system (.mission (.tick i)) => w.leftOver → ¬ findsObstacle (w.system.distanceTickInput i)
  | _ => True

variable {ext} {s s₀ : AvoidanceSystem P} {is : List (AvoidanceInput E)} {input : AvoidanceInput E}

theorem run_watched_system (s₀ : AvoidanceSystem P) (is : List (AvoidanceInput E)) :
    (run (watchedStep ext) ⟨s₀, false⟩ is).system = run (step ext) s₀ is :=
  run_project (fun _ _ => rfl) (⟨s₀, false⟩ : Watched P) is

/-- A step that stores no distance leaves the stored one. -/
theorem depth_step (hstores : ¬ s.storesDistance input) : (s.step ext input).collision.depth = s.collision.depth := by
  cases input with
  | computeDistance i => exact CollisionAvoidanceManager.computeDistanceToObstacle_of_disabled hstores
  | system input => rfl

theorem justified_of_stores {i : DistanceInput}
    (hstores : storesDistance (run (step ext) s₀ is) (.computeDistance i : AvoidanceInput E)) :
    Justified ext s₀ (is ++ [.computeDistance i]) := by
  refine ⟨is, i, [], by simp, hstores, ?_, trivial⟩
  rw [run_concat]
  exact CollisionAvoidanceManager.computeDistanceToObstacle_of_enabled hstores

theorem Justified.concat (h : Justified ext s₀ is) (hstores : ¬ (run (step ext) s₀ is).storesDistance input)
    (hswitch : ¬ (run (step ext) s₀ is).switchesOn input) : Justified ext s₀ (is ++ [input]) := by
  obtain ⟨before, i, after, his, hstored, hdistance, hmeets⟩ := h
  refine ⟨before, i, after ++ [input], by rw [his]; simp, hstored, ?_, ?_⟩
  · rw [run_concat]
    exact (depth_step hstores).trans hdistance
  · refine meets_concat.mpr ⟨hmeets, ?_⟩
    rw [← run_append, ← his]
    exact hswitch

/-- Unless a distance is left over, none has been stored, or it is justified. -/
theorem nan_or_justified (hstart : s₀.collision.depth = .nan) (is : List (AvoidanceInput E))
    (hleft : ¬ (run (watchedStep ext) ⟨s₀, false⟩ is).leftOver) :
    (run (step ext) s₀ is).collision.depth = .nan ∨ Justified ext s₀ is := by
  induction is using List.reverseRecOn with
  | nil => exact .inl hstart
  | append_singleton is input ih =>
    rw [run_concat, watchedStep, run_watched_system] at hleft
    by_cases hstores : (run (step ext) s₀ is).storesDistance input
    · cases input with
      | computeDistance i => exact .inr (justified_of_stores hstores)
      | system input => exact absurd hstores Bool.false_ne_true
    · simp only [hstores, Bool.not_false, Bool.and_true, Bool.or_eq_true, not_or] at hleft
      rcases ih hleft.1 with hnan | hjustified
      · rw [run_concat]
        exact .inl ((depth_step hstores).trans hnan)
      · exact .inr (hjustified.concat hstores hleft.2)

/-- A justified distance is not left over. -/
theorem Justified.not_leftOver (h : Justified ext s₀ is) : ¬ (run (watchedStep ext) ⟨s₀, false⟩ is).leftOver := by
  obtain ⟨before, i, after, his, hstored, -, hmeets⟩ := h
  have hafter : ∀ (w : Watched P) (after : List (AvoidanceInput E)), ¬ w.leftOver →
      Meets (step ext) (fun s input => ¬ switchesOn s input) w.system after →
      ¬ (run (watchedStep ext) w after).leftOver := by
    intro w after
    induction after generalizing w with
    | nil => exact fun hleft _ => hleft
    | cons input after ih =>
      rintro hleft ⟨hswitch, hrest⟩
      refine ih (watchedStep ext w input) ?_ hrest
      simp [watchedStep, hleft, hswitch]
  rw [his, run_append]
  refine hafter _ after ?_ ?_
  · rw [run_concat, watchedStep, run_watched_system, hstored]
    simp
  · rw [run_watched_system]
    exact hmeets

/-- **Actions are justified**: in every run in which no iteration finds an obstacle by a distance left over from
before a switch, an iteration that triggers the action uses a distance stored since collision avoidance was last
switched on. -/
theorem action_justified (live : AutopilotManagerConfig) (parameter : MapperParameter) (boot : Boot)
    (is : List (AvoidanceInput E)) (i : TickInput E)
    (hok : Meets (watchedStep ext) DistanceFirst ⟨initial ext live parameter boot, false⟩
      (is ++ [.system (.mission (.tick i))]))
    (htriggers : triggersAction ((run (step ext) (initial ext live parameter boot) is).distanceTickInput i)
      (run (step ext) (initial ext live parameter boot) is).mission) :
    Justified ext (initial ext live parameter boot) is := by
  have hfinds : findsObstacle ((run (step ext) (initial ext live parameter boot) is).distanceTickInput i) := by
    unfold triggersAction at htriggers
    rw [Bool.and_assoc, Bool.and_eq_true] at htriggers
    exact htriggers.1
  have hleft : ¬ (run (watchedStep ext) ⟨initial ext live parameter boot, false⟩ is).leftOver := by
    intro hleft
    have hlast := (meets_concat.mp hok).2 hleft
    rw [run_watched_system] at hlast
    exact hlast hfinds
  refine (nan_or_justified rfl is hleft).resolve_left fun hnan => ?_
  -- a distance that has never been stored is not finite
  have hfinite : (run (step ext) (initial ext live parameter boot) is).collision.depth.isFinite := by
    unfold findsObstacle at hfinds
    simp only [Bool.and_eq_true] at hfinds
    exact hfinds.1.2
  rw [hnan] at hfinite
  exact Bool.false_ne_true hfinite

/-! ### Two runs -/

/-- Collision avoidance by holding, closer than two meters. -/
def avoidLive : AutopilotManagerConfig :=
  { autopilotManagerEnabled := 1, decisionMakerInputType := "SIMPLE_COLLISION_AVOIDANCE", simpleCollisionAvoidEnabled := 1,
    simpleCollisionAvoidDistanceThreshold := 2, simpleCollisionAvoidActionOnConditionTrue := "HOLD" }

/-- An obstacle at one meter in the middle of an image of ten by ten pixels. -/
def obstacleImage : DistanceInput := ⟨some ⟨[⟨5, 5, 1⟩], 10, 10⟩, 0⟩

def avoidSystem : AvoidanceSystem Phase := initial phasePlanner avoidLive {} MissionManager.zeroBoot

/-- In the air an obstacle is found. -/
def obstacleRun : List (AvoidanceInput Bool) :=
  [.system (.mission (.landedState .inAir)), .computeDistance obstacleImage]

def tickNow : TickInput Bool := MissionManager.tickOver .unknown {}

theorem action_justified_obstacle : Justified phasePlanner avoidSystem obstacleRun :=
  action_justified avoidLive {} MissionManager.zeroBoot obstacleRun tickNow
    ⟨trivial, trivial, fun h => absurd h (by decide +kernel), trivial⟩ (by decide +kernel)

/-- Collision avoidance is switched off and on again. -/
def switchedRun : List (AvoidanceInput Bool) :=
  obstacleRun ++ [.system (.configure { avoidLive with simpleCollisionAvoidEnabled := 0 }),
    .system (.configure avoidLive)]

/-- The first iteration after the switch acts on the distance from before it. -/
theorem action_on_old_distance :
    triggersAction ((run (step phasePlanner) avoidSystem switchedRun).distanceTickInput tickNow)
      (run (step phasePlanner) avoidSystem switchedRun).mission ∧
      ¬ Justified phasePlanner avoidSystem switchedRun := by
  refine ⟨by decide +kernel, fun h => h.not_leftOver ?_⟩
  decide +kernel

end AvoidanceSystem

end AutopilotManager
