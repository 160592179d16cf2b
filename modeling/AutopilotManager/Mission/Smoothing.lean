import AutopilotManager.Mission.Spacing
import AutopilotManager.Lib.Smoothing
import Mathlib.Analysis.InnerProductSpace.PiL2

/-!
# Mission.Smoothing — the velocities of a search

A search setpoint carries the requested velocity smoothed by a filter whose state is a local `static`: it is made by the
first message of the first search and lives on from one search to the next.  The messages of a run are recorded with
what their velocities are computed from, once for the whole run and once for the current search.
-/

namespace AutopilotManager

open Lib

/-- The horizontal velocity of a search setpoint. -/
def Event.searchVelocity : Event → Option (Double × Double)
  | sent .search message => some (message.first.velX, message.first.velY)
  | _ => none

/-- What the velocity of a search setpoint is computed from: the position, the waypoint and the search speed. -/
structure Reading where
  posX : Double
  posY : Double
  newX : Double
  newY : Double
  speed : Double
  deriving DecidableEq

namespace MissionManager

variable {P E : Type} {ext : Externals P E} {s : MissionManager P} {input : MissionInput E}

/-! ### The filter of the source -/

def reading (s : MissionManager P) : Reading :=
  ⟨s.currentPosX, s.currentPosY, s.newX, s.newY, s.config.landingSiteSearchSpeed⟩

/-- `vel_new`: from the waypoint to the position, with the search speed. -/
def requested (ext : Externals P E) (r : Reading) : Double × Double :=
  let v := ext.normalized ((r.posX - r.newX).toFloat, (r.posY - r.newY).toFloat)
  (mulF v.1 r.speed.toFloat, mulF v.2 r.speed.toFloat)

/-- `vel * smoothing_factor + vel_new * inv_smoothing_factor`. -/
def mixFloat (vel velNew : Double × Double) : Double × Double :=
  (addF (mulF vel.1 smoothingFactor) (mulF velNew.1 invSmoothingFactor),
    addF (mulF vel.2 smoothingFactor) (mulF velNew.2 invSmoothingFactor))

/-- The setpoint has the opposite direction: from the position to the waypoint. -/
def opposite (vel : Double × Double) : Double × Double := (-vel.1, -vel.2)

theorem smoothedVel_eq (ext : Externals P E) (s : MissionManager P) :
    s.smoothedVel ext = smoothed mixFloat s.vel (requested ext s.reading) := rfl

/-- The input is a message that is answered by a search setpoint. -/
def Commands (ext : Externals P E) (s : MissionManager P) : MissionInput E → Prop
  | .trajectory t => t.compid ≠ mavCompIdObstacleAvoidance ∧ ext.isActive s.planner ∧ s.isPosValid ∧
      ¬ ext.shouldLand s.planner
  | _ => False

instance (ext : Externals P E) (s : MissionManager P) (input : MissionInput E) : Decidable (s.Commands ext input) :=
  match input with
  | .trajectory t => inferInstanceAs (Decidable (t.compid ≠ mavCompIdObstacleAvoidance ∧ ext.isActive s.planner ∧
      s.isPosValid ∧ ¬ ext.shouldLand s.planner))
  | .tick _ | .flightMode _ | .landedState _ | .position .. | .positionVelocity .. | .attitude _
  | .gpsGlobalOrigin _ => .isFalse id

/-- A search setpoint carries the next output of the filter. -/
theorem step_of_commands (h : s.Commands ext input) : (step ext s input).vel = some (s.smoothedVel ext) ∧
    (step ext s input).log.head?.bind Event.searchVelocity = some (opposite (s.smoothedVel ext)) := by
  cases input with
  | trajectory t =>
    obtain ⟨hforeign, hactive, hvalid, hsearches⟩ := h
    change (s.onMavlinkTrajectoryMessage ext t).vel = _ ∧
      (s.onMavlinkTrajectoryMessage ext t).log.head?.bind Event.searchVelocity = _
    cases onMavlinkTrajectoryMessage_answer ext t s with
    | own own => exact absurd own hforeign
    | land foreign active valid lands => exact absurd lands hsearches
    | search foreign active valid searches result =>
      rw [result]
      exact ⟨rfl, rfl⟩
    | forwarded foreign unready => exact absurd ⟨hactive, hvalid⟩ unready
  | _ => exact h.elim

/-- A message is answered by a search setpoint in no other case. -/
theorem commands_iff {t : TrajectoryInput} : s.Commands ext (.trajectory t) ↔
    ∃ message, (step ext s (.trajectory t)).log = .sent .search message :: s.log := by
  change _ ↔ ∃ message, (s.onMavlinkTrajectoryMessage ext t).log = .sent .search message :: s.log
  cases onMavlinkTrajectoryMessage_answer ext t s with
  | own own result =>
    rw [result]
    refine ⟨fun h => absurd own h.1, ?_⟩
    rintro ⟨message, hlog⟩
    exact absurd hlog.symm (List.cons_ne_self _ _)
  | land foreign active valid lands result =>
    rw [result]
    refine ⟨fun h => absurd lands h.2.2.2, ?_⟩
    rintro ⟨message, hlog⟩
    cases (List.cons_eq_cons.mp hlog).1
  | search foreign active valid searches result =>
    rw [result]
    exact ⟨fun _ => ⟨_, rfl⟩, fun _ => ⟨foreign, active, valid, searches⟩⟩
  | forwarded foreign unready result =>
    rw [result]
    refine ⟨fun h => absurd ⟨h.2.1, h.2.2.1⟩ unready, ?_⟩
    rintro ⟨message, hlog⟩
    cases (List.cons_eq_cons.mp hlog).1

theorem unheard_vel : Unheard (fun s : MissionManager P => s.vel) := by
  repeat' constructor
  all_goals intros; rfl

theorem untouched_vel : Untouched (fun s : MissionManager P => s.vel) := by
  repeat' constructor
  all_goals intros; rfl

/-- Nothing else moves the filter. -/
theorem vel_step_of_not_commands (h : ¬ s.Commands ext input) : (step ext s input).vel = s.vel := by
  by_cases htick : ∃ i, input = .tick i
  · obtain ⟨i, rfl⟩ := htick
    exact untouched_vel.decisionMakerRun s
  · by_cases hmessage : ∃ t, input = .trajectory t
    · obtain ⟨t, rfl⟩ := hmessage
      change (s.onMavlinkTrajectoryMessage ext t).vel = s.vel
      cases onMavlinkTrajectoryMessage_answer ext t s with
      | own own result => rw [result]
      | land foreign active valid lands result =>
        rw [result]
        rfl
      | search foreign active valid searches => exact absurd ⟨foreign, active, valid, searches⟩ h
      | forwarded foreign unready result =>
        rw [result]
        rfl
    · exact unheard_vel.step s (fun i hi => htick ⟨i, hi⟩) fun t ht => hmessage ⟨t, ht⟩

end MissionManager

/-! ### The record of the messages -/

open MissionManager

/-- Messages that were answered by search setpoints: what they read, and the velocities sent. -/
structure CommandRecord where
  readings : List Reading := []
  commands : List (Double × Double) := []

def CommandRecord.add (reading : Reading) (command : Option (Double × Double)) (record : CommandRecord) :
    CommandRecord :=
  ⟨record.readings ++ [reading], record.commands ++ command.toList⟩

/-- The module with the messages of the run and those since the last `startSearch`. -/
structure CommandWatch (P : Type) where
  mission : MissionManager P
  all : CommandRecord := {}
  search : CommandRecord := {}

namespace CommandWatch

variable {P E : Type} {ext : Externals P E} {w : CommandWatch P} {input : MissionInput E}

def step (ext : Externals P E) (w : CommandWatch P) (input : MissionInput E) : CommandWatch P :=
  let mission := w.mission.step ext input
  if w.mission.Commands ext input then
    let command := mission.log.head?.bind Event.searchVelocity
    ⟨mission, w.all.add w.mission.reading command, w.search.add w.mission.reading command⟩
  else if w.mission.searchesStarted < mission.searchesStarted then ⟨mission, w.all, {}⟩
  else ⟨mission, w.all, w.search⟩

theorem mission_step (ext : Externals P E) (w : CommandWatch P) (input : MissionInput E) :
    (step ext w input).mission = w.mission.step ext input := by
  unfold step
  dsimp only
  split_ifs <;> rfl

/-- The watch of a run. -/
def after (ext : Externals P E) (boot : Boot) (is : List (MissionInput E)) : CommandWatch P :=
  run (step ext) ⟨initial ext boot, {}, {}⟩ is

/-- The watched module is the module. -/
theorem mission_after (ext : Externals P E) (boot : Boot) (is : List (MissionInput E)) :
    (after ext boot is).mission = run (MissionManager.step ext) (initial ext boot) is :=
  run_project (fun w input => mission_step ext w input) _ is

/-! ### What the filter makes of a record -/

/-- The velocities of the record are what a fresh filter makes of its readings, and the filter holds the last one. -/
structure Follows (ext : Externals P E) (record : CommandRecord) (vel : Option (Double × Double)) : Prop where
  commands : record.commands = (outputs mixFloat none (record.readings.map (requested ext))).map opposite
  held : record.readings ≠ [] → vel = heldAfter mixFloat none (record.readings.map (requested ext))

theorem follows_empty (ext : Externals P E) (vel : Option (Double × Double)) : Follows ext {} vel :=
  ⟨rfl, fun h => absurd rfl h⟩

/-- A message is added to a record: the first one has to find a filter that is as good as fresh. -/
theorem Follows.add {record : CommandRecord} {s : MissionManager P} (h : Follows ext record s.vel)
    (hfresh : record.readings = [] → s.vel.getD (requested ext s.reading) = requested ext s.reading) :
    Follows ext (record.add s.reading (some (opposite (s.smoothedVel ext)))) (some (s.smoothedVel ext)) := by
  have hsame : s.smoothedVel ext =
      smoothed mixFloat (heldAfter mixFloat none (record.readings.map (requested ext))) (requested ext s.reading) := by
    rw [smoothedVel_eq]
    by_cases hempty : record.readings = []
    · rw [hempty]
      exact smoothed_of_fresh (hfresh hempty)
    · rw [← h.held hempty]
  have hmap : (record.add s.reading (some (opposite (s.smoothedVel ext)))).readings.map (requested ext) =
      record.readings.map (requested ext) ++ [requested ext s.reading] := List.map_append
  refine ⟨?_, fun _ => ?_⟩
  · rw [hmap, outputs_concat, List.map_append, ← hsame, ← h.commands]
    rfl
  · rw [hmap, heldAfter_concat, ← hsame]

theorem step_of_commands (h : w.mission.Commands ext input) : step ext w input =
    ⟨w.mission.step ext input, w.all.add w.mission.reading (some (opposite (w.mission.smoothedVel ext))),
      w.search.add w.mission.reading (some (opposite (w.mission.smoothedVel ext)))⟩ := by
  unfold step
  dsimp only
  rw [if_pos h, (MissionManager.step_of_commands h).2]

/-- A step that is not answered by a search setpoint leaves the record of the run; the one of the search begins anew or
stays. -/
theorem step_of_not_commands (h : ¬ w.mission.Commands ext input) : (step ext w input).all = w.all ∧
    ((step ext w input).search = {} ∨ (step ext w input).search = w.search) := by
  unfold step
  dsimp only
  rw [if_neg h]
  split_ifs
  · exact ⟨rfl, .inl rfl⟩
  · exact ⟨rfl, .inr rfl⟩

theorem vel_of_not_commands (h : ¬ w.mission.Commands ext input) : (w.step ext input).mission.vel = w.mission.vel := by
  rw [mission_step]
  exact vel_step_of_not_commands h

/-- A step that is answered by a search setpoint adds its message to a record. -/
theorem Follows.of_commands {record : CommandRecord} (h : Follows ext record w.mission.vel)
    (hcommands : w.mission.Commands ext input) (hfresh : record.readings = [] →
      w.mission.vel.getD (requested ext w.mission.reading) = requested ext w.mission.reading) :
    Follows ext (record.add w.mission.reading (some (opposite (w.mission.smoothedVel ext))))
      (w.step ext input).mission.vel := by
  rw [mission_step, (MissionManager.step_of_commands hcommands).1]
  exact h.add hfresh

/-! ### The record of the run -/

/-- The record of the run begins with a filter without a value. -/
structure Recorded (ext : Externals P E) (w : CommandWatch P) : Prop where
  follows : Follows ext w.all w.mission.vel
  fresh : w.all.readings = [] → w.mission.vel = none

theorem Recorded.step (h : Recorded ext w) (input : MissionInput E) : Recorded ext (w.step ext input) := by
  by_cases hcommands : w.mission.Commands ext input
  · have hadd := h.follows.of_commands hcommands fun hempty => by rw [h.fresh hempty]; rfl
    rw [step_of_commands hcommands] at hadd ⊢
    exact ⟨hadd, fun hempty => absurd hempty (by simp [CommandRecord.add])⟩
  · have hvel := vel_of_not_commands hcommands
    obtain ⟨hall, -⟩ := step_of_not_commands hcommands
    refine ⟨?_, fun hempty => ?_⟩
    · rw [hall, hvel]
      exact h.follows
    · rw [hvel]
      exact h.fresh (hall ▸ hempty)

theorem recorded_after (ext : Externals P E) (boot : Boot) (is : List (MissionInput E)) :
    Recorded ext (after ext boot is) := by
  have hinitial : Recorded ext (P := P) ⟨initial ext boot, {}, {}⟩ := ⟨follows_empty ext _, fun _ => rfl⟩
  have hstep : ∀ (w : CommandWatch P) input, Recorded ext w → Recorded ext (w.step ext input) :=
    fun _ input h => h.step input
  exact run_invariant hstep hinitial is

/-! ### The record of a search -/

/-- The first search setpoint of a search finds a filter without a value, or one that holds the velocity it requests. -/
def FreshStart (ext : Externals P E) (w : CommandWatch P) (input : MissionInput E) : Prop :=
  w.mission.Commands ext input → w.search.readings = [] →
    w.mission.vel.getD (requested ext w.mission.reading) = requested ext w.mission.reading

instance (ext : Externals P E) (w : CommandWatch P) (input : MissionInput E) : Decidable (FreshStart ext w input) :=
  inferInstanceAs (Decidable (_ → _ → _))

theorem Follows.step (h : Follows ext w.search w.mission.vel) (hfresh : FreshStart ext w input) :
    Follows ext (w.step ext input).search (w.step ext input).mission.vel := by
  by_cases hcommands : w.mission.Commands ext input
  · have hadd := h.of_commands hcommands (hfresh hcommands)
    rw [step_of_commands hcommands] at hadd ⊢
    exact hadd
  · rcases (step_of_not_commands hcommands).2 with hsearch | hsearch
    · rw [hsearch]
      exact follows_empty ext _
    · rw [hsearch, vel_of_not_commands hcommands]
      exact h

theorem follows_after {boot : Boot} {is : List (MissionInput E)}
    (hfresh : Meets (step ext) (FreshStart ext) ⟨initial ext boot, {}, {}⟩ is) :
    Follows ext (after ext boot is).search (after ext boot is).mission.vel := by
  have hstep : ∀ (w : CommandWatch P) input, Follows ext w.search w.mission.vel → FreshStart ext w input →
      Follows ext (w.step ext input).search (w.step ext input).mission.vel := fun _ _ h hok => Follows.step h hok
  exact hfresh.invariant hstep (follows_empty ext _)

end CommandWatch

/-! ### Exact arithmetic -/

/-- The value of a finite double. -/
noncomputable def exactValue : Double → ℝ
  | .fin q => (q.1 : ℝ)
  | _ => 0

theorem exactValue_nonneg {x : Double} (h : ¬ x.lt 0) : 0 ≤ exactValue x := by
  have hzero : (0 : Double) = .fin ⟨0, by decide +kernel⟩ := by decide +kernel
  cases x with
  | fin q =>
    rw [hzero] at h
    exact Rat.cast_nonneg.mpr (not_lt.mp fun hq => h (decide_eq_true hq))
  | nan => exact le_refl _
  | inf s => exact le_refl _

/-- The smoothing factor of the source is a weight. -/
theorem exactValue_smoothingFactor : 0 ≤ exactValue smoothingFactor ∧ exactValue smoothingFactor ≤ 1 := by
  have hfactor : smoothingFactor = .fin ⟨15099494 / 2 ^ 24, by decide +kernel⟩ := by decide +kernel
  rw [hfactor]
  constructor
  · exact Rat.cast_nonneg.mpr (by norm_num)
  · change ((15099494 / 2 ^ 24 : ℚ) : ℝ) ≤ 1
    norm_num

namespace Reading

/-- The position and the waypoint are finite, and the search speed is finite and not negative. -/
def Proper (r : Reading) : Prop :=
  r.posX.isFinite ∧ r.posY.isFinite ∧ r.newX.isFinite ∧ r.newY.isFinite ∧ r.speed.isFinite ∧ ¬ r.speed.lt 0

instance (r : Reading) : Decidable r.Proper := inferInstanceAs (Decidable (_ ∧ _))

/-- `vel_new` without rounding. -/
noncomputable def exactRequested (r : Reading) : EuclideanSpace ℝ (Fin 2) :=
  exactValue r.speed • NormedSpace.normalize
    !₂[exactValue r.posX - exactValue r.newX, exactValue r.posY - exactValue r.newY]

/-- The velocity requested is not faster than the search speed. -/
theorem Proper.norm_exactRequested_le {r : Reading} (h : r.Proper) : ‖r.exactRequested‖ ≤ exactValue r.speed := by
  obtain ⟨-, -, -, -, -, hspeed⟩ := h
  exact norm_smul_normalize_le (exactValue_nonneg hspeed) _

end Reading

/-- The velocities sent for the readings without rounding: the filter of the source, in the plane. -/
noncomputable def exactCommands (readings : List Reading) : List (EuclideanSpace ℝ (Fin 2)) :=
  (outputs (mixExact (exactValue smoothingFactor)) none (readings.map Reading.exactRequested)).map (-·)

/-- In exact arithmetic a fresh filter starts with the velocity requested, towards the waypoint. -/
theorem head?_exactCommands (readings : List Reading) :
    (exactCommands readings).head? = readings.head?.map fun r => -r.exactRequested := by
  rw [exactCommands, List.head?_map, head?_outputs, List.head?_map, Option.map_map, Option.map_map]
  refine congrArg (readings.head?.map ·) (funext fun r => ?_)
  exact congrArg (-·) (mixExact_self _ r.exactRequested)

/-- The readings up to one of them have a fastest. -/
theorem exists_fastest {readings : List Reading} (h : readings ≠ []) :
    ∃ r ∈ readings, ∀ r' ∈ readings, exactValue r'.speed ≤ exactValue r.speed := by
  obtain ⟨r, hr, hmax⟩ := Finset.exists_max_image readings.toFinset (fun r => exactValue r.speed)
    (List.toFinset_nonempty_iff readings |>.mpr h)
  exact ⟨r, List.mem_toFinset.mp hr, fun r' hr' => hmax r' (List.mem_toFinset.mpr hr')⟩

/-- **No command is faster than the fastest search speed so far.** -/
theorem norm_exactCommands_le {readings : List Reading} (hproper : ∀ r ∈ readings, r.Proper) {k : ℕ}
    {v : EuclideanSpace ℝ (Fin 2)} (hv : (exactCommands readings)[k]? = some v) :
    ∃ r ∈ readings.take (k + 1), ‖v‖ ≤ exactValue r.speed := by
  rw [exactCommands, List.getElem?_map, Option.map_eq_some_iff] at hv
  obtain ⟨u, hu, rfl⟩ := hv
  have hne : readings.take (k + 1) ≠ [] := by
    rintro hnil
    rw [List.take_eq_nil_iff] at hnil
    obtain rfl := hnil.resolve_left (Nat.succ_ne_zero k)
    cases hu
  obtain ⟨r, hr, hmax⟩ := exists_fastest hne
  obtain ⟨ha, ha1⟩ := exactValue_smoothingFactor
  refine ⟨r, hr, ?_⟩
  rw [norm_neg]
  refine norm_outputs_le ha ha1 (by simp) ?_ hu
  rintro x hx
  rw [← List.map_take, List.mem_map] at hx
  obtain ⟨r', hr', rfl⟩ := hx
  exact (hproper r' (List.mem_of_mem_take hr')).norm_exactRequested_le.trans (hmax r' hr')

/-! ### Searches -/

namespace CommandWatch

variable {P E : Type}

/-- **The speed of the search setpoints**: in every run they are the outputs of the filter for what the messages read,
and in exact arithmetic none of them is faster than the fastest search speed read so far. -/
theorem search_speed_bounded (ext : Externals P E) (boot : Boot) (is : List (MissionInput E))
    (hproper : ∀ r ∈ (after ext boot is).all.readings, r.Proper) :
    (after ext boot is).all.commands =
        (outputs mixFloat none ((after ext boot is).all.readings.map (requested ext))).map opposite ∧
      (exactCommands (after ext boot is).all.readings).length = (after ext boot is).all.commands.length ∧
      ∀ k v, (exactCommands (after ext boot is).all.readings)[k]? = some v →
        ∃ r ∈ (after ext boot is).all.readings.take (k + 1), ‖v‖ ≤ exactValue r.speed := by
  have hcommands := (recorded_after ext boot is).follows.commands
  refine ⟨hcommands, ?_, fun k v hv => norm_exactCommands_le hproper hv⟩
  rw [hcommands, exactCommands, List.length_map, List.length_map, length_outputs, length_outputs, List.length_map,
    List.length_map]

/-- An iteration that searches with a speed of one meter per second. -/
def searchTick (now : ℤ) : TickInput Bool :=
  { tickOver .canNotLand { safeLandingBy "LANDING_SITE_SEARCH" with landingSiteSearchSpeed := 1 } with now }

/-- A search that starts at a position, around the origin, and sends one search setpoint. -/
def searchFrom (northM eastM : Double) (now : ℤ) : List (MissionInput Bool) :=
  [.positionVelocity northM eastM 0 0 0 0, .flightMode .land, .trajectory zeroTrajectory, .tick (searchTick now),
    .trajectory zeroTrajectory]

/-- One search, east of the origin. -/
def eastSearch : List (MissionInput Bool) := .gpsGlobalOrigin (.success 1 1 0) :: searchFrom 0 1 5000000001

/-- The same search after another one, which the pilot has ended. -/
def secondSearch (northM eastM : Double) : List (MissionInput Bool) :=
  .gpsGlobalOrigin (.success 1 1 0) :: (searchFrom northM eastM 0 ++
    ([.flightMode .posctl, .tick (searchTick 5000000000)] ++ searchFrom 0 1 5000000001))

theorem search_speed_bounded_second :
    let w := after phasePlanner zeroBoot (secondSearch 1 0)
    w.all.readings.length = 2 ∧
      ∀ k v, (exactCommands w.all.readings)[k]? = some v →
        ∃ r ∈ w.all.readings.take (k + 1), ‖v‖ ≤ exactValue r.speed :=
  ⟨by decide +kernel, (search_speed_bounded phasePlanner zeroBoot (secondSearch 1 0) (by decide +kernel)).2.2⟩

/-- **Smoothing that starts fresh**: if every search of two runs starts with a filter that is as good as fresh, the
setpoints of the current search depend on its own messages only, and the first one has the velocity requested. -/
theorem fresh_smoothing (ext : Externals P E) (boot boot' : Boot) (is is' : List (MissionInput E))
    (hfresh : Meets (step ext) (FreshStart ext) ⟨initial ext boot, {}, {}⟩ is)
    (hfresh' : Meets (step ext) (FreshStart ext) ⟨initial ext boot', {}, {}⟩ is')
    (hsame : (after ext boot is).search.readings = (after ext boot' is').search.readings) :
    (after ext boot is).search.commands = (after ext boot' is').search.commands ∧
      (after ext boot is).search.commands.head? = (after ext boot is).search.readings.head?.map
        (fun r => opposite (mixFloat (requested ext r) (requested ext r))) ∧
      (exactCommands (after ext boot is).search.readings).head? =
        (after ext boot is).search.readings.head?.map fun r => -r.exactRequested := by
  have hcommands := (follows_after hfresh).commands
  have hcommands' := (follows_after hfresh').commands
  refine ⟨?_, ?_, head?_exactCommands _⟩
  · rw [hcommands, hcommands', hsame]
  · rw [hcommands, List.head?_map, head?_outputs, List.head?_map, Option.map_map, Option.map_map]
    rfl

theorem fresh_smoothing_east :
    (after phasePlanner zeroBoot eastSearch).search.commands =
      (after phasePlanner zeroBoot (secondSearch 0 1)).search.commands :=
  (fresh_smoothing phasePlanner zeroBoot zeroBoot eastSearch (secondSearch 0 1) (by decide +kernel) (by decide +kernel)
    (by decide +kernel)).1

/-- After a search from the north the first setpoint of the search from the east still points there. -/
theorem smoothing_carried_over :
    (after phasePlanner zeroBoot (secondSearch 1 0)).search.readings =
        (after phasePlanner zeroBoot eastSearch).search.readings ∧
      (after phasePlanner zeroBoot (secondSearch 1 0)).search.commands ≠
        (after phasePlanner zeroBoot eastSearch).search.commands ∧
      (after phasePlanner zeroBoot eastSearch).search.commands = [(0, -1)] ∧
      (after phasePlanner zeroBoot (secondSearch 1 0)).search.commands =
        [(.ofRat (-7549747 / 8388608), .ofRat (-838861 / 8388608))] := by
  refine ⟨by decide +kernel, ?_, by decide +kernel, by decide +kernel⟩
  decide +kernel

end CommandWatch

end AutopilotManager
