import AutopilotManager.Mission.Planner
import AutopilotManager.Mission.Undecided

/-!
# Mission.Answers — every trajectory message has its answer

The vehicle sends its setpoints to the module and flies what comes back.  Nothing but the callback of these messages
sends any, and the callback sends one for each message of the vehicle, in which no more is changed than what a setpoint
of a search or of a landing fixes.
-/

namespace AutopilotManager

open Lib

/-- The answer to a trajectory message. -/
def Event.answer : Event → Option (Reply × TrajectoryWaypoints)
  | sent reply message => some (reply, message)
  | _ => none

/-- The messages of the vehicle among the inputs. -/
def foreignMessages {E : Type} (is : List (MissionInput E)) : List TrajectoryWaypoints :=
  is.filterMap fun
    | .trajectory t => if t.isForeign then some t.message else none
    | _ => none

/-- The answer is the message, with one valid point whose position, velocity and yaw may be others. -/
def Overrides (message answer : TrajectoryWaypoints) : Prop :=
  ∃ x y z vx vy vz yaw, answer =
    { message with
      validPoints := 1
      first := { message.first with
        posX := x, posY := y, posZ := z, velX := vx, velY := vy, velZ := vz, posYaw := yaw } }

namespace MissionManager

variable {P E : Type} {ext : Externals P E} {i : TickInput E} {s s' : MissionManager P}

/-- The answers that have been sent, newest first. -/
def answers (s : MissionManager P) : List (Reply × TrajectoryWaypoints) := s.log.filterMap Event.answer

/-- How a message that comes in the state `s` is answered: as it came, by the smoothed velocity at the height of the
search, or by the waypoint with one of the two speeds of a landing. -/
def Answers (ext : Externals P E) (s : MissionManager P) (t : TrajectoryInput) : Reply × TrajectoryWaypoints → Prop
  | (.forwarded, answer) => answer = t.message
  | (.search, answer) =>
    Overrides t.message answer ∧
      answer.first.posX = .nan ∧ answer.first.posY = .nan ∧
      answer.first.posZ = (-ext.getSearchAltitude s.planner).toFloat ∧
      answer.first.velX = -(s.smoothedVel ext).1 ∧ answer.first.velY = -(s.smoothedVel ext).2 ∧
      answer.first.velZ = .nan ∧ answer.first.posYaw = s.newYaw ∧ s.newYaw.isFinite
  | (.land, answer) =>
    Overrides t.message answer ∧
      answer.first.posX = s.newX.toFloat ∧ answer.first.posY = s.newY.toFloat ∧ answer.first.posZ = .nan ∧
      answer.first.velX = .nan ∧ answer.first.velY = .nan ∧
      (answer.first.velZ = s.landingCrawlSpeed.toFloat ∧ t.heightAboveObstacle.lt s.landingCrawlAltitude ∨
        answer.first.velZ = s.landingSpeed.toFloat ∧ ¬ t.heightAboveObstacle.lt s.landingCrawlAltitude) ∧
      answer.first.posYaw = s.newYaw ∧ s.newYaw.isFinite

/-- The message of the vehicle that a step is given, with the state in which it comes. -/
def heard (s : MissionManager P) : MissionInput E → List (MissionManager P × TrajectoryInput)
  | .trajectory t => if t.isForeign then [(s, t)] else []
  | _ => []

/-- The messages of the vehicle in a run, each with the state in which it comes. -/
def received (ext : Externals P E) (boot : Boot) (is : List (MissionInput E)) :
    List (MissionManager P × TrajectoryInput) :=
  emitted (step ext) heard (initial ext boot) is

/-- The decisions send nothing. -/
theorem undecided_answers :
    Undecided (fun (_ : TickInput E) answers => answers) (fun s : MissionManager P => s.answers) := by
  constructor
  case emit =>
    intro e he s
    refine List.filterMap_cons_none ?_
    cases e with
    | sent reply message => exact absurd rfl (he reply message)
    | _ => rfl
  all_goals intros; rfl

/-! ### The answer -/

theorem finite_yaw_of_isPosValid (h : s.isPosValid) : s.newYaw.isFinite := by
  unfold isPosValid at h
  exact (Bool.and_eq_true_iff.mp h).2

theorem answers_landMessage (t : TrajectoryInput) (hvalid : s.isPosValid) :
    Answers ext s t (.land, s.landMessage t) := by
  refine ⟨⟨_, _, _, _, _, _, _, rfl⟩, rfl, rfl, rfl, rfl, rfl, ?_, rfl, finite_yaw_of_isPosValid hvalid⟩
  -- close to the ground the vehicle crawls
  by_cases hlow : t.heightAboveObstacle.lt s.landingCrawlAltitude
  · exact .inl ⟨if_pos hlow, hlow⟩
  · exact .inr ⟨if_neg hlow, hlow⟩

theorem answers_searchMessage (t : TrajectoryInput) (hvalid : s.isPosValid) :
    Answers ext s t (.search, s.searchMessage ext t (s.smoothedVel ext)) :=
  ⟨⟨_, _, _, _, _, _, _, rfl⟩, rfl, rfl, rfl, rfl, rfl, rfl, rfl, finite_yaw_of_isPosValid hvalid⟩

/-- A message of the vehicle is answered once, and overridden only during a search; the module's own are not
answered. -/
theorem answers_onMavlinkTrajectoryMessage (ext : Externals P E) (t : TrajectoryInput) (s : MissionManager P) :
    if t.isForeign then
      ∃ a, (s.onMavlinkTrajectoryMessage ext t).answers = a :: s.answers ∧ Answers ext s t a ∧
        (a.1 ≠ .forwarded → ext.isActive s.planner)
    else (s.onMavlinkTrajectoryMessage ext t).answers = s.answers := by
  cases onMavlinkTrajectoryMessage_answer ext t s with
  | own own result =>
    rw [if_neg (by simp [TrajectoryInput.isForeign, own]), result]
  | land foreign active valid lands result =>
    rw [if_pos (by simp [TrajectoryInput.isForeign, foreign]), result]
    exact ⟨_, rfl, answers_landMessage t valid, fun _ => active⟩
  | search foreign active valid searches result =>
    rw [if_pos (by simp [TrajectoryInput.isForeign, foreign]), result]
    exact ⟨_, rfl, answers_searchMessage t valid, fun _ => active⟩
  | forwarded foreign unready result =>
    have hanswers : Answers ext s t (.forwarded, t.message) := rfl
    rw [if_pos (by simp [TrajectoryInput.isForeign, foreign]), result]
    exact ⟨_, rfl, hanswers, fun h => absurd rfl h⟩

/-- What the step from `s` to `s'` answers to an input. -/
structure AnswersInput (ext : Externals P E) (input : MissionInput E) (as : List (Reply × TrajectoryWaypoints))
    (s s' : MissionManager P) : Prop where
  sent : s'.answers = as ++ s.answers
  answers : List.Forall₂ (fun r a => Answers ext r.1 r.2 a) (heard s input) as
  overrides : ∀ a ∈ as, a.1 ≠ .forwarded → ext.isActive s.planner

/-- **A step answers what it is given**: a message of the vehicle once, and nothing else. -/
theorem answers_step (ext : Externals P E) (input : MissionInput E) (s : MissionManager P) :
    ∃ as, AnswersInput ext input as s (step ext s input) ∧ as.reverse = as := by
  have hquiet (h : (step ext s input).answers = s.answers) (hnone : heard s input = []) :
      ∃ as, AnswersInput ext input as s (step ext s input) ∧ as.reverse = as :=
    ⟨[], ⟨h, hnone ▸ .nil, by simp⟩, rfl⟩
  cases input with
  | tick i => exact hquiet ((undecided_answers.decisionMakerRun ext i s).trans (ite_self _)) rfl
  | trajectory t =>
    have hanswer := answers_onMavlinkTrajectoryMessage ext t s
    split_ifs at hanswer with hforeign
    · obtain ⟨a, hsent, ha, hactive⟩ := hanswer
      exact ⟨[a], ⟨hsent, by simpa [heard, hforeign] using ha, by simpa using hactive⟩, rfl⟩
    · exact hquiet hanswer (if_neg hforeign)
  | _ => exact hquiet ((undecided_answers (E := E)).step s (by simp) (by simp)) rfl

/-! ### A run -/

theorem heard_messages (s : MissionManager P) (input : MissionInput E) :
    (heard s input).map (fun r => r.2.message) = foreignMessages [input] := by
  cases input with
  | trajectory t =>
    unfold heard foreignMessages
    by_cases hforeign : t.isForeign <;> simp [hforeign]
  | _ => rfl

/-- **Every message has its answer**: in every run the answers sent are, in order, one for each message of the vehicle
and the state in which it comes, and nothing else is sent. -/
theorem answered_in_order (ext : Externals P E) (boot : Boot) (is : List (MissionInput E)) :
    (received ext boot is).map (fun r => r.2.message) = foreignMessages is ∧
      List.Forall₂ (fun r a => Answers ext r.1 r.2 a) (received ext boot is)
        (run (step ext) (initial ext boot) is).answers.reverse := by
  unfold received
  induction is using List.reverseRecOn with
  | nil => exact ⟨rfl, .nil⟩
  | append_singleton is input ih =>
    obtain ⟨hmessages, hanswers⟩ := ih
    obtain ⟨as, hstep, hsingle⟩ := answers_step ext input (run (step ext) (initial ext boot) is)
    have hforeign : foreignMessages (is ++ [input]) = foreignMessages is ++ foreignMessages [input] :=
      List.filterMap_append
    rw [emitted_concat]
    constructor
    · rw [List.map_append, hmessages, heard_messages, hforeign]
    · rw [run_concat, hstep.sent, List.reverse_append, hsingle]
      exact List.rel_append hanswers hstep.answers

end MissionManager

end AutopilotManager
