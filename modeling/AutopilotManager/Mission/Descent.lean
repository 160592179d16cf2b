import AutopilotManager.Mission.Planner
import AutopilotManager.Mission.Undecided

/-!
# Mission.Descent — where and how fast a landing descends

A landing setpoint puts together what the steps before it have left: the waypoint is the planner's, from the iteration
that has last changed it, and the speeds are parameters of the vehicle, which are read where a search is about to start
and nowhere else.
-/

namespace AutopilotManager

open Lib

namespace MissionManager

variable {P E : Type} {ext : Externals P E} {i : TickInput E} {s s' s'' : MissionManager P}

/-! ### The speeds -/

/-- The speed of landing, the speed of crawling and the altitude below which the vehicle crawls. -/
def landingSpeeds (s : MissionManager P) : Double × Double × Double :=
  (s.landingSpeed, s.landingCrawlSpeed, s.landingCrawlAltitude)

/-- The speeds after the parameters have been read; an answer that fails leaves its speed. -/
def readSpeeds (i : TickInput E) (speeds : Double × Double × Double) : Double × Double × Double :=
  (i.paramLandSpeed.getD speeds.1, i.paramLandCrawl.getD speeds.2.1, i.paramLandAlt3.getD speeds.2.2)

/-- The decisions read the speeds, and do not write them otherwise. -/
theorem undecided_landingSpeeds :
    Undecided (readSpeeds (E := E)) (fun s : MissionManager P => s.landingSpeeds) := by
  constructor
  all_goals intros; rfl

/-! ### The waypoint -/

/-- The waypoint of the search and the yaw at it. -/
def localWaypoint (s : MissionManager P) : Double × Double × Double := (s.newX, s.newY, s.newYaw)

/-- The waypoint of the planner `p`, with the yaw of the vehicle. -/
def waypointOf (ext : Externals P E) (p : P) (s : MissionManager P) : Double × Double × Double :=
  ((ext.getCurrentWaypoint p).northM, (ext.getCurrentWaypoint p).eastM, s.currentYaw.toFloat)

/-- From `s` to `s'` the waypoint stays, is unset, or is set to that of a planner in `ps`; the vehicle keeps its yaw. -/
inductive Steers (ext : Externals P E) (ps : Set P) (s s' : MissionManager P) : Prop
  | kept (yaw : s'.currentYaw = s.currentYaw) (same : s'.localWaypoint = s.localWaypoint)
  | unset (yaw : s'.currentYaw = s.currentYaw) (unset : s'.Unset)
  | set (yaw : s'.currentYaw = s.currentYaw) {p : P} (mem : p ∈ ps) (set : s'.localWaypoint = waypointOf ext p s)

theorem Steers.refl (ext : Externals P E) (ps : Set P) (s : MissionManager P) : Steers ext ps s s := .kept rfl rfl

theorem Steers.yaw {ps : Set P} (h : Steers ext ps s s') : s'.currentYaw = s.currentYaw := by
  cases h <;> assumption

theorem unset_of_localWaypoint (h : s'.localWaypoint = s.localWaypoint) (hunset : s.Unset) : s'.Unset := by
  obtain ⟨hx, hy, hyaw⟩ : s'.newX = s.newX ∧ s'.newY = s.newY ∧ s'.newYaw = s.newYaw := by
    simpa [localWaypoint] using h
  exact ⟨hx.trans hunset.1, hy.trans hunset.2.1, hyaw.trans hunset.2.2⟩

theorem Steers.trans {ps qs : Set P} (h : Steers ext ps s s') (h' : Steers ext qs s' s'') :
    Steers ext (ps ∪ qs) s s'' := by
  have hyaw := h.yaw
  cases h' with
  | kept yaw same =>
    cases h with
    | kept yaw' same' => exact .kept (yaw.trans hyaw) (same.trans same')
    | unset yaw' unset => exact .unset (yaw.trans hyaw) (unset_of_localWaypoint same unset)
    | set yaw' mem set => exact .set (yaw.trans hyaw) (.inl mem) (same.trans set)
  | unset yaw unset => exact .unset (yaw.trans hyaw) unset
  | set yaw mem set => exact .set (yaw.trans hyaw) (.inr mem) (by rw [set, waypointOf, waypointOf, hyaw])

theorem Steers.mono {ps qs : Set P} (h : Steers ext ps s s') (hps : ps ⊆ qs) : Steers ext qs s s' := by
  cases h with
  | kept yaw same => exact .kept yaw same
  | unset yaw unset => exact .unset yaw unset
  | set yaw mem set => exact .set yaw (hps mem) set

/-- The yaw of the vehicle is telemetry, which no part of an iteration writes. -/
theorem untouched_currentYaw : Untouched (fun s : MissionManager P => s.currentYaw) := by
  repeat' constructor
  all_goals intros; rfl

/-- What comes after keeps both. -/
theorem Steers.keep {ps : Set P} (h : Steers ext ps s s') (yaw : s''.currentYaw = s'.currentYaw)
    (same : s''.localWaypoint = s'.localWaypoint) : Steers ext ps s s'' := by
  have hkept : Steers ext ps s' s'' := .kept yaw same
  exact (h.trans hkept).mono (Set.union_self ps).subset

theorem localWaypoint_of_quiet (h : Quiet s s') : s'.localWaypoint = s.localWaypoint := by
  rw [localWaypoint, h.override.1, h.override.2.1, h.override.2.2, localWaypoint]

/-! ### The start of a search -/

theorem steers_landingSiteSearch (ext : Externals P E) (i : TickInput E) (s : MissionManager P) :
    Steers ext {s.startedPlanner ext i} s (s.landingSiteSearch ext i) := by
  have hrefused (debug : String) (type : StatusTextType) (text : String) (s' : MissionManager P) :
      Steers ext {s.startedPlanner ext i} s' ((s'.hold.landingSiteSearchHasEnded debug).statusText type text) := by
    refine .unset ?_ ⟨rfl, rfl, rfl⟩
    exact (untouched_currentYaw.statusText ..).trans ((untouched_currentYaw.landingSiteSearchHasEnded ..).trans
      (untouched_currentYaw.hold s'))
  unfold landingSiteSearch
  dsimp only
  split_ifs with hready hactive
  · exact .set rfl (Set.mem_singleton _) rfl
  · -- the planner has been called and is not active
    have hcalled (type : StatusTextType) (text : String) : Steers ext {s.startedPlanner ext i} s
        (((s.statusText type text).updateLandingSpeedConfig i).startSearch ext i) := .kept rfl rfl
    exact ((hcalled ..).trans (hrefused ..)).mono (Set.union_self _).subset
  · exact hrefused ..
  · exact hrefused ..
  · exact .refl ..

theorem steers_onNoSafeLand (ext : Externals P E) (i : TickInput E) (s : MissionManager P) :
    Steers ext {s.startedPlanner ext i} s (s.onNoSafeLand ext i) := by
  have hyaw : (s.onNoSafeLand ext i).currentYaw = s.currentYaw := untouched_currentYaw.onNoSafeLand s
  cases onNoSafeLand_branch ext i s with
  | plain action result => exact .kept hyaw (by rw [result]; rfl)
  | move action result => exact .kept hyaw (by rw [result, localWaypoint_of_quiet (quiet_moveXyzWrtCurrent s)])
  | search action result =>
    rw [result]
    exact steers_landingSiteSearch ext i s
  | go action result => exact .kept hyaw (by rw [result, localWaypoint_of_quiet (quiet_goToWaypoint s)])
  | unknown move search go result => exact .kept hyaw (by rw [result])

theorem steers_triggerSafeLanding (ext : Externals P E) (i : TickInput E) (s : MissionManager P) :
    Steers ext {s.startedPlanner ext i} s (s.triggerSafeLanding ext i) := by
  cases triggerSafeLanding_trigger ext i s with
  | unhealthy free triggered unhealthy result =>
    rw [result]
    exact .kept rfl rfl
  | action free triggered takes result =>
    rw [result]
    exact (steers_onNoSafeLand ext i s).keep rfl rfl
  | none takes result =>
    rw [result]
    exact .refl ..

/-! ### The search -/

theorem steers_restoreIfEnded {ps : Set P} (h : Steers ext ps s s') : Steers ext ps s (s'.restoreIfEnded ext) := by
  have hyaw : (s'.restoreIfEnded ext).currentYaw = s.currentYaw :=
    (untouched_currentYaw.restoreIfEnded s').trans h.yaw
  unfold restoreIfEnded at hyaw ⊢
  split_ifs at hyaw ⊢
  · exact .unset hyaw ⟨rfl, rfl, rfl⟩
  · exact h

theorem steers_commandSearch (ext : Externals P E) (initiate land : Bool) (s : MissionManager P) :
    Steers ext {(s.commandSearch ext initiate land).planner} s (s.commandSearch ext initiate land) := by
  unfold commandSearch
  dsimp only
  split_ifs
  · exact steers_restoreIfEnded (.kept rfl rfl)
  · exact steers_restoreIfEnded (.kept rfl rfl)
  · exact steers_restoreIfEnded (.kept rfl rfl)
  · -- the waypoint has changed
    refine steers_restoreIfEnded (.set rfl ?_ rfl)
    exact (planner_restoreIfEnded (s.goToNewLocalWaypoint (ext.getCurrentWaypoint s.planner))).symm
  · exact .refl ..

theorem steers_updateLandingSiteSearch (ext : Externals P E) (i : TickInput E) (land : Bool) (s : MissionManager P) :
    Steers ext {(s.updateLandingSiteSearch ext i land).planner} s (s.updateLandingSiteSearch ext i land) := by
  have hdecided : Steers ext ∅ s (s.decideSearch ext i) := by
    refine .kept (untouched_currentYaw.decideSearch s) ?_
    have hstationary : s.isStationary.2.localWaypoint = s.localWaypoint := by
      unfold isStationary
      dsimp only
      split_ifs <;> rfl
    unfold decideSearch
    split_ifs
    · rfl
    · rfl
    · exact hstationary
  unfold updateLandingSiteSearch
  exact (hdecided.trans (steers_commandSearch ..)).mono (Set.empty_union _).subset

theorem steers_processActiveActions (ext : Externals P E) (i : TickInput E) (s : MissionManager P) :
    Steers ext {(s.processActiveActions ext i).planner} s (s.processActiveActions ext i) := by
  have hyaw : (s.processActiveActions ext i).currentYaw = s.currentYaw := untouched_currentYaw.processActiveActions s
  cases processActiveActions_cases ext i s with
  | stopped active stop ended planner => exact .unset hyaw ended.unset
  | updated active continues step planner =>
    have hupdated := steers_updateLandingSiteSearch ext i (s.config.safeLandingTryLandingAfterAction ≠ 0) s
    rw [← planner] at hupdated
    refine hupdated.keep ?_ ?_
    · exact hyaw.trans (untouched_currentYaw.updateLandingSiteSearch ..).symm
    · unfold processActiveActions
      dsimp only
      rw [if_pos active, if_neg continues]
      rfl
  | reset inactive effect override planner =>
    refine .kept hyaw ?_
    rw [localWaypoint, override.1, override.2.1, override.2.2, localWaypoint]
  | idle inactive quiet => exact .kept hyaw (localWaypoint_of_quiet quiet)

/-- The planners whose waypoint an iteration may take: the one it starts a search with, and the one it leaves. -/
def planners (ext : Externals P E) (i : TickInput E) (s : MissionManager P) : Set P :=
  {(s.beginTick i).startedPlanner ext i} ∪ {(s.decisionMakerRun ext i).planner}

/-- **What an iteration does to the waypoint.** -/
theorem steers_decisionMakerRun (ext : Externals P E) (i : TickInput E) (s : MissionManager P) :
    Steers ext (s.planners ext i) s (s.decisionMakerRun ext i) := by
  have hyaw : (s.decisionMakerRun ext i).currentYaw = s.currentYaw := untouched_currentYaw.decisionMakerRun s
  cases decisionMakerRun_cases ext i s with
  | bypassed bypasses quiet => exact .kept hyaw ((localWaypoint_of_quiet quiet).trans rfl)
  | handled calls handled quiet =>
    have hbegin : (s.beginTick i).localWaypoint = s.localWaypoint := by
      rw [beginTick_eq]
      rfl
    cases handled with
    | disabled off active ended planner => exact .unset hyaw (quiet.unset ended.unset)
    | skipped off inactive same => exact .kept hyaw ((localWaypoint_of_quiet quiet).trans (by rw [same, hbegin]))
    | processed on avoidance process =>
      have hbegun : Steers ext ∅ s (s.beginTick i) := .kept (by rw [beginTick_eq]) hbegin
      have hhandled := (hbegun.trans (steers_triggerSafeLanding ext i (s.beginTick i))).trans
        (steers_processActiveActions ext i ((s.beginTick i).triggerSafeLanding ext i))
      rw [Set.empty_union, ← process, ← quiet.planner] at hhandled
      exact hhandled.keep (hyaw.trans hhandled.yaw.symm) (localWaypoint_of_quiet quiet)

/-! ### Runs -/

/-- What an iteration writes of a parameter that it reads. -/
def parameterWrite (param : TickInput E → Option Double) (s : MissionManager P) : MissionInput E → Option Double
  | .tick i => if s.readsParameters i then param i else none
  | _ => none

/-- A step reads each of the parameters or leaves the speeds. -/
theorem landingSpeeds_step (ext : Externals P E) (s : MissionManager P) (input : MissionInput E) :
    (step ext s input).landingSpeeds =
      ((parameterWrite TickInput.paramLandSpeed s input).getD s.landingSpeed,
        (parameterWrite TickInput.paramLandCrawl s input).getD s.landingCrawlSpeed,
        (parameterWrite TickInput.paramLandAlt3 s input).getD s.landingCrawlAltitude) := by
  cases input with
  | tick i =>
    rw [step, undecided_landingSpeeds.decisionMakerRun ext i s]
    dsimp only [parameterWrite]
    split_ifs <;> rfl
  | trajectory t =>
    rw [step]
    cases onMavlinkTrajectoryMessage_answer ext t s with
    | own own result => rw [result]; rfl
    | land foreign active valid lands result => rw [result]; rfl
    | search foreign active valid searches result => rw [result]; rfl
    | forwarded foreign unready result => rw [result]; rfl
  | _ => exact (undecided_landingSpeeds (E := E)).step s (by simp) (by simp)

/-- After the run `is` the parameter is `x`: the latest answer that an iteration has read, or `start`. -/
def HoldsParameter (ext : Externals P E) (boot : Boot) (is : List (MissionInput E))
    (param : TickInput E → Option Double) (start x : Double) : Prop :=
  Holds (step ext) (parameterWrite param) (initial ext boot) is start x

theorem holdsParameter_run (ext : Externals P E) (boot : Boot) (is : List (MissionInput E)) :
    let s := run (step ext) (initial ext boot) is
    HoldsParameter ext boot is TickInput.paramLandSpeed (.ofRat (7 / 10)) s.landingSpeed ∧
      HoldsParameter ext boot is TickInput.paramLandCrawl (.ofRat (3 / 10)) s.landingCrawlSpeed ∧
      HoldsParameter ext boot is TickInput.paramLandAlt3 1 s.landingCrawlAltitude := by
  have hholds (param : TickInput E → Option Double) (get : MissionManager P → Double)
      (hstep : ∀ s input, get (step ext s input) = (parameterWrite param s input).getD (get s)) :
      HoldsParameter ext boot is param (get (initial ext boot)) (get (run (step ext) (initial ext boot) is)) :=
    holds_run get _ is fun js input => hstep (run (step ext) (initial ext boot) js) input
  refine ⟨?_, ?_, ?_⟩
  · exact hholds _ (fun s => s.landingSpeed) fun s input => congrArg Prod.fst (landingSpeeds_step ext s input)
  · exact hholds _ (fun s => s.landingCrawlSpeed) fun s input =>
      congrArg (fun speeds => speeds.2.1) (landingSpeeds_step ext s input)
  · exact hholds _ (fun s => s.landingCrawlAltitude) fun s input =>
      congrArg (fun speeds => speeds.2.2) (landingSpeeds_step ext s input)

/-- After the run `is` the waypoint is that of the planner `p`, with the yaw `yaw`: an iteration has set it, and no step
after it has changed it. -/
def HoldsWaypoint (ext : Externals P E) (boot : Boot) (is : List (MissionInput E)) (p : P) (yaw : Double) : Prop :=
  ∃ before i after, is = before ++ [.tick i] ++ after ∧
    p ∈ (run (step ext) (initial ext boot) before).planners ext i ∧
    (run (step ext) (initial ext boot) before).currentYaw = yaw ∧
    Meets (step ext) (fun s input => (step ext s input).localWaypoint = s.localWaypoint)
      (run (step ext) (initial ext boot) (before ++ [.tick i])) after

theorem HoldsWaypoint.concat {boot : Boot} {is : List (MissionInput E)} {p : P} {yaw : Double}
    (h : HoldsWaypoint ext boot is p yaw) {input : MissionInput E}
    (hkept : (step ext (run (step ext) (initial ext boot) is) input).localWaypoint =
      (run (step ext) (initial ext boot) is).localWaypoint) :
    HoldsWaypoint ext boot (is ++ [input]) p yaw := by
  obtain ⟨before, i, after, his, hp, hyaw, hafter⟩ := h
  refine ⟨before, i, after ++ [input], (congrArg (· ++ [input]) his).trans (List.append_assoc ..), hp, hyaw, ?_⟩
  refine meets_concat.mpr ⟨hafter, ?_⟩
  rw [← run_append, ← his]
  exact hkept

/-- A callback keeps the waypoint or unsets it. -/
theorem localWaypoint_step_of_callback (ext : Externals P E) (s : MissionManager P) {input : MissionInput E}
    (htick : ∀ i, input ≠ .tick i) :
    (step ext s input).localWaypoint = s.localWaypoint ∨ (step ext s input).Unset := by
  have hkept (s' : MissionManager P) (h : s'.newX = s.newX ∧ s'.newY = s.newY ∧ s'.newYaw = s.newYaw) :
      s'.localWaypoint = s.localWaypoint := by
    rw [localWaypoint, h.1, h.2.1, h.2.2, localWaypoint]
  rcases step_cases ext s input with ⟨i, rfl⟩ | ⟨mode, rfl⟩ | hcallback
  · exact absurd rfl (htick i)
  · cases flightModeCallback_cases ext mode s with
    | kept planner override ends manual => exact .inl (hkept _ override)
    | reset planner override ends inactive => exact .inl (hkept _ override)
    | ended planner unset ends active => exact .inr unset
  · exact .inl (hkept _ hcallback.override)

/-- The waypoint is unset, or that of a planner. -/
theorem holdsWaypoint_run (ext : Externals P E) (boot : Boot) (is : List (MissionInput E)) :
    (run (step ext) (initial ext boot) is).Unset ∨ ∃ p yaw, HoldsWaypoint ext boot is p yaw ∧
      (run (step ext) (initial ext boot) is).localWaypoint =
        ((ext.getCurrentWaypoint p).northM, (ext.getCurrentWaypoint p).eastM, yaw.toFloat) := by
  induction is using List.reverseRecOn with
  | nil => exact .inl ⟨rfl, rfl, rfl⟩
  | append_singleton is input ih =>
    have hkept (hsame : (step ext (run (step ext) (initial ext boot) is) input).localWaypoint =
        (run (step ext) (initial ext boot) is).localWaypoint) :
        (step ext (run (step ext) (initial ext boot) is) input).Unset ∨ ∃ p yaw,
          HoldsWaypoint ext boot (is ++ [input]) p yaw ∧
            (step ext (run (step ext) (initial ext boot) is) input).localWaypoint =
              ((ext.getCurrentWaypoint p).northM, (ext.getCurrentWaypoint p).eastM, yaw.toFloat) := by
      rcases ih with hunset | ⟨p, yaw, hp, hset⟩
      · exact .inl (unset_of_localWaypoint hsame hunset)
      · exact .inr ⟨p, yaw, hp.concat hsame, hsame.trans hset⟩
    rw [run_concat]
    by_cases htick : ∃ i, input = .tick i
    · obtain ⟨i, rfl⟩ := htick
      cases steers_decisionMakerRun ext i (run (step ext) (initial ext boot) is) with
      | kept yaw same => exact hkept same
      | unset yaw unset => exact .inl unset
      | set yaw mem set => exact .inr ⟨_, _, ⟨is, i, [], by simp, mem, rfl, trivial⟩, set⟩
    · rcases localWaypoint_step_of_callback ext (run (step ext) (initial ext boot) is)
        fun i hi => htick ⟨i, hi⟩ with hsame | hunset
      · exact hkept hsame
      · exact .inl hunset

/-- **Where and how fast a landing descends**: a landing setpoint is sent only while the planner lands.  It is over the
waypoint of the planner that an iteration has set, with the yaw of the vehicle at that time, and which no step since has
changed; and it goes down at the speed that the vehicle has last answered for landing, or for crawling where the height
is below the altitude last answered for it, or at the built-in ones before there has been an answer. -/
theorem descends_over_waypoint (ext : Externals P E) (boot : Boot) (is : List (MissionInput E)) (t : TrajectoryInput)
    (message : TrajectoryWaypoints)
    (hland : (step ext (run (step ext) (initial ext boot) is) (.trajectory t)).log =
      .sent .land message :: (run (step ext) (initial ext boot) is).log) :
    let s := run (step ext) (initial ext boot) is
    ext.isActive s.planner ∧ ext.shouldLand s.planner ∧
      (∃ p yaw, HoldsWaypoint ext boot is p yaw ∧ message.first.posX = (ext.getCurrentWaypoint p).northM.toFloat ∧
        message.first.posY = (ext.getCurrentWaypoint p).eastM.toFloat ∧ message.first.posYaw = yaw.toFloat) ∧
      ∃ speed crawlSpeed crawlAltitude,
        HoldsParameter ext boot is TickInput.paramLandSpeed (.ofRat (7 / 10)) speed ∧
        HoldsParameter ext boot is TickInput.paramLandCrawl (.ofRat (3 / 10)) crawlSpeed ∧
        HoldsParameter ext boot is TickInput.paramLandAlt3 1 crawlAltitude ∧
        message.first.velZ =
          if t.heightAboveObstacle.lt crawlAltitude then crawlSpeed.toFloat else speed.toFloat := by
  have hwaypoint := holdsWaypoint_run ext boot is
  obtain ⟨hspeed, hcrawlSpeed, hcrawlAltitude⟩ := holdsParameter_run ext boot is
  dsimp only
  generalize run (step ext) (initial ext boot) is = s at hland hwaypoint hspeed hcrawlSpeed hcrawlAltitude ⊢
  rw [step] at hland
  cases onMavlinkTrajectoryMessage_answer ext t s with
  | land foreign active valid lands result =>
    rw [result] at hland
    obtain ⟨hsent, -⟩ := List.cons.inj hland
    obtain ⟨-, rfl⟩ := Event.sent.inj hsent
    refine ⟨active, lands, ?_, _, _, _, hspeed, hcrawlSpeed, hcrawlAltitude, rfl⟩
    rcases hwaypoint with hunset | ⟨p, yaw, hp, hset⟩
    · -- without a waypoint nothing is sent
      rw [isPosValid, hunset.1] at valid
      exact absurd valid Bool.false_ne_true
    · obtain ⟨hx, hy, hyaw⟩ : s.newX = (ext.getCurrentWaypoint p).northM ∧
          s.newY = (ext.getCurrentWaypoint p).eastM ∧ s.newYaw = yaw.toFloat := by
        simpa [localWaypoint] using hset
      exact ⟨p, yaw, hp, congrArg Double.toFloat hx, congrArg Double.toFloat hy, hyaw⟩
  | own own result =>
    rw [result] at hland
    exact absurd hland.symm (List.cons_ne_self _ _)
  | search foreign active valid searches result =>
    rw [result] at hland
    cases (Event.sent.inj (List.cons.inj hland).1).1
  | forwarded foreign unready result =>
    rw [result] at hland
    cases (Event.sent.inj (List.cons.inj hland).1).1

/-- While the planner lands, a message of the vehicle is answered by a landing setpoint. -/
theorem log_of_lands {t : TrajectoryInput} (hforeign : t.compid ≠ mavCompIdObstacleAvoidance)
    (hactive : ext.isActive s.planner) (hvalid : s.isPosValid) (hlands : ext.shouldLand s.planner) :
    (step ext s (.trajectory t)).log = .sent .land (s.landMessage t) :: s.log := by
  rw [step]
  cases onMavlinkTrajectoryMessage_answer ext t s with
  | own own result => exact absurd own hforeign
  | land foreign active valid lands result => rw [result]; rfl
  | search foreign active valid searches result => exact absurd hlands searches
  | forwarded foreign unready result => exact absurd ⟨hactive, hvalid⟩ unready

/-- A search finds a site, and lands there. -/
def landingAtSite : List (MissionInput Bool) :=
  searchRun ++ [.tick (tickOver .canLand
    { safeLandingBy "LANDING_SITE_SEARCH" with safeLandingTryLandingAfterAction := 1 })]

theorem descends_over_waypoint_site : ∃ p yaw, HoldsWaypoint phasePlanner zeroBoot landingAtSite p yaw := by
  obtain ⟨-, -, ⟨p, yaw, hp, -⟩, -⟩ := descends_over_waypoint phasePlanner zeroBoot landingAtSite zeroTrajectory _
    (log_of_lands (by decide) (by decide +kernel) (by decide +kernel) (by decide +kernel))
  exact ⟨p, yaw, hp⟩

end MissionManager

end AutopilotManager
