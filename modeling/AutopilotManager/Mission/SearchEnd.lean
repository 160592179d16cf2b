import AutopilotManager.Mission.Commands
import AutopilotManager.Mission.Planner

/-!
# Mission.SearchEnd — which reason ends a search

Two blocks of `handle_safe_landing` end an active search: the early return with safe landing off, which holds whatever
else is the case, and the chain of reasons, which does not.  They agree when the early return is not taken on the
ground, under manual control or in return-to-launch, and when the trigger before the chain commands nothing.
-/

namespace AutopilotManager

open Lib

namespace MissionManager

variable {P E : Type} {ext : Externals P E} {i : TickInput E} {s s' : MissionManager P}

/-- On the ground, under manual control or in return-to-launch a search ends without a command. -/
def endsQuietly (s : MissionManager P) : Bool :=
  s.landedState = .onGround || s.landedState = .takingOff || s.underManualControl || s.flightMode = .returnToLaunch

/-- The search is ended, once, with `hold` exactly if safe landing is off and no stronger reason is given. -/
structure EndsSearch (ext : Externals P E) (i : TickInput E) (s s' : MissionManager P) : Prop where
  planner : ∃ p, ext.isActive p ∧ s'.planner = ext.endSearch p
  once : s'.searchesEnded = s.searchesEnded + 1
  commands : Issues (if (s.beginTick i).isOff && !s.endsQuietly then [.hold] else []) s s'

theorem endsQuietly_beginTick (s : MissionManager P) : (s.beginTick i).endsQuietly = s.endsQuietly := by
  rw [beginTick_eq]
  rfl

theorem shouldEndLandingSiteSearch_eq (s : MissionManager P) :
    s.shouldEndLandingSiteSearch = (s.endsQuietly || !s.obstacleAvoidanceEnabled) := rfl

/-- With safe landing off the early return ends the search. -/
theorem ends_decisionMakerRun_off (hcalls : ¬ i.bypasses) (hactive : ext.isActive s.planner)
    (hoff : (s.beginTick i).isOff) :
    (s.decisionMakerRun ext i).planner = ext.endSearch s.planner ∧
      (s.decisionMakerRun ext i).searchesEnded = s.searchesEnded + 1 := by
  rcases decisionMakerRun_off_cases ext hcalls hoff with ⟨-, hended, hplanner⟩ | ⟨hinactive, -⟩
  · refine ⟨hplanner, ?_⟩
    rw [hended.ends, (apart_beginTick s).ends]
  · exact absurd hactive hinactive

/-- With safe landing on and a silent trigger the chain of reasons ends the search, without a command. -/
theorem ends_decisionMakerRun_on (hcalls : ¬ i.bypasses) (hactive : ext.isActive s.planner)
    (hon : ¬ (s.beginTick i).isOff) (hquietly : s.endsQuietly) (hsilent : ¬ (s.beginTick i).triggerCommands ext i) :
    EndsSearch ext i s (s.decisionMakerRun ext i) := by
  have hbegin := apart_beginTick (i := i) s
  obtain ⟨started, heffect, hkeeps⟩ := triggerSafeLanding_of_silent hsilent
  have hmid : ext.isActive ((s.beginTick i).triggerSafeLanding ext i).planner := hkeeps (hbegin.planner ▸ hactive)
  have havoidance := avoidance_of_on hon
  have hstop : ((s.beginTick i).triggerSafeLanding ext i).shouldEndLandingSiteSearch := by
    rw [shouldEndLandingSiteSearch_triggerSafeLanding, shouldEndLandingSiteSearch_eq, endsQuietly_beginTick, hquietly]
    rfl
  have hissues := issues_processActiveActions_stopped (i := i) hmid (heffect.avoidance.trans havoidance) hstop
  have htrigger : ((s.beginTick i).triggerCommand ext i).toList = [] := by
    rw [← triggerCommand_isSome, Bool.not_eq_true, Option.isSome_eq_false_iff, Option.isNone_iff_eq_none] at hsilent
    rw [hsilent]
    rfl
  have hcommands := issues_decisionMakerRun_on hcalls hon hissues
  rw [htrigger] at hcommands
  have hquiet := quiet_decisionMakerRun_on ext hcalls hon
  cases processActiveActions_cases ext i ((s.beginTick i).triggerSafeLanding ext i) with
  | stopped active stop ended planner =>
    refine ⟨⟨_, hmid, hquiet.planner.trans planner⟩, ?_, ?_⟩
    · rw [hquiet.ends, ended.ends, heffect.ends, hbegin.ends]
    · rw [Bool.eq_false_iff.mpr hon, Bool.false_and, if_neg Bool.false_ne_true]
      exact hcommands
  | updated active continues step planner => exact absurd hstop continues
  | reset inactive effect override planner => exact absurd hmid inactive
  | idle inactive idle => exact absurd hmid inactive

/-- **When the reasons that end a search agree**: an iteration ends an active search as its strongest reason demands
exactly when the early return is taken for no other reason, or the chain is reached by a trigger that commands
nothing. -/
theorem search_end_iff (hcalls : ¬ i.bypasses) (hactive : ext.isActive s.planner)
    (hreason : (s.beginTick i).isOff || s.endsQuietly) :
    EndsSearch ext i s (s.decisionMakerRun ext i) ↔
      if (s.beginTick i).isOff then ¬ s.endsQuietly else ¬ (s.beginTick i).triggerCommands ext i := by
  split_ifs with hoff
  · obtain ⟨hplanner, honce⟩ := ends_decisionMakerRun_off hcalls hactive hoff
    have hholds := issues_decisionMakerRun_off ext hcalls hoff
    rw [if_pos hactive] at hholds
    constructor
    · intro h hquietly
      have hcommands := h.commands
      rw [hquietly, Bool.not_true, Bool.and_false, if_neg Bool.false_ne_true] at hcommands
      exact absurd (hcommands.unique hholds) (List.cons_ne_nil _ _).symm
    · intro hquietly
      refine ⟨⟨s.planner, hactive, hplanner⟩, honce, ?_⟩
      rw [hoff, Bool.eq_false_iff.mpr hquietly]
      exact hholds
  · have hquietly : s.endsQuietly := by
      rw [Bool.eq_false_iff.mpr hoff, Bool.false_or] at hreason
      exact hreason
    refine ⟨fun h hcommands => ?_, ends_decisionMakerRun_on hcalls hactive hoff hquietly⟩
    obtain ⟨cs, -, hcs⟩ := exists_issues_decisionMakerRun_on ext hcalls hoff
    have hnone := h.commands
    rw [Bool.eq_false_iff.mpr hoff, Bool.false_and, if_neg Bool.false_ne_true] at hnone
    have htrigger := (List.append_eq_nil_iff.mp (hnone.unique hcs).symm).2
    rw [← triggerCommand_isSome] at hcommands
    obtain ⟨c, hc⟩ := Option.isSome_iff_exists.mp hcommands
    rw [hc] at htrigger
    cases htrigger

/-- A search is under way. -/
def searching : MissionManager Phase := run (step phasePlanner) (initial phasePlanner zeroBoot) searchRun

/-- Half a second after the last message from the vehicle. -/
def lateTick : TickInput Bool := { tickOver .canNotLand (safeLandingBy "HOLD") with rosNow := 500000000 }

/-- Without the obstacle avoidance a search ends with `hold`. -/
theorem search_end_late :
    EndsSearch phasePlanner lateTick searching (searching.decisionMakerRun phasePlanner lateTick) := by
  have hcalls : ¬ lateTick.bypasses := not_or.mpr ⟨by decide, not_not.mpr rfl⟩
  exact (search_end_iff hcalls (by decide +kernel) (by decide +kernel)).mpr (by decide +kernel)

/-- The pilot has switched to return-to-launch during the search. -/
def returning : MissionManager Phase := step phasePlanner searching (.flightMode .returnToLaunch)

/-- Safe landing has been switched off. -/
def disabledTick : TickInput Bool := tickOver .canNotLand { safeLandingBy "HOLD" with safeLandingEnabled := 0 }

/-- A return to launch is made to hold when safe landing is switched off. -/
theorem search_end_holds_return :
    returning.flightMode = .returnToLaunch ∧ phasePlanner.isActive returning.planner ∧
    Issues [.hold] returning (returning.decisionMakerRun phasePlanner disabledTick) ∧
    ¬ EndsSearch phasePlanner disabledTick returning (returning.decisionMakerRun phasePlanner disabledTick) := by
  have hholds : Issues [.hold] returning (returning.decisionMakerRun phasePlanner disabledTick) :=
    (by decide +kernel : _ = _)
  have hquietly : returning.endsQuietly = true := by decide +kernel
  refine ⟨by decide +kernel, by decide +kernel, hholds, fun h => ?_⟩
  have hcommands := h.commands
  rw [hquietly, Bool.not_true, Bool.and_false, if_neg Bool.false_ne_true] at hcommands
  exact absurd (hcommands.unique hholds) (List.cons_ne_nil _ _).symm

end MissionManager

end AutopilotManager
