import AutopilotManager.System.Scope

/-!
# System.Origin — the reference of the global coordinates

A thread asks for the global origin and stores what it is answered.  The members it is stored in are not initialised,
and the origin counts as set when an answer differs from what they hold; only then are searches started and positions
commanded, which are computed from it or guarded by it.
-/

namespace AutopilotManager

open Lib

/-- The origin that an answer to the thread gives, if it is valid: neither the latitude nor the longitude is zero. -/
def MissionInput.validOrigin {E : Type} : MissionInput E → Option (Double × Double × Double)
  | .gpsGlobalOrigin (.success lat lon alt) => if !lat.eq 0 && !lon.eq 0 then some (lat, lon, alt) else none
  | _ => none

/-- The comparison of two origins; a NaN is not the same as itself. -/
def SameOrigin (o o' : Double × Double × Double) : Prop := o.1.eq o'.1 ∧ o.2.1.eq o'.2.1 ∧ o.2.2.eq o'.2.2

/-- What stands in the members of the origin before they are set. -/
def Boot.reference (boot : Boot) : Double × Double × Double := (boot.refLatitude, boot.refLongitude, boot.refAltitude)

/-- The command sends the vehicle to a position. -/
def Command.goes : Command → Bool
  | gotoLocation .. => true
  | _ => false

namespace MissionManager

variable {P E : Type} {ext : Externals P E} {i : TickInput E} {s s' : MissionManager P}

def reference (s : MissionManager P) : Double × Double × Double := (s.refLatitude, s.refLongitude, s.refAltitude)

theorem eq_of_sameOrigin {o o' : Double × Double × Double} (h : SameOrigin o o') : o = o' := by
  obtain ⟨hlat, hlon, halt⟩ := h
  exact Prod.ext (Double.eq_of_eq_true hlat) (Prod.ext (Double.eq_of_eq_true hlon) (Double.eq_of_eq_true halt))

/-! ### One step -/

/-- The origin, and whether it counts as set. -/
def originReading (s : MissionManager P) : (Double × Double × Double) × Bool :=
  (s.reference, s.globalOriginReferenceSet)

/-- The decisions leave the origin. -/
theorem untouched_originReading : Untouched (originReading (P := P)) := by
  repeat' constructor
  all_goals intros; rfl

/-- A step stores the origin that it is answered; the flag is set where that is a change. -/
structure StoresOrigin (answer : Option (Double × Double × Double)) (s s' : MissionManager P) : Prop where
  reference : s'.reference = answer.getD s.reference
  flag : s'.globalOriginReferenceSet ↔ s.globalOriginReferenceSet ∨ ∃ o, answer = some o ∧ ¬ SameOrigin s.reference o

theorem StoresOrigin.of_eq (h : s'.originReading = s.originReading) : StoresOrigin none s s' where
  reference := congrArg Prod.fst h
  flag := by
    have hflag : s'.globalOriginReferenceSet = s.globalOriginReferenceSet := congrArg Prod.snd h
    simp [hflag]

theorem storesOrigin_setGlobalPositionReference (lat lon alt : Double) (s : MissionManager P) :
    StoresOrigin (if !lat.eq 0 && !lon.eq 0 then some (lat, lon, alt) else none) s
      (s.setGlobalPositionReference (.success lat lon alt)) := by
  unfold setGlobalPositionReference
  dsimp only
  by_cases hvalid : !lat.eq 0 && !lon.eq 0
  · rw [if_pos hvalid, hvalid, Bool.true_and]
    split_ifs with hchanged
    · have hdiffers : ¬ SameOrigin s.reference (lat, lon, alt) := fun ⟨hlat, hlon, halt⟩ => by
        simp only [reference] at hlat hlon halt
        simp [hlat, hlon, halt] at hchanged
      exact ⟨rfl, iff_of_true rfl (.inr ⟨_, rfl, hdiffers⟩)⟩
    · have hsame : SameOrigin s.reference (lat, lon, alt) := by
        simp only [Bool.or_eq_true, Bool.not_eq_true', not_or, Bool.not_eq_false] at hchanged
        exact ⟨hchanged.1.1, hchanged.1.2, hchanged.2⟩
      refine ⟨eq_of_sameOrigin hsame, ?_⟩
      simp [hsame]
  · rw [if_neg hvalid, Bool.eq_false_iff.mpr hvalid, Bool.false_and, if_neg Bool.false_ne_true]
    exact .of_eq rfl

theorem storesOrigin_step (ext : Externals P E) (input : MissionInput E) (s : MissionManager P) :
    StoresOrigin input.validOrigin s (step ext s input) := by
  have hread := untouched_originReading (P := P)
  cases input with
  | tick i => exact .of_eq (hread.decisionMakerRun s)
  | flightMode mode =>
    exact .of_eq (flightModeCallback_induction (Q := fun s' => s'.originReading = s.originReading) rfl rfl
      (hread.resetPlanner _))
  | gpsGlobalOrigin result =>
    cases result with
    | success lat lon alt => exact storesOrigin_setGlobalPositionReference lat lon alt s
    | timeout | failed => exact .of_eq rfl
  | trajectory t =>
    refine .of_eq ?_
    show (s.onMavlinkTrajectoryMessage ext t).originReading = s.originReading
    cases onMavlinkTrajectoryMessage_answer ext t s with
    | own own result => rw [result]
    | land foreign active valid lands result => rw [result]; rfl
    | search foreign active valid searches result => rw [result]; rfl
    | forwarded foreign unready result => rw [result]; rfl
  | landedState landed =>
    refine .of_eq ?_
    show (s.landedStateCallback landed).originReading = s.originReading
    unfold landedStateCallback
    split_ifs <;> rfl
  | position _ _ _ | positionVelocity _ _ _ _ _ _ | attitude _ => exact .of_eq rfl

/-! ### What needs the origin -/

/-- Without the flag nothing is sent anywhere. -/
theorem origin_of_triggerCommand {command : Command} (hcommand : s.triggerCommand ext i = some command)
    (hgoes : command.goes) : s.globalOriginReferenceSet := by
  have hmove (h : (s.moveCommand ext).goes) : s.globalOriginReferenceSet := by
    unfold moveCommand at h
    split_ifs at h with horigin
    · exact horigin
    · cases h
  have hwaypoint (h : s.waypointCommand.goes) : s.globalOriginReferenceSet := by
    unfold waypointCommand at h
    split_ifs at h with harrived horigin
    · cases h
    · exact horigin
    · cases h
  unfold triggerCommand actionCommand at hcommand
  dsimp only at hcommand
  split_ifs at hcommand <;> cases hcommand
  all_goals first | exact hmove hgoes | exact hwaypoint hgoes | cases hgoes

/-- Past the handler nothing is sent anywhere. -/
theorem not_goes_of_bypasses {command : Command} (hbypass : i.bypasses) (hpermits : i.config.Permits command) :
    ¬ command.goes := by
  rcases hpermits with ⟨hsafe, -⟩ | ⟨-, hobstacle⟩
  · unfold MissionManagerConfiguration.landsSafely at hsafe
    simp only [Bool.and_eq_true, decide_eq_true_eq] at hsafe
    exact absurd hbypass (not_or.mpr ⟨hsafe.1.1, not_not.mpr hsafe.1.2⟩)
  · unfold MissionManagerConfiguration.obstacleCommand at hobstacle
    dsimp only at hobstacle
    split_ifs at hobstacle <;> cases hobstacle <;> exact Bool.false_ne_true

theorem origin_of_decisionMakerRun (ext : Externals P E) (i : TickInput E) (s : MissionManager P) :
    ∃ cs, Issues cs s (s.decisionMakerRun ext i) ∧ ∀ command ∈ cs, command.goes → s.globalOriginReferenceSet := by
  by_cases hbypass : i.bypasses
  · obtain ⟨cs, hcs, hpermits⟩ := issues_decisionMakerRun_bypassed ext hbypass s
    refine ⟨cs, hcs, fun command hcommand hgoes => ?_⟩
    exact absurd hgoes (not_goes_of_bypasses hbypass (hpermits command hcommand))
  by_cases hoff : (s.beginTick i).isOff
  · refine ⟨_, issues_decisionMakerRun_off ext hbypass hoff, fun command hcommand hgoes => ?_⟩
    split_ifs at hcommand
    · rw [List.mem_singleton.mp hcommand] at hgoes
      cases hgoes
    · exact absurd hcommand List.not_mem_nil
  · obtain ⟨cs, hplain, hcs⟩ := exists_issues_decisionMakerRun_on ext hbypass hoff
    refine ⟨_, hcs, fun command hcommand hgoes => ?_⟩
    rcases List.mem_append.mp hcommand with hprocess | htrigger
    · rcases hplain command hprocess with rfl | rfl <;> cases hgoes
    · have horigin := origin_of_triggerCommand (Option.mem_toList.mp htrigger) hgoes
      rwa [beginTick_eq] at horigin

/-- Without the flag no search is started. -/
theorem starts_of_no_origin (ext : Externals P E) (i : TickInput E) (hnone : ¬ s.globalOriginReferenceSet) :
    (s.decisionMakerRun ext i).searchesStarted = s.searchesStarted := by
  have hbegin := apart_beginTick (i := i) s
  by_cases hbypass : i.bypasses
  · cases decisionMakerRun_cases ext i s with
    | bypassed bypasses quiet => exact quiet.starts
    | handled calls handled quiet => exact absurd hbypass calls
  by_cases hoff : (s.beginTick i).isOff
  · exact starts_decisionMakerRun_off hbypass hoff
  · have hnone' : ¬ (s.beginTick i).globalOriginReferenceSet := by rwa [beginTick_eq]
    rw [starts_decisionMakerRun_on hbypass hoff, ← hbegin.starts]
    rcases triggerSafeLanding_cases ext i (s.beginTick i) with hquiet | ⟨-, -, hattempt⟩
    · exact hquiet.starts
    · cases hattempt with
      | started effect planner active origin => exact absurd origin hnone'
      | failed ended planner inactive origin => exact absurd origin hnone'
      | refused ended planner missing => exact ended.starts

/-- Nothing is sent anywhere by a step without the flag. -/
theorem origin_of_step (ext : Externals P E) (input : MissionInput E) (s : MissionManager P) :
    ∃ cs, Issues cs s (step ext s input) ∧ ∀ command ∈ cs, command.goes → s.globalOriginReferenceSet := by
  rcases step_cases ext s input with ⟨i, rfl⟩ | ⟨mode, rfl⟩ | hcallback
  · exact origin_of_decisionMakerRun ext i s
  · exact ⟨[], issues_flightModeCallback mode s, by simp⟩
  · exact ⟨[], hcallback.issues, by simp⟩

theorem starts_step_of_no_origin (ext : Externals P E) (input : MissionInput E) (hnone : ¬ s.globalOriginReferenceSet) :
    (step ext s input).searchesStarted = s.searchesStarted := by
  rcases step_cases ext s input with ⟨i, rfl⟩ | ⟨mode, rfl⟩ | hcallback
  · exact starts_of_no_origin ext i hnone
  · exact (flightModeCallback_effect ext mode s).2.1
  · exact hcallback.apart.starts

/-! ### Every run -/

/-- What the origin rests on after the answers `os`: the latest valid one is stored, one of them has differed from what
stood there before if the flag is set, and without the flag nothing has been sent anywhere and no search started. -/
structure OriginInv (boot : Boot) (os : List (Double × Double × Double)) (s : MissionManager P) : Prop where
  reference : s.reference = os.getLast?.getD boot.reference
  flag : s.globalOriginReferenceSet ↔ ∃ o ∈ os, ¬ SameOrigin boot.reference o
  commands : ∀ command ∈ s.commands, command.goes → s.globalOriginReferenceSet
  starts : 0 < s.searchesStarted → s.globalOriginReferenceSet

/-- As long as the answers are the same as what stood there before, it stands there. -/
theorem OriginInv.reference_of_unset {boot : Boot} {os : List (Double × Double × Double)} (hs : OriginInv boot os s)
    (hunset : ¬ s.globalOriginReferenceSet) : s.reference = boot.reference := by
  rw [hs.flag] at hunset
  push Not at hunset
  rw [hs.reference]
  cases hlast : os.getLast? with
  | none => rfl
  | some o => exact (eq_of_sameOrigin (hunset o (List.mem_of_getLast? hlast))).symm

theorem originInv_step (ext : Externals P E) {boot : Boot} {os : List (Double × Double × Double)}
    (input : MissionInput E) (hs : OriginInv boot os s) :
    OriginInv boot (os ++ input.validOrigin.toList) (step ext s input) := by
  have hstores := storesOrigin_step ext input s
  have hkeeps : s.globalOriginReferenceSet → (step ext s input).globalOriginReferenceSet := fun h =>
    hstores.flag.mpr (.inl h)
  refine ⟨?_, ?_, ?_, ?_⟩
  · rw [hstores.reference, hs.reference]
    cases input.validOrigin <;> simp
  · rw [hstores.flag]
    by_cases hset : s.globalOriginReferenceSet
    · -- the flag stays, and the origin that has set it stays in the list
      obtain ⟨o, ho, hdiffers⟩ := hs.flag.mp hset
      exact iff_of_true (.inl hset) ⟨o, List.mem_append_left _ ho, hdiffers⟩
    · -- no origin so far differs from the boot value, so the reference still has it
      have hnone : ∀ o ∈ os, SameOrigin boot.reference o := by
        have h := mt hs.flag.mpr hset
        push Not at h
        exact h
      rw [hs.reference_of_unset hset]
      constructor
      · rintro (h | ⟨o, ho, hdiffers⟩)
        · exact absurd h hset
        · exact ⟨o, List.mem_append_right _ (by simp [ho]), hdiffers⟩
      · rintro ⟨o, ho, hdiffers⟩
        rcases List.mem_append.mp ho with hold | hnew
        · exact absurd (hnone o hold) hdiffers
        · exact .inr ⟨o, Option.mem_toList.mp hnew, hdiffers⟩
  · obtain ⟨cs, hcs, hgoes⟩ := origin_of_step ext input s
    rw [hcs]
    exact List.forall_mem_append.mpr ⟨fun command h hcommand => hkeeps (hgoes command h hcommand),
      fun command h hcommand => hkeeps (hs.commands command h hcommand)⟩
  · intro hstarted
    by_contra hunset
    have hunset' : ¬ s.globalOriginReferenceSet := fun h => hunset (hkeeps h)
    rw [starts_step_of_no_origin ext input hunset'] at hstarted
    exact hunset' (hs.starts hstarted)

/-- **The origin comes first**: in every run the reference is the latest valid answer, it counts as set exactly when a
valid answer has differed from what the members held before, and no search has been started and no position commanded
unless it is set. -/
theorem origin_first (ext : Externals P E) (boot : Boot) (is : List (MissionInput E)) :
    OriginInv boot (is.filterMap MissionInput.validOrigin) (run (step ext) (initial ext boot) is) := by
  induction is using List.reverseRecOn with
  | nil => exact ⟨rfl, iff_of_false Bool.false_ne_true (by simp), fun _ h => absurd h List.not_mem_nil, nofun⟩
  | append_singleton is input ih =>
    rw [run_concat, List.filterMap_append]
    have hsingle : [input].filterMap MissionInput.validOrigin = input.validOrigin.toList := by
      cases h : input.validOrigin <;> simp [h]
    rw [hsingle]
    exact originInv_step ext input ih

end MissionManager

end AutopilotManager
