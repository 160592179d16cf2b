import AutopilotManager.CustomAction.Handler

/-!
# CustomAction.StageWait — what the wait after a stage has seen

The wait after a stage tests the member `_landed_state` before it reads the telemetry, and the member is what the last
wait left.  A stage is advanced on a read of its own when the member did not already hold the awaited state as the
stage was executed.
-/

namespace AutopilotManager

open Lib

/-- The state of the vehicle that ends the wait after a stage. -/
def StateTransitionCondition.awaited : StateTransitionCondition → Option LandedState
  | onLandingComplete => some .onGround
  | onTakeoffComplete => some .inAir
  | onResultSuccess | onTimeout => none

/-- The stage that the wait is for. -/
def Execute.waiting : Execute → Option ℕ
  | wait k | sleep k | landed k | poll k => some k
  | _ => none

/-- The action and the stage that the worker waits for. -/
def ActionWorker.waiting : ActionWorker → Option (ActionMetadata × ℕ)
  | executing m e => e.waiting.map fun k => (m, k)
  | _ => none

namespace CustomActionHandler

/-- A read of the telemetry in the wait after stage `k` gives the state that the stage awaits. -/
def PollsAwaited (m : ActionMetadata) (k : ℕ) (s : CustomActionHandler) : HandlerInput → Prop
  | .worker a => ¬ s.undefined ∧ s.worker = .executing m (.poll k) ∧ (m.condition k).awaited = some a.landedState
  | _ => False

/-- A stage is executed. -/
def ExecutesStage (s : CustomActionHandler) : HandlerInput → Prop
  | .worker _ => ¬ s.undefined ∧ ∃ m k, s.worker = .executing m (.runStage k)
  | _ => False

/-- The step leaves the wait after stage `k` although the flag has been found lowered. -/
def Advances (m : ActionMetadata) (k : ℕ) (s : CustomActionHandler) (i : HandlerInput) : Prop :=
  s.worker = .executing m (.landed k) ∧ (step s i).worker = .executing m (.update k)

/-- The worker is about to execute a stage, and the member already holds the state that the stage awaits. -/
def anticipates (s : CustomActionHandler) : Bool :=
  match s.worker with
  | .executing m (.runStage k) => (m.condition k).awaited = some s.landedState
  | _ => false

/-- No stage is executed with success while the member already holds the state that it awaits. -/
def Unanticipated (s : CustomActionHandler) : HandlerInput → Prop
  | .worker a => ¬ s.undefined → a.result = .success → ¬ s.anticipates
  | _ => True

instance (s : CustomActionHandler) (i : HandlerInput) : Decidable (s.Unanticipated i) :=
  match i with
  | .worker a => inferInstanceAs (Decidable (¬ s.undefined → a.result = .success → ¬ s.anticipates))
  | .arrival _ | .callback _ | .cancellation | .thread _ => .isTrue trivial

/-! ### The member -/

/-- How the worker comes to be in the wait after stage `k`: it has executed the stage, or it was there before; the
member is as before unless the telemetry was read. -/
inductive Waits (m : ActionMetadata) (k : ℕ) (a : Answer) (s s' : CustomActionHandler) : Prop
  | ran (hw : s.worker = .executing m (.runStage k)) (hsuccess : a.result = .success)
      (hstate : s'.landedState = s.landedState)
  | polled (hw : s.worker = .executing m (.poll k)) (hstate : s'.landedState = a.landedState)
  | waited (e : Execute) (hw : s.worker = .executing m e) (he : e.waiting = some k)
      (hstate : s'.landedState = s.landedState)

variable {s : CustomActionHandler}

/-- A read of a vector leads out of no wait and into none. -/
theorem waiting_back {α : Type} {v : List α} {f : α → CustomActionHandler} (hw : s.worker.waiting = none)
    (hf : ∀ x, (f x).worker.waiting = none) : (s.back v f).worker.waiting = none :=
  back_induction (P := fun s' => s'.worker.waiting = none) hw fun x _ => hf x

section Execute

variable {m : ActionMetadata} {e : Execute} (hw : s.worker = .executing m e)

include hw in
theorem waiting_of_executing : s.worker.waiting = e.waiting.map fun k => (m, k) := by rw [hw, ActionWorker.waiting]

include hw in
/-- Only the execution of a stage leads into a wait. -/
theorem execute_waiting_none (a : Answer) (he : e.waiting = none) (hran : ∀ k, e ≠ .runStage k) :
    (s.execute m a e).worker.waiting = none := by
  have hstill : s.worker.waiting = none := by rw [waiting_of_executing hw, he]; rfl
  cases e with
  | runStage i => exact absurd rfl (hran i)
  | wait i | sleep i | landed i | poll i => cases he
  | stopFailed | runScript | raise | lower | clear => rfl
  | stage i =>
    rw [execute]
    split_ifs <;> rfl
  | update i | waitScript | sleepScript =>
    rw [execute]
    split_ifs <;> rfl
  | script =>
    rw [execute]
    split_ifs
    · rfl
    · split <;> rfl
  | failed | setProgress i | setInProgress i | setSuccess i | setResult r | setComplete | printStage i | printFailed
  | printId i | printProgress i | printOutcome => exact waiting_back hstill fun x => rfl
  | testProgress i | testScript =>
    refine waiting_back hstill fun x => ?_
    split_ifs <;> rfl
  | outcome rs =>
    cases rs with
    | nil => rfl
    | cons r rs =>
      refine waiting_back hstill fun x => ?_
      split_ifs <;> rfl

include hw in
/-- The wait goes on, or the stage is over. -/
theorem execute_waits_of_waiting {k : ℕ} (a : Answer) (he : e.waiting = some k) :
    (s.execute m a e).worker.waiting = none ∨
      (s.execute m a e).worker.waiting = some (m, k) ∧ Waits m k a s (s.execute m a e) := by
  cases e with
  | wait i =>
    obtain rfl := Option.some.inj he
    rw [execute, waitStage]
    split
    · exact .inl rfl
    all_goals
      split_ifs
      · exact .inl rfl
      · exact .inr ⟨rfl, .waited _ hw rfl rfl⟩
  | sleep i | landed i =>
    obtain rfl := Option.some.inj he
    rw [execute]
    split_ifs
    · exact .inl rfl
    · exact .inr ⟨rfl, .waited _ hw rfl rfl⟩
  | poll i =>
    obtain rfl := Option.some.inj he
    exact .inr ⟨rfl, .polled hw rfl⟩
  | _ => cases he

end Execute

/-- **Ways into a wait**, and what they leave in the member. -/
theorem work_waits {m : ActionMetadata} {k : ℕ} {a : Answer} (h : (s.work a).worker.waiting = some (m, k)) :
    Waits m k a s (s.work a) := by
  have hsome : (s.work a).worker.waiting ≠ none := by simp [h]
  cases hw : s.worker with
  | executing m' e =>
    have hwork : s.work a = s.execute m' a e := by rw [work, hw]
    rw [hwork] at h hsome ⊢
    cases hwaiting : e.waiting with
    | some k' =>
      -- the worker waits already: it goes on waiting, or it is over
      rcases execute_waits_of_waiting hw a hwaiting with hover | ⟨hstays, hwaits⟩
      · exact absurd hover hsome
      · obtain ⟨rfl, rfl⟩ := Prod.mk.inj (Option.some.inj (hstays.symm.trans h))
        exact hwaits
    | none =>
      by_cases hran : ∃ k', e = .runStage k'
      · -- a stage that has succeeded is the only way into a wait
        obtain ⟨k', rfl⟩ := hran
        by_cases hsuccess : a.result = .success
        · have hlocation : (s.execute m' a (.runStage k')).worker = .executing m' (.wait k') := by
            rw [execute, if_neg (not_not.mpr hsuccess)]
          rw [hlocation] at h
          obtain ⟨rfl, rfl⟩ := Prod.mk.inj (Option.some.inj h)
          exact .ran hw hsuccess rfl
        · refine absurd ?_ hsome
          rw [execute, if_pos hsuccess]
          rfl
      · exact absurd (execute_waiting_none hw a hwaiting fun k' hk' => hran ⟨k', hk'⟩) hsome
  | top =>
    refine absurd ?_ hsome
    rw [work, hw]
    dsimp only
    split_ifs
    · rfl
    · rw [hw]
      rfl
  | enter =>
    refine absurd ?_ hsome
    rw [work, hw]
    refine waiting_back (by rw [hw]; rfl) fun m => ?_
    unfold ActionMetadata.entry
    split_ifs <;> rfl
  | testComplete | testSuccess =>
    refine absurd ?_ hsome
    rw [work, hw]
    refine waiting_back (by rw [hw]; rfl) fun x => ?_
    split_ifs <;> rfl
  | join =>
    refine absurd ?_ hsome
    rw [work, hw]
    refine waiting_back (by rw [hw]; rfl) fun x => ?_
    split_ifs
    · rfl
    · rw [hw]
      rfl
  | called | printId | printProgress | copyAction | setUnknown =>
    refine absurd ?_ hsome
    rw [work, hw]
    exact waiting_back (by rw [hw]; rfl) fun x => rfl
  | fetching | pushResult | pushProgress | spawn action | done =>
    refine absurd ?_ hsome
    rw [work, hw]
    rfl

/-! ### Runs -/

/-- While the worker waits and the member holds the awaited state, it is from a read made in this wait. -/
def ReadSince (t : ℤ) (is : List HandlerInput) (s : CustomActionHandler) : Prop :=
  ∀ m k, s.worker.waiting = some (m, k) → (m.condition k).awaited = some s.landedState →
    Since step (PollsAwaited m k) ExecutesStage (initial t) is

theorem not_executesStage_of_waiting {m : ActionMetadata} {k : ℕ} (hw : s.worker.waiting = some (m, k))
    (i : HandlerInput) : ¬ ExecutesStage s i := by
  cases i with
  | worker a =>
    rintro ⟨-, m', k', hran⟩
    rw [hran] at hw
    cases hw
  | _ => exact id

/-- A step that leaves the wait and the member alone. -/
theorem ReadSince.frame {t : ℤ} {is : List HandlerInput} (h : ReadSince t is (run step (initial t) is))
    {i : HandlerInput} {s' : CustomActionHandler}
    (hwaiting : s'.worker.waiting = (run step (initial t) is).worker.waiting)
    (hstate : s'.landedState = (run step (initial t) is).landedState) : ReadSince t (is ++ [i]) s' := by
  intro m k hw hawaited
  rw [hwaiting] at hw
  rw [hstate] at hawaited
  exact since_concat.mpr (.inr ⟨h m k hw hawaited, not_executesStage_of_waiting hw i⟩)

theorem step_readSince {t : ℤ} {is : List HandlerInput} {i : HandlerInput}
    (h : ReadSince t is (run step (initial t) is)) (hok : Unanticipated (run step (initial t) is) i) :
    ReadSince t (is ++ [i]) (step (run step (initial t) is) i) := by
  generalize hs : run step (initial t) is = s at h hok ⊢
  by_cases hundefined : s.undefined
  · rw [step, if_pos hundefined]
    rw [← hs] at h ⊢
    exact h.frame rfl rfl
  rw [step, if_neg hundefined]
  by_cases hworker : ∃ a, i = .worker a
  · obtain ⟨a, rfl⟩ := hworker
    rw [access]
    intro m k hw hawaited
    cases work_waits hw with
    | ran hran hsuccess hstate =>
      -- the stage has run while the member shows the state already: ruled out by the condition
      have hanticipates : s.anticipates := by
        rw [anticipates, hran]
        exact decide_eq_true (hstate ▸ hawaited)
      exact absurd hanticipates (hok hundefined hsuccess)
    | polled hpoll hstate =>
      -- this step is the read itself
      rw [hstate] at hawaited
      refine since_concat.mpr (.inl ?_)
      rw [hs]
      exact ⟨hundefined, hpoll, hawaited⟩
    | waited e hwait he hstate =>
      have hbefore : s.worker.waiting = some (m, k) := by rw [waiting_of_executing hwait, he]; rfl
      rw [hstate] at hawaited
      refine since_concat.mpr (.inr ⟨h m k hbefore hawaited, ?_⟩)
      rw [hs]
      exact not_executesStage_of_waiting hbefore _
  · have hkeeps : KeepsWorker s (s.access i) := access_keepsWorker fun a ha => hworker ⟨a, ha⟩
    rw [← hs] at h hkeeps ⊢
    exact h.frame (congrArg ActionWorker.waiting hkeeps.worker) hkeeps.landedState

theorem run_readSince (t : ℤ) {is : List HandlerInput} (hok : Meets step Unanticipated (initial t) is) :
    ReadSince t is (run step (initial t) is) := by
  induction is using List.reverseRecOn with
  | nil => exact fun m k hw => absurd hw (by simp [initial, ActionWorker.waiting])
  | append_singleton is i ih =>
    obtain ⟨hbefore, hlast⟩ := meets_concat.mp hok
    rw [run_concat]
    exact step_readSince (ih hbefore) hlast

theorem transitionComplete_of_advances {m : ActionMetadata} {k : ℕ} {i : HandlerInput} (h : Advances m k s i) :
    s.transitionComplete m k := by
  obtain ⟨hw, hw'⟩ := h
  have hmoved : (step s i).worker ≠ s.worker := by
    rw [hw, hw']
    intro hsame
    cases (ActionWorker.executing.inj hsame).2
  by_cases hundefined : s.undefined
  · rw [step, if_pos hundefined] at hmoved
    exact absurd rfl hmoved
  rw [step, if_neg hundefined] at hmoved hw'
  by_cases hworker : ∃ a, i = .worker a
  · obtain ⟨a, rfl⟩ := hworker
    by_contra hincomplete
    rw [access, work, hw] at hw'
    dsimp only at hw'
    rw [execute, if_neg hincomplete] at hw'
    cases (ActionWorker.executing.inj hw').2
  · exact absurd (access_keepsWorker fun a ha => hworker ⟨a, ha⟩).worker hmoved

/-- A wait for the vehicle is left with the flag lowered when the member holds the awaited state. -/
theorem awaited_of_advances {m : ActionMetadata} {k : ℕ} {i : HandlerInput} (h : Advances m k s i)
    (hawaits : (m.condition k).awaited ≠ none) : (m.condition k).awaited = some s.landedState := by
  have hcomplete := transitionComplete_of_advances h
  unfold transitionComplete at hcomplete
  cases hcondition : m.condition k with
  | onResultSuccess | onTimeout =>
    rw [hcondition] at hawaits
    exact absurd rfl hawaits
  | onLandingComplete | onTakeoffComplete =>
    rw [hcondition] at hcomplete
    have hstate := (not_or.mp (of_decide_eq_true hcomplete)).2
    exact congrArg some (not_not.mp hstate).symm

/-- **A stage wait looks at the vehicle**, in every run in which no stage is executed while the member already holds
the state that the stage awaits: a stage that waits for a landing or a takeoff is advanced without cancellation only
when a read of the telemetry in its wait, after the last execution of a stage, has given that state. -/
theorem stage_waits_fresh (t : ℤ) {is before after : List HandlerInput} {i : HandlerInput}
    (hok : Meets step Unanticipated (initial t) is) (his : is = before ++ [i] ++ after) {m : ActionMetadata} {k : ℕ}
    (hawaits : (m.condition k).awaited ≠ none) (hadvances : Advances m k (run step (initial t) before) i) :
    Since step (PollsAwaited m k) ExecutesStage (initial t) before := by
  have hbefore : Meets step Unanticipated (initial t) before := by
    rw [his] at hok
    exact (meets_append.mp (meets_append.mp hok).1).1
  have hwaiting : (run step (initial t) before).worker.waiting = some (m, k) := by
    rw [waiting_of_executing hadvances.1]
    rfl
  exact run_readSince t hbefore m k hwaiting (awaited_of_advances hadvances hawaits)

/-- An action whose two stages both wait for a landing. -/
def landingTwice : ActionMetadata := { stages := [.onLandingComplete, .onLandingComplete] }

/-- The action arrives, and the worker goes on for `n` steps; the vehicle is on the ground. -/
def landingTwiceRun (n : ℕ) : List HandlerInput :=
  [.arrival ⟨1⟩, .callback 0, .callback 0] ++ List.replicate n (.worker { metadata := landingTwice })

theorem stage_waits_fresh_landing :
    Since step (PollsAwaited landingTwice 0) ExecutesStage (initial 60000000000) (landingTwiceRun 17) := by
  have hok : Meets step Unanticipated (initial 60000000000) (landingTwiceRun 18) := by decide +kernel
  have his : landingTwiceRun 18 = landingTwiceRun 17 ++ [.worker { metadata := landingTwice }] ++ [] := by rfl
  exact stage_waits_fresh 60000000000 hok his nofun ⟨by decide +kernel, by decide +kernel⟩

/-- The second stage is advanced on what the wait after the first has left: the telemetry is not read after it. -/
theorem stage_advanced_unread :
    Advances landingTwice 1 (run step (initial 60000000000) (landingTwiceRun 28))
      (.worker { metadata := landingTwice }) ∧
    (landingTwice.condition 1).awaited = some .onGround ∧
    ¬ Since step (PollsAwaited landingTwice 1) ExecutesStage (initial 60000000000) (landingTwiceRun 28) := by
  refine ⟨⟨by decide +kernel, by decide +kernel⟩, rfl, ?_⟩
  have hwait : (run step (initial 60000000000) (landingTwiceRun 27)).worker = .executing landingTwice (.wait 1) := by
    decide +kernel
  have hran : (run step (initial 60000000000) (landingTwiceRun 26)).worker = .executing landingTwice (.runStage 1) ∧
      ¬ (run step (initial 60000000000) (landingTwiceRun 26)).undefined := by decide +kernel
  have hlast : landingTwiceRun 28 = landingTwiceRun 27 ++ [.worker { metadata := landingTwice }] := rfl
  have hsecond : landingTwiceRun 27 = landingTwiceRun 26 ++ [.worker { metadata := landingTwice }] := rfl
  rw [hlast, since_concat]
  rintro (⟨-, hpoll, -⟩ | ⟨hsince, -⟩)
  · rw [hwait] at hpoll
    exact absurd (ActionWorker.executing.inj hpoll).2 nofun
  · rw [hsecond, since_concat] at hsince
    rcases hsince with ⟨-, hpoll, -⟩ | ⟨-, hquiet⟩
    · rw [hran.1] at hpoll
      exact absurd (ActionWorker.executing.inj hpoll).2 nofun
    · exact hquiet ⟨hran.2, landingTwice, 1, hran.1⟩

end CustomActionHandler

end AutopilotManager
