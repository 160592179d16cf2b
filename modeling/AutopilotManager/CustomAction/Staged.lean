import AutopilotManager.CustomAction.Cancellation
import AutopilotManager.CustomAction.Join
import Mathlib.Tactic.FieldSimp

/-!
# CustomAction.Staged — the stages of an action

`execute_custom_action` tests the flag before each stage, in each wait and before each progress update.  A failed stage
breaks the loop; a flag that is found set skips what follows it and the loop goes on.  The stages executed are a prefix
in order all the same, and the recorded result and progress follow from how many of them there are and how many progress
updates found the flag lowered.
-/

namespace AutopilotManager

open Lib

/-- The progress recorded for `k` stages. -/
def ActionMetadata.share (m : ActionMetadata) (k : ℕ) : ℚ := k / m.stages.length * 100

theorem ActionMetadata.share_eq_hundred_iff {m : ActionMetadata} (hstages : m.stages ≠ []) {k : ℕ} :
    m.share k = 100 ↔ k = m.stages.length := by
  have hn : (m.stages.length : ℚ) ≠ 0 := by simpa using hstages
  unfold ActionMetadata.share
  constructor
  · intro h
    field_simp at h
    exact_mod_cast h
  · rintro rfl
    field_simp

/-- The test before a stage has been passed and the stage not been executed. -/
def Execute.starting : Execute → ℕ
  | printStage _ | runStage _ => 1
  | _ => 0

def ActionWorker.starting : ActionWorker → ℕ
  | executing _ e => e.starting
  | _ => 0

/-- About to test the flag before a progress update. -/
def ActionWorker.isUpdating : ActionWorker → Bool
  | executing _ (.update _) => true
  | _ => false

/-- The handler, with two things about the call of `execute_custom_action` under way: whether it found the flag lowered
when it was entered, and how many of its progress updates have. -/
structure StageWatch where
  handler : CustomActionHandler
  lowered : Bool := false
  completed : ℕ := 0
  deriving DecidableEq

/-- What is known of a call: its metadata, the stages executed and completed, and the result and progress recorded. -/
structure StageRecord where
  metadata : ActionMetadata
  stages : List (ℕ × Result)
  completed : ℕ
  result : Option Result
  progress : Option ℚ

namespace StageWatch

def step (w : StageWatch) : HandlerInput → StageWatch
  | .worker a =>
    if w.handler.undefined then w
    else if w.handler.worker = .enter then ⟨w.handler.work a, !w.handler.actionStopped, 0⟩
    else if w.handler.worker.isUpdating && !w.handler.actionStopped then
      ⟨w.handler.work a, w.lowered, w.completed + 1⟩
    else { w with handler := w.handler.work a }
  | i => { w with handler := w.handler.step i }

theorem handler_step (w : StageWatch) (i : HandlerInput) : (w.step i).handler = w.handler.step i := by
  cases i with
  | worker a =>
    rw [step, CustomActionHandler.step]
    by_cases hundefined : w.handler.undefined
    · rw [if_pos hundefined, if_pos hundefined]
    · rw [if_neg hundefined, if_neg hundefined]
      split_ifs <;> rfl
  | _ => rfl

/-- The watch of a run. -/
def after (t : ℤ) (is : List HandlerInput) : StageWatch := run step { handler := .initial t } is

/-- The watched handler is the handler. -/
theorem handler_after (t : ℤ) (is : List HandlerInput) :
    (after t is).handler = run CustomActionHandler.step (.initial t) is :=
  run_project handler_step _ is

def record (w : StageWatch) : StageRecord :=
  ⟨w.handler.call.metadata, w.handler.call.stages, w.completed, w.handler.actionsResult.head?,
    w.handler.actionsProgress.head?⟩

end StageWatch

/-! ### What is known at a location -/

namespace StageRecord

/-- The first `executed` stages have succeeded, and `completed` progress updates have been recorded. -/
structure Course (r : StageRecord) (executed completed : ℕ) : Prop where
  stages : r.stages = successes executed
  counted : r.completed = completed
  le : completed ≤ executed
  bound : executed ≤ r.metadata.stages.length
  result : r.result = some (if completed = r.metadata.stages.length then .success else .inProgress)
  progress : r.progress = some (r.metadata.share completed)

/-- A stage has failed after the success of those before it. -/
def Failure (r : StageRecord) (result : Result) : Prop :=
  ∃ k < r.metadata.stages.length, ∃ x, x ≠ .success ∧ r.stages = (k, x) :: successes k ∧ r.completed = k ∧
    r.result = some result ∧ r.progress = some (r.metadata.share k)

/-- The progress update of stage `i` has found the flag lowered; the progress for `k` stages is recorded. -/
def Updating (r : StageRecord) (i k : ℕ) : Prop :=
  i < r.metadata.stages.length ∧ r.stages = successes (i + 1) ∧ r.completed = i + 1 ∧
    r.result = some .inProgress ∧ r.progress = some (r.metadata.share k)

/-- What is known at each location of `execute_custom_action`, by whether the flag is set. -/
def At (r : StageRecord) (stopped : Bool) : Execute → Prop
  | .stage i =>
    i ≤ r.metadata.stages.length ∧ ∃ j k, r.Course j k ∧ (stopped = false → j = i ∧ k = i)
  | .printStage i | .runStage i => i < r.metadata.stages.length ∧ r.Course i i
  | .printFailed | .failed => r.Failure .inProgress
  | .stopFailed => r.Failure .error
  | .wait i | .sleep i | .landed i | .poll i | .update i => i < r.metadata.stages.length ∧ r.Course (i + 1) i
  | .setProgress i => r.Updating i i
  | .testProgress i => r.Updating i (i + 1)
  | .setInProgress i | .printId i | .printProgress i =>
    i + 1 < r.metadata.stages.length ∧ r.Course (i + 1) (i + 1)
  | .setSuccess i => i + 1 = r.metadata.stages.length ∧ r.Updating i (i + 1)
  | .outcome _ | .printOutcome | .raise | .lower | .clear => (∃ j k, r.Course j k) ∨ r.Failure .error
  | .script | .waitScript | .sleepScript | .runScript | .setResult _ | .testScript | .setComplete => False

variable {r : StageRecord}

/-- Once the flag is set, less is known. -/
theorem At.mono {stopped stopped' : Bool} {e : Execute} (h : r.At stopped e)
    (hstopped : stopped' = false → stopped = false) : r.At stopped' e := by
  cases e with
  | stage i =>
    obtain ⟨hi, j, k, hcourse, hexact⟩ := h
    exact ⟨hi, j, k, hcourse, fun hlow => hexact (hstopped hlow)⟩
  | _ => exact h

end StageRecord

namespace StageWatch

/-- What is known at each location of the worker. -/
def StagedAt (w : StageWatch) : ActionWorker → Prop
  | .fetching => w.handler.call.stages = [] ∧ w.handler.call.scripts = []
  | .pushResult => w.handler.Prepared
  | .pushProgress => w.handler.Prepared ∧ w.handler.actionsResult.head? = some .inProgress
  | .printId | .printProgress | .copyAction | .spawn _ | .enter =>
    w.handler.Prepared ∧ w.handler.actionsResult.head? = some .inProgress ∧ w.handler.actionsProgress.head? = some 0
  | .executing m e =>
    m = w.handler.call.metadata ∧ (m.stages ≠ [] → w.lowered → w.record.At w.handler.actionStopped e)
  | _ => True

def Staged (w : StageWatch) : Prop := w.StagedAt w.handler.worker

variable {w : StageWatch}

theorem Staged.at (hs : Staged w) {worker : ActionWorker} (hw : w.handler.worker = worker) : w.StagedAt worker :=
  hw ▸ hs

/-- A read of a vector. -/
theorem back_staged (hs : Staged w) {α : Type} {v : List α} {f : α → CustomActionHandler}
    (hf : ∀ x ∈ v.head?, Staged { w with handler := f x }) : Staged { w with handler := w.handler.back v f } :=
  CustomActionHandler.back_induction (P := fun s => Staged { w with handler := s }) hs hf

section Execute

variable {m : ActionMetadata} {e : Execute} (hw : w.handler.worker = .executing m e) (hs : Staged w)

include hw hs in
/-- A step of `execute_custom_action` but the test of a progress update. -/
theorem execute_staged (hupdate : ∀ i, e ≠ .update i) (a : Answer) :
    Staged { w with handler := w.handler.execute m a e } := by
  obtain ⟨rfl, hat⟩ := hs.at hw
  cases e with
  | stage i =>
    rw [CustomActionHandler.execute]
    by_cases hlt : i < w.handler.call.metadata.stages.length
    · rw [if_pos hlt]
      by_cases hstopped : w.handler.actionStopped
      · rw [if_pos hstopped]
        -- the flag skips the stage, and no more is known than before
        refine ⟨rfl, fun hstages hlow => ?_⟩
        obtain ⟨-, j, k, hcourse, -⟩ := hat hstages hlow
        exact ⟨hlt, j, k, hcourse, fun hlowered => absurd hstopped (ne_true_of_eq_false hlowered)⟩
      · rw [if_neg hstopped]
        refine ⟨rfl, fun hstages hlow => ?_⟩
        obtain ⟨-, j, k, hcourse, hexact⟩ := hat hstages hlow
        -- nothing has stopped them, so the counts are those of the stage
        obtain ⟨rfl, rfl⟩ := hexact (eq_false_of_ne_true hstopped)
        exact ⟨hlt, hcourse⟩
    · rw [if_neg hlt]
      refine ⟨rfl, fun hstages hlow => ?_⟩
      obtain ⟨-, j, k, hcourse, -⟩ := hat hstages hlow
      exact .inl ⟨j, k, hcourse⟩
  | runStage i =>
    rw [CustomActionHandler.execute]
    by_cases hsuccess : a.result = .success
    · rw [if_neg (not_not.mpr hsuccess), hsuccess]
      refine ⟨rfl, fun hstages hlow => ?_⟩
      obtain ⟨hlt, hcourse⟩ := hat hstages hlow
      exact ⟨hlt, congrArg ((i, Result.success) :: ·) hcourse.stages, hcourse.counted, Nat.le_succ i, hlt,
        hcourse.result, hcourse.progress⟩
    · rw [if_pos hsuccess]
      refine ⟨rfl, fun hstages hlow => ?_⟩
      obtain ⟨hlt, hcourse⟩ := hat hstages hlow
      -- a stage that fails is the last one, and the result is still that of its predecessor
      have hresult := hcourse.result
      rw [if_neg hlt.ne] at hresult
      exact ⟨i, hlt, a.result, hsuccess, congrArg ((i, a.result) :: ·) hcourse.stages, hcourse.counted, hresult,
        hcourse.progress⟩
  | printStage i | printFailed => exact back_staged hs fun x _ => ⟨rfl, hat⟩
  | failed =>
    refine back_staged hs fun x _ => ⟨rfl, fun hstages hlow => ?_⟩
    obtain ⟨k, hk, y, hy, hdone, hcounted, -, hprogress⟩ := hat hstages hlow
    exact ⟨k, hk, y, hy, hdone, hcounted, rfl, hprogress⟩
  | stopFailed => exact ⟨rfl, fun hstages hlow => .inr (hat hstages hlow)⟩
  | wait i =>
    -- the waits read and sleep only: what has been done is as before
    rw [CustomActionHandler.execute, CustomActionHandler.waitStage]
    split
    · exact ⟨rfl, hat⟩
    all_goals split_ifs <;> exact ⟨rfl, hat⟩
  | sleep i | landed i =>
    rw [CustomActionHandler.execute]
    split_ifs <;> exact ⟨rfl, hat⟩
  | poll i => exact ⟨rfl, hat⟩
  | update i => exact absurd rfl (hupdate i)
  | setProgress i =>
    refine back_staged hs fun p _ => ⟨rfl, fun hstages hlow => ?_⟩
    obtain ⟨hlt, hdone, hcounted, hresult, -⟩ := hat hstages hlow
    refine ⟨hlt, hdone, hcounted, hresult, ?_⟩
    change some (((i + 1 : ℚ)) / _ * 100) = some _
    rw [ActionMetadata.share, Nat.cast_succ]
    rfl
  | testProgress i =>
    refine back_staged hs fun p hp => ?_
    by_cases hcomplete : p = 100
    · rw [if_neg (not_not.mpr hcomplete)]
      refine ⟨rfl, fun hstages hlow => ?_⟩
      have hupdating := hat hstages hlow
      have hshare : w.handler.call.metadata.share (i + 1) = p := Option.some.inj (hupdating.2.2.2.2.symm.trans hp)
      exact ⟨(ActionMetadata.share_eq_hundred_iff hstages).mp (hshare.trans hcomplete), hupdating⟩
    · rw [if_pos hcomplete]
      refine ⟨rfl, fun hstages hlow => ?_⟩
      obtain ⟨hlt, hdone, hcounted, hresult, hprogress⟩ := hat hstages hlow
      have hshare : w.handler.call.metadata.share (i + 1) = p := Option.some.inj (hprogress.symm.trans hp)
      -- another share than all of them means that stages are left
      have hne : i + 1 ≠ w.handler.call.metadata.stages.length := fun hall =>
        hcomplete (hshare.symm.trans ((ActionMetadata.share_eq_hundred_iff hstages).mpr hall))
      exact ⟨lt_of_le_of_ne hlt hne, hdone, hcounted, le_refl _, hlt,
        hresult.trans (congrArg some (if_neg hne).symm), hprogress⟩
  | setInProgress i =>
    refine back_staged hs fun x _ => ⟨rfl, fun hstages hlow => ?_⟩
    obtain ⟨hlt, hcourse⟩ := hat hstages hlow
    exact ⟨hlt, { hcourse with result := congrArg some (if_neg hlt.ne).symm }⟩
  | printId i => exact back_staged hs fun x _ => ⟨rfl, hat⟩
  | printProgress i =>
    refine back_staged hs fun x _ => ⟨rfl, fun hstages hlow => ?_⟩
    obtain ⟨hlt, hcourse⟩ := hat hstages hlow
    exact ⟨hlt.le, i + 1, i + 1, hcourse, fun _ => ⟨rfl, rfl⟩⟩
  | setSuccess i =>
    refine back_staged hs fun x _ => ⟨rfl, fun hstages hlow => ?_⟩
    obtain ⟨hall, hlt, hdone, hcounted, -, hprogress⟩ := hat hstages hlow
    exact ⟨hlt, i + 1, i + 1, ⟨hdone, hcounted, le_refl _, hlt, congrArg some (if_pos hall).symm, hprogress⟩,
      fun _ => ⟨rfl, rfl⟩⟩
  | script =>
    rw [CustomActionHandler.execute]
    -- from here on the locations are those of a call without stages
    split_ifs
    · exact ⟨rfl, fun hstages hlow => (hat hstages hlow).elim⟩
    · split <;> exact ⟨rfl, fun hstages hlow => (hat hstages hlow).elim⟩
  | waitScript | sleepScript | runScript => exact ⟨rfl, fun hstages hlow => (hat hstages hlow).elim⟩
  | setResult r | setComplete => exact back_staged hs fun x _ => ⟨rfl, fun hstages hlow => (hat hstages hlow).elim⟩
  | testScript =>
    refine back_staged hs fun x _ => ?_
    split_ifs <;> exact ⟨rfl, fun hstages hlow => (hat hstages hlow).elim⟩
  | outcome rs =>
    cases rs with
    | nil => exact ⟨rfl, hat⟩
    | cons r rs =>
      refine back_staged hs fun x _ => ?_
      split_ifs <;> exact ⟨rfl, hat⟩
  | printOutcome => exact back_staged hs fun x _ => ⟨rfl, hat⟩
  | raise | lower => exact ⟨rfl, hat⟩
  | clear => trivial

include hw hs in
/-- The test of a progress update, by what it finds. -/
theorem update_staged {i : ℕ} (he : e = .update i) (a : Answer) : Staged (if w.handler.actionStopped then
    { w with handler := w.handler.execute m a e } else ⟨w.handler.execute m a e, w.lowered, w.completed + 1⟩) := by
  subst he
  obtain ⟨rfl, hat⟩ := hs.at hw
  rw [CustomActionHandler.execute]
  by_cases hstopped : w.handler.actionStopped
  · rw [if_pos hstopped, if_pos hstopped]
    refine ⟨rfl, fun hstages hlow => ?_⟩
    obtain ⟨hlt, hcourse⟩ := hat hstages hlow
    exact ⟨hlt, i + 1, i, hcourse, fun hlowered => absurd hstopped (ne_true_of_eq_false hlowered)⟩
  · rw [if_neg hstopped, if_neg hstopped]
    refine ⟨rfl, fun hstages hlow => ?_⟩
    obtain ⟨hlt, hcourse⟩ := hat hstages hlow
    exact ⟨hlt, hcourse.stages, congrArg (· + 1) hcourse.counted,
      hcourse.result.trans (congrArg some (if_neg hlt.ne)), hcourse.progress⟩

end Execute

/-- The entry of a call. -/
theorem enter_staged (hw : w.handler.worker = .enter) (hs : Staged w) (a : Answer) :
    Staged ⟨w.handler.work a, !w.handler.actionStopped, 0⟩ := by
  obtain ⟨hprepared, hresult, hprogress⟩ := hs.at hw
  have hwork : w.handler.work a =
      w.handler.back w.handler.actionsMetadata fun m => w.handler.goto (.executing m m.entry) := by
    rw [CustomActionHandler.work, hw]
  have hentered : Staged ⟨w.handler, !w.handler.actionStopped, 0⟩ := by
    change StagedAt _ w.handler.worker
    rw [hw]
    exact ⟨hprepared, hresult, hprogress⟩
  rw [hwork]
  refine back_staged hentered fun m hm => ⟨Option.mem_unique hm hprepared.1, fun hstages _ => ?_⟩
  obtain rfl : m = w.handler.call.metadata := Option.mem_unique hm hprepared.1
  rw [ActionMetadata.entry, if_pos hstages]
  have hnone : 0 ≠ w.handler.call.metadata.stages.length := (List.length_pos_iff.mpr hstages).ne
  refine ⟨Nat.zero_le _, 0, 0, ⟨hprepared.2.1, rfl, le_refl _, Nat.zero_le _, ?_, ?_⟩, fun _ => ⟨rfl, rfl⟩⟩
  · exact hresult.trans (congrArg some (if_neg hnone).symm)
  · refine hprogress.trans (congrArg some ?_)
    rw [ActionMetadata.share, Nat.cast_zero, zero_div, zero_mul]

/-- The worker outside of `execute_custom_action`. -/
theorem work_staged (hs : Staged w) (hexecuting : ∀ m e, w.handler.worker ≠ .executing m e)
    (henter : w.handler.worker ≠ .enter) (a : Answer) : Staged { w with handler := w.handler.work a } := by
  unfold CustomActionHandler.work
  cases hw : w.handler.worker with
  | executing m e => exact absurd hw (hexecuting m e)
  | enter => exact absurd hw henter
  | top =>
    dsimp only
    split_ifs
    · trivial
    · exact hs
  | called => exact back_staged hs fun action _ => ⟨rfl, rfl⟩
  | fetching =>
    obtain ⟨hstages, hscripts⟩ := hs.at hw
    exact ⟨rfl, hstages, hscripts⟩
  | pushResult =>
    have hprepared := hs.at hw
    exact ⟨hprepared, rfl⟩
  | pushProgress =>
    -- the progress starts at zero, where no stage is done
    obtain ⟨hprepared, hresult⟩ := hs.at hw
    exact ⟨hprepared, hresult, rfl⟩
  | printId | printProgress | copyAction => exact back_staged hs fun x _ => hs.at hw
  | spawn action => exact hs.at hw
  | testComplete | testSuccess =>
    refine back_staged hs fun x _ => ?_
    split_ifs <;> trivial
  | setUnknown => exact back_staged hs fun r _ => trivial
  | join =>
    refine back_staged hs fun t _ => ?_
    split_ifs
    · trivial
    · exact hs
  | done => trivial

/-- The other parties may set the flag. -/
theorem access_staged (hs : Staged w) {i : HandlerInput} (hi : ∀ a, i ≠ .worker a) :
    Staged { w with handler := w.handler.access i } := by
  have hkeeps := CustomActionHandler.access_keepsWorker (s := w.handler) hi
  have haside := CustomActionHandler.access_aside (s := w.handler) hi
  have hrecord : record { w with handler := w.handler.access i } = w.record := by
    unfold record
    rw [hkeeps.metadata, hkeeps.stages, hkeeps.actionsResult, hkeeps.actionsProgress]
  have hstopped : (w.handler.access i).actionStopped = false → w.handler.actionStopped = false := by
    intro hlowered
    by_contra hset
    exact absurd (haside.actionStopped (eq_true_of_ne_false hset)) (ne_true_of_eq_false hlowered)
  unfold Staged at hs ⊢
  rw [hkeeps.worker]
  unfold StagedAt CustomActionHandler.Prepared at hs ⊢
  rw [hrecord, hkeeps.metadata, hkeeps.stages, hkeeps.scripts, hkeeps.actionsMetadata, hkeeps.actionsResult,
    hkeeps.actionsProgress]
  cases hw : w.handler.worker with
  | executing m e =>
    rw [hw] at hs
    obtain ⟨hm, hat⟩ := hs
    exact ⟨hm, fun hstages hlow => (hat hstages hlow).mono hstopped⟩
  | _ =>
    rw [hw] at hs
    exact hs

theorem step_of_undefined (hundefined : w.handler.undefined) (i : HandlerInput) : w.step i = w := by
  cases i with
  | worker a => exact if_pos hundefined
  | _ =>
    change { w with handler := w.handler.step _ } = w
    rw [CustomActionHandler.step, if_pos hundefined]

/-- A step of the worker. -/
theorem worker_staged (hs : Staged w) (hdefined : ¬ w.handler.undefined) (a : Answer) :
    Staged (w.step (.worker a)) := by
  rw [step, if_neg hdefined]
  by_cases henter : w.handler.worker = .enter
  · rw [if_pos henter]
    exact enter_staged henter hs a
  rw [if_neg henter]
  by_cases hexecuting : ∃ m e, w.handler.worker = .executing m e
  · obtain ⟨m, e, hw⟩ := hexecuting
    have hwork : w.handler.work a = w.handler.execute m a e := by rw [CustomActionHandler.work, hw]
    rw [hwork, hw]
    -- the watch counts the updates that are not skipped
    by_cases hupdate : ∃ i, e = .update i
    · obtain ⟨i, rfl⟩ := hupdate
      have hstaged := update_staged hw hs rfl a
      rw [ActionWorker.isUpdating, Bool.true_and]
      by_cases hstopped : w.handler.actionStopped
      · rw [if_pos hstopped] at hstaged
        rw [if_neg (by simp [hstopped])]
        exact hstaged
      · rw [if_neg hstopped] at hstaged
        rw [if_pos (by simp [hstopped])]
        exact hstaged
    · have hnot : (ActionWorker.executing m e).isUpdating = false := by
        cases e <;> first | rfl | exact absurd ⟨_, rfl⟩ hupdate
      rw [hnot, Bool.false_and, if_neg Bool.false_ne_true]
      exact execute_staged hw hs (fun i hi => hupdate ⟨i, hi⟩) a
  · push Not at hexecuting
    have hnot : w.handler.worker.isUpdating = false := by
      cases hw : w.handler.worker <;> first | rfl | exact absurd hw (hexecuting _ _)
    rw [hnot, Bool.false_and, if_neg Bool.false_ne_true]
    exact work_staged hs hexecuting henter a

theorem step_staged (hs : Staged w) (i : HandlerInput) : Staged (w.step i) := by
  by_cases hundefined : w.handler.undefined
  · rw [step_of_undefined hundefined]
    exact hs
  cases i with
  | worker a => exact worker_staged hs hundefined a
  | _ =>
    change Staged { w with handler := w.handler.step _ }
    rw [CustomActionHandler.step, if_neg hundefined]
    exact access_staged hs (by rintro a ⟨⟩)

theorem staged_after (t : ℤ) (is : List HandlerInput) : Staged (after t is) := by
  have hinitial : Staged { handler := .initial t } := trivial
  have hstep : ∀ (w : StageWatch) i, Staged w → Staged (w.step i) := fun _ i hs => step_staged hs i
  exact run_invariant hstep hinitial is

end StageWatch

/-! ### What a location tells -/

namespace StageRecord

variable {r : StageRecord} {stopped : Bool} {e : Execute}

theorem not_failed_of_successes {k : ℕ} : ¬ ∃ p ∈ successes k, p.2 ≠ .success := by
  rintro ⟨p, hp, hfailed⟩
  exact hfailed (snd_successes hp)

/-- Where the execution is over, the result tells how it ended. -/
theorem At.result_iff (h : r.At stopped e) (hover : ¬ e.isRunning) :
    (r.result = some .error ↔ ∃ p ∈ r.stages, p.2 ≠ .success) ∧
      (r.result = some .success ↔ r.stages = successes r.metadata.stages.length ∧
        r.completed = r.metadata.stages.length) := by
  have hend : (∃ j k, r.Course j k) ∨ r.Failure .error := by
    cases e <;> first | exact h | exact absurd rfl hover | exact h.elim
  rcases hend with ⟨j, k, hcourse⟩ | ⟨k, hk, x, hx, hstages, hcounted, hresult, -⟩
  · rw [hcourse.result, hcourse.stages, hcourse.counted]
    refine ⟨iff_of_false (fun h => ?_) not_failed_of_successes, ?_⟩
    · split_ifs at h <;> cases h
    · constructor
      · intro hsuccess
        have hall : k = r.metadata.stages.length := by
          by_contra hsome
          rw [if_neg hsome] at hsuccess
          cases hsuccess
        have hj : j = r.metadata.stages.length := le_antisymm hcourse.bound (hall ▸ hcourse.le)
        exact ⟨congrArg successes hj, hall⟩
      · rintro ⟨-, hall⟩
        rw [if_pos hall]
  · rw [hresult, hstages, hcounted]
    refine ⟨iff_of_true rfl ⟨(k, x), List.mem_cons_self, hx⟩, iff_of_false (fun h => by cases h) fun h => ?_⟩
    exact absurd h.2 hk.ne

/-- At every location the call has a course, a failure, or a progress update under way. -/
theorem At.cases (h : r.At stopped e) : (∃ j k, r.Course j k) ∨ (∃ x, r.Failure x) ∨
    ∃ i k, r.Updating i k ∧ (k = i + 1 ∨ k = i ∧ e = .setProgress i) := by
  cases e with
  | stage i =>
    obtain ⟨-, j, k, hcourse, -⟩ := h
    exact .inl ⟨j, k, hcourse⟩
  | printStage i | runStage i | wait i | sleep i | landed i | poll i | update i | setInProgress i | printId i
  | printProgress i => exact .inl ⟨_, _, h.2⟩
  | printFailed | failed | stopFailed => exact .inr (.inl ⟨_, h⟩)
  | setProgress i => exact .inr (.inr ⟨i, i, h, .inr ⟨rfl, rfl⟩⟩)
  | testProgress i => exact .inr (.inr ⟨i, i + 1, h, .inl rfl⟩)
  | setSuccess i => exact .inr (.inr ⟨i, i + 1, h.2, .inl rfl⟩)
  | outcome rs | printOutcome | raise | lower | clear => exact h.imp_right fun hfailure => .inl ⟨_, hfailure⟩
  | script | waitScript | sleepScript | runScript | setResult x | testScript | setComplete => exact h.elim

/-- The stages executed are a prefix in order, and only the last may have failed. -/
theorem At.inOrder (h : r.At stopped e) {c : ActionCall} (hmetadata : r.metadata = c.metadata)
    (hstages : r.stages = c.stages) : c.InOrder := by
  rcases h.cases with ⟨j, k, hcourse⟩ | ⟨x, k, hk, y, -, hfailed, -⟩ | ⟨i, k, ⟨hi, hdone, -⟩, -⟩
  · exact ActionCall.inOrder_of_successes (hstages ▸ hcourse.stages) (hmetadata ▸ hcourse.bound)
  · exact ActionCall.inOrder_of_cons (hstages ▸ hfailed) (hmetadata ▸ hk)
  · exact ActionCall.inOrder_of_successes (hstages ▸ hdone) (hmetadata ▸ hi)

/-- The progress is that of the stages completed, but between the test and the write of an update. -/
theorem At.progress_eq (h : r.At stopped e) (hwritten : ∀ i, e ≠ .setProgress i) :
    r.progress = some (r.metadata.share r.completed) := by
  rcases h.cases with
    ⟨j, k, hcourse⟩ | ⟨x, k, -, y, -, -, hcounted, -, hprogress⟩ | ⟨i, k, ⟨-, -, hcounted, -, hprogress⟩, hk⟩
  · rw [hcourse.counted]
    exact hcourse.progress
  · rw [hcounted]
    exact hprogress
  · rcases hk with rfl | ⟨-, he⟩
    · rw [hcounted]
      exact hprogress
    · exact absurd he (hwritten i)

/-- A progress of 100 is reached by the last stage only. -/
theorem At.complete (h : r.At stopped e) (hstages : r.metadata.stages ≠ []) (hhundred : r.progress = some 100) :
    r.completed = r.metadata.stages.length ∧ r.stages = successes r.metadata.stages.length := by
  have hall : ∀ k, r.progress = some (r.metadata.share k) → k = r.metadata.stages.length := fun k hk =>
    (ActionMetadata.share_eq_hundred_iff hstages).mp (Option.some.inj (hk.symm.trans hhundred))
  rcases h.cases with
    ⟨j, k, hcourse⟩ | ⟨x, k, hk, y, -, -, -, -, hprogress⟩ | ⟨i, k, ⟨hi, hdone, hcounted, -, hprogress⟩, hk⟩
  · have hk := hall k hcourse.progress
    have hj : j = r.metadata.stages.length := le_antisymm hcourse.bound (hk ▸ hcourse.le)
    exact ⟨hcourse.counted.trans hk, hj ▸ hcourse.stages⟩
  · exact absurd (hall k hprogress) hk.ne
  · have hlast := hall k hprogress
    rcases hk with rfl | ⟨rfl, -⟩
    · exact ⟨hcounted.trans hlast, hlast ▸ hdone⟩
    · exact absurd hlast hi.ne

end StageRecord

/-! ### No stage after the flag -/

namespace CustomActionHandler

/-- The flag is set while the call executes `m`, and no more than `bound` stages come to be executed. -/
structure Stopping (m : ActionMetadata) (bound : ℕ) (s : CustomActionHandler) : Prop where
  flag : ∀ e, s.worker = .executing m e → e ≠ .clear → s.actionStopped
  stages : s.call.stages.length + s.worker.starting ≤ bound

variable {s : CustomActionHandler} {m : ActionMetadata} {bound : ℕ}

theorem Stopping.execute (hs : Stopping m bound s) {e : Execute} (hw : s.worker = .executing m e) (a : Answer) :
    Stopping m bound (s.execute m a e) := by
  have hstages := hs.stages
  rw [hw] at hstages
  have hdone : s.call.stages.length + 0 ≤ bound := (Nat.add_le_add_left (Nat.zero_le _) _).trans hstages
  -- once the flag is lowered only the clearing of the queue is left, and no stage
  by_cases hclear : e = .clear
  · subst hclear
    exact ⟨fun e he => (by cases he), hdone⟩
  have hstopped : s.actionStopped := hs.flag e hw hclear
  cases e with
  | clear => exact absurd rfl hclear
  | stage i =>
    -- the stage is skipped
    rw [CustomActionHandler.execute, if_pos hstopped]
    split_ifs <;> exact ⟨fun _ _ _ => hstopped, hdone⟩
  | printStage i =>
    exact back_induction (P := Stopping m bound) ⟨hs.flag, hs.stages⟩ fun x _ => ⟨fun _ _ _ => hstopped, hstages⟩
  | runStage i =>
    -- the one stage that the bound leaves room for
    rw [CustomActionHandler.execute]
    split_ifs
    · exact ⟨fun _ _ _ => hstopped, hstages⟩
    · exact ⟨fun _ _ _ => hstopped, hstages⟩
  | wait i =>
    rw [CustomActionHandler.execute, waitStage]
    split
    · exact ⟨fun _ _ _ => hstopped, hdone⟩
    all_goals
      rw [if_pos hstopped]
      exact ⟨fun _ _ _ => hstopped, hdone⟩
  | sleep i | landed i | update i | waitScript | sleepScript =>
    rw [CustomActionHandler.execute]
    split_ifs <;> exact ⟨fun _ _ _ => hstopped, hdone⟩
  | script =>
    rw [CustomActionHandler.execute, if_pos hstopped]
    exact ⟨fun _ _ _ => hstopped, hdone⟩
  | poll i | runScript => exact ⟨fun _ _ _ => hstopped, hdone⟩
  | stopFailed | raise => exact ⟨fun _ _ _ => rfl, hdone⟩
  | lower => exact ⟨fun e he hne => absurd (ActionWorker.executing.inj he).2.symm hne, hdone⟩
  | outcome rs =>
    cases rs with
    | nil => exact ⟨fun _ _ _ => hstopped, hdone⟩
    | cons r rs =>
      refine back_induction (P := Stopping m bound) ⟨hs.flag, hs.stages⟩ fun x _ => ?_
      split_ifs <;> exact ⟨fun _ _ _ => hstopped, hdone⟩
  | testProgress i | testScript =>
    refine back_induction (P := Stopping m bound) ⟨hs.flag, hs.stages⟩ fun x _ => ?_
    split_ifs <;> exact ⟨fun _ _ _ => hstopped, hdone⟩
  | _ => exact back_induction (P := Stopping m bound) ⟨hs.flag, hs.stages⟩ fun x _ => ⟨fun _ _ _ => hstopped, hdone⟩

theorem Stopping.step (hs : Stopping m bound s) {e : Execute} (hw : s.worker = .executing m e) (i : HandlerInput) :
    Stopping m bound (s.step i) := by
  refine step_induction hs ?_
  by_cases hworker : ∃ a, i = .worker a
  · obtain ⟨a, rfl⟩ := hworker
    rw [access, work, hw]
    exact hs.execute hw a
  · have hkeeps : KeepsWorker s (s.access i) := access_keepsWorker fun a ha => hworker ⟨a, ha⟩
    refine ⟨fun e he hclear => ?_, ?_⟩
    · rw [hkeeps.worker] at he
      exact (access_aside fun a ha => hworker ⟨a, ha⟩).actionStopped (hs.flag e he hclear)
    · rw [hkeeps.worker, hkeeps.stages]
      exact hs.stages

end CustomActionHandler

/-! ### Runs -/

namespace StageWatch

/-- The stages of a call of `execute_custom_action` with the metadata `m`, at the location `e`. -/
structure RunsStages (w : StageWatch) (m : ActionMetadata) (e : Execute) : Prop where
  /-- A prefix of the stages has been executed in order, and each but the last with success. -/
  order : w.handler.call.metadata = m ∧ w.handler.call.InOrder
  /-- Once the flag is set, no stage comes to be executed but one whose test has been passed. -/
  stops : w.handler.actionStopped →
    ∀ js, Meets CustomActionHandler.step (fun s _ => ∃ e, s.worker = .executing m e) w.handler js →
      (run CustomActionHandler.step w.handler js).call.stages.length ≤ w.handler.call.stages.length + e.starting
  /-- The recorded result is `Error` exactly after a failure. -/
  error : ¬ e.isRunning →
    (w.handler.actionsResult.head? = some .error ↔ ∃ p ∈ w.handler.call.stages, p.2 ≠ .success)
  /-- It is `Success` exactly when all stages have succeeded and all progress updates have found the flag lowered. -/
  success : ¬ e.isRunning → (w.handler.actionsResult.head? = some .success ↔
    w.handler.call.stages = successes m.stages.length ∧ w.completed = m.stages.length)
  /-- The recorded progress is that of the updates which have found the flag lowered. -/
  progress : (∀ i, e ≠ .setProgress i) →
    w.handler.actionsProgress.head? = some ((w.completed : ℚ) / m.stages.length * 100)
  complete : w.handler.actionsProgress.head? = some 100 →
    w.completed = m.stages.length ∧ w.handler.call.stages = successes m.stages.length

/-- **Staged execution**: in every run, a call of `execute_custom_action` for an action with stages that finds the flag
lowered runs its stages. -/
theorem staged_execution (t : ℤ) (is : List HandlerInput) {m : ActionMetadata} {e : Execute}
    (hw : (after t is).handler.worker = .executing m e) (hstages : m.stages ≠ []) (hlow : (after t is).lowered) :
    RunsStages (after t is) m e := by
  obtain ⟨rfl, hat⟩ := (staged_after t is).at hw
  have hat := hat hstages hlow
  refine ⟨⟨rfl, hat.inOrder rfl rfl⟩, fun hstopped js hexecuting => ?_, fun hover => (hat.result_iff hover).1,
    fun hover => (hat.result_iff hover).2, fun hwritten => hat.progress_eq hwritten, fun h => hat.complete hstages h⟩
  have hstopping : CustomActionHandler.Stopping (after t is).handler.call.metadata
      ((after t is).handler.call.stages.length + e.starting) (after t is).handler := by
    refine ⟨fun _ _ _ => hstopped, ?_⟩
    rw [hw]
    exact le_refl _
  have hstep : ∀ s i, CustomActionHandler.Stopping (after t is).handler.call.metadata
      ((after t is).handler.call.stages.length + e.starting) s →
      (∃ e, s.worker = .executing (after t is).handler.call.metadata e) →
      CustomActionHandler.Stopping (after t is).handler.call.metadata
        ((after t is).handler.call.stages.length + e.starting) (s.step i) := by
    rintro s i hs ⟨e', he'⟩
    exact hs.step he' i
  exact (Nat.le_add_right _ _).trans (hexecuting.invariant hstep hstopping).stages

/-- An action with two stages is cancelled between the test before its first stage and the execution of that stage. -/
def startedRun : List HandlerInput :=
  CustomActionHandler.arriving 1 0 ++
    List.replicate 11 (.worker { metadata := { stages := [.onTimeout, .onTimeout] } }) ++
    [.cancellation, .cancellation]

/-- The first stage is executed, the second is not. -/
theorem staged_execution_cancelled :
    let w := after 60000000000 (startedRun ++ List.replicate 7 (.worker {}))
    w.handler.actionStopped ∧ w.handler.call.stages = [(0, .success)] ∧
      RunsStages w { stages := [.onTimeout, .onTimeout] } (.outcome [.error, .success]) :=
  ⟨by decide +kernel, by decide +kernel,
    staged_execution 60000000000 _ (by decide +kernel) (by decide) (by decide +kernel)⟩

/-- The flag is set before the first stage is executed. -/
theorem stage_executed_after_flag :
    (after 60000000000 startedRun).lowered ∧ (after 60000000000 startedRun).handler.actionStopped ∧
      (after 60000000000 startedRun).handler.call.stages = [] ∧
      (after 60000000000 (startedRun ++ List.replicate 2 (.worker {}))).handler.call.stages = [(0, .success)] := by
  decide +kernel

end StageWatch

end AutopilotManager
