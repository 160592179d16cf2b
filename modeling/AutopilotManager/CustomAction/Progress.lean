import AutopilotManager.CustomAction.Responses
import AutopilotManager.CustomAction.Staged

/-!
# CustomAction.Progress — what the flight controller is told of an action

The progress threads read the recorded progress and the recorded result with two accesses, while the worker goes on,
and send them with a third.  What has been read may be old by then, but it has been true of the call: one thread at
most is in its loop, its reports do not go back, and none is ahead of the stages.
-/

namespace AutopilotManager

open Lib

/-! ### What a call has done -/

namespace ActionCall

/-- All stages of the call have succeeded, or its script has. -/
def Completed (c : ActionCall) : Prop :=
  if c.metadata.stages ≠ [] then c.stages = successes c.metadata.stages.length
  else c.scripts.head? = some .success

instance (c : ActionCall) : Decidable c.Completed :=
  inferInstanceAs (Decidable (if c.metadata.stages ≠ [] then c.stages = successes c.metadata.stages.length
    else c.scripts.head? = some .success))

/-- The progress for the stages that have succeeded, or for the script. -/
def earned (c : ActionCall) : ℚ :=
  if c.metadata.stages ≠ [] then c.metadata.share (c.stages.countP fun p => p.2 = .success)
  else if c.scripts.head? = some .success then 100 else 0

end ActionCall

theorem ActionCall.earned_nonneg (c : ActionCall) : 0 ≤ c.earned := by
  unfold earned
  split_ifs
  · unfold ActionMetadata.share
    positivity
  · norm_num
  · exact le_refl 0

theorem countP_successes (k : ℕ) : ((successes k).countP fun p => p.2 = .success) = k := by
  induction k with
  | zero => rfl
  | succ k ih => rw [successes, List.countP_cons_of_pos (by simp), ih]

namespace ActionMetadata

variable {m : ActionMetadata}

theorem share_mono {j k : ℕ} (hjk : j ≤ k) : m.share j ≤ m.share k := by
  unfold share
  gcongr

theorem share_le_hundred {k : ℕ} (hk : k ≤ m.stages.length) : m.share k ≤ 100 := by
  unfold share
  have hratio : (k : ℚ) / m.stages.length ≤ 1 := div_le_one_of_le₀ (by exact_mod_cast hk) (Nat.cast_nonneg _)
  linarith

end ActionMetadata

/-- The first `done` stages of the call have succeeded and no other has run; the progress `q` is that of `recorded`
stages at most. -/
structure ActionCall.Reached (c : ActionCall) (q : ℚ) (done recorded : ℕ) : Prop where
  staged : c.metadata.stages ≠ []
  bound : done ≤ c.metadata.stages.length
  stages : c.stages = successes done
  recorded : q ≤ c.metadata.share recorded

namespace ActionCall

variable {c : ActionCall} {q : ℚ} {j k : ℕ}

theorem Reached.earned_eq (h : c.Reached q j k) : c.earned = c.metadata.share j := by
  rw [earned, if_pos h.staged, h.stages, countP_successes]

theorem Reached.completed_iff (h : c.Reached q j k) : c.Completed ↔ j = c.metadata.stages.length := by
  rw [Completed, if_pos h.staged, h.stages]
  refine ⟨fun heq => ?_, congrArg successes⟩
  simpa using congrArg List.length heq

/-- Before a stage the call is not complete. -/
theorem Reached.not_completed (h : c.Reached q j k) (hj : j < c.metadata.stages.length) : ¬ c.Completed := by
  rw [h.completed_iff]
  exact hj.ne

theorem Reached.next (h : c.Reached q j j) (hj : j < c.metadata.stages.length) (r : Result) (hr : r = .success) :
    ActionCall.Reached { c with stages := (j, r) :: c.stages } q (j + 1) j :=
  ⟨h.staged, hj, by rw [hr, h.stages]; rfl, h.recorded⟩

end ActionCall

/-- What the call has done for the progress `q`, at each location of `execute_custom_action`.  Once the flag is set no
stage follows. -/
def Execute.Owes (stopped : Bool) (c : ActionCall) (q : ℚ) : Execute → Prop
  | stage i => stopped = false → c.Reached q i i
  | printStage i | runStage i => i < c.metadata.stages.length ∧ c.Reached q i i
  | wait i | sleep i | landed i | poll i | update i | setProgress i => c.Reached q (i + 1) i
  | testProgress i | setInProgress i | printId i | printProgress i => c.Reached q (i + 1) (i + 1)
  | setSuccess i => c.Reached q (i + 1) (i + 1) ∧ c.Completed
  | script | waitScript | sleepScript | runScript => c.metadata.stages = [] ∧ c.scripts = []
  | setResult r => c.metadata.stages = [] ∧ (r = .success → c.Completed)
  | testScript => c.metadata.stages = []
  | setComplete => c.metadata.stages = [] ∧ c.Completed
  | _ => True

section Congr

variable {c c' : ActionCall} (hmetadata : c'.metadata = c.metadata) (hstages : c'.stages = c.stages)
  (hscripts : c'.scripts = c.scripts)

include hmetadata hstages hscripts

theorem ActionCall.completed_congr : c'.Completed = c.Completed := by
  unfold ActionCall.Completed
  rw [hmetadata, hstages, hscripts]

theorem ActionCall.earned_congr : c'.earned = c.earned := by
  unfold ActionCall.earned
  rw [hmetadata, hstages, hscripts]

/-- Once the flag is set, less is known. -/
theorem Execute.Owes.mono {stopped stopped' : Bool} (hstopped : stopped' = false → stopped = false) {q : ℚ}
    {e : Execute} (h : e.Owes stopped c q) : e.Owes stopped' c' q := by
  have hreached : ∀ {j k}, c.Reached q j k → c'.Reached q j k := fun hc =>
    ⟨hmetadata ▸ hc.staged, hmetadata ▸ hc.bound, hstages ▸ hc.stages, hmetadata ▸ hc.recorded⟩
  have hcompleted : c'.Completed = c.Completed := ActionCall.completed_congr hmetadata hstages hscripts
  cases e with
  | stage i => exact fun hlow => hreached (h (hstopped hlow))
  | printStage i | runStage i => exact ⟨hmetadata ▸ h.1, hreached h.2⟩
  | wait i | sleep i | landed i | poll i | update i | setProgress i => exact hreached h
  | testProgress i | setInProgress i | printId i | printProgress i => exact hreached h
  | setSuccess i => exact ⟨hreached h.1, hcompleted ▸ h.2⟩
  | script | waitScript | sleepScript | runScript => exact ⟨hmetadata ▸ h.1, hscripts ▸ h.2⟩
  | setResult r => exact ⟨hmetadata ▸ h.1, hcompleted ▸ h.2⟩
  | testScript => exact (congrArg ActionMetadata.stages hmetadata).trans h
  | setComplete => exact ⟨hmetadata ▸ h.1, hcompleted ▸ h.2⟩
  | _ => trivial

end Congr

/-! ### The reports of the threads -/

/-- A report as the flight controller gets it, with the call as it is by then. -/
structure ProgressReport where
  progress : ℚ
  result : Result
  call : ActionCall
  deriving DecidableEq

/-- What the report says is true of the call. -/
structure ProgressReport.Honest (x : ProgressReport) : Prop where
  nonneg : 0 ≤ x.progress
  le_hundred : x.progress ≤ 100
  le_earned : x.progress ≤ x.call.earned
  complete : x.progress = 100 → x.call.Completed
  success : x.result = .success → x.call.Completed

/-- The progress that a thread has read and not sent yet. -/
def Report.held : Report → Option ℚ
  | readResult p | respond p _ => some p
  | _ => none

/-- The handler, with the reports of each progress thread, in the order of the threads and newest first. -/
structure ProgressWatch where
  handler : CustomActionHandler
  reports : List (List ProgressReport) := []

namespace ProgressWatch

/-- What a step adds to the reports. -/
def report (w : ProgressWatch) : HandlerInput → List (List ProgressReport)
  | .worker _ =>
    match w.handler.worker with
    | .spawn _ => [] :: w.reports
    | _ => w.reports
  | .thread k =>
    match w.handler.progressThreads[k]? with
    | some ⟨_, .respond p r⟩ => w.reports.modify k (⟨p, r, w.handler.call⟩ :: ·)
    | _ => w.reports
  | _ => w.reports

def step (w : ProgressWatch) (i : HandlerInput) : ProgressWatch :=
  if w.handler.undefined then w else ⟨w.handler.access i, w.report i⟩

theorem handler_step (w : ProgressWatch) (i : HandlerInput) : (w.step i).handler = w.handler.step i := by
  rw [step, CustomActionHandler.step]
  split_ifs <;> rfl

/-- The watch of a run. -/
def after (t : ℤ) (is : List HandlerInput) : ProgressWatch := run step { handler := .initial t } is

/-- The watched handler is the handler. -/
theorem handler_after (t : ℤ) (is : List HandlerInput) :
    (after t is).handler = run CustomActionHandler.step (.initial t) is :=
  run_project handler_step _ is

end ProgressWatch

/-! ### The worker -/

namespace CustomActionHandler

variable {s : CustomActionHandler} {q : ℚ}

/-- The call under way has earned the recorded progress `q` and the recorded result. -/
structure Recorded (s : CustomActionHandler) (q : ℚ) : Prop where
  progress : s.actionsProgress.head? = some q
  nonneg : 0 ≤ q
  le_hundred : q ≤ 100
  le_earned : q ≤ s.call.earned
  complete : q = 100 → s.call.Completed
  success : s.actionsResult.head? = some .success → s.call.Completed

/-- What is known of the call at a location from the start of its progress thread on. -/
def PaidAt (s : CustomActionHandler) (q : ℚ) : ActionWorker → Prop
  | .enter => s.Prepared ∧ q = 0
  | .executing m e => m = s.call.metadata ∧ e.Owes s.actionStopped s.call q
  | _ => True

structure Paid (s : CustomActionHandler) (q : ℚ) : Prop extends s.Recorded q where
  here : s.PaidAt q s.worker

/-- The recorded progress and the call do not go back from `s` to `s'`, and the call does not lose its completion. -/
structure Proceeds (s : CustomActionHandler) (q : ℚ) (s' : CustomActionHandler) (q' : ℚ) : Prop where
  paid : s'.Paid q'
  le : q ≤ q'
  completed : s.call.Completed → s'.call.Completed

theorem Recorded.frame (hs : s.Recorded q) {s' : CustomActionHandler}
    (hprogress : s'.actionsProgress = s.actionsProgress) (hresult : s'.actionsResult = s.actionsResult)
    (hcall : s'.call.Completed = s.call.Completed) (hearned : s'.call.earned = s.call.earned) : s'.Recorded q where
  progress := hprogress ▸ hs.progress
  nonneg := hs.nonneg
  le_hundred := hs.le_hundred
  le_earned := hearned ▸ hs.le_earned
  complete := hcall ▸ hs.complete
  success := by
    rw [hresult, hcall]
    exact hs.success

/-- Steps of the worker that leave the vectors and the call alone. -/
theorem proceeds_frame (hs : s.Paid q) {s' : CustomActionHandler} (hprogress : s'.actionsProgress = s.actionsProgress)
    (hresult : s'.actionsResult = s.actionsResult) (hcall : s'.call = s.call) (hhere : s'.PaidAt q s'.worker) :
    ∃ q', Proceeds s q s' q' :=
  ⟨q, ⟨hs.toRecorded.frame hprogress hresult (hcall ▸ rfl) (hcall ▸ rfl), hhere⟩, le_refl q, fun h => hcall ▸ h⟩

theorem proceeds_goto (hs : s.Paid q) {next : ActionWorker} (hnext : s.PaidAt q next) :
    ∃ q', Proceeds s q (s.goto next) q' :=
  proceeds_frame hs rfl rfl rfl hnext

theorem proceeds_back (hs : s.Paid q) {α : Type} {v : List α} {f : α → CustomActionHandler}
    (hf : ∀ x ∈ v.head?, ∃ q', Proceeds s q (f x) q') : ∃ q', Proceeds s q (s.back v f) q' :=
  back_induction (P := fun s' => ∃ q', Proceeds s q s' q') (proceeds_frame hs rfl rfl rfl hs.here) hf

theorem proceeds_setResult (hs : s.Paid q) {r : Result} (hr : r = .success → s.call.Completed) {next : ActionWorker}
    (hnext : s.PaidAt q next) : ∃ q', Proceeds s q (s.setResult r next) q' := by
  refine proceeds_back hs fun _ _ => ⟨q, ⟨?_, hnext⟩, le_refl q, id⟩
  exact ⟨hs.progress, hs.nonneg, hs.le_hundred, hs.le_earned, hs.complete, fun h => hr (Option.some.inj h)⟩

theorem proceeds_setProgress (hs : s.Paid q) {p : ℚ} (hle : q ≤ p) (hhundred : p ≤ 100) (hearned : p ≤ s.call.earned)
    (hcomplete : p = 100 → s.call.Completed) {next : ActionWorker} (hnext : s.PaidAt p next) :
    ∃ q', Proceeds s q (s.setProgress p next) q' := by
  refine proceeds_back hs fun _ _ => ⟨p, ⟨?_, hnext⟩, hle, id⟩
  exact ⟨rfl, hs.nonneg.trans hle, hhundred, hearned, hcomplete, hs.success⟩

/-- Steps of the other parties. -/
theorem Paid.keeps (hs : s.Paid q) {s' : CustomActionHandler} (h : KeepsWorker s s')
    (hstopped : s.actionStopped → s'.actionStopped) : s'.Paid q := by
  refine ⟨hs.toRecorded.frame h.actionsProgress h.actionsResult
    (ActionCall.completed_congr h.metadata h.stages h.scripts)
    (ActionCall.earned_congr h.metadata h.stages h.scripts), ?_⟩
  have hhere := hs.here
  rw [h.worker]
  cases hw : s.worker with
  | enter =>
    rw [hw] at hhere
    obtain ⟨⟨hmetadata, hstages, hscripts⟩, hzero⟩ := hhere
    refine ⟨⟨?_, h.stages.trans hstages, h.scripts.trans hscripts⟩, hzero⟩
    rw [h.actionsMetadata, h.metadata]
    exact hmetadata
  | executing m e =>
    rw [hw] at hhere
    refine ⟨hhere.1.trans h.metadata.symm, hhere.2.mono h.metadata h.stages h.scripts fun hlow => ?_⟩
    by_contra hset
    exact ne_true_of_eq_false hlow (hstopped (eq_true_of_ne_false hset))
  | _ => trivial

section Execute

variable {m : ActionMetadata} {e : Execute} (hs : s.Paid q) (hw : s.worker = .executing m e)

include hs hw in
theorem Paid.owes : m = s.call.metadata ∧ e.Owes s.actionStopped s.call q := by
  have hhere := hs.here
  rw [hw] at hhere
  exact hhere

include hs hw in
/-- A stage runs: the call was not complete, and has earned no less afterwards. -/
theorem proceeds_runStage {i : ℕ} (he : e = .runStage i) (a : Answer) :
    ∃ q', Proceeds s q (s.execute m a e) q' := by
  subst he
  obtain ⟨rfl, hlt, hreached⟩ := hs.owes hw
  have hincomplete := hreached.not_completed hlt
  have hne : q ≠ 100 := fun h => hincomplete (hs.complete h)
  have hnosuccess : s.actionsResult.head? ≠ some .success := fun h => hincomplete (hs.success h)
  have hearned : q ≤ ActionCall.earned { s.call with stages := (i, a.result) :: s.call.stages } := by
    have hle := hs.le_earned
    unfold ActionCall.earned at hle ⊢
    rw [if_pos hreached.staged] at hle ⊢
    exact hle.trans (ActionMetadata.share_mono (List.Sublist.countP_le (List.sublist_cons_self _ _)))
  rw [execute]
  refine ⟨q, ⟨⟨hs.progress, hs.nonneg, hs.le_hundred, hearned, fun h => absurd h hne, fun h => absurd h hnosuccess⟩,
    ?_⟩, le_refl q, fun h => absurd h hincomplete⟩
  by_cases hsuccess : a.result = .success
  · change PaidAt _ _ (ActionWorker.executing _ (if a.result ≠ .success then _ else _))
    rw [if_neg (not_not.mpr hsuccess)]
    exact ⟨rfl, hreached.next hlt a.result hsuccess⟩
  · change PaidAt _ _ (ActionWorker.executing _ (if a.result ≠ .success then _ else _))
    rw [if_pos hsuccess]
    exact ⟨rfl, trivial⟩

include hs hw in
/-- The script has run: nothing had been earned before. -/
theorem proceeds_runScript (he : e = .runScript) (a : Answer) : ∃ q', Proceeds s q (s.execute m a e) q' := by
  subst he
  obtain ⟨rfl, hstages, hscripts⟩ := hs.owes hw
  have hunstaged : ¬ s.call.metadata.stages ≠ [] := not_not.mpr hstages
  have hincomplete : ¬ s.call.Completed := by
    rw [ActionCall.Completed, if_neg hunstaged, hscripts]
    simp
  have hzero : q ≤ 0 := by
    have hle := hs.le_earned
    rw [ActionCall.earned, if_neg hunstaged, hscripts] at hle
    simpa using hle
  have hearned : q ≤ ActionCall.earned { s.call with scripts := a.result :: s.call.scripts } := by
    refine hzero.trans ?_
    unfold ActionCall.earned
    rw [if_neg hunstaged]
    split_ifs <;> norm_num
  refine ⟨q, ⟨⟨hs.progress, hs.nonneg, hs.le_hundred, hearned, fun h => absurd (hs.complete h) hincomplete,
    fun h => absurd (hs.success h) hincomplete⟩, rfl, hstages, fun hr => ?_⟩, le_refl q,
    fun h => absurd h hincomplete⟩
  change ActionCall.Completed { s.call with scripts := a.result :: s.call.scripts }
  rw [ActionCall.Completed, if_neg hunstaged]
  exact congrArg some hr

include hs hw in
theorem proceeds_execute (a : Answer) : ∃ q', Proceeds s q (s.execute m a e) q' := by
  -- what a position owes is the stages done, and that the progress recorded is not ahead of them
  have howes := hs.owes hw
  cases e with
  | runStage i => exact proceeds_runStage hs hw rfl a
  | runScript => exact proceeds_runScript hs hw rfl a
  | stage i =>
    obtain ⟨rfl, hreached⟩ := howes
    rw [execute]
    split_ifs with hlt hstopped
    · -- the flag is set, so the next position owes nothing about a lowered one
      exact proceeds_goto hs ⟨rfl, fun hlow => absurd hstopped (ne_true_of_eq_false hlow)⟩
    · exact proceeds_goto hs ⟨rfl, hlt, hreached (eq_false_of_ne_true hstopped)⟩
    · exact proceeds_goto hs ⟨rfl, trivial⟩
  | printStage i => exact proceeds_back hs fun _ _ => proceeds_goto hs howes
  | printFailed | printOutcome => exact proceeds_back hs fun _ _ => proceeds_goto hs ⟨howes.1, trivial⟩
  | failed =>
    rw [execute]
    exact proceeds_setResult hs (by simp) ⟨howes.1, trivial⟩
  | wait i =>
    rw [execute, waitStage]
    split
    · exact proceeds_goto hs howes
    all_goals
      split_ifs
      · exact proceeds_goto hs howes
      · exact proceeds_goto hs howes
  | sleep i | landed i =>
    rw [execute]
    split_ifs <;> exact proceeds_goto hs howes
  | update i =>
    rw [execute]
    split_ifs with hstopped
    · exact proceeds_goto hs ⟨howes.1, fun hlow => absurd hstopped (ne_true_of_eq_false hlow)⟩
    · exact proceeds_goto hs howes
  | setProgress i =>
    obtain ⟨rfl, hreached⟩ := howes
    -- the share that is stored is that of the stages done, so the progress rises and is earned
    have hshare : ((i : ℚ) + 1) / s.call.metadata.stages.length * 100 = s.call.metadata.share (i + 1) := by
      rw [ActionMetadata.share, Nat.cast_succ]
    rw [execute, hshare]
    refine proceeds_setProgress hs (hreached.recorded.trans (ActionMetadata.share_mono (Nat.le_succ i)))
      (ActionMetadata.share_le_hundred hreached.bound) hreached.earned_eq.ge (fun hhundred => ?_)
      ⟨rfl, { hreached with recorded := le_refl _ }⟩
    rw [hreached.completed_iff]
    exact (ActionMetadata.share_eq_hundred_iff hreached.staged).mp hhundred
  | testProgress i =>
    refine proceeds_back hs fun p hp => ?_
    -- the progress read is the one recorded: all stages are done exactly when it is a hundred
    obtain rfl : p = q := Option.mem_unique hp hs.progress
    split_ifs with hcomplete
    · exact proceeds_goto hs howes
    · exact proceeds_goto hs ⟨howes.1, howes.2, hs.complete (not_not.mp hcomplete)⟩
  | setInProgress i =>
    rw [execute]
    exact proceeds_setResult hs (by simp) howes
  | printId i => exact proceeds_back hs fun _ _ => proceeds_goto hs howes
  | printProgress i => exact proceeds_back hs fun _ _ => proceeds_goto hs ⟨howes.1, fun _ => howes.2⟩
  | setSuccess i => exact proceeds_setResult hs (fun _ => howes.2.2) ⟨howes.1, fun _ => howes.2.1⟩
  | script =>
    rw [execute]
    split_ifs
    · exact proceeds_goto hs ⟨howes.1, howes.2.1, by simp⟩
    · split <;> exact proceeds_goto hs howes
  | waitScript | sleepScript =>
    rw [execute]
    split_ifs <;> exact proceeds_goto hs howes
  | setResult r => exact proceeds_setResult hs howes.2.2 ⟨howes.1, howes.2.1⟩
  | testScript =>
    -- a success is only read where the script has succeeded
    refine proceeds_back hs fun r hr => ?_
    split_ifs with hsuccess
    · exact proceeds_goto hs ⟨howes.1, howes.2, hs.success (hsuccess ▸ hr)⟩
    · exact proceeds_goto hs ⟨howes.1, trivial⟩
  | setComplete =>
    obtain ⟨rfl, hstages, hcompleted⟩ := howes
    -- a script that has succeeded earns the whole progress at once
    have hearned : s.call.earned = 100 := by
      have hscript := hcompleted
      rw [ActionCall.Completed, if_neg (not_not.mpr hstages)] at hscript
      rw [ActionCall.earned, if_neg (not_not.mpr hstages), if_pos hscript]
    exact proceeds_setProgress hs hs.le_hundred (le_refl _) hearned.ge (fun _ => hcompleted) ⟨rfl, trivial⟩
  | outcome rs =>
    cases rs with
    | nil => exact proceeds_goto hs ⟨howes.1, trivial⟩
    | cons r rs =>
      refine proceeds_back hs fun x _ => proceeds_goto hs ?_
      split_ifs <;> exact ⟨howes.1, trivial⟩
  | stopFailed | raise | lower => exact proceeds_frame hs rfl rfl rfl ⟨howes.1, trivial⟩
  | poll i => exact proceeds_frame hs rfl rfl rfl howes
  | clear => exact proceeds_frame hs rfl rfl rfl trivial

end Execute

theorem proceeds_entry (hs : s.Paid q) (hw : s.worker = .enter) {m : ActionMetadata}
    (hm : m ∈ s.actionsMetadata.head?) : ∃ q', Proceeds s q (s.goto (.executing m m.entry)) q' := by
  have hhere := hs.here
  rw [hw] at hhere
  obtain ⟨⟨hmetadata, hstages, hscripts⟩, rfl⟩ := hhere
  obtain rfl : m = s.call.metadata := Option.mem_unique hm hmetadata
  refine proceeds_goto hs ⟨rfl, ?_⟩
  unfold ActionMetadata.entry
  split_ifs with hany hscript
  · exact fun _ => ⟨hany, Nat.zero_le _, hstages, by simp [ActionMetadata.share]⟩
  · exact ⟨not_not.mp hany, hscripts⟩
  · trivial

end CustomActionHandler

/-! ### The watch -/

/-- A thread that is in its loop at `report` while `q` is the recorded progress: its reports `l` are no newer than what
it holds, and what it holds is no newer than what is recorded. -/
structure Follows (l : List ProgressReport) (report : Report) (q : ℚ) (c : ActionCall) : Prop where
  sent : ∀ x ∈ l, x.progress ≤ report.held.getD q
  held : ∀ p ∈ report.held, 0 ≤ p ∧ p ≤ q
  success : ∀ p, report = .respond p .success → c.Completed

/-- A thread that holds nothing answers for what it has sent. -/
theorem follows_of_sent {l : List ProgressReport} {report : Report} {q : ℚ} {c : ActionCall}
    (hsent : ∀ x ∈ l, x.progress ≤ q) (hheld : report.held = none) : Follows l report q c where
  sent := by rwa [hheld]
  held := by simp [hheld]
  success p hrespond := by simp [hrespond, Report.held] at hheld

theorem Follows.advance {l : List ProgressReport} {report : Report} {q q' : ℚ} {c c' : ActionCall}
    (h : Follows l report q c) (hq : q ≤ q') (hc : c.Completed → c'.Completed) : Follows l report q' c' where
  sent x hx := by
    have hsent := h.sent x hx
    cases hheld : report.held with
    | none =>
      rw [hheld] at hsent
      exact hsent.trans hq
    | some p =>
      rw [hheld] at hsent
      exact hsent
  held p hp := (h.held p hp).imp_right (le_trans · hq)
  success p hp := hc (h.success p hp)

/-- A report as one of the responses of the handler. -/
def ProgressReport.response (x : ProgressReport) : ℚ × Result × ActionToExecute := (x.progress, x.result, x.call.action)

namespace ProgressWatch

structure Accounted (w : ProgressWatch) : Prop where
  length : w.reports.length = w.handler.progressThreads.length
  responses : w.handler.responses.map (fun r => (r.progress, r.result, r.call)) =
    w.reports.flatten.map ProgressReport.response
  ordered : ∀ l ∈ w.reports, l.Pairwise fun newer older => older.progress ≤ newer.progress
  honest : ∀ l ∈ w.reports, ∀ x ∈ l, x.Honest
  earlier : ∀ t ∈ w.handler.progressThreads.tail, t.report = .left
  newest : ∀ t ∈ w.handler.progressThreads.head?, t.report ≠ .left → w.handler.worker.isReporting ∧
    ∀ l ∈ w.reports.head?, ∀ q ∈ w.handler.actionsProgress.head?, Follows l t.report q w.handler.call
  paid : w.handler.worker.isReporting → ∃ q, w.handler.Paid q

variable {w : ProgressWatch}

theorem accounted_initial (t : ℤ) : Accounted { handler := .initial t } where
  length := rfl
  responses := rfl
  ordered := by simp
  honest := by simp
  earlier := by simp [CustomActionHandler.initial]
  newest := by simp [CustomActionHandler.initial]
  paid := by simp [CustomActionHandler.initial, ActionWorker.isReporting]

/-! ### The callbacks and the threads -/

/-- No thread is started and nothing is sent from `s` to `s'`. -/
structure SendsNothing (s s' : CustomActionHandler) : Prop where
  threads : s'.progressThreads = s.progressThreads
  responses : s'.responses = s.responses

/-- Steps that leave the worker, the threads and the responses alone. -/
theorem Accounted.aside (hs : Accounted w) {s : CustomActionHandler} (h : w.handler.KeepsWorker s)
    (hstopped : w.handler.actionStopped → s.actionStopped) (hframe : SendsNothing w.handler s) :
    Accounted ⟨s, w.reports⟩ where
  length := hframe.threads ▸ hs.length
  responses := hframe.responses ▸ hs.responses
  ordered := hs.ordered
  honest := hs.honest
  earlier := hframe.threads ▸ hs.earlier
  newest t ht hactive := by
    obtain ⟨hreporting, hfollows⟩ := hs.newest t (hframe.threads ▸ ht) hactive
    refine ⟨h.worker ▸ hreporting, fun l hl q hq => (hfollows l hl q (h.actionsProgress ▸ hq)).advance (le_refl q) ?_⟩
    exact fun hc => ActionCall.completed_congr h.metadata h.stages h.scripts ▸ hc
  paid hreporting := by
    obtain ⟨q, hpaid⟩ := hs.paid (h.worker ▸ hreporting)
    exact ⟨q, hpaid.keeps h hstopped⟩

theorem Accounted.undefined (hs : Accounted w) : Accounted ⟨{ w.handler with undefined := true }, w.reports⟩ :=
  hs.aside ⟨rfl, rfl, rfl, rfl, rfl, rfl, rfl, rfl⟩ id ⟨rfl, rfl⟩

/-- The callbacks leave the threads and the responses alone. -/
theorem callback_accounted (hs : Accounted w) {i : HandlerInput} (hworker : ∀ a, i ≠ .worker a)
    (hthread : ∀ k, i ≠ .thread k) : Accounted ⟨w.handler.access i, w.reports⟩ := by
  have hkeeps : w.handler.KeepsWorker (w.handler.access i) := CustomActionHandler.access_keepsWorker hworker
  have hstopped := (CustomActionHandler.access_aside (s := w.handler) hworker).actionStopped
  have hframe : SendsNothing w.handler (w.handler.access i) := by
    cases i with
    | worker a => exact absurd rfl (hworker a)
    | thread k => exact absurd rfl (hthread k)
    | arrival action =>
      rw [CustomActionHandler.access, CustomActionHandler.arrive]
      split_ifs <;> exact ⟨rfl, rfl⟩
    | callback now =>
      rw [CustomActionHandler.access, CustomActionHandler.accept]
      split
      · exact ⟨rfl, rfl⟩
      · exact CustomActionHandler.back_induction (P := SendsNothing w.handler) ⟨rfl, rfl⟩ fun _ _ => ⟨rfl, rfl⟩
      · split_ifs <;> exact ⟨rfl, rfl⟩
      · exact ⟨rfl, rfl⟩
    | cancellation =>
      rw [CustomActionHandler.access, CustomActionHandler.cancel]
      split_ifs
      · exact ⟨rfl, rfl⟩
      · exact CustomActionHandler.back_induction (P := SendsNothing w.handler) ⟨rfl, rfl⟩ fun _ _ => ⟨rfl, rfl⟩
  exact hs.aside hkeeps hstopped hframe

/-- A thread that has not left its loop is the newest. -/
theorem Accounted.active (hs : Accounted w) {k : ℕ} {t : ProgressThread}
    (ht : w.handler.progressThreads[k]? = some t) (hactive : t.report ≠ .left) :
    k = 0 ∧ ∃ ts l ls, w.handler.progressThreads = t :: ts ∧ w.reports = l :: ls := by
  have hlength := hs.length
  cases hthreads : w.handler.progressThreads with
  | nil => simp [hthreads] at ht
  | cons t' ts =>
    rw [hthreads] at ht hlength
    cases k with
    | zero =>
      obtain rfl : t' = t := by simpa using ht
      obtain ⟨l, ls, hreports⟩ := List.exists_cons_of_length_eq_add_one hlength
      exact ⟨rfl, ts, l, ls, rfl, hreports⟩
    | succ k =>
      have hmem : t ∈ w.handler.progressThreads.tail := by
        rw [hthreads]
        exact List.mem_of_getElem? ht
      exact absurd (hs.earlier t hmem) hactive

section Thread

variable {t : ProgressThread} {ts : List ProgressThread} {l : List ProgressReport} {ls : List (List ProgressReport)}
  (hthreads : w.handler.progressThreads = t :: ts) (hreports : w.reports = l :: ls)

include hthreads in
theorem setReport_zero (report : Report) :
    (w.handler.setReport 0 report).progressThreads = { t with report := report } :: ts := by
  rw [CustomActionHandler.setReport, hthreads]
  rfl

include hthreads hreports in
/-- The newest thread goes on in its loop. -/
theorem Accounted.move (hs : Accounted w) (hactive : t.report ≠ .left) {report : Report}
    (hfollows : ∀ q, w.handler.Paid q → Follows l t.report q w.handler.call →
      report ≠ .left → Follows l report q w.handler.call) : Accounted ⟨w.handler.setReport 0 report, w.reports⟩ := by
  have hkeeps : w.handler.KeepsWorker (w.handler.setReport 0 report) := ⟨rfl, rfl, rfl, rfl, rfl, rfl, rfl, rfl⟩
  obtain ⟨hreporting, hnewest⟩ := hs.newest t (by rw [hthreads]; rfl) hactive
  obtain ⟨q, hpaid⟩ := hs.paid hreporting
  have hearlier := hs.earlier
  have hlength := hs.length
  rw [hthreads] at hearlier hlength
  refine ⟨?_, hs.responses, hs.ordered, hs.honest, ?_, ?_, fun _ => ⟨q, hpaid.keeps hkeeps id⟩⟩
  · rw [setReport_zero hthreads]
    exact hlength
  · rw [setReport_zero hthreads]
    exact hearlier
  · rw [setReport_zero hthreads]
    intro t' ht' hactive'
    obtain rfl : t' = { t with report := report } := Option.some.inj ht'.symm
    refine ⟨hreporting, fun l' hl' q' hq' => ?_⟩
    obtain rfl : q' = q := Option.mem_unique hq' hpaid.progress
    rw [hreports] at hl' hnewest
    obtain rfl : l' = l := Option.some.inj hl'.symm
    exact hfollows q' hpaid (hnewest l' rfl q' hpaid.progress) hactive'

include hthreads hreports in
/-- The newest thread sends what it holds. -/
theorem Accounted.send (hs : Accounted w) {p : ℚ} {r : Result} (hreport : t.report = .respond p r) :
    Accounted ⟨w.handler.respond t.action.id p r, (⟨p, r, w.handler.call⟩ :: l) :: ls⟩ := by
  have hactive : t.report ≠ .left := by simp [hreport]
  obtain ⟨hreporting, hnewest⟩ := hs.newest t (by rw [hthreads]; rfl) hactive
  obtain ⟨q, hpaid⟩ := hs.paid hreporting
  have hfollows : Follows l (.respond p r) q w.handler.call :=
    hreport ▸ hnewest l (by rw [hreports]; rfl) q hpaid.progress
  obtain ⟨hnonneg, hle⟩ := hfollows.held p rfl
  -- the report was true when it was read, and what it says does not become less
  have hhonest : ProgressReport.Honest ⟨p, r, w.handler.call⟩ :=
    { nonneg := hnonneg
      le_hundred := hle.trans hpaid.le_hundred
      le_earned := hle.trans hpaid.le_earned
      complete := fun hp => hpaid.complete (le_antisymm hpaid.le_hundred (hp.ge.trans hle))
      success := fun hr => hfollows.success p (congrArg (Report.respond p) hr) }
  have hresponses := hs.responses
  have hordered := hs.ordered
  have hallhonest := hs.honest
  rw [hreports] at hresponses hordered hallhonest
  refine ⟨?_, ?_, ?_, ?_, hs.earlier, fun t' ht' _ => ?_, fun _ => ⟨q, ?_⟩⟩
  · exact (congrArg List.length hreports).symm.trans hs.length
  · exact congrArg ((p, r, w.handler.call.action) :: ·) hresponses
  · refine List.forall_mem_cons.mpr ⟨List.pairwise_cons.mpr ⟨hfollows.sent, ?_⟩, ?_⟩
    · exact hordered l List.mem_cons_self
    · exact fun l' hl' => hordered l' (List.mem_cons_of_mem l hl')
  · refine List.forall_mem_cons.mpr ⟨List.forall_mem_cons.mpr ⟨hhonest, ?_⟩, ?_⟩
    · exact hallhonest l List.mem_cons_self
    · exact fun l' hl' => hallhonest l' (List.mem_cons_of_mem l hl')
  · refine ⟨hreporting, fun l' hl' q' hq' => ?_⟩
    obtain rfl : q' = q := Option.mem_unique hq' hpaid.progress
    obtain rfl : l' = ⟨p, r, w.handler.call⟩ :: l := Option.some.inj hl'.symm
    have ht : t' = t := Option.some.inj (ht'.symm.trans (by rw [CustomActionHandler.respond, hthreads]; rfl))
    rw [ht, hreport]
    exact ⟨List.forall_mem_cons.mpr ⟨le_refl p, hfollows.sent⟩, hfollows.held, hfollows.success⟩
  · exact hpaid.keeps ⟨rfl, rfl, rfl, rfl, rfl, rfl, rfl, rfl⟩ id

end Thread

theorem thread_accounted (hs : Accounted w) (k : ℕ) :
    Accounted ⟨w.handler.access (.thread k), w.report (.thread k)⟩ := by
  rw [CustomActionHandler.access, CustomActionHandler.reportStep, report]
  cases ht : w.handler.progressThreads[k]? with
  | none => exact hs
  | some t =>
    obtain ⟨action, rep⟩ := t
    by_cases hleft : rep = .left
    · subst hleft
      exact hs
    -- a thread that has not left its loop is that of the call under way
    obtain ⟨rfl, ts, l, ls, hthreads, hreports⟩ := hs.active ht hleft
    have hback : ∀ {α : Type} {v : List α} {f : α → Report}, (∀ x ∈ v.head?, ∀ q, w.handler.Paid q →
        Follows l rep q w.handler.call → f x ≠ .left → Follows l (f x) q w.handler.call) →
        Accounted ⟨w.handler.back v fun x => w.handler.setReport 0 (f x), w.reports⟩ := fun hf =>
      CustomActionHandler.back_induction (P := fun s => Accounted ⟨s, w.reports⟩) hs.undefined fun x hx =>
        hs.move hthreads hreports hleft (hf x hx)
    dsimp only
    unfold CustomActionHandler.sendProgressStatus
    cases rep with
    | left => exact absurd rfl hleft
    | testStopped =>
      refine hs.move hthreads hreports hleft fun q _ hfollows hgoes => ?_
      split_ifs at hgoes ⊢
      · exact absurd rfl hgoes
      · exact follows_of_sent hfollows.sent rfl
    | testResult =>
      refine hback fun r _ q _ hfollows hgoes => ?_
      split_ifs at hgoes ⊢
      · exact follows_of_sent hfollows.sent rfl
      · exact absurd rfl hgoes
    | readProgress =>
      refine hback fun p hp q hpaid hfollows _ => ?_
      obtain rfl : p = q := Option.mem_unique hp hpaid.progress
      refine ⟨hfollows.sent, fun p' hp' => ?_, by simp⟩
      -- what the thread holds is the progress recorded, which only rises until it is sent
      obtain rfl : p = p' := Option.some.inj hp'
      exact ⟨hpaid.nonneg, le_refl p⟩
    | readResult p =>
      refine hback fun r hr q hpaid hfollows _ => ⟨hfollows.sent, hfollows.held, fun p' hheld => ?_⟩
      -- a success is held for a progress that was read before it
      obtain rfl : r = .success := (Report.respond.inj hheld).2
      exact hpaid.success hr
    | respond p r =>
      -- the report joins the list, and is a bound for the next one
      have hsent := hs.send hthreads hreports rfl
      rw [hreports]
      refine hsent.move (w := ⟨w.handler.respond action.id p r, (⟨p, r, w.handler.call⟩ :: l) :: ls⟩) hthreads rfl hleft
        fun q _ hfollows _ => follows_of_sent (fun x hx => ?_) rfl
      exact (hfollows.sent x hx).trans (hfollows.held p rfl).2

/-! ### The worker -/

/-- A step of the worker that starts no thread, between locations with a progress thread. -/
theorem Accounted.advance (hs : Accounted w) {s : CustomActionHandler} (hframe : SendsNothing w.handler s)
    (hreporting : w.handler.worker.isReporting) (hreporting' : s.worker.isReporting)
    (hproceeds : ∀ q, w.handler.Paid q → ∃ q', w.handler.Proceeds q s q') : Accounted ⟨s, w.reports⟩ := by
  obtain ⟨q, hpaid⟩ := hs.paid hreporting
  obtain ⟨q', hnext⟩ := hproceeds q hpaid
  refine ⟨hframe.threads ▸ hs.length, hframe.responses ▸ hs.responses, hs.ordered, hs.honest,
    hframe.threads ▸ hs.earlier, fun t ht hactive => ⟨hreporting', fun l hl p hp => ?_⟩, fun _ => ⟨q', hnext.paid⟩⟩
  obtain rfl : p = q' := Option.mem_unique hp hnext.paid.progress
  exact ((hs.newest t (hframe.threads ▸ ht) hactive).2 l hl q hpaid.progress).advance hnext.le hnext.completed

/-- A step of the worker that starts no thread, to a location without one. -/
theorem Accounted.rest (hs : Accounted w) {s : CustomActionHandler} (hframe : SendsNothing w.handler s)
    (hquiet : ∀ t ∈ w.handler.progressThreads.head?, t.report = .left) (hreporting : ¬ s.worker.isReporting) :
    Accounted ⟨s, w.reports⟩ :=
  ⟨hframe.threads ▸ hs.length, hframe.responses ▸ hs.responses, hs.ordered, hs.honest, hframe.threads ▸ hs.earlier,
    fun t ht hactive => absurd (hquiet t (hframe.threads ▸ ht)) hactive, fun h => absurd h hreporting⟩

/-- Outside of the locations with a progress thread all threads have left their loops. -/
theorem Accounted.quiet (hs : Accounted w) (hreporting : ¬ w.handler.worker.isReporting) :
    ∀ t ∈ w.handler.progressThreads, t.report = .left := by
  intro t ht
  by_contra hactive
  obtain ⟨k, hk⟩ := List.mem_iff_getElem?.mp ht
  obtain ⟨-, ts, l, ls, hthreads, -⟩ := hs.active hk hactive
  exact hreporting (hs.newest t (by rw [hthreads]; rfl) hactive).1

theorem spawn_accounted (hs : Accounted w) {action : ActionToExecute} (hw : w.handler.worker = .spawn action)
    (hprepared : w.handler.Prepared) (hresult : w.handler.actionsResult.head? = some .inProgress)
    (hprogress : w.handler.actionsProgress.head? = some 0) :
    Accounted ⟨{ w.handler with progressThreads := { action } :: w.handler.progressThreads, worker := .enter },
      [] :: w.reports⟩ where
  length := congrArg (· + 1) hs.length
  responses := hs.responses
  ordered := List.forall_mem_cons.mpr ⟨.nil, hs.ordered⟩
  honest := List.forall_mem_cons.mpr ⟨by simp, hs.honest⟩
  earlier := hs.quiet (by simp [hw, ActionWorker.isReporting])
  newest t ht _ := by
    obtain rfl : t = { action } := Option.some.inj ht.symm
    refine ⟨rfl, fun l hl q _ => ?_⟩
    obtain rfl : l = [] := Option.some.inj hl.symm
    exact follows_of_sent (by simp) rfl
  paid _ := by
    refine ⟨0, ⟨hprogress, le_refl 0, by norm_num, w.handler.call.earned_nonneg, by norm_num, fun h => ?_⟩,
      hprepared, rfl⟩
    exact absurd (hresult.symm.trans h) (by simp)

/-- The worker, with what is known when it starts a thread. -/
theorem work_accounted (hs : Accounted w) (hspawn : ∀ action, w.handler.worker = .spawn action →
    w.handler.Prepared ∧ w.handler.actionsResult.head? = some .inProgress ∧
      w.handler.actionsProgress.head? = some 0) (a : Answer) :
    Accounted ⟨w.handler.access (.worker a), w.report (.worker a)⟩ := by
  -- a read of an empty vector changes nothing that is accounted for
  have hback : ∀ {α : Type} {v : List α} {f : α → CustomActionHandler},
      (∀ x ∈ v.head?, Accounted ⟨f x, w.reports⟩) → Accounted ⟨w.handler.back v f, w.reports⟩ := fun hf =>
    CustomActionHandler.back_induction (P := fun s => Accounted ⟨s, w.reports⟩) hs.undefined hf
  rw [CustomActionHandler.access, report]
  cases hw : w.handler.worker with
  | spawn action =>
    obtain ⟨hprepared, hresult, hprogress⟩ := hspawn action hw
    rw [CustomActionHandler.work, hw]
    exact spawn_accounted hs hw hprepared hresult hprogress
  | executing m e =>
    rw [CustomActionHandler.work, hw]
    refine hs.advance ?_ (by rw [hw]; rfl) ?_ fun q hpaid => CustomActionHandler.proceeds_execute hpaid hw a
    · by_cases hclear : e = .clear
      · subst hclear
        exact ⟨rfl, rfl⟩
      · have hexecutes := CustomActionHandler.execute_executes a hw hclear
        exact ⟨hexecutes.progressThreads, hexecutes.responses⟩
    · by_cases hclear : e = .clear
      · subst hclear
        rfl
      · obtain ⟨e', hw', -⟩ := (CustomActionHandler.execute_executes a hw hclear).worker
        rw [hw']
        rfl
  | enter =>
    rw [CustomActionHandler.work, hw]
    exact hback fun m hm => hs.advance ⟨rfl, rfl⟩ (by rw [hw]; rfl) rfl fun q hpaid =>
      CustomActionHandler.proceeds_entry hpaid hw hm
  | testComplete | testSuccess =>
    rw [CustomActionHandler.work, hw]
    refine hback fun x _ => ?_
    split_ifs <;>
      exact hs.advance ⟨rfl, rfl⟩ (by rw [hw]; rfl) rfl fun q hpaid => CustomActionHandler.proceeds_goto hpaid trivial
  | setUnknown =>
    rw [CustomActionHandler.work, hw]
    refine hback fun _ _ => hs.advance ⟨rfl, rfl⟩ (by rw [hw]; rfl) rfl fun q hpaid => ⟨q, ⟨?_, trivial⟩, le_refl q, id⟩
    exact ⟨hpaid.progress, hpaid.nonneg, hpaid.le_hundred, hpaid.le_earned, hpaid.complete, by simp⟩
  | join =>
    rw [CustomActionHandler.work, hw]
    refine hback fun t ht => ?_
    split_ifs with hleft
    · refine hs.rest ⟨rfl, rfl⟩ (fun t' ht' => ?_) (by simp [ActionWorker.isReporting])
      obtain rfl : t' = t := Option.mem_unique ht' ht
      exact hleft
    · exact hs
  | top | called | fetching | pushResult | pushProgress | printId | printProgress | copyAction | done =>
    have hquiet : ∀ t ∈ w.handler.progressThreads.head?, t.report = .left := fun t ht =>
      hs.quiet (by simp [hw, ActionWorker.isReporting]) t (List.mem_of_head? ht)
    rw [CustomActionHandler.work, hw]
    first
    | exact hs.rest ⟨rfl, rfl⟩ hquiet (by simp [ActionWorker.isReporting])
    | exact hback fun x _ => hs.rest ⟨rfl, rfl⟩ hquiet (by simp [ActionWorker.isReporting, CustomActionHandler.goto])
    | split_ifs
      · exact hs.rest ⟨rfl, rfl⟩ hquiet (by simp [ActionWorker.isReporting, CustomActionHandler.goto])
      · exact hs

/-! ### Runs -/

theorem step_accounted {v : StageWatch} (hv : v.handler = w.handler) (hstaged : v.Staged) (hs : Accounted w)
    (i : HandlerInput) : Accounted (w.step i) := by
  rw [step]
  split_ifs
  · exact hs
  cases i with
  | worker a =>
    refine work_accounted hs (fun action hw => ?_) a
    have hat := hstaged.at (hv ▸ hw)
    exact hv ▸ hat
  | thread k => exact thread_accounted hs k
  | _ => exact callback_accounted hs (by rintro a ⟨⟩) (by rintro k ⟨⟩)

theorem accounted_after (t : ℤ) (is : List HandlerInput) : Accounted (after t is) := by
  induction is using List.reverseRecOn with
  | nil => exact accounted_initial t
  | append_singleton is i ih =>
    have hhandler : (StageWatch.after t is).handler = (after t is).handler := by
      rw [StageWatch.handler_after, handler_after]
    have hstep : after t (is ++ [i]) = (after t is).step i := run_concat _ is i
    rw [hstep]
    exact step_accounted hhandler (StageWatch.staged_after t is) ih i

/-- **What the flight controller is told**, in every run: the responses are the reports of the progress threads, of
which the newest at most is in its loop; those of one thread do not go back; and each one is true of the call.  Its
progress is between 0 and what the stages executed by then have earned, and the progress 100 and the result `Success`
are reported only of a call whose stages have all succeeded in order, or whose script has. -/
theorem reports_honest (t : ℤ) (is : List HandlerInput) :
    (after t is).handler = run CustomActionHandler.step (.initial t) is ∧
    (after t is).handler.responses.map (fun r => (r.progress, r.result, r.call)) =
      (after t is).reports.flatten.map ProgressReport.response ∧
    (after t is).reports.length = (after t is).handler.progressThreads.length ∧
    (∀ th ∈ (after t is).handler.progressThreads.tail, th.report = .left) ∧
    (∀ l ∈ (after t is).reports, l.Pairwise fun newer older => older.progress ≤ newer.progress) ∧
    ∀ l ∈ (after t is).reports, ∀ x ∈ l, x.Honest := by
  have hinv := accounted_after t is
  exact ⟨handler_after t is, hinv.responses, hinv.length, hinv.earlier, hinv.ordered, hinv.honest⟩

/-- An action with two stages, and a report before, between and after them. -/
def twoStages : List HandlerInput :=
  CustomActionHandler.arriving 1 0 ++
    List.replicate 10 (.worker { metadata := { stages := [.onResultSuccess, .onResultSuccess] } }) ++
    List.replicate 5 (.thread 0) ++ List.replicate 10 (.worker {}) ++ List.replicate 5 (.thread 0) ++
    List.replicate 8 (.worker {}) ++ List.replicate 5 (.thread 0)

example : (after 60000000000 twoStages).reports.map (fun l => l.map fun x => (x.progress, x.result)) =
    [[(100, .success), (50, .inProgress), (0, .inProgress)]] := by
  decide +kernel

end ProgressWatch

end AutopilotManager
