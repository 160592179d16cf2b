import AutopilotManager.CustomAction.Handler

/-!
# CustomAction.Cancellation — what a cancellation stops

The flag `_action_stopped` is lowered once, at the end of a call.  A cancellation that sets it before that point stops
the call under way; one that sets it later stops the next.
-/

namespace AutopilotManager

open Lib

/-! ### The record of a call -/

/-- The stages were executed in order, each after the success of the one before. -/
def ActionCall.InOrder (c : ActionCall) : Prop :=
  c.stages.map Prod.fst = (List.range c.stages.length).reverse ∧ (∀ p ∈ c.stages.tail, p.2 = .success) ∧
    c.stages.length ≤ c.metadata.stages.length

/-- The stages were executed in order until one failed or all were done, or the global script was. -/
def ActionCall.Executed (c : ActionCall) : Prop :=
  if c.metadata.stages ≠ [] then
    c.InOrder ∧ (c.stages.length = c.metadata.stages.length ∨ ∃ p ∈ c.stages.head?, p.2 ≠ .success)
  else c.metadata.globalScript ≠ "" → c.scripts.length = 1

instance (c : ActionCall) : Decidable c.InOrder := inferInstanceAs (Decidable (_ ∧ _ ∧ _))

instance (c : ActionCall) : Decidable c.Executed :=
  inferInstanceAs (Decidable (if c.metadata.stages ≠ [] then
    c.InOrder ∧ (c.stages.length = c.metadata.stages.length ∨ ∃ p ∈ c.stages.head?, p.2 ≠ .success)
  else c.metadata.globalScript ≠ "" → c.scripts.length = 1))

/-- The first `k` stages, each with success. -/
def successes : ℕ → List (ℕ × Result)
  | 0 => []
  | k + 1 => (k, .success) :: successes k

@[simp] theorem length_successes (k : ℕ) : (successes k).length = k := by
  induction k with
  | zero => rfl
  | succ k ih => rw [successes, List.length_cons, ih]

theorem fst_successes (k : ℕ) : (successes k).map Prod.fst = (List.range k).reverse := by
  induction k with
  | zero => rfl
  | succ k ih => rw [successes, List.map_cons, ih, List.range_succ, List.reverse_append]; rfl

theorem snd_successes {k : ℕ} {p : ℕ × Result} (hp : p ∈ successes k) : p.2 = .success := by
  induction k with
  | zero => simp [successes] at hp
  | succ k ih =>
    rcases List.mem_cons.mp hp with rfl | hp
    · rfl
    · exact ih hp

namespace ActionCall

variable {c : ActionCall}

theorem inOrder_of_successes {k : ℕ} (hc : c.stages = successes k) (hk : k ≤ c.metadata.stages.length) : c.InOrder := by
  refine ⟨?_, fun p hp => ?_, ?_⟩
  · rw [hc, fst_successes, length_successes]
  · rw [hc] at hp
    exact snd_successes (List.mem_of_mem_tail hp)
  · rwa [hc, length_successes]

theorem inOrder_of_cons {k : ℕ} {r : Result} (hc : c.stages = (k, r) :: successes k)
    (hk : k < c.metadata.stages.length) : c.InOrder := by
  refine ⟨?_, fun p hp => ?_, ?_⟩
  · rw [hc, List.map_cons, fst_successes, List.length_cons, length_successes, List.range_succ, List.reverse_append]
    rfl
  · rw [hc] at hp
    exact snd_successes hp
  · rw [hc, List.length_cons, length_successes]
    exact hk

theorem executed_of_all (hstages : c.metadata.stages ≠ []) (hc : c.stages = successes c.metadata.stages.length) :
    c.Executed := by
  rw [Executed, if_pos hstages]
  exact ⟨inOrder_of_successes hc le_rfl, .inl (by rw [hc, length_successes])⟩

theorem executed_of_failure {k : ℕ} {r : Result} (hc : c.stages = (k, r) :: successes k)
    (hk : k < c.metadata.stages.length) (hr : r ≠ .success) : c.Executed := by
  rw [Executed, if_pos (List.ne_nil_of_length_pos (by omega))]
  exact ⟨inOrder_of_cons hc hk, .inr ⟨(k, r), by rw [hc]; rfl, hr⟩⟩

theorem executed_of_script {r : Result} (hstages : c.metadata.stages = []) (hc : c.scripts = [r]) : c.Executed := by
  rw [Executed, if_neg (not_not.mpr hstages), hc]
  exact fun _ => rfl

end ActionCall

/-! ### Locations -/

/-- The stages or the script are being executed: until a failure has set the flag, or the script has its result. -/
def Execute.isRunning : Execute → Bool
  | testScript | setComplete | outcome _ | printOutcome | raise | lower | clear => false
  | _ => true

/-- What a call without cancellation has executed where it is. -/
def Execute.Log (c : ActionCall) : Execute → Prop
  | stage i => c.metadata.stages ≠ [] ∧ i ≤ c.metadata.stages.length ∧ c.stages = successes i
  | printStage i | runStage i => i < c.metadata.stages.length ∧ c.stages = successes i
  | printFailed | failed | stopFailed =>
    ∃ k < c.metadata.stages.length, ∃ r, r ≠ .success ∧ c.stages = (k, r) :: successes k
  | wait i | sleep i | landed i | poll i | update i | setProgress i | testProgress i | setInProgress i | printId i
  | printProgress i | setSuccess i => i < c.metadata.stages.length ∧ c.stages = successes (i + 1)
  | script | waitScript | sleepScript | runScript => c.metadata.stages = [] ∧ c.scripts = [] ∧ c.stages = []
  | setResult r => c.metadata.stages = [] ∧ c.scripts = [r] ∧ c.stages = []
  | testScript | setComplete | outcome _ | printOutcome | raise | lower | clear => c.Executed

namespace ActionWorker

/-- The call under way has yet to lower the flag. -/
def isOpen : ActionWorker → Bool
  | top | called | executing _ .clear | testComplete | testSuccess | setUnknown | join | done => false
  | _ => true

def isRunning : ActionWorker → Bool
  | enter => true
  | executing _ e => e.isRunning
  | _ => false

/-- The execution of the call under way is over. -/
def isOver : ActionWorker → Bool
  | executing _ e => ¬ e.isRunning
  | testComplete | testSuccess | setUnknown | join | done => true
  | _ => false

end ActionWorker

namespace CustomActionHandler

/-- A cancellation arrives only while a call has yet to lower the flag, and the callback returns before that. -/
def InScope (s : CustomActionHandler) : HandlerInput → Prop
  | .cancellation => ¬ s.cancelling → s.worker.isOpen
  | .worker _ => s.worker.isLowering → ¬ s.cancelling
  | _ => True

instance (s : CustomActionHandler) (i : HandlerInput) : Decidable (s.InScope i) :=
  match i with
  | .cancellation => inferInstanceAs (Decidable (¬ s.cancelling → s.worker.isOpen))
  | .worker _ => inferInstanceAs (Decidable (s.worker.isLowering → ¬ s.cancelling))
  | .arrival _ | .callback _ | .thread _ => .isTrue trivial

/-- The newest progress thread is in its loop. -/
def isReporting (s : CustomActionHandler) : Bool := s.progressThreads.head?.any fun t => t.report ≠ .left

/-- The newest progress thread is in its loop and its next test will not end it. -/
def KeepsReporting (s : CustomActionHandler) : Prop :=
  s.actionStopped = false ∧ s.actionsResult.head? ≠ some .unknown ∧ s.isReporting

/-- The call has fetched its metadata and executed nothing. -/
def Prepared (s : CustomActionHandler) : Prop :=
  s.actionsMetadata.head? = some s.call.metadata ∧ s.call.stages = [] ∧ s.call.scripts = []

/-- What holds of a call without cancellation at each location of the worker. -/
def FaithfulAt (s : CustomActionHandler) : ActionWorker → Prop
  | .top | .called => True
  | .fetching => s.actionStopped = false ∧ s.call.stages = [] ∧ s.call.scripts = []
  | .pushResult => s.actionStopped = false ∧ s.Prepared
  | .pushProgress | .printId | .printProgress | .copyAction | .spawn _ =>
    s.actionStopped = false ∧ s.Prepared ∧ s.actionsResult.head? ≠ some .unknown
  | .enter => s.Prepared ∧ s.KeepsReporting
  | .executing m e => m = s.call.metadata ∧ e.Log s.call ∧ (e.isRunning → s.KeepsReporting)
  | .testComplete | .testSuccess | .setUnknown | .join | .done => s.call.Executed

def Faithful (s : CustomActionHandler) : Prop := s.FaithfulAt s.worker

structure Scoped (s : CustomActionHandler) : Prop where
  /-- A callback for a cancellation is under way only in the call at which it arrived. -/
  cancelling : s.cancelling → s.worker.isOpen ∧ s.call.cancelled
  lowered : ¬ s.worker.isOpen → s.actionStopped = false
  faithful : ¬ s.call.cancelled → s.Faithful
  past : ∀ c ∈ s.past, ¬ c.cancelled → c.Executed

variable {s : CustomActionHandler}

theorem Faithful.at (hs : Faithful s) {w : ActionWorker} (hw : s.worker = w) : s.FaithfulAt w := hw ▸ hs

theorem scoped_initial (t : ℤ) : Scoped (initial t) where
  cancelling := by simp [initial]
  lowered _ := rfl
  faithful _ := trivial
  past := by simp [initial]

/-! ### The execution -/

section Execute

variable {m : ActionMetadata} {e : Execute} (hw : s.worker = .executing m e) (hs : Faithful s)

include hw hs in
theorem execute_faithful (a : Answer) : Faithful (s.execute m a e) := by
  obtain ⟨rfl, hlog, hkeeps⟩ := hs.at hw
  cases e with
  | stage i =>
    obtain ⟨hstages, hi, hdone⟩ := hlog
    rw [execute, (hkeeps rfl).1]
    by_cases hlt : i < s.call.metadata.stages.length
    · rw [if_pos hlt]
      exact ⟨rfl, ⟨hlt, hdone⟩, fun _ => hkeeps rfl⟩
    · rw [if_neg hlt]
      -- past the last stage: all of them have succeeded
      have heq : i = s.call.metadata.stages.length := by omega
      exact ⟨rfl, ActionCall.executed_of_all hstages (heq ▸ hdone), fun h => absurd h Bool.false_ne_true⟩
  | runStage i =>
    obtain ⟨hi, hdone⟩ := hlog
    rw [execute]
    by_cases hsuccess : a.result = .success
    · rw [if_neg (not_not.mpr hsuccess)]
      exact ⟨rfl, ⟨hi, by rw [hsuccess, hdone]; rfl⟩, fun _ => hkeeps rfl⟩
    · rw [if_pos hsuccess]
      -- the stage that fails ends the execution
      exact ⟨rfl, ⟨i, hi, a.result, hsuccess, by rw [hdone]⟩, fun _ => hkeeps rfl⟩
  | printStage i | printFailed | printId i =>
    exact back_induction hs fun x _ => ⟨rfl, hlog, fun _ => hkeeps rfl⟩
  | printOutcome => exact back_induction hs fun x _ => ⟨rfl, hlog, fun h => absurd h Bool.false_ne_true⟩
  | failed | setInProgress i =>
    refine back_induction hs fun r _ => ⟨rfl, hlog, fun _ => ?_⟩
    exact ⟨(hkeeps rfl).1, by simp, (hkeeps rfl).2.2⟩
  | stopFailed =>
    obtain ⟨k, hk, r, hr, hdone⟩ := hlog
    exact ⟨rfl, ActionCall.executed_of_failure hdone hk hr, fun h => absurd h Bool.false_ne_true⟩
  | wait i =>
    -- without a cancellation the flag is down, so no wait is cut short
    rw [execute, waitStage, (hkeeps rfl).1]
    split <;> exact ⟨rfl, hlog, fun _ => hkeeps rfl⟩
  | sleep i | landed i =>
    rw [execute]
    split_ifs <;> exact ⟨rfl, hlog, fun _ => hkeeps rfl⟩
  | poll i => exact ⟨rfl, hlog, fun _ => hkeeps rfl⟩
  | update i =>
    rw [execute, (hkeeps rfl).1]
    exact ⟨rfl, hlog, fun _ => hkeeps rfl⟩
  | setProgress i => exact back_induction hs fun p _ => ⟨rfl, hlog, fun _ => hkeeps rfl⟩
  | testProgress i =>
    refine back_induction hs fun p _ => ?_
    split_ifs <;> exact ⟨rfl, hlog, fun _ => hkeeps rfl⟩
  | printProgress i =>
    obtain ⟨hi, hdone⟩ := hlog
    have hstages : s.call.metadata.stages ≠ [] := List.ne_nil_of_length_pos (by omega)
    exact back_induction hs fun p _ => ⟨rfl, ⟨hstages, hi, hdone⟩, fun _ => hkeeps rfl⟩
  | setSuccess i =>
    obtain ⟨hi, hdone⟩ := hlog
    have hstages : s.call.metadata.stages ≠ [] := List.ne_nil_of_length_pos (by omega)
    refine back_induction hs fun r _ => ⟨rfl, ⟨hstages, hi, hdone⟩, fun _ => ?_⟩
    exact ⟨(hkeeps rfl).1, by simp, (hkeeps rfl).2.2⟩
  | script =>
    rw [execute, (hkeeps rfl).1, if_neg Bool.false_ne_true]
    split <;> exact ⟨rfl, hlog, fun _ => hkeeps rfl⟩
  | waitScript =>
    rw [execute, (hkeeps rfl).1]
    exact ⟨rfl, hlog, fun _ => hkeeps rfl⟩
  | sleepScript =>
    rw [execute]
    split_ifs <;> exact ⟨rfl, hlog, fun _ => hkeeps rfl⟩
  | runScript =>
    obtain ⟨hstages, hscripts, hdone⟩ := hlog
    exact ⟨rfl, ⟨hstages, congrArg (a.result :: ·) hscripts, hdone⟩, fun _ => hkeeps rfl⟩
  | setResult r =>
    -- the result of the script is stored: from here on the execution is over
    obtain ⟨hstages, hscripts, -⟩ := hlog
    refine back_induction hs fun x _ => ⟨rfl, ActionCall.executed_of_script hstages hscripts, fun h => ?_⟩
    exact absurd h Bool.false_ne_true
  | testScript =>
    refine back_induction hs fun r _ => ?_
    split_ifs <;> exact ⟨rfl, hlog, fun h => absurd h Bool.false_ne_true⟩
  | setComplete => exact back_induction hs fun p _ => ⟨rfl, hlog, fun h => absurd h Bool.false_ne_true⟩
  | outcome rs =>
    cases rs with
    | nil => exact ⟨rfl, hlog, fun h => absurd h Bool.false_ne_true⟩
    | cons r rs =>
      refine back_induction hs fun x _ => ?_
      split_ifs <;> exact ⟨rfl, hlog, fun h => absurd h Bool.false_ne_true⟩
  | raise | lower => exact ⟨rfl, hlog, fun h => absurd h Bool.false_ne_true⟩
  | clear => exact hlog

end Execute

theorem entry_faithful (hprepared : s.Prepared) (hkeeps : s.KeepsReporting) :
    Faithful (s.goto (.executing s.call.metadata s.call.metadata.entry)) := by
  obtain ⟨-, hstages, hscripts⟩ := hprepared
  unfold ActionMetadata.entry
  split_ifs with hany hscript
  · exact ⟨rfl, ⟨hany, Nat.zero_le _, hstages⟩, fun _ => hkeeps⟩
  · exact ⟨rfl, ⟨not_not.mp hany, hscripts, hstages⟩, fun _ => hkeeps⟩
  · have hexecuted : s.call.Executed := by
      rw [ActionCall.Executed, if_neg hany]
      exact fun h => absurd h hscript
    exact ⟨rfl, hexecuted, nofun⟩

/-- The worker, in a call without cancellation; the call that it begins finds the flag lowered. -/
theorem work_faithful (hs : Faithful s) (hlowered : ¬ s.worker.isOpen → s.actionStopped = false) (a : Answer) :
    Faithful (s.work a) := by
  unfold work
  cases hw : s.worker with
  | executing m e => exact execute_faithful hw hs a
  | top =>
    dsimp only
    split_ifs
    · trivial
    · exact hs
  | called => exact back_induction hs fun action _ => ⟨hlowered (by simp [hw, ActionWorker.isOpen]), rfl, rfl⟩
  | fetching =>
    obtain ⟨hlow, hstages, hscripts⟩ := hs.at hw
    exact ⟨hlow, rfl, hstages, hscripts⟩
  | pushResult =>
    obtain ⟨hlow, hprepared⟩ := hs.at hw
    exact ⟨hlow, hprepared, by simp⟩
  | pushProgress => exact hs.at hw
  | printId | printProgress | copyAction => exact back_induction hs fun x _ => hs.at hw
  | spawn action =>
    obtain ⟨hlow, hprepared, hknown⟩ := hs.at hw
    exact ⟨hprepared, hlow, hknown, rfl⟩
  | enter =>
    obtain ⟨hprepared, hkeeps⟩ := hs.at hw
    refine back_induction hs fun m hm => ?_
    -- what is read back is what the call has pushed
    have heq : m = s.call.metadata := Option.mem_unique hm hprepared.1
    rw [heq]
    exact entry_faithful hprepared hkeeps
  | testComplete | testSuccess =>
    refine back_induction hs fun x _ => ?_
    split_ifs <;> exact hs.at hw
  | setUnknown => exact back_induction hs fun r _ => hs.at hw
  | join =>
    refine back_induction hs fun t _ => ?_
    split_ifs
    · exact hs.at hw
    · exact hs
  | done => trivial

/-! ### The other parties -/

/-- Steps that leave the worker, its call, the flag and the results alone, and stop no thread that the worker needs. -/
theorem Scoped.frame (hs : Scoped s) {s' : CustomActionHandler} (hworker : s'.worker = s.worker)
    (hcancelling : s'.cancelling = s.cancelling) (hstopped : s'.actionStopped = s.actionStopped)
    (hresult : s'.actionsResult = s.actionsResult) (hmetadata : s'.actionsMetadata = s.actionsMetadata)
    (hcall : s'.call = s.call) (hpast : s'.past = s.past) (hreporting : s.KeepsReporting → s'.isReporting) :
    Scoped s' := by
  have hkeeps : s.KeepsReporting → s'.KeepsReporting := by
    intro h
    refine ⟨?_, ?_, hreporting h⟩
    · rw [hstopped]
      exact h.1
    · rw [hresult]
      exact h.2.1
  refine ⟨?_, ?_, ?_, ?_⟩
  · rw [hcancelling, hworker, hcall]
    exact hs.cancelling
  · rw [hworker, hstopped]
    exact hs.lowered
  · rw [hcall]
    intro hcancelled
    have h := hs.faithful hcancelled
    unfold Faithful at h ⊢
    rw [hworker]
    unfold FaithfulAt Prepared at h ⊢
    rw [hstopped, hresult, hmetadata, hcall]
    cases hw : s.worker with
    | enter =>
      rw [hw] at h
      exact h.imp_right hkeeps
    | executing m e =>
      rw [hw] at h
      exact ⟨h.1, h.2.1, fun hrunning => hkeeps (h.2.2 hrunning)⟩
    | _ =>
      rw [hw] at h
      exact h
  · rw [hpast]
    exact hs.past

theorem arrive_scoped (hs : Scoped s) (action : ActionToExecute) : Scoped (s.arrive action) := by
  unfold arrive
  split_ifs
  · exact hs
  · exact hs.frame rfl rfl rfl rfl rfl rfl rfl fun h => h.2.2
  · exact hs.frame rfl rfl rfl rfl rfl rfl rfl fun h => h.2.2

theorem accept_scoped (hs : Scoped s) (now : ℤ) : Scoped (s.accept now) := by
  unfold accept
  cases s.arrival with
  | idle => exact hs
  | compare action =>
    have hframe : ∀ b arrival, Scoped { s with undefined := b, arrival := arrival } := fun b arrival =>
      hs.frame rfl rfl rfl rfl rfl rfl rfl fun h => h.2.2
    exact back_induction (hframe true s.arrival) fun a _ => hframe s.undefined _
  | push action =>
    dsimp only
    split_ifs
    · exact hs.frame rfl rfl rfl rfl rfl rfl rfl fun h => h.2.2
    · exact hs.frame rfl rfl rfl rfl rfl rfl rfl fun h => h.2.2
  | store t => exact hs.frame rfl rfl rfl rfl rfl rfl rfl fun h => h.2.2

theorem isProcessing_of_isOpen {w : ActionWorker} (h : w.isOpen) : w.isProcessing := by
  cases w <;> first | rfl | exact h

theorem cancel_scoped (hs : Scoped s) (hok : InScope s .cancellation) : Scoped s.cancel := by
  unfold cancel
  split_ifs with hcancelling
  · obtain ⟨hopen, hcancelled⟩ := hs.cancelling hcancelling
    exact ⟨by simp, fun h => absurd hopen h, fun h => absurd hcancelled h, hs.past⟩
  · refine back_induction ?_ fun m _ => ?_
    · exact hs.frame rfl rfl rfl rfl rfl rfl rfl fun h => h.2.2
    · have hopen := hok hcancelling
      have hcancelled : (s.call.cancelled || s.worker.isProcessing) = true := by
        rw [isProcessing_of_isOpen hopen, Bool.or_true]
      exact ⟨fun _ => ⟨hopen, hcancelled⟩, hs.lowered, fun h => absurd hcancelled h, hs.past⟩

theorem setReport_isReporting {k : ℕ} {r : Report} (hr : r ≠ .left) (h : s.isReporting) :
    (s.setReport k r).isReporting := by
  cases hthreads : s.progressThreads with
  | nil => simp [isReporting, hthreads] at h
  | cons t l =>
    have hactive : t.report ≠ .left := by simpa [isReporting, hthreads] using h
    cases k with
    | zero => simpa [isReporting, setReport, hthreads] using hr
    | succ k => simpa [isReporting, setReport, hthreads] using hactive

theorem reportStep_scoped (hs : Scoped s) (k : ℕ) : Scoped (s.reportStep k) := by
  have hreported := reportStep_reported k s
  generalize s.reportStep k = s' at hreported ⊢
  cases hreported with
  | still => exact hs
  | undefined t ht hempty => exact hs.frame rfl rfl rfl rfl rfl rfl rfl fun h => h.2.2
  | moved t ht hactive r hleft =>
    refine hs.frame rfl rfl rfl rfl rfl rfl rfl fun h => setReport_isReporting (fun hr => ?_) h.2.2
    rcases hleft hr with hstopped | hunknown
    · exact absurd hstopped (by simp [h.1])
    · exact h.2.1 hunknown
  | sent t ht hactive p r =>
    exact hs.frame rfl rfl rfl rfl rfl rfl rfl fun h => setReport_isReporting (s := s.respond _ _ _) nofun h.2.2

/-! ### The worker and the machine -/

theorem isOpen_executing {m : ActionMetadata} {e : Execute} :
    (ActionWorker.executing m e).isOpen = true ↔ e ≠ .clear := by
  cases e <;> simp [ActionWorker.isOpen]

/-- What a step of `execute_custom_action` does to the flag and to a callback under way. -/
theorem execute_scope (hs : Scoped s) {m : ActionMetadata} {e : Execute} (hw : s.worker = .executing m e) (a : Answer)
    (hok : InScope s (.worker a)) :
    ((s.execute m a e).cancelling → (s.execute m a e).worker.isOpen ∧ (s.execute m a e).call.cancelled) ∧
    (¬ (s.execute m a e).worker.isOpen → (s.execute m a e).actionStopped = false) ∧ (s.execute m a e).past = s.past ∧
    (s.execute m a e).call.cancelled = s.call.cancelled := by
  by_cases hclear : e = .clear
  · subst hclear
    have hclosed : ¬ s.worker.isOpen := by simp [hw, ActionWorker.isOpen]
    exact ⟨fun h => absurd (hs.cancelling h).1 hclosed, fun _ => hs.lowered hclosed, rfl, rfl⟩
  · have hexecutes := execute_executes a hw hclear
    obtain ⟨e', hw', he'⟩ := hexecutes.worker
    refine ⟨fun h => ?_, fun h => ?_, hexecutes.past, hexecutes.cancelled⟩
    · rw [hexecutes.cancelling] at h
      rw [hexecutes.cancelled, hw', isOpen_executing]
      refine ⟨fun hclear' => ?_, (hs.cancelling h).2⟩
      exact hok (by rw [hw, he' hclear']; rfl) h
    · rw [hw', isOpen_executing, not_not] at h
      rw [he' h]
      rfl

/-- A step of `new_action_check` or `process_custom_action`: the flag and the callbacks are left alone, an open call
stays open, and a call begins at `called` and returns from `join`. -/
structure Processes (s s' : CustomActionHandler) : Prop where
  cancelling : s'.cancelling = s.cancelling
  actionStopped : s'.actionStopped = s.actionStopped
  opened : s.worker.isOpen → s'.worker.isOpen
  cancelled : s'.call.cancelled = s.call.cancelled ∨ s.worker = .called
  past : s'.past = s.past ∨ s.worker = .join ∧ s'.past = s.call :: s.past

theorem processes_undefined (s : CustomActionHandler) : Processes s { s with undefined := true } :=
  ⟨rfl, rfl, id, .inl rfl, .inl rfl⟩

theorem work_processes (hw : ∀ m e, s.worker ≠ .executing m e) (a : Answer) : Processes s (s.work a) := by
  unfold work
  cases hworker : s.worker with
  | executing m e => exact absurd hworker (hw m e)
  | top =>
    dsimp only
    split_ifs
    · exact ⟨rfl, rfl, by simp [hworker, ActionWorker.isOpen], .inl rfl, .inl rfl⟩
    · exact ⟨rfl, rfl, id, .inl rfl, .inl rfl⟩
  | called =>
    refine back_induction (processes_undefined s) fun action _ => ?_
    exact ⟨rfl, rfl, fun _ => rfl, .inr hworker, .inl rfl⟩
  | fetching | pushResult | pushProgress | spawn action => exact ⟨rfl, rfl, fun _ => rfl, .inl rfl, .inl rfl⟩
  | printId | printProgress | copyAction =>
    exact back_induction (processes_undefined s) fun x _ => ⟨rfl, rfl, fun _ => rfl, .inl rfl, .inl rfl⟩
  | enter =>
    refine back_induction (processes_undefined s) fun m _ => ⟨rfl, rfl, fun _ => ?_, .inl rfl, .inl rfl⟩
    refine isOpen_executing.mpr ?_
    unfold ActionMetadata.entry
    split_ifs <;> nofun
  | testComplete | testSuccess | setUnknown =>
    refine back_induction (processes_undefined s) fun x _ => ?_
    exact ⟨rfl, rfl, by simp [hworker, ActionWorker.isOpen], .inl rfl, .inl rfl⟩
  | join =>
    refine back_induction (processes_undefined s) fun t _ => ?_
    split_ifs
    · exact ⟨rfl, rfl, by simp [hworker, ActionWorker.isOpen], .inl rfl, .inr ⟨hworker, rfl⟩⟩
    · exact ⟨rfl, rfl, id, .inl rfl, .inl rfl⟩
  | done => exact ⟨rfl, rfl, by simp [hworker, ActionWorker.isOpen], .inl rfl, .inl rfl⟩

theorem Processes.scoped {s' : CustomActionHandler} (h : Processes s s') (hs : Scoped s)
    (hfaithful : ¬ s.call.cancelled ∨ s.worker = .called → Faithful s') : Scoped s' where
  cancelling := by
    intro hcancelling
    rw [h.cancelling] at hcancelling
    obtain ⟨hopen, hcancelled⟩ := hs.cancelling hcancelling
    refine ⟨h.opened hopen, ?_⟩
    rcases h.cancelled with heq | hcalled
    · rwa [heq]
    · rw [hcalled] at hopen
      exact absurd hopen (by simp [ActionWorker.isOpen])
  lowered := by
    intro hclosed
    rw [h.actionStopped]
    exact hs.lowered fun hopen => hclosed (h.opened hopen)
  faithful := by
    intro hcancelled
    rcases h.cancelled with heq | hcalled
    · exact hfaithful (.inl (by rwa [heq] at hcancelled))
    · exact hfaithful (.inr hcalled)
  past := by
    rcases h.past with heq | ⟨hjoin, heq⟩
    · rw [heq]
      exact hs.past
    · rw [heq]
      intro c hc hcancelled
      rcases List.mem_cons.mp hc with rfl | hc
      · exact (hs.faithful hcancelled).at hjoin
      · exact hs.past c hc hcancelled

theorem work_scoped (hs : Scoped s) (a : Answer) (hok : InScope s (.worker a)) : Scoped (s.work a) := by
  have hfaithful : ¬ s.call.cancelled ∨ s.worker = .called → Faithful (s.work a) := by
    intro h
    refine work_faithful ?_ hs.lowered a
    rcases h with hcancelled | hcalled
    · exact hs.faithful hcancelled
    · rw [Faithful, hcalled]
      trivial
  by_cases hexecuting : ∃ m e, s.worker = .executing m e
  · obtain ⟨m, e, hw⟩ := hexecuting
    have hwork : s.work a = s.execute m a e := by rw [work, hw]
    obtain ⟨hcancelling, hlowered, hpast, hcancelled⟩ := execute_scope hs hw a hok
    rw [hwork] at hfaithful ⊢
    refine ⟨hcancelling, hlowered, fun h => hfaithful (.inl ?_), ?_⟩
    · rwa [hcancelled] at h
    · rw [hpast]
      exact hs.past
  · push Not at hexecuting
    exact (work_processes hexecuting a).scoped hs hfaithful

theorem step_scoped (hs : Scoped s) {i : HandlerInput} (hok : InScope s i) : Scoped (step s i) := by
  refine step_induction hs ?_
  cases i with
  | arrival action => exact arrive_scoped hs action
  | callback now => exact accept_scoped hs now
  | cancellation => exact cancel_scoped hs hok
  | worker a => exact work_scoped hs a hok
  | thread k => exact reportStep_scoped hs k

theorem run_scoped (t : ℤ) {is : List HandlerInput} (hok : Meets step InScope (initial t) is) :
    Scoped (run step (initial t) is) := by
  have hstep : ∀ s i, Scoped s → InScope s i → Scoped (step s i) := fun s i hs hok => step_scoped hs hok
  exact hok.invariant hstep (scoped_initial t)

/-! ### The scope of a cancellation -/

theorem inOrder_of_log {e : Execute} {c : ActionCall} (hlog : e.Log c) (hrunning : e.isRunning) : c.InOrder := by
  have hnone : c.stages = [] → c.InOrder := fun h => ActionCall.inOrder_of_successes (k := 0) h (Nat.zero_le _)
  cases e with
  | stage i => exact ActionCall.inOrder_of_successes hlog.2.2 hlog.2.1
  | printStage i | runStage i => exact ActionCall.inOrder_of_successes hlog.2 hlog.1.le
  | printFailed | failed | stopFailed =>
    obtain ⟨k, hk, r, -, hdone⟩ := hlog
    exact ActionCall.inOrder_of_cons hdone hk
  | wait i | sleep i | landed i | poll i | update i | setProgress i | testProgress i | setInProgress i | printId i
  | printProgress i | setSuccess i => exact ActionCall.inOrder_of_successes hlog.2 hlog.1
  | script | waitScript | sleepScript | runScript | setResult r => exact hnone hlog.2.2
  | _ => exact absurd hrunning (by simp [Execute.isRunning])

/-- While a call without cancellation runs, its stages so far were executed in order. -/
theorem Faithful.inOrder (hs : Faithful s) (hrunning : s.worker.isRunning) : s.call.InOrder := by
  cases hw : s.worker with
  | enter => exact ActionCall.inOrder_of_successes (k := 0) (hs.at hw).1.2.1 (Nat.zero_le _)
  | executing m e =>
    rw [hw] at hrunning
    exact inOrder_of_log (hs.at hw).2.1 hrunning
  | _ =>
    rw [hw] at hrunning
    exact absurd hrunning (by simp [ActionWorker.isRunning])

theorem Faithful.isReporting (hs : Faithful s) (hrunning : s.worker.isRunning) : s.isReporting := by
  cases hw : s.worker with
  | enter => exact (hs.at hw).2.2.2
  | executing m e =>
    rw [hw] at hrunning
    exact ((hs.at hw).2.2 hrunning).2.2
  | _ =>
    rw [hw] at hrunning
    exact absurd hrunning (by simp [ActionWorker.isRunning])

theorem Faithful.executed (hs : Faithful s) (hover : s.worker.isOver) : s.call.Executed := by
  cases hw : s.worker with
  | executing m e =>
    have hlog := (hs.at hw).2.1
    rw [hw] at hover
    cases e <;> first | exact hlog | simp [ActionWorker.isOver, Execute.isRunning] at hover
  | testComplete | testSuccess | setUnknown | join | done => exact hs.at hw
  | _ =>
    rw [hw] at hover
    exact absurd hover (by simp [ActionWorker.isOver])

/-- In a run in which every cancellation arrives, and its callback returns, before the call lowers the flag, a call
during which no cancellation arrived has its stages executed in order until one fails or all are done, or its script, and
its progress thread is in its loop while they run. -/
theorem executed_of_inScope (t : ℤ) {is : List HandlerInput} (hok : Meets step InScope (initial t) is) :
    (∀ c ∈ (run step (initial t) is).past, ¬ c.cancelled → c.Executed) ∧
    (¬ (run step (initial t) is).call.cancelled →
      ((run step (initial t) is).worker.isRunning →
        (run step (initial t) is).call.InOrder ∧ (run step (initial t) is).isReporting) ∧
      ((run step (initial t) is).worker.isOver → (run step (initial t) is).call.Executed)) := by
  have hinv := run_scoped t hok
  refine ⟨hinv.past, fun hcancelled => ?_⟩
  have hfaithful := hinv.faithful hcancelled
  exact ⟨fun hrunning => ⟨hfaithful.inOrder hrunning, hfaithful.isReporting hrunning⟩, hfaithful.executed⟩

/-- The arrival of an action at the time `now`. -/
def arriving (id : UInt32) (now : ℤ) : List HandlerInput :=
  [.arrival ⟨id⟩, .callback now, .callback now, .callback now]

/-- The worker, as far as the execution of an action with one stage. -/
def beginning : List HandlerInput := List.replicate 10 (.worker { metadata := { stages := [.onResultSuccess] } })

/-- The execution of the stage and the end of the call. -/
def ending : List HandlerInput :=
  List.replicate 19 (.worker {}) ++ [.thread 0, .thread 0] ++ List.replicate 2 (.worker {})

end CustomActionHandler

end AutopilotManager
