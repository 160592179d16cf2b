import AutopilotManager.CustomAction.Handler

/-!
# CustomAction.Access — no `back()` of an empty vector

The vectors of the custom action handler only grow, except for the queue, so a read is safe from some access of the
worker on.  What is left to chance is a cancellation before the first metadata, a queue cleared between the two
accesses of the callback's test, and a flag stored for an action that is no longer in the queue.
-/

namespace AutopilotManager

open Lib

namespace ActionWorker

/-- To how many of the other four vectors the worker has pushed in its call, in the order metadata, result, progress,
threads. -/
@[simp] def pushes : ActionWorker → ℕ
  | top | called | fetching => 0
  | pushResult => 1
  | pushProgress => 2
  | printId | printProgress | copyAction | spawn _ => 3
  | _ => 4

/-- The worker has cleared the queue and not yet the flag. -/
@[simp] def hasCleared : ActionWorker → Bool
  | testComplete | testSuccess | setUnknown | join | done => true
  | _ => false

def isClearing : ActionWorker → Bool
  | executing _ .clear => true
  | _ => false

end ActionWorker

/-- Between `empty()` and `back()`. -/
def Arrival.isComparing : Arrival → Bool
  | compare _ => true
  | _ => false

def Arrival.isStoring : Arrival → Bool
  | store _ => true
  | _ => false

namespace CustomActionHandler

/-- A cancellation arrives only after the metadata of some action; the worker does not clear the queue between the
callback's tests of `empty()` and `back()`; and a flag is stored only for an action in the queue, or when the worker
will clear the flag. -/
def Guarded (s : CustomActionHandler) : HandlerInput → Prop
  | .cancellation => ¬ s.cancelling → s.past ≠ [] ∨ 0 < s.worker.pushes
  | .worker _ => s.worker.isClearing → ¬ s.arrival.isComparing
  | .callback _ => s.arrival.isStoring → s.actions ≠ [] ∨ s.worker.hasCleared
  | _ => True

instance (s : CustomActionHandler) (i : HandlerInput) : Decidable (s.Guarded i) :=
  match i with
  | .cancellation => inferInstanceAs (Decidable (¬ s.cancelling → s.past ≠ [] ∨ 0 < s.worker.pushes))
  | .worker _ => inferInstanceAs (Decidable (s.worker.isClearing → ¬ s.arrival.isComparing))
  | .callback _ => inferInstanceAs (Decidable (s.arrival.isStoring → s.actions ≠ [] ∨ s.worker.hasCleared))
  | .arrival _ | .thread _ => .isTrue trivial

/-- What makes the next read of each party safe. -/
structure Readable (s : CustomActionHandler) : Prop where
  defined : ¬ s.undefined
  metadata : s.past ≠ [] ∨ 0 < s.worker.pushes → s.actionsMetadata ≠ []
  result : 1 < s.worker.pushes → s.actionsResult ≠ []
  progress : 2 < s.worker.pushes → s.actionsProgress ≠ []
  thread : 3 < s.worker.pushes → s.progressThreads ≠ []
  /-- A progress thread starts after the first result and progress. -/
  reporting : s.progressThreads ≠ [] → s.actionsResult ≠ [] ∧ s.actionsProgress ≠ []
  /-- The queue keeps what the worker has been called for until the worker clears it. -/
  queued : s.worker = .top ∧ ¬ s.newAction ∨ s.worker.hasCleared ∨ s.actions ≠ []
  compared : ∀ action, s.arrival = .compare action → s.actions ≠ []

variable {s : CustomActionHandler}

theorem readable_initial (t : ℤ) : Readable (initial t) where
  defined := by simp [initial]
  metadata := by simp [initial]
  result := by simp [initial]
  progress := by simp [initial]
  thread := by simp [initial]
  reporting := by simp [initial]
  queued := by simp [initial]
  compared := by simp [initial]

/-! ### The callbacks and the progress threads -/

theorem arrive_readable (hs : Readable s) (action : ActionToExecute) : Readable (s.arrive action) := by
  unfold arrive
  split_ifs with hbusy hempty
  · exact hs
  · exact { hs with compared := by simp }
  · exact { hs with compared := fun _ _ => hempty }

theorem accept_readable (hs : Readable s) {now : ℤ} (hok : Guarded s (.callback now)) : Readable (s.accept now) := by
  unfold accept
  cases harrival : s.arrival with
  | idle => exact hs
  | compare action =>
    refine back_of_ne_nil (hs.compared action harrival) fun a _ => { hs with compared := ?_ }
    split_ifs <;> simp
  | push action =>
    dsimp only
    split_ifs with hearly
    · exact { hs with compared := by simp }
    · exact { hs with queued := .inr (.inr (by simp)), compared := by simp }
  | store t => exact { hs with queued := .inr (hok (by rw [harrival]; rfl)).symm, compared := by simp }

theorem cancel_readable (hs : Readable s) (hok : Guarded s .cancellation) : Readable s.cancel := by
  unfold cancel
  split_ifs with hcancelling
  · exact { hs with }
  · exact back_of_ne_nil (hs.metadata (hok hcancelling)) fun m _ => { hs with }

theorem reportStep_readable (hs : Readable s) (k : ℕ) : Readable (s.reportStep k) := by
  have hmodify : ∀ f : ProgressThread → ProgressThread, s.progressThreads.modify k f ≠ [] ↔ s.progressThreads ≠ [] := by
    intro f
    rw [ne_eq, ne_eq, ← List.length_eq_zero_iff, ← List.length_eq_zero_iff, List.length_modify]
  have hreported := reportStep_reported k s
  generalize s.reportStep k = s' at hreported ⊢
  cases hreported with
  | still => exact hs
  | undefined t ht hempty =>
    obtain ⟨hresult, hprogress⟩ := hs.reporting (List.ne_nil_of_mem (List.mem_of_getElem? ht))
    exact absurd hempty (not_or.mpr ⟨hresult, hprogress⟩)
  | moved t ht hactive r hleft =>
    exact { hs with thread := fun h => (hmodify _).mpr (hs.thread h), reporting := fun h => hs.reporting ((hmodify _).mp h) }
  | sent t ht hactive p r =>
    exact { hs with thread := fun h => (hmodify _).mpr (hs.thread h), reporting := fun h => hs.reporting ((hmodify _).mp h) }

/-! ### The worker -/

section Execute

variable {m : ActionMetadata} {e : Execute} (hs : Readable s) (hw : s.worker = .executing m e)

include hs hw in
theorem executing_vectors : s.actionsMetadata ≠ [] ∧ s.actionsResult ≠ [] ∧ s.actionsProgress ≠ [] :=
  ⟨hs.metadata (.inr (by simp [hw])), hs.result (by simp [hw]), hs.progress (by simp [hw])⟩

include hs hw in
/-- The vectors that `execute_custom_action` reads are not empty. -/
theorem execute_defined (a : Answer) : ¬ (s.execute m a e).undefined := by
  obtain ⟨hmetadata, hresult, hprogress⟩ := executing_vectors hs hw
  have hdefined := hs.defined
  have hback : ∀ {α : Type} {v : List α} (f : α → CustomActionHandler), v ≠ [] → (∀ x, ¬ (f x).undefined) →
      ¬ (s.back v f).undefined := fun f hv hf =>
    back_of_ne_nil (P := fun s => ¬ s.undefined) hv fun x _ => hf x
  cases e with
  | stage i =>
    rw [execute]
    split_ifs <;> exact hdefined
  | wait i =>
    rw [execute, waitStage]
    split <;> exact hdefined
  | script =>
    rw [execute]
    split_ifs
    · exact hdefined
    · split <;> exact hdefined
  | failed | setInProgress i | setSuccess i | setResult r =>
    exact hback _ hresult fun _ => hdefined
  | setProgress i | setComplete =>
    exact hback _ hprogress fun _ => hdefined
  | testProgress i | printProgress i => exact hback _ hprogress fun _ => hdefined
  | testScript => exact hback _ hresult fun _ => hdefined
  | printStage i | printFailed | printId i | printOutcome => exact hback _ hmetadata fun _ => hdefined
  | outcome rs =>
    cases rs with
    | nil => exact hdefined
    | cons r rs => exact hback _ hresult fun _ => hdefined
  | _ => exact hdefined

include hs hw in
theorem execute_readable (a : Answer) (hok : e = .clear → ¬ s.arrival.isComparing) :
    Readable (s.execute m a e) := by
  have hdefined := execute_defined hs hw a
  by_cases he : e = .clear
  · subst he
    have hcompared := hok rfl
    refine { hs with
      defined := hdefined
      metadata := fun _ => (executing_vectors hs hw).1
      result := fun _ => (executing_vectors hs hw).2.1
      progress := fun _ => (executing_vectors hs hw).2.2
      thread := fun _ => hs.thread (by simp [hw])
      queued := .inr (.inl rfl)
      compared := fun action h => absurd (by rw [show s.arrival = .compare action from h]; rfl) hcompared }
  · obtain ⟨⟨e', hw', -⟩, hactions, hmetadata, hthreads, hresult, hprogress, -, harrival, -, -, -, -, hpast⟩ :=
      execute_executes a hw he
    obtain ⟨hm, hr, hp⟩ := executing_vectors hs hw
    have hqueued : s.actions ≠ [] := by
      have h := hs.queued
      rw [hw] at h
      simpa using h
    refine ⟨hdefined, fun _ => hmetadata ▸ hm, fun _ => hresult hr, fun _ => hprogress hp, fun _ => ?_, fun _ => ?_, ?_, ?_⟩
    · rw [hthreads]
      exact hs.thread (by simp [hw])
    · exact ⟨hresult hr, hprogress hp⟩
    · rw [hactions]
      exact .inr (.inr hqueued)
    · rw [harrival, hactions]
      exact hs.compared

end Execute

/-- A move to a location that needs no more than the one before. -/
theorem goto_readable (hs : Readable s) {w : ActionWorker} (hpushes : w.pushes ≤ s.worker.pushes)
    (hqueued : w.hasCleared ∨ s.actions ≠ []) : Readable (s.goto w) where
  defined := hs.defined
  metadata := fun h => hs.metadata (h.imp_right fun hw => hw.trans_le hpushes)
  result := fun h => hs.result (h.trans_le hpushes)
  progress := fun h => hs.progress (h.trans_le hpushes)
  thread := fun h => hs.thread (h.trans_le hpushes)
  reporting := hs.reporting
  queued := .inr hqueued
  compared := hs.compared

/-- Until the worker clears the queue, what it has been called for is there. -/
theorem Readable.queue (hs : Readable s) (hw : s.worker ≠ .top) (hcleared : ¬ s.worker.hasCleared) : s.actions ≠ [] :=
  (hs.queued.resolve_left fun h => hw h.1).resolve_left hcleared

theorem work_readable (hs : Readable s) (a : Answer) (hok : Guarded s (.worker a)) : Readable (s.work a) := by
  -- the pushes of a call come in the order of the fields: metadata, result, progress, thread
  have hmetadata := hs.metadata
  have hresult := hs.result
  have hprogress := hs.progress
  have hthread := hs.thread
  have hqueue := hs.queue
  unfold work
  cases hw : s.worker with
  | executing m e => exact execute_readable hs hw a fun he => hok (by rw [hw, he]; rfl)
  | top =>
    dsimp only
    split_ifs with hflag
    · refine goto_readable hs (by simp [hw]) (.inr ?_)
      have hqueued := hs.queued
      rw [hw] at hqueued
      simpa [hflag] using hqueued
    · exact hs
  | called =>
    -- the first read of the queue, which holds the action that the flag has been set for
    have hactions := hqueue (by simp [hw]) (by simp [hw])
    exact back_of_ne_nil hactions fun action _ => { hs with
      metadata := fun h => hmetadata (.inl (by simpa using h))
      result := fun h => absurd h (by simp)
      progress := fun h => absurd h (by simp)
      thread := fun h => absurd h (by simp)
      queued := .inr (.inr hactions) }
  | fetching =>
    exact { hs with
      metadata := fun _ => List.cons_ne_nil _ _
      result := fun h => absurd h (by simp)
      progress := fun h => absurd h (by simp)
      thread := fun h => absurd h (by simp)
      queued := .inr (.inr (hqueue (by simp [hw]) (by simp [hw]))) }
  | pushResult =>
    exact { hs with
      metadata := fun _ => hmetadata (.inr (by simp [hw]))
      result := fun _ => List.cons_ne_nil _ _
      progress := fun h => absurd h (by simp)
      thread := fun h => absurd h (by simp)
      reporting := fun h => ⟨List.cons_ne_nil _ _, (hs.reporting h).2⟩
      queued := .inr (.inr (hqueue (by simp [hw]) (by simp [hw]))) }
  | pushProgress =>
    exact { hs with
      metadata := fun _ => hmetadata (.inr (by simp [hw]))
      result := fun _ => hresult (by simp [hw])
      progress := fun _ => List.cons_ne_nil _ _
      thread := fun h => absurd h (by simp)
      reporting := fun h => ⟨(hs.reporting h).1, List.cons_ne_nil _ _⟩
      queued := .inr (.inr (hqueue (by simp [hw]) (by simp [hw]))) }
  | printId =>
    refine back_of_ne_nil (hmetadata (.inr (by simp [hw]))) fun m _ => ?_
    exact goto_readable hs (by simp [hw]) (.inr (hqueue (by simp [hw]) (by simp [hw])))
  | printProgress =>
    refine back_of_ne_nil (hprogress (by simp [hw])) fun p _ => ?_
    exact goto_readable hs (by simp [hw]) (.inr (hqueue (by simp [hw]) (by simp [hw])))
  | copyAction =>
    -- the second read of the queue, which nothing has cleared since the first
    have hactions := hqueue (by simp [hw]) (by simp [hw])
    exact back_of_ne_nil hactions fun action _ => goto_readable hs (by simp [hw]) (.inr hactions)
  | spawn action =>
    exact { hs with
      metadata := fun _ => hmetadata (.inr (by simp [hw]))
      result := fun _ => hresult (by simp [hw])
      progress := fun _ => hprogress (by simp [hw])
      thread := fun _ => List.cons_ne_nil _ _
      reporting := fun _ => ⟨hresult (by simp [hw]), hprogress (by simp [hw])⟩
      queued := .inr (.inr (hqueue (by simp [hw]) (by simp [hw]))) }
  | enter =>
    refine back_of_ne_nil (hmetadata (.inr (by simp [hw]))) fun m _ => ?_
    exact goto_readable hs (by simp [hw]) (.inr (hqueue (by simp [hw]) (by simp [hw])))
  | testComplete =>
    refine back_of_ne_nil (hprogress (by simp [hw])) fun p _ => ?_
    split_ifs <;> exact goto_readable hs (by simp [hw]) (.inl rfl)
  | testSuccess =>
    refine back_of_ne_nil (hresult (by simp [hw])) fun r _ => ?_
    split_ifs <;> exact goto_readable hs (by simp [hw]) (.inl rfl)
  | setUnknown =>
    refine back_of_ne_nil (hresult (by simp [hw])) fun r _ => ?_
    exact { hs with
      metadata := fun _ => hmetadata (.inr (by simp [hw]))
      result := fun _ => List.cons_ne_nil _ _
      progress := fun _ => hprogress (by simp [hw])
      thread := fun _ => hthread (by simp [hw])
      reporting := fun h => ⟨List.cons_ne_nil _ _, (hs.reporting h).2⟩
      queued := .inr (.inl rfl) }
  | join =>
    -- the thread of the call has been started, so there is one to join
    refine back_of_ne_nil (hthread (by simp [hw])) fun t _ => ?_
    split_ifs with hleft
    · exact { hs with
        metadata := fun _ => hmetadata (.inr (by simp [hw]))
        result := fun _ => hresult (by simp [hw])
        progress := fun _ => hprogress (by simp [hw])
        thread := fun _ => hthread (by simp [hw])
        queued := .inr (.inl rfl) }
    · exact hs
  | done =>
    exact { hs with
      metadata := fun h => hmetadata (.inl (by simpa using h))
      result := fun h => absurd h (by simp)
      progress := fun h => absurd h (by simp)
      thread := fun h => absurd h (by simp)
      queued := .inl ⟨rfl, by simp⟩ }

/-! ### Every access -/

theorem step_readable (hs : Readable s) {i : HandlerInput} (hok : Guarded s i) : Readable (step s i) := by
  unfold step
  rw [if_neg hs.defined]
  cases i with
  | arrival action => exact arrive_readable hs action
  | callback now => exact accept_readable hs hok
  | cancellation => exact cancel_readable hs hok
  | worker a => exact work_readable hs a hok
  | thread k => exact reportStep_readable hs k

theorem run_readable (t : ℤ) {is : List HandlerInput} (hok : Meets step Guarded (initial t) is) :
    Readable (run step (initial t) is) := by
  have hstep : ∀ s i, Readable s → Guarded s i → Readable (step s i) := fun s i hs hok => step_readable hs hok
  exact hok.invariant hstep (readable_initial t)

/-- **Every `back()` is of a non-empty vector** in every guarded run. -/
theorem accesses_defined (t : ℤ) (is : List HandlerInput) (hok : Meets step Guarded (initial t) is) :
    ¬ (run step (initial t) is).undefined :=
  (run_readable t hok).defined

/-- An action with one stage is cancelled while the stage is waited for, and ends. -/
def cancelledAction : List HandlerInput :=
  [.arrival ⟨1⟩, .callback 0, .callback 0] ++
    List.replicate 12 (.worker { metadata := { stages := [.onTimeout] } }) ++
    [.thread 0, .cancellation, .cancellation] ++ List.replicate 12 (.worker {}) ++ List.replicate 4 (.thread 0) ++
    List.replicate 8 (.worker {})

theorem accesses_defined_cancelledAction : ¬ (run step (initial 60000000000) cancelledAction).undefined :=
  accesses_defined 60000000000 cancelledAction (by decide)

/-- A cancellation before any action. -/
theorem cancellation_reads_empty : (run step (initial 60000000000) [.cancellation]).undefined := by decide

end CustomActionHandler

end AutopilotManager
