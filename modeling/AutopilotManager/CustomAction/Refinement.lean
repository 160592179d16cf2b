import AutopilotManager.CustomAction.Handler

/-!
# CustomAction.Refinement — the handler is its queue, and executes in order

What the callback for an action and the worker do to `_actions` and to the flag is a run of the queue machine, whatever
the other threads do meanwhile: the callback takes two accesses for what is one step there, and the worker the more the
longer its call takes.  The actions are accepted one after the other, and no call is for an action that has been
executed, or passed over, before.
-/

namespace AutopilotManager

open Lib

/-! ### The order of the queue -/

namespace ActionQueue

/-- What is processed next is newer than what has been processed; the action that is being processed may still be in
the queue. -/
structure Ordered (s : ActionQueue) : Prop where
  queued : ∀ a ∈ s.actions, a.number ≤ s.accepted
  processed : ∀ n ∈ s.processed, n ≤ s.accepted
  newer : s.worker ≠ .processing → ∀ a ∈ s.actions, ∀ n ∈ s.processed, n < a.number
  decreasing : s.processed.Pairwise (· > ·)

variable {s : ActionQueue}

theorem ordered_initial (t : ℤ) : Ordered (initial t) where
  queued := by simp [initial]
  processed := by simp [initial]
  newer := by simp [initial]
  decreasing := .nil

theorem arrive_ordered (hs : Ordered s) (action : ActionToExecute) (now : ℤ) : Ordered (s.arrive action now) := by
  unfold arrive
  split_ifs
  · exact hs
  · refine ⟨?_, fun n hn => Nat.le_succ_of_le (hs.processed n hn), fun hworker => ?_, hs.decreasing⟩
    · exact List.forall_mem_cons.mpr ⟨le_refl _, fun a ha => Nat.le_succ_of_le (hs.queued a ha)⟩
    · exact List.forall_mem_cons.mpr ⟨fun n hn => Nat.lt_succ_of_le (hs.processed n hn), hs.newer hworker⟩

theorem work_ordered (hs : Ordered s) : Ordered s.work := by
  unfold work
  cases hw : s.worker with
  | top =>
    dsimp only
    split_ifs
    · exact ⟨hs.queued, hs.processed, fun _ => hs.newer (by simp [hw]), hs.decreasing⟩
    · exact hs
  | called =>
    have hnewer := hs.newer (by simp [hw])
    cases hactions : s.actions with
    | nil => exact ⟨by simp, hs.processed, by simp, hs.decreasing⟩
    | cons a rest =>
      have ha : a ∈ s.actions := by simp [hactions]
      have hqueued : ∀ x ∈ a :: rest, x.number ≤ s.accepted := by
        rw [← hactions]
        exact hs.queued
      refine ⟨hqueued, List.forall_mem_cons.mpr ⟨hs.queued a ha, hs.processed⟩, fun h => absurd rfl h, ?_⟩
      exact List.pairwise_cons.mpr ⟨hnewer a ha, hs.decreasing⟩
  | processing => exact ⟨by simp, hs.processed, by simp, hs.decreasing⟩
  | cleared => exact ⟨hs.queued, hs.processed, fun _ => hs.newer (by simp [hw]), hs.decreasing⟩
  | undefined => exact hs

theorem step_ordered (s : ActionQueue) (i : QueueInput) (hs : Ordered s) : Ordered (s.step i) := by
  cases i with
  | arrival action now => exact arrive_ordered hs action now
  | store =>
    show Ordered s.storeFlag
    unfold storeFlag
    cases s.callback with
    | none => exact hs
    | some now => exact ⟨hs.queued, hs.processed, hs.newer, hs.decreasing⟩
  | worker => exact work_ordered hs

/-- **In order, and once each**, in every run. -/
theorem run_ordered (t : ℤ) (is : List QueueInput) : Ordered (run step (initial t) is) :=
  run_invariant step_ordered (ordered_initial t) is

end ActionQueue

/-! ### What the handler does to the queue -/

/-- Where the worker of the handler is in the loop of the queue. -/
def ActionWorker.inQueue : ActionWorker → Worker
  | top => .top
  | called => .called
  | testComplete | testSuccess | setUnknown | join | done => .cleared
  | _ => .processing

/-- The time of a callback that has pushed and not yet stored the flag. -/
def Arrival.stored : Arrival → Option ℤ
  | store now => some now
  | _ => none

namespace CustomActionHandler

/-- The actions that `process_custom_action` has been called with, newest first. -/
def executed (s : CustomActionHandler) : List ActionToExecute :=
  if s.worker.isProcessing then s.call.action :: s.past.map ActionCall.action else s.past.map ActionCall.action

/-- The newest action in the queue has the same identifier. -/
def isDuplicate (action : ActionToExecute) (s : CustomActionHandler) : Bool :=
  s.actions.head?.any fun a => a.id = action.id

/-- What an access of a party is for the queue; most are nothing, and so is a read of an empty vector. -/
def queueAccess (s : CustomActionHandler) : HandlerInput → List QueueInput
  | .callback now =>
    match s.arrival with
    | .idle => []
    | .compare action => if s.isDuplicate action then [.arrival action now] else []
    | .push action => [.arrival action now]
    | .store _ => [.store]
  | .worker _ =>
    match s.worker with
    | .top | .executing _ .clear | .done => [.worker]
    | .called => if s.actions = [] then [] else [.worker]
    | _ => []
  | _ => []

/-- The action that an access accepts. -/
def acceptance (s : CustomActionHandler) : HandlerInput → List ActionToExecute
  | .callback now =>
    match s.arrival with
    | .push action => if s.isTooEarly now then [] else [action]
    | _ => []
  | _ => []

/-- The run of the queue in a run of the handler. -/
def queueInputs (s : CustomActionHandler) (is : List HandlerInput) : List QueueInput :=
  emitted step (fun s i => if s.undefined then [] else s.queueAccess i) s is

/-- The accepted actions, oldest first. -/
def acceptedActions (s : CustomActionHandler) (is : List HandlerInput) : List ActionToExecute :=
  emitted step (fun s i => if s.undefined then [] else s.acceptance i) s is

end CustomActionHandler

/-- The action with this number among the accepted ones. -/
def IsNumber (accepted : List ActionToExecute) (n : ℕ) (action : ActionToExecute) : Prop :=
  ∃ k, n = k + 1 ∧ accepted[k]? = some action

/-- The handler is at the queue `q` after it has accepted these actions.  Where the callback is about to push, it has
compared the action with the newest one in the queue, or there was none. -/
structure QueueOf (accepted : List ActionToExecute) (s : CustomActionHandler) (q : ActionQueue) : Prop where
  actions : s.actions = q.actions.map AcceptedAction.action
  newAction : q.newAction = s.newAction
  worker : q.worker = s.worker.inQueue
  callback : q.callback = s.arrival.stored
  startTime : q.startTime = s.startTime
  newActionTime : q.newActionTime = s.newActionTime
  count : q.accepted = accepted.length
  numbered : ∀ a ∈ q.actions, IsNumber accepted a.number a.action
  processed : List.Forall₂ (IsNumber accepted) q.processed s.executed
  compared : ∀ action, s.arrival = .push action → ¬ s.isDuplicate action

/-! ### The accesses aside -/

namespace CustomActionHandler

/-- The queue and its parties are where they were. -/
structure KeepsQueue (s s' : CustomActionHandler) : Prop where
  actions : s'.actions = s.actions
  newAction : s'.newAction = s.newAction
  worker : s'.worker.inQueue = s.worker.inQueue
  arrival : s'.arrival = s.arrival
  startTime : s'.startTime = s.startTime
  newActionTime : s'.newActionTime = s.newActionTime
  executed : s'.executed = s.executed

variable {s s' : CustomActionHandler}

theorem KeepsQueue.refl (s : CustomActionHandler) : KeepsQueue s s := ⟨rfl, rfl, rfl, rfl, rfl, rfl, rfl⟩

theorem back_keepsQueue {α : Type} {v : List α} {f : α → CustomActionHandler} (hf : ∀ x, KeepsQueue s (f x)) :
    KeepsQueue s (s.back v f) :=
  back_induction ⟨rfl, rfl, rfl, rfl, rfl, rfl, rfl⟩ fun x _ => hf x

/-- The times of the callback. -/
def times (s : CustomActionHandler) : ℤ × ℤ := (s.startTime, s.newActionTime)

theorem times_execute (m : ActionMetadata) (a : Answer) (e : Execute) (s : CustomActionHandler) :
    (s.execute m a e).times = s.times := by
  have hback : ∀ {α : Type} {v : List α} {f : α → CustomActionHandler}, (∀ x, (f x).times = s.times) →
      (s.back v f).times = s.times := fun hf => back_induction (P := fun s' => s'.times = s.times) rfl fun x _ => hf x
  cases e with
  | stage i | script =>
    rw [execute]
    repeat' split
    all_goals rfl
  | wait i =>
    rw [execute, waitStage]
    split <;> rfl
  | outcome rs =>
    cases rs with
    | nil => rfl
    | cons r rs => exact hback fun _ => rfl
  | failed | setInProgress i | setSuccess i | setResult r | setProgress i | setComplete | printStage i | printFailed
  | printId i | printProgress i | printOutcome | testProgress i | testScript => exact hback fun _ => rfl
  | _ => rfl

/-- Before the queue is cleared the call changes nothing of it. -/
theorem execute_keepsQueue {m : ActionMetadata} {e : Execute} (a : Answer) (hw : s.worker = .executing m e)
    (he : e ≠ .clear) : KeepsQueue s (s.execute m a e) := by
  have hexecutes := execute_executes a hw he
  obtain ⟨e', hworker, -⟩ := hexecutes.worker
  have htimes := times_execute m a e s
  refine ⟨hexecutes.actions, hexecutes.newAction, ?_, hexecutes.arrival, congrArg Prod.fst htimes,
    congrArg Prod.snd htimes, ?_⟩
  · rw [hworker, hw]
    rfl
  · rw [executed, executed, hworker, hw, hexecutes.action, hexecutes.past]
    rfl

theorem goto_keepsQueue {next : ActionWorker} (hworker : next.inQueue = s.worker.inQueue)
    (hprocessing : next.isProcessing = s.worker.isProcessing) : KeepsQueue s (s.goto next) := by
  refine ⟨rfl, rfl, hworker, rfl, rfl, rfl, ?_⟩
  show (if next.isProcessing then _ else _) = _
  rw [hprocessing]
  rfl

/-- An access of the worker that is nothing for the queue. -/
theorem work_keepsQueue {a : Answer} (hnone : s.queueAccess (.worker a) = []) : KeepsQueue s (s.work a) := by
  unfold queueAccess at hnone
  cases hw : s.worker with
  | top | done => simp [hw] at hnone
  | called =>
    -- the read of an empty queue ends the run and moves nothing
    have hempty : s.actions = [] := by simpa [hw] using hnone
    rw [work, hw]
    exact back_induction ⟨rfl, rfl, rfl, rfl, rfl, rfl, rfl⟩ fun x hx => by simp [hempty] at hx
  | executing m e =>
    rw [work, hw]
    refine execute_keepsQueue a hw ?_
    rintro rfl
    simp [hw] at hnone
  | fetching | pushResult | pushProgress | spawn action =>
    rw [work, hw]
    refine ⟨rfl, rfl, by rw [hw]; rfl, rfl, rfl, rfl, ?_⟩
    rw [executed, executed, hw]
    rfl
  | printId | printProgress | copyAction | enter =>
    rw [work, hw]
    exact back_keepsQueue fun _ => goto_keepsQueue (by rw [hw]; rfl) (by rw [hw]; rfl)
  | testComplete | testSuccess =>
    rw [work, hw]
    refine back_keepsQueue fun _ => ?_
    split_ifs <;> exact goto_keepsQueue (by rw [hw]; rfl) (by rw [hw]; rfl)
  | setUnknown =>
    rw [work, hw]
    refine back_keepsQueue fun _ => ⟨rfl, rfl, by rw [hw]; rfl, rfl, rfl, rfl, ?_⟩
    rw [executed, executed, hw]
    rfl
  | join =>
    rw [work, hw]
    refine back_keepsQueue fun t => ?_
    split_ifs
    · refine ⟨rfl, rfl, by rw [hw]; rfl, rfl, rfl, rfl, ?_⟩
      rw [executed, executed, hw]
      rfl
    · exact .refl s

end CustomActionHandler

/-! ### One access -/

theorem IsNumber.mono {accepted : List ActionToExecute} {n : ℕ} {action : ActionToExecute}
    (h : IsNumber accepted n action) (more : List ActionToExecute) : IsNumber (accepted ++ more) n action := by
  obtain ⟨k, rfl, haction⟩ := h
  refine ⟨k, rfl, ?_⟩
  rw [List.getElem?_append_left (List.getElem?_eq_some_iff.mp haction).1]
  exact haction

section Access

variable {accepted : List ActionToExecute} {s s' : CustomActionHandler} {q : ActionQueue}

theorem QueueOf.keeps (h : QueueOf accepted s q) (hkeeps : s.KeepsQueue s') : QueueOf accepted s' q where
  actions := hkeeps.actions.trans h.actions
  newAction := h.newAction.trans hkeeps.newAction.symm
  worker := h.worker.trans hkeeps.worker.symm
  callback := by rw [h.callback, hkeeps.arrival]
  startTime := h.startTime.trans hkeeps.startTime.symm
  newActionTime := h.newActionTime.trans hkeeps.newActionTime.symm
  count := h.count
  numbered := h.numbered
  processed := by
    rw [hkeeps.executed]
    exact h.processed
  compared action hpush := by
    rw [CustomActionHandler.isDuplicate, hkeeps.actions]
    exact h.compared action (hkeeps.arrival.symm.trans hpush)

theorem QueueOf.isDuplicate_eq (h : QueueOf accepted s q) (action : ActionToExecute) :
    q.isDuplicate action = s.isDuplicate action := by
  rw [ActionQueue.isDuplicate, CustomActionHandler.isDuplicate, h.actions, List.head?_map, Option.any_map]

theorem QueueOf.isTooEarly_eq (h : QueueOf accepted s q) (now : ℤ) : q.isTooEarly now = s.isTooEarly now := by
  rw [ActionQueue.isTooEarly, CustomActionHandler.isTooEarly, h.startTime, h.newActionTime]

/-- The callback moves on without an action. -/
theorem QueueOf.moves (h : QueueOf accepted s q) {arrival : Arrival} (hbefore : s.arrival.stored = none)
    (hafter : arrival.stored = none) (hcompared : ∀ action, arrival = .push action → ¬ s.isDuplicate action) :
    QueueOf accepted { s with arrival } q :=
  ⟨h.actions, h.newAction, h.worker, by rw [h.callback, hbefore, hafter], h.startTime, h.newActionTime, h.count,
    h.numbered, h.processed, hcompared⟩

theorem arrive_queueOf (h : QueueOf accepted s q) (action : ActionToExecute) : QueueOf accepted (s.arrive action) q := by
  unfold CustomActionHandler.arrive
  split_ifs with hbusy hempty
  · exact h
  · refine h.moves (by rw [not_not.mp hbusy]; rfl) rfl fun action hpush => ?_
    simp [CustomActionHandler.isDuplicate, hempty]
  · exact h.moves (by rw [not_not.mp hbusy]; rfl) rfl (by simp)

/-- What the queue discards as well. -/
theorem QueueOf.arrive_eq (h : QueueOf accepted s q) {action : ActionToExecute} {now : ℤ}
    (hdiscards : s.isDuplicate action ∨ s.isTooEarly now) : q.arrive action now = q := by
  refine if_pos ?_
  rw [ActionQueue.discards, h.isDuplicate_eq, h.isTooEarly_eq]
  rcases hdiscards with h | h <;> simp [h]

/-- The callback pushes the action under the next number. -/
theorem push_queueOf (h : QueueOf accepted s q) {action : ActionToExecute} {now : ℤ} (hpush : s.arrival = .push action)
    (hintime : ¬ s.isTooEarly now) :
    QueueOf (accepted ++ [action]) { s with actions := action :: s.actions, arrival := .store now }
      (q.arrive action now) := by
  have hpushes : ¬ (q.callback.isSome || q.discards action now) := by
    rw [h.callback, hpush, ActionQueue.discards, h.isDuplicate_eq, h.isTooEarly_eq]
    simp [Arrival.stored, h.compared action hpush, hintime]
  rw [ActionQueue.arrive, if_neg hpushes]
  refine ⟨?_, h.newAction, h.worker, rfl, h.startTime, h.newActionTime, ?_, ?_, ?_, by simp⟩
  · rw [List.map_cons, ← h.actions]
  · rw [List.length_append, ← h.count]
    rfl
  · refine List.forall_mem_cons.mpr ⟨⟨accepted.length, by rw [h.count], by simp⟩, fun a ha => ?_⟩
    exact (h.numbered a ha).mono [action]
  · exact h.processed.imp fun n a hn => hn.mono [action]

/-- The callback is one step of the queue: it discards the action, or pushes it. -/
theorem accept_queueOf (h : QueueOf accepted s q) (now : ℤ) :
    QueueOf (accepted ++ s.acceptance (.callback now)) (s.accept now)
      (run ActionQueue.step q (s.queueAccess (.callback now))) := by
  unfold CustomActionHandler.acceptance CustomActionHandler.queueAccess CustomActionHandler.accept
  cases harrival : s.arrival with
  | idle =>
    rw [List.append_nil]
    exact h
  | compare action =>
    -- a duplicate is discarded at this access, all else only at the next
    have hrun : run ActionQueue.step q (if s.isDuplicate action then [.arrival action now] else []) = q := by
      split_ifs with hduplicate
      · exact h.arrive_eq (.inl hduplicate)
      · rfl
    dsimp only
    rw [List.append_nil, hrun]
    refine CustomActionHandler.back_induction (P := fun s' => QueueOf accepted s' q)
      (h.keeps ⟨rfl, rfl, rfl, rfl, rfl, rfl, rfl⟩) fun x hx => ?_
    refine h.moves (by rw [harrival]; rfl) (by split_ifs <;> rfl) fun action' hpush => ?_
    split_ifs at hpush with hdiffers
    obtain rfl : action = action' := Arrival.push.inj hpush
    simpa [CustomActionHandler.isDuplicate, Option.mem_def.mp hx] using hdiffers
  | push action =>
    dsimp only
    split_ifs with hearly
    · rw [List.append_nil]
      -- too early: the machine discards the action in one step with the comparison
      show QueueOf accepted _ (q.arrive action now)
      rw [h.arrive_eq (.inr hearly)]
      exact h.moves (by rw [harrival]; rfl) rfl (by simp)
    · exact push_queueOf h harrival hearly
  | store time =>
    have hstore : q.storeFlag = { q with newAction := true, newActionTime := time, callback := none } := by
      rw [ActionQueue.storeFlag, h.callback, harrival]
      rfl
    rw [List.append_nil]
    show QueueOf accepted _ q.storeFlag
    rw [hstore]
    exact ⟨h.actions, rfl, h.worker, rfl, h.startTime, rfl, h.count, h.numbered, h.processed, by simp⟩

/-- The worker reads the newest action in the queue, with its number. -/
theorem read_queueOf (h : QueueOf accepted s q) (hcalled : s.worker = .called) {action : ActionToExecute}
    (hread : action ∈ s.actions.head?) :
    QueueOf accepted { s with worker := .fetching, call := { action } } q.work := by
  have hworker : q.worker = .called := by rw [h.worker, hcalled]; rfl
  have hactions := h.actions
  have hprocessed := h.processed
  rw [CustomActionHandler.executed, hcalled] at hprocessed
  cases hqueue : q.actions with
  | nil => simp [hactions, hqueue] at hread
  | cons a rest =>
    obtain rfl : a.action = action := by simpa [hactions, hqueue] using hread
    have hwork : q.work = { q with worker := .processing, processed := a.number :: q.processed } := by
      simp only [ActionQueue.work, hworker, hqueue]
    rw [hwork]
    exact ⟨hactions, h.newAction, rfl, h.callback, h.startTime, h.newActionTime, h.count, h.numbered,
      .cons (h.numbered a (by simp [hqueue])) hprocessed, h.compared⟩

theorem work_queueOf (h : QueueOf accepted s q) (a : Answer) :
    QueueOf accepted (s.work a) (run ActionQueue.step q (s.queueAccess (.worker a))) := by
  -- only four accesses of the worker are steps of the queue machine
  by_cases hnone : s.queueAccess (.worker a) = []
  · rw [hnone]
    exact h.keeps (CustomActionHandler.work_keepsQueue hnone)
  have hworker := h.worker
  have hexecuted : ∀ executed, s.executed = executed → List.Forall₂ (IsNumber accepted) q.processed executed := by
    rintro _ rfl
    exact h.processed
  unfold CustomActionHandler.queueAccess at hnone ⊢
  cases hw : s.worker with
  | top =>
    rw [hw] at hworker
    show QueueOf accepted (s.work a) q.work
    rw [CustomActionHandler.work, hw, ActionQueue.work, hworker, ← h.newAction]
    split_ifs
    · exact ⟨h.actions, h.newAction, rfl, h.callback, h.startTime, h.newActionTime, h.count, h.numbered,
        hexecuted _ (by rw [CustomActionHandler.executed, hw]; rfl), h.compared⟩
    · exact h
  | called =>
    have hany : s.actions ≠ [] := by simpa [hw] using hnone
    dsimp only
    rw [if_neg hany, CustomActionHandler.work, hw]
    exact CustomActionHandler.back_of_ne_nil (P := fun s' => QueueOf accepted s' q.work) hany fun x hx =>
      read_queueOf h hw hx
  | executing m e =>
    cases e with
    | clear =>
      rw [hw] at hworker
      show QueueOf accepted (s.work a) q.work
      rw [CustomActionHandler.work, hw, ActionQueue.work, hworker]
      exact ⟨rfl, h.newAction, rfl, h.callback, h.startTime, h.newActionTime, h.count,
        fun a ha => absurd ha List.not_mem_nil, hexecuted _ (by rw [CustomActionHandler.executed, hw]; rfl),
        fun _ _ => Bool.false_ne_true⟩
    | _ => exact absurd (by rw [hw]) hnone
  | done =>
    rw [hw] at hworker
    show QueueOf accepted (s.work a) q.work
    rw [CustomActionHandler.work, hw, ActionQueue.work, hworker]
    exact ⟨h.actions, rfl, rfl, h.callback, h.startTime, h.newActionTime, h.count, h.numbered,
      hexecuted _ (by rw [CustomActionHandler.executed, hw]; rfl), h.compared⟩
  | _ => exact absurd (by rw [hw]) hnone

theorem access_queueOf (h : QueueOf accepted s q) (i : HandlerInput) :
    QueueOf (accepted ++ s.acceptance i) (s.access i) (run ActionQueue.step q (s.queueAccess i)) := by
  have haside (hnone : s.acceptance i = [] ∧ s.queueAccess i = []) (hafter : QueueOf accepted (s.access i) q) :
      QueueOf (accepted ++ s.acceptance i) (s.access i) (run ActionQueue.step q (s.queueAccess i)) := by
    rw [hnone.1, hnone.2, List.append_nil]
    exact hafter
  cases i with
  | arrival action => exact haside ⟨rfl, rfl⟩ (arrive_queueOf h action)
  | callback now => exact accept_queueOf h now
  | cancellation =>
    refine haside ⟨rfl, rfl⟩ (h.keeps ?_)
    show s.KeepsQueue s.cancel
    unfold CustomActionHandler.cancel
    split_ifs
    · exact ⟨rfl, rfl, rfl, rfl, rfl, rfl, rfl⟩
    · exact CustomActionHandler.back_keepsQueue fun _ => ⟨rfl, rfl, rfl, rfl, rfl, rfl, rfl⟩
  | worker a =>
    show QueueOf (accepted ++ []) _ _
    rw [List.append_nil]
    exact work_queueOf h a
  | thread k =>
    refine haside ⟨rfl, rfl⟩ (h.keeps ?_)
    have hreported := CustomActionHandler.reportStep_reported k s
    rw [CustomActionHandler.access]
    generalize s.reportStep k = s' at hreported ⊢
    cases hreported <;> exact ⟨rfl, rfl, rfl, rfl, rfl, rfl, rfl⟩

/-- **One step of the handler** is what it is for the queue. -/
theorem step_queueOf (h : QueueOf accepted s q) (i : HandlerInput) :
    QueueOf (accepted ++ if s.undefined then [] else s.acceptance i) (s.step i)
      (run ActionQueue.step q (if s.undefined then [] else s.queueAccess i)) := by
  unfold CustomActionHandler.step
  split_ifs
  · rw [List.append_nil]
    exact h
  · exact access_queueOf h i

end Access

/-! ### Runs -/

theorem queueOf_initial (t : ℤ) : QueueOf [] (.initial t) (.initial t) :=
  ⟨rfl, rfl, rfl, rfl, rfl, rfl, rfl, by simp [ActionQueue.initial], .nil, by simp [CustomActionHandler.initial]⟩

theorem run_queueOf (t : ℤ) (is : List HandlerInput) :
    QueueOf (CustomActionHandler.acceptedActions (.initial t) is) (run CustomActionHandler.step (.initial t) is)
      (run ActionQueue.step (.initial t) (CustomActionHandler.queueInputs (.initial t) is)) := by
  induction is using List.reverseRecOn with
  | nil => exact queueOf_initial t
  | append_singleton is i ih =>
    rw [run_concat, CustomActionHandler.acceptedActions, CustomActionHandler.queueInputs, emitted_concat,
      emitted_concat, run_append]
    exact step_queueOf ih i

/-- Elements at decreasing places are, the other way round, a part of the list. -/
theorem sublist_of_isNumber {accepted as : List ActionToExecute} {ns : List ℕ}
    (hnumbers : List.Forall₂ (IsNumber accepted) ns as) (hdecreasing : ns.Pairwise (· > ·)) :
    as.reverse.Sublist accepted := by
  induction ns generalizing accepted as with
  | nil =>
    cases hnumbers
    exact List.nil_sublist _
  | cons n ns ih =>
    obtain ⟨hbelow, hrest⟩ := List.pairwise_cons.mp hdecreasing
    cases hnumbers with
    | cons hn hns =>
      rename_i a as
      obtain ⟨k, rfl, ha⟩ := hn
      have hbefore : List.Forall₂ (IsNumber (accepted.take k)) ns as := by
        refine ((List.forall₂_and_left ns as).mpr ⟨hbelow, hns⟩).imp ?_
        rintro _ b ⟨hlt, j, rfl, hb⟩
        exact ⟨j, rfl, by rw [List.getElem?_take_of_lt (by omega), hb]⟩
      have hsplit : accepted = accepted.take k ++ accepted.drop k := (List.take_append_drop k accepted).symm
      have hmem : a ∈ accepted.drop k := by
        refine List.mem_of_getElem? (i := 0) ?_
        rw [List.getElem?_drop, Nat.add_zero, ha]
      rw [List.reverse_cons, hsplit]
      exact (ih hbefore hrest).append (List.singleton_sublist.mpr hmem)

/-! ### Undisturbed runs -/

namespace CustomActionHandler

/-- While the worker is between its read and the clearing of the queue nothing is pushed, and no flag is stored for an
action in the queue while the worker is between the clearing of the queue and of the flag. -/
def Undisturbed (s : CustomActionHandler) : HandlerInput → Prop
  | .callback now =>
    match s.arrival with
    | .idle | .compare _ => True
    | .push _ => ¬ s.isTooEarly now → s.worker.inQueue ≠ .processing
    | .store _ => s.worker.inQueue = .cleared → s.actions = []
  | _ => True

instance (s : CustomActionHandler) (i : HandlerInput) : Decidable (s.Undisturbed i) :=
  match i with
  | .callback now =>
    match hs : s.arrival with
    | .idle | .compare _ => .isTrue (by rw [Undisturbed, hs]; trivial)
    | .push _ => decidable_of_iff (¬ s.isTooEarly now → s.worker.inQueue ≠ .processing) (by rw [Undisturbed, hs])
    | .store _ => decidable_of_iff (s.worker.inQueue = .cleared → s.actions = []) (by rw [Undisturbed, hs])
  | .arrival _ | .cancellation | .worker _ | .thread _ => .isTrue trivial

end CustomActionHandler

section Undisturbed

variable {accepted : List ActionToExecute} {s : CustomActionHandler} {q : ActionQueue} {i : HandlerInput}

/-- What is undisturbed for the handler does not overlap for the queue. -/
theorem QueueOf.noOverlap (h : QueueOf accepted s q) (hok : s.Undisturbed i) :
    Meets ActionQueue.step ActionQueue.NoOverlap q (s.queueAccess i) := by
  have hempty : s.actions = [] → q.actions = [] := fun hactions => by
    rw [h.actions] at hactions
    exact List.map_eq_nil_iff.mp hactions
  unfold CustomActionHandler.Undisturbed at hok
  unfold CustomActionHandler.queueAccess
  cases i with
  | callback now =>
    cases harrival : s.arrival with
    | idle => trivial
    | compare action =>
      dsimp only
      split_ifs with hduplicate
      · -- a repetition is discarded, so nothing is pushed
        refine ⟨fun _ hkeeps => absurd ?_ hkeeps, trivial⟩
        rw [ActionQueue.discards, h.isDuplicate_eq, hduplicate, Bool.true_or]
      · trivial
    | push action =>
      rw [harrival] at hok
      refine ⟨fun _ hkeeps => ?_, trivial⟩
      rw [h.worker]
      refine hok fun hearly => hkeeps ?_
      rw [ActionQueue.discards, h.isTooEarly_eq, hearly, Bool.or_true]
    | store time =>
      rw [harrival] at hok
      refine ⟨fun _ hcleared => hempty (hok ?_), trivial⟩
      rw [← h.worker]
      exact hcleared
  | worker a =>
    have hworker := h.worker
    dsimp only
    cases hw : s.worker with
    | called =>
      dsimp only
      split_ifs with hnone
      · trivial
      · refine ⟨fun _ hqueue => hnone ?_, trivial⟩
        rw [h.actions, hqueue]
        rfl
    | top | done =>
      rw [hw] at hworker
      exact ⟨fun hcalled => by simp [hworker, ActionWorker.inQueue] at hcalled, trivial⟩
    | executing m e =>
      rw [hw] at hworker
      cases e with
      | clear => exact ⟨fun hcalled => by simp [hworker, ActionWorker.inQueue] at hcalled, trivial⟩
      | _ => trivial
    | _ => trivial
  | _ => trivial

/-- At rest, when the newest accepted action has been processed, it is the newest that has been executed. -/
theorem QueueOf.newest_executed (h : QueueOf accepted s q) (hordered : q.Ordered)
    (hserved : q.accepted = 0 ∨ q.accepted ∈ q.processed) : s.executed.head? = accepted.getLast? := by
  have hprocessed := h.processed
  have hcount := h.count
  cases hns : q.processed with
  | nil =>
    rw [hns] at hprocessed hserved
    have hnone : accepted = [] := by simpa [hcount] using hserved
    cases hexecuted : s.executed with
    | nil => rw [hnone]; rfl
    | cons a as =>
      rw [hexecuted] at hprocessed
      cases hprocessed
  | cons n ns =>
    have hdecreasing := hordered.decreasing
    have hn := hordered.processed n (by simp [hns])
    rw [hns] at hprocessed hserved hdecreasing
    -- the numbers fall, so the newest one can only stand first
    have hnewest : n = q.accepted := by
      rcases hserved with hnone | hmem
      · omega
      · rcases List.mem_cons.mp hmem with hhead | htail
        · exact hhead.symm
        · have hlater := (List.pairwise_cons.mp hdecreasing).1 _ htail
          omega
    cases hexecuted : s.executed with
    | nil =>
      rw [hexecuted] at hprocessed
      cases hprocessed
    | cons a as =>
      rw [hexecuted] at hprocessed
      obtain ⟨⟨k, hk, ha⟩, -⟩ := List.forall₂_cons.mp hprocessed
      rw [List.getLast?_eq_getElem?, ← hcount, ← hnewest, hk, Nat.add_sub_cancel, ha]
      rfl

end Undisturbed

namespace CustomActionHandler

/-- A condition on the accesses of the queue is met by its run, if every access of the handler meets it. -/
theorem meets_queueInputs {Ok : CustomActionHandler → HandlerInput → Prop} {Ok' : ActionQueue → QueueInput → Prop}
    (haccess : ∀ {accepted s q i}, QueueOf accepted s q → Ok s i → Meets ActionQueue.step Ok' q (s.queueAccess i)) (t : ℤ)
    {is : List HandlerInput} (hok : Meets step Ok (.initial t) is) :
    Meets ActionQueue.step Ok' (.initial t) (queueInputs (.initial t) is) := by
  induction is using List.reverseRecOn with
  | nil => trivial
  | append_singleton is i ih =>
    obtain ⟨hbefore, hlast⟩ := meets_concat.mp hok
    rw [queueInputs, emitted_concat]
    refine meets_append.mpr ⟨ih hbefore, ?_⟩
    split_ifs
    · trivial
    · exact haccess (run_queueOf t is) hlast

theorem noOverlap_queueInputs (t : ℤ) {is : List HandlerInput} (hok : Meets step Undisturbed (.initial t) is) :
    Meets ActionQueue.step ActionQueue.NoOverlap (.initial t) (queueInputs (.initial t) is) :=
  meets_queueInputs (fun h hok => h.noOverlap hok) t hok

/-- After an undisturbed run nothing is left to be executed where the flag is not set, and is not about to be. -/
theorem executed_of_rest (t : ℤ) (is : List HandlerInput) (hok : Meets step Undisturbed (.initial t) is)
    (hflag : ¬ (run step (.initial t) is).newAction) (hidle : (run step (.initial t) is).arrival.stored = none) :
    (run step (.initial t) is).executed.head? = (acceptedActions (.initial t) is).getLast? := by
  have hqueue := run_queueOf t is
  refine hqueue.newest_executed (ActionQueue.run_ordered t _) ?_
  have hinv := ActionQueue.run_inv t (noOverlap_queueInputs t hok)
  refine hinv.served.imp_right fun hserved => hserved.resolve_right fun hwaiting => ?_
  rcases hwaiting.called with hcalled | hcallback
  · rw [hqueue.newAction] at hcalled
    exact hflag hcalled
  · exact hcallback (hqueue.callback.trans hidle)

/-- **The handler refines its queue, and executes in order**: in every run the queue, the flag and the two parties at it
are those of a run of the queue machine, and the actions that have been executed are, in their order, among the accepted
ones, each of which is executed once at most.  After an undisturbed run the last accepted action is the last executed
one, whenever the flag is not set and no callback is about to set it. -/
theorem executes_in_order (t : ℤ) (is : List HandlerInput) :
    let s := run step (.initial t) is
    let accepted := acceptedActions (.initial t) is
    QueueOf accepted s (run ActionQueue.step (.initial t) (queueInputs (.initial t) is)) ∧
      s.executed.reverse.Sublist accepted ∧
      (Meets step Undisturbed (.initial t) is → ¬ s.newAction → s.arrival.stored = none →
        s.executed.head? = accepted.getLast?) := by
  intro s accepted
  have hqueue : QueueOf accepted s (run ActionQueue.step (.initial t) (queueInputs (.initial t) is)) := run_queueOf t is
  have hordered := ActionQueue.run_ordered t (queueInputs (.initial t) is)
  exact ⟨hqueue, sublist_of_isNumber hqueue.processed hordered.decreasing, executed_of_rest t is⟩

/-- The second action arrives while the first is executed. -/
def overlappingActions : List HandlerInput :=
  [.arrival ⟨1⟩, .callback 0, .callback 0, .worker {}, .worker {}, .arrival ⟨2⟩, .callback 2000000000,
    .callback 2000000000, .callback 2000000000] ++ List.replicate 40 (.worker {})

example : acceptedActions (.initial 60000000000) overlappingActions = [⟨1⟩, ⟨2⟩] ∧
    (run step (.initial 60000000000) overlappingActions).executed = [⟨1⟩] := by
  decide +kernel

end CustomActionHandler

end AutopilotManager
