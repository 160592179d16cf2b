import AutopilotManager.CustomAction.Cancellation
import AutopilotManager.CustomAction.Refinement

/-!
# CustomAction.Accepted — what becomes of an accepted action

The worker reads the newest action of the queue and clears the queue at the end of its call, so an action that is not
alone in the queue when it is read is not executed, and neither is one that is pushed during the call.  Where the
actions come one at a time each has its call, and a cancellation stops only the call in which it arrives.
-/

namespace AutopilotManager

open Lib

/-! ### One at a time -/

namespace ActionQueue

/-- An action is pushed only into the empty queue. -/
def FindsEmpty (s : ActionQueue) : QueueInput → Prop
  | .arrival action now => s.callback = none → ¬ s.discards action now → s.actions = []
  | _ => True

/-- The numbers of the first `n` accepted actions, newest first. -/
def countdown : ℕ → List ℕ
  | 0 => []
  | n + 1 => (n + 1) :: countdown n

/-- The action in the queue will be read: the callback has yet to store the flag and the worker to come to the top, or
the flag is stored and the worker has yet to read. -/
def Unread (s : ActionQueue) : Prop :=
  s.callback ≠ none ∧ (s.worker = .cleared ∨ s.worker = .top ∧ ¬ s.newAction) ∨
    s.callback = none ∧ s.newAction ∧ (s.worker = .top ∨ s.worker = .called)

/-- All accepted actions have been processed, or all but the newest, which is alone in the queue. -/
inductive InTurn (s : ActionQueue) : Prop
  | all (processed : s.processed = countdown s.accepted) (callback : s.callback = none)
      (worker : s.worker = .top ∧ ¬ s.newAction ∨ s.worker = .processing ∨ s.worker = .cleared)
      (actions : s.worker ≠ .processing → s.actions = [])
  | last (a : AcceptedAction) (actions : s.actions = [a]) (number : a.number = s.accepted)
      (processed : a.number :: s.processed = countdown s.accepted) (unread : s.Unread)

variable {s : ActionQueue}

theorem inTurn_initial (t : ℤ) : InTurn (initial t) := .all rfl rfl (.inl ⟨rfl, by simp [initial]⟩) fun _ => rfl

theorem arrive_inTurn (hs : InTurn s) {action : ActionToExecute} {now : ℤ} (hok : NoOverlap s (.arrival action now))
    (hempty : FindsEmpty s (.arrival action now)) : InTurn (s.arrive action now) := by
  unfold arrive
  split_ifs with hskip
  · exact hs
  · rw [Bool.or_eq_true, not_or] at hskip
    have hidle : s.callback = none := by simpa using hskip.1
    have hnone := hempty hidle hskip.2
    cases hs with
    | all processed callback worker actions =>
      refine .last ⟨s.accepted + 1, action⟩ (by simp [hnone]) rfl ?_ (.inl ⟨by simp, ?_⟩)
      · show (s.accepted + 1) :: s.processed = countdown (s.accepted + 1)
        rw [processed, countdown]
      · -- a push outside of a call finds the worker at the top, or past the clearing
        rcases worker with htop | hprocessing | hcleared
        · exact .inr htop
        · exact absurd hprocessing (hok hidle hskip.2)
        · exact .inl hcleared
    | last a actions number processed unread =>
      rw [hnone] at actions
      cases actions

theorem storeFlag_inTurn (hs : InTurn s) (hok : NoOverlap s .store) : InTurn s.storeFlag := by
  unfold storeFlag
  cases hcallback : s.callback with
  | none => exact hs
  | some now =>
    have hmid : s.callback ≠ none := by simp [hcallback]
    cases hs with
    | all processed callback worker actions => exact absurd callback hmid
    | last a actions number processed unread =>
      refine .last a actions number processed (.inr ⟨rfl, rfl, ?_⟩)
      rcases unread with ⟨-, hcleared | htop⟩ | ⟨hidle, -⟩
      · have hnone := hok hmid hcleared
        rw [actions] at hnone
        cases hnone
      · exact .inl htop.1
      · exact absurd hidle hmid

theorem work_inTurn (hs : InTurn s) : InTurn s.work := by
  unfold work
  cases hs with
  | all processed callback worker actions =>
    rcases worker with ⟨htop, hflag⟩ | hprocessing | hcleared
    · rw [htop]
      dsimp only
      rw [if_neg hflag]
      exact .all processed callback (.inl ⟨htop, hflag⟩) actions
    · rw [hprocessing]
      exact .all processed callback (.inr (.inr rfl)) fun _ => rfl
    · rw [hcleared]
      exact .all processed callback (.inl ⟨rfl, by simp⟩) fun _ => actions (by simp [hcleared])
  | last a actions number processed unread =>
    rcases unread with ⟨hmid, hcleared | ⟨htop, hflag⟩⟩ | ⟨hidle, hflag, htop | hcalled⟩
    · rw [hcleared]
      exact .last a actions number processed (.inl ⟨hmid, .inr ⟨rfl, by simp⟩⟩)
    · rw [htop]
      dsimp only
      rw [if_neg hflag]
      exact .last a actions number processed (.inl ⟨hmid, .inr ⟨htop, hflag⟩⟩)
    · rw [htop]
      dsimp only
      rw [if_pos hflag]
      exact .last a actions number processed (.inr ⟨hidle, hflag, .inr rfl⟩)
    · -- the read takes the action up
      rw [hcalled, actions]
      exact .all processed hidle (.inr (.inl rfl)) fun h => absurd rfl h

theorem run_inTurn (t : ℤ) {is : List QueueInput} (hok : Meets step NoOverlap (initial t) is)
    (hempty : Meets step FindsEmpty (initial t) is) : InTurn (run step (initial t) is) := by
  induction is using List.reverseRecOn with
  | nil => exact inTurn_initial t
  | append_singleton is input ih =>
    rw [meets_concat] at hok hempty
    have hs := ih hok.1 hempty.1
    rw [run_concat]
    cases input with
    | arrival action now => exact arrive_inTurn hs hok.2 hempty.2
    | store => exact storeFlag_inTurn hs hok.2
    | worker => exact work_inTurn hs

end ActionQueue

/-- The actions with the first `n` numbers are, in order, the first `n` that have been accepted. -/
theorem take_of_isNumber {accepted as : List ActionToExecute} {n : ℕ}
    (hnumbers : List.Forall₂ (IsNumber accepted) (ActionQueue.countdown n) as) : as.reverse = accepted.take n := by
  induction n generalizing as with
  | zero =>
    cases hnumbers
    rfl
  | succ n ih =>
    cases hnumbers with
    | cons hn hns =>
      rename_i a as
      obtain ⟨k, hk, ha⟩ := hn
      obtain rfl : n = k := Nat.succ.inj hk
      rw [List.reverse_cons, ih hns, List.take_add_one, ha]
      rfl

/-! ### The queue of the handler -/

namespace CustomActionHandler

/-- An action is pushed only into the empty queue. -/
def FindsEmpty (s : CustomActionHandler) : HandlerInput → Prop
  | .callback now =>
    match s.arrival with
    | .push _ => ¬ s.isTooEarly now → s.actions = []
    | _ => True
  | _ => True

instance (s : CustomActionHandler) (i : HandlerInput) : Decidable (s.FindsEmpty i) :=
  match i with
  | .callback now =>
    match hs : s.arrival with
    | .push _ => decidable_of_iff (¬ s.isTooEarly now → s.actions = []) (by rw [FindsEmpty, hs])
    | .idle | .compare _ | .store _ => .isTrue (by rw [FindsEmpty, hs]; trivial)
  | .arrival _ | .cancellation | .worker _ | .thread _ => .isTrue trivial

/-- Actions come one at a time: an action is pushed only into the empty queue and not while the worker is between its
read and the clearing of the queue, and no flag is stored for it while the worker is between the clearing of the queue
and of the flag. -/
structure OneAtATime (s : CustomActionHandler) (i : HandlerInput) : Prop where
  undisturbed : s.Undisturbed i
  findsEmpty : s.FindsEmpty i

instance (s : CustomActionHandler) (i : HandlerInput) : Decidable (s.OneAtATime i) :=
  decidable_of_iff (s.Undisturbed i ∧ s.FindsEmpty i) ⟨fun h => ⟨h.1, h.2⟩, fun h => ⟨h.undisturbed, h.findsEmpty⟩⟩

/-- The action is alone in the queue, the flag is stored for it or about to be, and the worker has yet to read. -/
def Awaits (s : CustomActionHandler) (action : ActionToExecute) : Prop :=
  s.actions = [action] ∧ (s.newAction ∨ s.arrival.stored ≠ none) ∧ s.worker.inQueue ≠ .processing

instance (s : CustomActionHandler) (action : ActionToExecute) : Decidable (s.Awaits action) :=
  inferInstanceAs (Decidable (_ ∧ _ ∧ _))

end CustomActionHandler

theorem QueueOf.findsEmpty {accepted : List ActionToExecute} {s : CustomActionHandler} {q : ActionQueue}
    {i : HandlerInput} (h : QueueOf accepted s q) (hok : s.FindsEmpty i) :
    Meets ActionQueue.step ActionQueue.FindsEmpty q (s.queueAccess i) := by
  unfold CustomActionHandler.FindsEmpty at hok
  unfold CustomActionHandler.queueAccess
  cases i with
  | callback now =>
    cases harrival : s.arrival with
    | idle => trivial
    | compare action =>
      dsimp only
      split_ifs with hduplicate
      · refine ⟨fun _ hkeeps => absurd ?_ hkeeps, trivial⟩
        -- a duplicate is no push
        rw [ActionQueue.discards, h.isDuplicate_eq, hduplicate, Bool.true_or]
      · trivial
    | push action =>
      rw [harrival] at hok
      refine ⟨fun _ hkeeps => ?_, trivial⟩
      have hnone : s.actions = [] := by
        refine hok fun hearly => hkeeps ?_
        rw [ActionQueue.discards, h.isTooEarly_eq, hearly, Bool.or_true]
      rw [h.actions] at hnone
      exact List.map_eq_nil_iff.mp hnone
    | store time => exact ⟨trivial, trivial⟩
  | worker a =>
    dsimp only
    cases s.worker with
    | top | done => exact ⟨trivial, trivial⟩
    | called =>
      dsimp only
      split_ifs
      · trivial
      · exact ⟨trivial, trivial⟩
    | executing m e => cases e <;> first | exact ⟨trivial, trivial⟩ | trivial
    | _ => trivial
  | _ => trivial

namespace CustomActionHandler

/-- **One at a time**: each accepted action has had its call, in order, but perhaps the newest, which awaits it. -/
theorem executed_inTurn (t : ℤ) {is : List HandlerInput} (hok : Meets step OneAtATime (initial t) is) :
    let s := run step (initial t) is
    let accepted := acceptedActions (initial t) is
    s.executed.reverse = accepted ∨ ∃ action, accepted = s.executed.reverse ++ [action] ∧ s.Awaits action := by
  intro s accepted
  have hqueue : QueueOf accepted s _ := run_queueOf t is
  have hinv := ActionQueue.run_inTurn t (noOverlap_queueInputs t (hok.mono fun _ _ h => h.undisturbed))
    (meets_queueInputs (fun h hok => h.findsEmpty hok) t (hok.mono fun _ _ h => h.findsEmpty))
  have hall : accepted.take accepted.length = accepted := List.take_length
  generalize run ActionQueue.step (.initial t) (queueInputs (initial t) is) = q at hqueue hinv
  cases hinv with
  | all processed callback worker actions =>
    have hprocessed := hqueue.processed
    rw [processed, hqueue.count] at hprocessed
    exact .inl ((take_of_isNumber hprocessed).trans hall)
  | last a actions number processed unread =>
    -- the newest action is alone in the queue and is the only one that has not been executed
    have hnumbered := hqueue.numbered a (by simp [actions])
    have hprocessed := List.Forall₂.cons hnumbered hqueue.processed
    rw [processed, hqueue.count] at hprocessed
    refine .inr ⟨a.action, ?_, ?_, ?_, ?_⟩
    · rw [← List.reverse_cons, take_of_isNumber hprocessed, hall]
    · rw [hqueue.actions, actions]
      rfl
    · rw [← hqueue.callback, ← hqueue.newAction]
      rcases unread with ⟨hmid, -⟩ | ⟨-, hflag, -⟩
      · exact .inr hmid
      · exact .inl hflag
    · rw [← hqueue.worker]
      rcases unread with ⟨-, hcleared | ⟨htop, -⟩⟩ | ⟨-, -, htop | hcalled⟩
      · simp [hcleared]
      · simp [htop]
      · simp [htop]
      · simp [hcalled]

/-! ### The calls -/

/-- The calls of `process_custom_action`, newest first. -/
def calls (s : CustomActionHandler) : List ActionCall := if s.worker.isProcessing then s.call :: s.past else s.past

variable {s : CustomActionHandler}

theorem executed_eq (s : CustomActionHandler) : s.executed = s.calls.map ActionCall.action := by
  unfold executed calls
  split_ifs <;> rfl

/-- The calls and their cancellations are those of before, but perhaps for a call that has just begun. -/
def Extends (s s' : CustomActionHandler) : Prop :=
  s'.calls.map ActionCall.cancelled = s.calls.map ActionCall.cancelled ∨
    s'.calls.map ActionCall.cancelled = false :: s.calls.map ActionCall.cancelled

/-- The call under way is the same, or there is none. -/
theorem extends_of_same {s' : CustomActionHandler} (hprocessing : s'.worker.isProcessing = s.worker.isProcessing)
    (hcancelled : s'.call.cancelled = s.call.cancelled) (hpast : s'.past = s.past) : s.Extends s' := by
  left
  unfold calls
  rw [hprocessing, hpast]
  split_ifs
  · rw [List.map_cons, List.map_cons, hcancelled]
  · rfl

theorem work_extends (a : Answer) : s.Extends (s.work a) := by
  have hback {α : Type} {v : List α} {f : α → CustomActionHandler} (hf : ∀ x, s.Extends (f x)) :
      s.Extends (s.back v f) := back_induction (extends_of_same rfl rfl rfl) fun x _ => hf x
  unfold work
  cases hw : s.worker with
  | top =>
    dsimp only
    split_ifs <;> exact extends_of_same (by simp [goto, hw, ActionWorker.isProcessing]) rfl rfl
  | called =>
    refine hback fun action => .inr ?_
    simp [calls, hw, ActionWorker.isProcessing]
  | executing m e =>
    by_cases hclear : e = .clear
    · subst hclear
      exact extends_of_same (by rw [hw]; rfl) rfl rfl
    · have hexecutes := execute_executes a hw hclear
      obtain ⟨e', hworker, -⟩ := hexecutes.worker
      exact extends_of_same (by rw [hworker, hw]; rfl) hexecutes.cancelled hexecutes.past
  | fetching | pushResult | pushProgress | spawn action => exact extends_of_same (by rw [hw]; rfl) rfl rfl
  | printId | printProgress | copyAction | enter | setUnknown =>
    exact hback fun x => extends_of_same (by rw [hw]; rfl) rfl rfl
  | testComplete | testSuccess =>
    refine hback fun x => ?_
    split_ifs <;> exact extends_of_same (by rw [hw]; rfl) rfl rfl
  | join =>
    refine hback fun t => ?_
    split_ifs
    · -- the call that returns is the one that was under way
      left
      simp [calls, hw, ActionWorker.isProcessing]
    · exact extends_of_same rfl rfl rfl
  | done => exact extends_of_same (by rw [hw]; rfl) rfl rfl

/-- Without a cancellation nothing is cancelled. -/
theorem step_extends {i : HandlerInput} (hi : i ≠ .cancellation) : s.Extends (s.step i) := by
  refine step_induction (P := s.Extends) (extends_of_same rfl rfl rfl) ?_
  have hback {α : Type} {v : List α} {f : α → CustomActionHandler} (hf : ∀ x, s.Extends (f x)) :
      s.Extends (s.back v f) := back_induction (extends_of_same rfl rfl rfl) fun x _ => hf x
  cases i with
  | cancellation => exact absurd rfl hi
  | worker a => exact work_extends a
  | arrival action =>
    rw [access, arrive]
    split_ifs <;> exact extends_of_same rfl rfl rfl
  | callback now =>
    rw [access, accept]
    cases s.arrival with
    | idle => exact extends_of_same rfl rfl rfl
    | compare action => exact hback fun x => extends_of_same rfl rfl rfl
    | push action =>
      dsimp only
      split_ifs <;> exact extends_of_same rfl rfl rfl
    | store time => exact extends_of_same rfl rfl rfl
  | thread k =>
    have hreported := reportStep_reported k s
    rw [access]
    generalize s.reportStep k = s' at hreported ⊢
    cases hreported <;> exact extends_of_same rfl rfl rfl

/-- The calls that begin after the last cancellation are not cancelled. -/
theorem run_extends (s : CustomActionHandler) {is : List HandlerInput} (his : .cancellation ∉ is) :
    ∃ k, (run step s is).calls.map ActionCall.cancelled =
      List.replicate k false ++ s.calls.map ActionCall.cancelled := by
  induction is using List.reverseRecOn with
  | nil => exact ⟨0, rfl⟩
  | append_singleton is i ih =>
    rw [List.mem_append, not_or, List.mem_singleton] at his
    obtain ⟨k, hk⟩ := ih his.1
    rw [run_concat]
    rcases step_extends (s := run step s is) (Ne.symm his.2) with hsame | hmore
    · exact ⟨k, hsame.trans hk⟩
    · exact ⟨k + 1, by rw [hmore, hk, List.replicate_succ, List.cons_append]⟩

theorem length_calls_le (t : ℤ) (is : List HandlerInput) :
    (run step (initial t) is).calls.length ≤ (acceptedActions (initial t) is).length := by
  have hsublist := sublist_of_isNumber (run_queueOf t is).processed (ActionQueue.run_ordered t _).decreasing
  have hlength := hsublist.length_le
  rwa [List.length_reverse, executed_eq, List.length_map] at hlength

/-- The call of an action accepted after the last cancellation is not cancelled. -/
theorem not_cancelled_of_later (t : ℤ) {before after : List HandlerInput} (hafter : .cancellation ∉ after) {k : ℕ}
    {c : ActionCall} (hlater : (acceptedActions (initial t) before).length ≤ k)
    (hc : (run step (initial t) (before ++ after)).calls.reverse[k]? = some c) : ¬ c.cancelled := by
  obtain ⟨n, hflags⟩ := run_extends (run step (initial t) before) hafter
  rw [← run_append] at hflags
  have hbefore := (length_calls_le t before).trans hlater
  have hflag : ((run step (initial t) (before ++ after)).calls.map ActionCall.cancelled).reverse[k]? =
      some c.cancelled := by
    rw [← List.map_reverse, List.getElem?_map, hc]
    rfl
  rw [hflags, List.reverse_append, List.getElem?_append_right (by simpa using hbefore), List.reverse_replicate] at hflag
  have hmem := List.mem_of_getElem? hflag
  simp [(List.mem_replicate.mp hmem).2]

/-- A cancellation arrives during the call of an action with one stage. -/
def cancelledCall : List HandlerInput := arriving 1 0 ++ beginning ++ [.cancellation, .cancellation]

/-- The call ends, and the next action with one stage has its call. -/
def nextCall : List HandlerInput :=
  .thread 0 :: List.replicate 12 (.worker {}) ++ arriving 2 2000000000 ++ beginning ++ ending

/-- The call of an action with one stage, from its arrival to the return. -/
def firstCall : List HandlerInput := arriving 1 0 ++ beginning ++ ending

/-- A cancellation between two actions, as far as the end of the execution of the second. -/
def cancelledBetween : List HandlerInput :=
  firstCall ++ [.cancellation, .cancellation] ++ arriving 2 2000000000 ++ beginning ++ List.replicate 3 (.worker {})

end CustomActionHandler

end AutopilotManager
