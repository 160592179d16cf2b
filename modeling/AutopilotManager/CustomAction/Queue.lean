import AutopilotManager.Lib.Transition
import Mathlib.Data.Int.Notation
import Mathlib.Tactic.SplitIfs

/-!
# CustomAction.Queue — the queue between the arrival callback and the worker

The callback that accepts custom actions and the loop `new_action_check`, which share the queue and a flag without a
lock, as one machine.  A step is one access: the test and push of the callback, its store of the flag, and the test
of the flag, the read of the queue, its clearing and the clearing of the flag by the worker.  Processing takes as
long as the other steps please.
-/

namespace AutopilotManager

open Lib

/-- What the queue holds of `mavsdk::CustomAction::ActionToExecute`. -/
structure ActionToExecute where
  id : UInt32
  deriving DecidableEq

/-- An action in the queue, numbered in the order of acceptance. -/
structure AcceptedAction where
  number : ℕ
  action : ActionToExecute
  deriving DecidableEq

/-- Where the worker is: at the top of its loop, about to read the queue, inside `process_custom_action` before and
after it clears the queue, or past a read of the empty queue. -/
inductive Worker
  | top
  | called
  | processing
  | cleared
  | undefined
  deriving DecidableEq

/-- The queue, newest action first, the flag and the two parties.  `callback` holds the time of a callback that has
pushed and not yet stored the flag.  `accepted` counts the actions pushed, and `processed` lists the numbers of those
passed to `process_custom_action`.  The two times are locals of `run()` that the callback captures by reference; here
they outlive it. -/
structure ActionQueue where
  actions : List AcceptedAction := []
  newAction : Bool := false
  worker : Worker := .top
  callback : Option ℤ := none
  startTime : ℤ
  newActionTime : ℤ
  accepted : ℕ := 0
  processed : List ℕ := []
  deriving DecidableEq

inductive QueueInput
  | arrival (action : ActionToExecute) (now : ℤ)
  | store
  | worker

namespace ActionQueue

/-! ### The callback -/

/-- The newest action in the queue has the same identifier. -/
def isDuplicate (action : ActionToExecute) (s : ActionQueue) : Bool :=
  s.actions.head?.any fun a => a.action.id = action.id

/-- An action has been accepted less than a second and a half before; clocks count nanoseconds. -/
def isTooEarly (now : ℤ) (s : ActionQueue) : Bool :=
  s.newActionTime ≠ s.startTime && (now - s.newActionTime).tdiv 1000000 < 1500

/-- The callback discards the action. -/
def discards (action : ActionToExecute) (now : ℤ) (s : ActionQueue) : Bool := s.isDuplicate action || s.isTooEarly now

/-- The first part of the callback: test and push.  It is called again only when it has returned. -/
def arrive (action : ActionToExecute) (now : ℤ) (s : ActionQueue) : ActionQueue :=
  if s.callback.isSome || s.discards action now then s
  else
    { s with
      actions := ⟨s.accepted + 1, action⟩ :: s.actions
      callback := some now
      accepted := s.accepted + 1 }

/-- The second part: store the flag, and remember the time. -/
def storeFlag (s : ActionQueue) : ActionQueue :=
  match s.callback with
  | some now => { s with newAction := true, newActionTime := now, callback := none }
  | none => s

/-! ### The worker -/

/-- One step of `new_action_check`. -/
def work (s : ActionQueue) : ActionQueue :=
  match s.worker with
  | .top => if s.newAction then { s with worker := .called } else s
  | .called =>
    match s.actions with
    | a :: _ => { s with worker := .processing, processed := a.number :: s.processed }
    -- `back()` of an empty vector
    | [] => { s with worker := .undefined }
  | .processing => { s with worker := .cleared, actions := [] }
  | .cleared => { s with worker := .top, newAction := false }
  | .undefined => s

def step (s : ActionQueue) : QueueInput → ActionQueue
  | .arrival action now => s.arrive action now
  | .store => s.storeFlag
  | .worker => s.work

/-- The start: both times are one minute ahead. -/
def initial (t : ℤ) : ActionQueue where
  startTime := t
  newActionTime := t

/-! ### Undisturbed steps -/

/-- While the worker is between its read and the clearing of the queue nothing is pushed, and only then the newest
action in the queue is repeated; no flag is stored for an action in the queue while the worker is between the
clearing of the queue and of the flag; and it does not read an empty queue. -/
def Undisturbed (s : ActionQueue) : QueueInput → Prop
  | .arrival action now => s.callback = none →
      (¬ s.discards action now → s.worker ≠ .processing) ∧ (s.isDuplicate action → s.worker = .processing)
  | .store => s.callback ≠ none → s.worker = .cleared → s.actions = []
  | .worker => s.worker = .called → s.actions ≠ []

/-- While the worker is between its read and the clearing of the queue nothing is pushed; no flag is stored for an
action in the queue while the worker is between the clearing of the queue and of the flag; and it does not read an empty
queue. -/
def NoOverlap (s : ActionQueue) : QueueInput → Prop
  | .arrival action now => s.callback = none → ¬ s.discards action now → s.worker ≠ .processing
  | .store => s.callback ≠ none → s.worker = .cleared → s.actions = []
  | .worker => s.worker = .called → s.actions ≠ []

theorem Undisturbed.noOverlap {s : ActionQueue} {input : QueueInput} (h : Undisturbed s input) : NoOverlap s input := by
  cases input with
  | arrival action now => exact fun hidle => (h hidle).1
  | store | worker => exact h

/-- The newest accepted action is in the queue and will be read: the worker has yet to read, and it has been called
or the callback will call it. -/
structure Waiting (s : ActionQueue) : Prop where
  queued : s.actions ≠ []
  unread : s.worker = .top ∨ s.worker = .called ∨ s.worker = .cleared ∧ s.callback ≠ none
  called : s.newAction ∨ s.callback ≠ none

structure Inv (s : ActionQueue) : Prop where
  /-- The newest action in the queue is the newest accepted. -/
  newest : ∀ a ∈ s.actions.head?, a.number = s.accepted
  /-- The newest accepted action has been processed or is waiting. -/
  served : s.accepted = 0 ∨ s.accepted ∈ s.processed ∨ s.Waiting
  /-- Before the first action there is nothing. -/
  fresh : s.accepted = 0 → s.actions = [] ∧ s.callback = none ∧ s.newActionTime = s.startTime
  called : s.worker = .called → s.newAction
  defined : s.worker ≠ .undefined

variable {s : ActionQueue}

theorem inv_initial (t : ℤ) : Inv (initial t) where
  newest := by simp [initial]
  served := .inl rfl
  fresh _ := ⟨rfl, rfl, rfl⟩
  called h := absurd h (by simp [initial])
  defined := by simp [initial]

theorem arrive_inv (hs : Inv s) {action : ActionToExecute} {now : ℤ}
    (hok : NoOverlap s (.arrival action now)) : Inv (s.arrive action now) := by
  unfold arrive
  split_ifs with hskip
  · exact hs
  · rw [Bool.or_eq_true, not_or] at hskip
    have hidle : s.callback = none := by simpa using hskip.1
    have hworker := hok hidle hskip.2
    refine ⟨by simp, .inr (.inr ⟨by simp, ?_, .inr (by simp)⟩), by simp, hs.called, hs.defined⟩
    -- a push outside of processing finds the worker before its next read
    cases hw : s.worker with
    | top => exact .inl rfl
    | called => exact .inr (.inl rfl)
    | processing => exact absurd hw hworker
    | cleared => exact .inr (.inr ⟨rfl, by simp⟩)
    | undefined => exact absurd hw hs.defined

theorem storeFlag_inv (hs : Inv s) (hok : s.callback ≠ none → s.worker = .cleared → s.actions = []) :
    Inv s.storeFlag := by
  unfold storeFlag
  cases hcallback : s.callback with
  | none => exact hs
  | some now =>
    have hmid : s.callback ≠ none := by simp [hcallback]
    refine ⟨hs.newest, ?_, fun h => absurd (hs.fresh h).2.1 hmid, fun _ => rfl, hs.defined⟩
    rcases hs.served with hnone | hprocessed | hwaiting
    · exact .inl hnone
    · exact .inr (.inl hprocessed)
    · refine .inr (.inr ⟨hwaiting.queued, ?_, .inl rfl⟩)
      rcases hwaiting.unread with htop | hcalled | ⟨hcleared, -⟩
      · exact .inl htop
      · exact .inr (.inl hcalled)
      · exact absurd (hok hmid hcleared) hwaiting.queued

/-- The worker reads the newest accepted action. -/
theorem read_inv (hs : Inv s) (hcalled : s.worker = .called) (hqueued : s.actions ≠ []) : Inv s.work := by
  unfold work
  rw [hcalled]
  cases hactions : s.actions with
  | nil => exact absurd hactions hqueued
  | cons a rest =>
    have hnumber : a.number = s.accepted := hs.newest a (by rw [hactions]; rfl)
    refine ⟨?_, .inr (.inl (by simp [hnumber])), ?_, by simp, by simp⟩
    · simpa [hactions] using hnumber
    · intro h
      exact absurd (hs.fresh h).1 hqueued

theorem work_inv (hs : Inv s) (hok : s.worker = .called → s.actions ≠ []) : Inv s.work := by
  cases hw : s.worker with
  | top =>
    unfold work
    rw [hw]
    dsimp only
    split_ifs with hflag
    · refine ⟨hs.newest, ?_, hs.fresh, fun _ => hflag, by simp⟩
      refine hs.served.imp_right (Or.imp_right fun hwaiting => ?_)
      exact ⟨hwaiting.queued, .inr (.inl rfl), hwaiting.called⟩
    · exact hs
  | called => exact read_inv hs hw (hok hw)
  | processing =>
    unfold work
    rw [hw]
    refine ⟨by simp, ?_, fun h => ⟨rfl, (hs.fresh h).2⟩, by simp, by simp⟩
    rcases hs.served with hnone | hprocessed | hwaiting
    · exact .inl hnone
    · exact .inr (.inl hprocessed)
    · have hunread := hwaiting.unread
      rw [hw] at hunread
      simp at hunread
  | cleared =>
    unfold work
    rw [hw]
    refine ⟨hs.newest, ?_, hs.fresh, by simp, by simp⟩
    refine hs.served.imp_right (Or.imp_right fun hwaiting => ?_)
    have hcallback : s.callback ≠ none := by
      -- a call under way leaves no accepted action waiting
      have hunread := hwaiting.unread
      rw [hw] at hunread
      simpa using hunread
    exact ⟨hwaiting.queued, .inl rfl, .inr hcallback⟩
  | undefined => exact absurd hw hs.defined

theorem step_inv (hs : Inv s) {input : QueueInput} (hok : NoOverlap s input) : Inv (step s input) := by
  cases input with
  | arrival action now => exact arrive_inv hs hok
  | store => exact storeFlag_inv hs hok
  | worker => exact work_inv hs hok

theorem run_inv (t : ℤ) {is : List QueueInput} (hok : Meets step NoOverlap (initial t) is) :
    Inv (run step (initial t) is) := by
  have hstep : ∀ s input, Inv s → NoOverlap s input → Inv (step s input) := fun s input hs hok => step_inv hs hok
  exact hok.invariant hstep (inv_initial t)

/-! ### No action is lost -/

/-- The newest accepted action has been processed unless it is in the queue. -/
theorem Inv.processed_of_empty (hs : Inv s) (hany : s.accepted ≠ 0) (hempty : s.actions = []) :
    s.accepted ∈ s.processed :=
  (hs.served.resolve_left hany).resolve_right fun hwaiting => hwaiting.queued hempty

/-- While the worker processes an action, nothing newer has been accepted. -/
theorem Inv.processed_of_processing (hs : Inv s) (hany : s.accepted ≠ 0) (hworker : s.worker = .processing) :
    s.accepted ∈ s.processed := by
  refine (hs.served.resolve_left hany).resolve_right fun hwaiting => ?_
  rcases hwaiting.unread with htop | hcalled | ⟨hcleared, -⟩
  · exact absurd (hworker.symm.trans htop) (by simp)
  · exact absurd (hworker.symm.trans hcalled) (by simp)
  · exact absurd (hworker.symm.trans hcleared) (by simp)

/-- An action is discarded only after another one has been accepted. -/
theorem accepted_ne_zero_of_discards (hs : Inv s) {action : ActionToExecute} {now : ℤ} (h : s.discards action now) :
    s.accepted ≠ 0 := by
  intro hnone
  obtain ⟨hactions, -, htime⟩ := hs.fresh hnone
  simp [discards, isDuplicate, isTooEarly, hactions, htime] at h

/-- **No custom action is lost**: in every undisturbed run, whenever the worker is at the top of its loop, the flag
is not set and no callback is under way, the most recently accepted action has been processed; and an arrival that
is discarded, as a repetition of the newest action in the queue or with an empty queue, finds the most recently
accepted action processed. -/
theorem no_action_lost (t : ℤ) (is : List QueueInput) (hok : Meets step Undisturbed (initial t) is) :
    ((run step (initial t) is).worker = .top → ¬ (run step (initial t) is).newAction →
      (run step (initial t) is).callback = none → (run step (initial t) is).accepted ≠ 0 →
      (run step (initial t) is).accepted ∈ (run step (initial t) is).processed) ∧
    ∀ action now, Undisturbed (run step (initial t) is) (.arrival action now) →
      (run step (initial t) is).callback = none → (run step (initial t) is).discards action now →
      (∀ a ∈ (run step (initial t) is).actions.head?, a.action.id = action.id) →
      (∀ a ∈ (run step (initial t) is).actions.head?, a.number = (run step (initial t) is).accepted) ∧
        (run step (initial t) is).accepted ∈ (run step (initial t) is).processed := by
  have hinv := run_inv t (hok.mono fun _ _ => Undisturbed.noOverlap)
  generalize run step (initial t) is = s at hinv ⊢
  refine ⟨fun htop hflag hidle hany => ?_, fun action now hnow hidle hdiscards hown => ⟨hinv.newest, ?_⟩⟩
  · refine (hinv.served.resolve_left hany).resolve_right fun hwaiting => ?_
    exact hwaiting.called.elim hflag fun hmid => hmid hidle
  · have hany := accepted_ne_zero_of_discards hinv hdiscards
    cases hactions : s.actions with
    | nil => exact hinv.processed_of_empty hany hactions
    | cons a rest =>
      have hduplicate : s.isDuplicate action := by
        rw [hactions] at hown
        simpa [isDuplicate, hactions] using hown
      exact hinv.processed_of_processing hany ((hnow hidle).2 hduplicate)

/-- One action, which is processed. -/
def oneByOne : List QueueInput := [.arrival ⟨1⟩ 0, .store, .worker, .worker]

/-- A repetition during the processing is discarded. -/
theorem no_action_lost_oneByOne :
    (run step (initial 60000000000) oneByOne).accepted ∈ (run step (initial 60000000000) oneByOne).processed := by
  refine ((no_action_lost 60000000000 oneByOne ?_).2 ⟨1⟩ 2000000000 ?_ rfl (by decide) (by decide)).2
  · refine ⟨fun _ => ⟨?_, ?_⟩, fun _ => ?_, ?_, ?_, trivial⟩ <;>
      simp [Undisturbed, step, arrive, storeFlag, work, discards, isDuplicate, isTooEarly, initial]
  · exact fun _ => ⟨fun hpush => absurd (by decide) hpush, fun _ => rfl⟩

/-- The second action arrives while the first is processed: it is dropped from the queue unread, and before that it
has its own repetition discarded. -/
def overlapping : List QueueInput :=
  [.arrival ⟨1⟩ 0, .store, .worker, .worker, .arrival ⟨2⟩ 2000000000, .store]

theorem action_lost :
    ((run step (initial 60000000000) overlapping).discards ⟨2⟩ 4000000000 ∧
      (run step (initial 60000000000) overlapping).actions.head?.map AcceptedAction.number = some 2) ∧
    (run step (initial 60000000000) (overlapping ++ [.worker, .worker])).worker = .top ∧
    ¬ (run step (initial 60000000000) (overlapping ++ [.worker, .worker])).newAction ∧
    (run step (initial 60000000000) (overlapping ++ [.worker, .worker])).callback = none ∧
    (run step (initial 60000000000) (overlapping ++ [.worker, .worker])).accepted = 2 ∧
    2 ∉ (run step (initial 60000000000) (overlapping ++ [.worker, .worker])).processed := by
  decide

end ActionQueue

end AutopilotManager
