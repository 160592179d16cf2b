import AutopilotManager.CustomAction.Handler

/-!
# CustomAction.Join — the end of a call

At the end of a call the worker joins the progress thread.  The thread is stopped by the flag, which is raised for a
while and lowered again, or by the result `Unknown`, which is written after complete success only.
-/

namespace AutopilotManager

open Lib

namespace CustomActionHandler

/-- The condition of the loop of `send_progress_status`. -/
def reports (s : CustomActionHandler) : Bool := ¬ s.actionStopped && s.actionsResult.head? ≠ some .unknown

/-- The newest progress thread has left its loop. -/
def hasLeft (s : CustomActionHandler) : Bool := s.progressThreads.head?.all fun t => t.report = .left

def succeeded (s : CustomActionHandler) : Bool :=
  s.actionsProgress.head? = some 100 && s.actionsResult.head? = some .success

/-- When the flag is lowered, the progress thread has seen it or will see the result `Unknown`. -/
def Seen (s : CustomActionHandler) : HandlerInput → Prop
  | .worker _ => s.worker.isLowering → s.hasLeft ∨ s.actionsResult.head? = some .unknown ∨ s.succeeded
  | _ => True

instance (s : CustomActionHandler) (i : HandlerInput) : Decidable (s.Seen i) :=
  match i with
  | .worker _ => inferInstanceAs
      (Decidable (s.worker.isLowering → s.hasLeft ∨ s.actionsResult.head? = some .unknown ∨ s.succeeded))
  | .arrival _ | .callback _ | .cancellation | .thread _ => .isTrue trivial

/-- What holds at the locations between the lowering of the flag and the end of the call. -/
def EndsAt (s : CustomActionHandler) : ActionWorker → Prop
  | .executing _ .clear | .testComplete => s.hasLeft ∨ s.actionsResult.head? = some .unknown ∨ s.succeeded
  | .testSuccess => s.hasLeft ∨ s.actionsResult.head? = some .unknown ∨ s.actionsResult.head? = some .success
  | .join => s.hasLeft ∨ s.actionsResult.head? = some .unknown
  | _ => True

def Ends (s : CustomActionHandler) : Prop := s.EndsAt s.worker

variable {s : CustomActionHandler}

/-- A thread that has left stays away. -/
theorem hasLeft_reportStep (k : ℕ) (hleft : s.hasLeft) : (s.reportStep k).hasLeft := by
  have hmove : ∀ t r, s.progressThreads[k]? = some t → t.report ≠ .left → (s.setReport k r).hasLeft := by
    intro t r ht hactive
    cases hthreads : s.progressThreads with
    | nil => simp [hthreads] at ht
    | cons t' l =>
      have hleft' : t'.report = .left := by simpa [hasLeft, hthreads] using hleft
      cases k with
      | zero =>
        have heq : t' = t := by simpa [hthreads] using ht
        exact absurd (heq ▸ hleft') hactive
      | succ k => simpa [hasLeft, setReport, hthreads] using hleft'
  have hreported := reportStep_reported k s
  generalize s.reportStep k = s' at hreported ⊢
  cases hreported with
  | still => exact hleft
  | undefined t ht hempty => exact hleft
  | moved t ht hactive r _ => exact hmove t r ht hactive
  | sent t ht hactive p r => exact hmove t _ ht hactive

/-- Steps of the other parties: the thread may leave, the flag may be raised, and nothing else changes. -/
structure Aside (s s' : CustomActionHandler) : Prop where
  worker : s'.worker = s.worker
  actionsResult : s'.actionsResult = s.actionsResult
  actionsProgress : s'.actionsProgress = s.actionsProgress
  actionStopped : s.actionStopped → s'.actionStopped
  hasLeft : s.hasLeft → s'.hasLeft

theorem Aside.refl (s : CustomActionHandler) : Aside s s := ⟨rfl, rfl, rfl, id, id⟩

theorem aside_of_back {α : Type} {v : List α} {f : α → CustomActionHandler} (hf : ∀ x, Aside s (f x)) :
    Aside s (s.back v f) :=
  back_induction ⟨rfl, rfl, rfl, id, id⟩ fun x _ => hf x

/-- Every step is one of the worker or leaves the worker where it is. -/
theorem access_aside {i : HandlerInput} (hi : ∀ a, i ≠ .worker a) : Aside s (s.access i) := by
  cases i with
  | worker a => exact absurd rfl (hi a)
  | arrival action =>
    rw [access, arrive]
    split_ifs <;> exact ⟨rfl, rfl, rfl, id, id⟩
  | callback now =>
    rw [access, accept]
    cases s.arrival with
    | idle => exact .refl s
    | compare action => exact aside_of_back fun a => ⟨rfl, rfl, rfl, id, id⟩
    | push action =>
      dsimp only
      split_ifs <;> exact ⟨rfl, rfl, rfl, id, id⟩
    | store t => exact ⟨rfl, rfl, rfl, id, id⟩
  | cancellation =>
    rw [access, cancel]
    split_ifs
    · exact ⟨rfl, rfl, rfl, fun _ => rfl, id⟩
    · exact aside_of_back fun m => ⟨rfl, rfl, rfl, id, id⟩
  | thread k =>
    refine ⟨?_, ?_, ?_, ?_, hasLeft_reportStep k⟩
    all_goals
      rw [access]
      have hreported := reportStep_reported k s
      generalize s.reportStep k = s' at hreported ⊢
      cases hreported <;> first | rfl | exact id

theorem Aside.ends {s' : CustomActionHandler} (h : Aside s s') (hs : Ends s) : Ends s' := by
  unfold Ends at hs ⊢
  rw [h.worker]
  unfold EndsAt succeeded at hs ⊢
  rw [h.actionsResult, h.actionsProgress]
  split at hs
  · exact hs.imp_left h.hasLeft
  · exact hs.imp_left h.hasLeft
  · exact hs.imp_left h.hasLeft
  · exact hs.imp_left h.hasLeft
  · trivial

theorem execute_ends (hs : Ends s) {m : ActionMetadata} {e : Execute} (hw : s.worker = .executing m e) (a : Answer)
    (hok : Seen s (.worker a)) : Ends (s.execute m a e) := by
  unfold Ends at hs
  rw [hw] at hs
  by_cases hclear : e = .clear
  · subst hclear
    exact hs
  · by_cases hlower : e = .lower
    · subst hlower
      exact hok (by rw [hw]; rfl)
    · obtain ⟨e', hw', he'⟩ := (execute_executes a hw hclear).worker
      unfold Ends EndsAt
      rw [hw']
      split
      · rename_i heq
        exact absurd (he' (ActionWorker.executing.inj heq).2) hlower
      all_goals trivial

theorem ends_entry (m : ActionMetadata) : Ends (s.goto (.executing m m.entry)) := by
  unfold ActionMetadata.entry
  split_ifs <;> trivial

theorem work_ends (hs : Ends s) (a : Answer) (hok : Seen s (.worker a)) : Ends (s.work a) := by
  unfold work
  cases hw : s.worker with
  | executing m e => exact execute_ends hs hw a hok
  | top =>
    dsimp only
    split_ifs
    · trivial
    · exact hs
  | called | printId | printProgress | copyAction => exact back_induction hs fun x _ => trivial
  | fetching | pushResult | pushProgress | spawn action | done => trivial
  | enter => exact back_induction hs fun m _ => ends_entry m
  | testComplete =>
    unfold Ends at hs
    rw [hw] at hs
    refine back_induction (by rwa [Ends, hw]) fun p hp => ?_
    -- a success has the progress 100, so `join` is reached without it
    split_ifs with hcomplete
    · refine hs.imp_right (Or.imp_right fun hsucceeded => ?_)
      exact of_decide_eq_true (Bool.and_eq_true_iff.mp hsucceeded).2
    · rcases hs with hleft | hunknown | hsucceeded
      · exact .inl hleft
      · exact .inr hunknown
      · rw [succeeded, Option.mem_def.mp hp] at hsucceeded
        simp [hcomplete] at hsucceeded
  | testSuccess =>
    unfold Ends at hs
    rw [hw] at hs
    refine back_induction (by rwa [Ends, hw]) fun r hr => ?_
    split_ifs with hsuccess
    · trivial
    · rcases hs with hleft | hunknown | hsucceeded
      · exact .inl hleft
      · exact .inr hunknown
      · rw [Option.mem_def.mp hr] at hsucceeded
        exact absurd (Option.some.inj hsucceeded) hsuccess
  | setUnknown => exact back_induction hs fun r _ => .inr rfl
  | join =>
    refine back_induction hs fun t _ => ?_
    split_ifs
    · trivial
    · exact hs

theorem step_ends (hs : Ends s) {i : HandlerInput} (hok : Seen s i) : Ends (step s i) := by
  refine step_induction hs ?_
  cases i with
  | worker a => exact work_ends hs a hok
  | _ => exact Aside.ends (access_aside (by rintro a ⟨⟩)) hs

theorem run_ends (t : ℤ) {is : List HandlerInput} (hok : Meets step Seen (initial t) is) :
    Ends (run step (initial t) is) := by
  have hstep : ∀ s i, Ends s → Seen s i → Ends (step s i) := fun s i hs hok => step_ends hs hok
  exact hok.invariant hstep trivial

/-! ### Waiting at `join` -/

/-- The next test of the thread ends it, or it has left. -/
def IsEnding (s : CustomActionHandler) : Prop := s.hasLeft ∨ ¬ s.reports

instance (s : CustomActionHandler) : Decidable s.IsEnding := inferInstanceAs (Decidable (s.hasLeft ∨ ¬ s.reports))

theorem Ends.isEnding (hs : Ends s) (hjoin : s.worker = .join) : IsEnding s := by
  unfold Ends at hs
  rw [hjoin] at hs
  exact hs.imp_right fun hunknown => by simp [reports, hunknown]

theorem Aside.isEnding {s' : CustomActionHandler} (h : Aside s s') (hs : IsEnding s) : IsEnding s' := by
  refine hs.imp h.hasLeft fun hreports => ?_
  unfold reports at hreports ⊢
  rw [h.actionsResult]
  have hstopped := h.actionStopped
  cases hs' : s'.actionStopped with
  | true => simp
  | false =>
    have hs : s.actionStopped = false := by simpa [hs'] using hstopped
    simpa [hs] using hreports

/-- While the worker waits, the condition of the loop does not become true again. -/
theorem step_isEnding (hs : IsEnding s) (hjoin : s.worker = .join) (i : HandlerInput) : IsEnding (step s i) := by
  refine step_induction hs ?_
  cases i with
  | worker a =>
    rw [access, work, hjoin]
    refine back_induction hs fun t _ => ?_
    split_ifs <;> exact hs
  | _ => exact Aside.isEnding (access_aside (by rintro a ⟨⟩)) hs

/-- **The worker never waits for a thread that will not stop**, in every run in which the thread has seen the flag, or
will see the result, when the flag is lowered: at `join` the thread has left its loop or its condition is false, and
it stays so for as long as the worker waits. -/
theorem join_ends (t : ℤ) (is : List HandlerInput) (hok : Meets step Seen (initial t) is)
    (hjoin : (run step (initial t) is).worker = .join) :
    ∀ js, Meets step (fun s _ => s.worker = .join) (run step (initial t) is) js →
      IsEnding (run step (initial t) (is ++ js)) := by
  intro js hstay
  rw [run_append]
  have hstep : ∀ s i, IsEnding s → s.worker = .join → IsEnding (step s i) := fun s i hs hjoin =>
    step_isEnding hs hjoin i
  exact hstay.invariant hstep ((run_ends t hok).isEnding hjoin)

/-- An action without stages and script whose thread leaves its loop while the flag is raised. -/
def seenAction : List HandlerInput :=
  [.arrival ⟨1⟩, .callback 0, .callback 0] ++ List.replicate 15 (.worker {}) ++ [.thread 0] ++
    List.replicate 3 (.worker {})

theorem join_ends_seenAction : IsEnding (run step (initial 60000000000) seenAction) :=
  join_ends 60000000000 seenAction (by decide) (by decide) [] trivial

/-- An action whose only stage fails, with the thread asleep while the flag is raised. -/
def unseenFailure : List HandlerInput :=
  [.arrival ⟨1⟩, .callback 0, .callback 0] ++
    List.replicate 30 (.worker { metadata := { stages := [.onTimeout] }, result := .error })

theorem join_on_running_thread :
    (run step (initial 60000000000) unseenFailure).worker = .join ∧
    ¬ IsEnding (run step (initial 60000000000) unseenFailure) := by
  decide

end CustomActionHandler

end AutopilotManager
