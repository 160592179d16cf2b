import AutopilotManager.CustomAction.Handler

/-!
# CustomAction.Responses — what the progress threads send

A call of `process_custom_action` starts one progress thread and does not return before that thread has left its loop,
so at most one thread sends, and it sends for the call under way.  The thread is given `_actions.back()`, read a
second time, and that is the action of the call unless another one has arrived since the first read.
-/

namespace AutopilotManager

open Lib

/-- Between the start of the progress thread and the end of the call. -/
def ActionWorker.isReporting : ActionWorker → Bool
  | enter | executing _ _ | testComplete | testSuccess | setUnknown | join => true
  | _ => false

namespace CustomActionHandler

/-- The second read of the queue finds an action with the identifier of the first. -/
def SameAction (s : CustomActionHandler) : HandlerInput → Prop
  | .worker _ => s.worker = .copyAction → s.actions.head?.all fun a => a.id = s.call.action.id
  | _ => True

instance (s : CustomActionHandler) (i : HandlerInput) : Decidable (s.SameAction i) :=
  match i with
  | .worker _ =>
    inferInstanceAs (Decidable (s.worker = .copyAction → s.actions.head?.all fun a => a.id = s.call.action.id))
  | .arrival _ | .callback _ | .cancellation | .thread _ => .isTrue trivial

structure Attributed (s : CustomActionHandler) : Prop where
  spawning : ∀ action, s.worker = .spawn action → action.id = s.call.action.id
  /-- The newest thread, while it runs, runs for the call under way. -/
  newest : ∀ t ∈ s.progressThreads.head?, t.report ≠ .left →
    s.worker.isReporting ∧ t.action.id = s.call.action.id
  earlier : ∀ t ∈ s.progressThreads.tail, t.report = .left
  responses : ∀ r ∈ s.responses, r.id = r.call.id

variable {s : CustomActionHandler}

theorem attributed_initial (t : ℤ) : Attributed (initial t) where
  spawning := by simp [initial]
  newest := by simp [initial]
  earlier := by simp [initial]
  responses := by simp [initial]

/-- A thread that has not left its loop is the newest. -/
theorem Attributed.active (hs : Attributed s) {k : ℕ} {t : ProgressThread} (ht : s.progressThreads[k]? = some t)
    (hactive : t.report ≠ .left) : k = 0 ∧ s.worker.isReporting ∧ t.action.id = s.call.action.id := by
  cases hthreads : s.progressThreads with
  | nil => simp [hthreads] at ht
  | cons t' l =>
    rw [hthreads] at ht
    cases k with
    | zero =>
      have heq : t' = t := by simpa using ht
      exact ⟨rfl, hs.newest t (by simp [hthreads, heq]) hactive⟩
    | succ k =>
      have hmem : t ∈ s.progressThreads.tail := by
        rw [hthreads]
        exact List.mem_of_getElem? ht
      exact absurd (hs.earlier t hmem) hactive

theorem setReport_attributed (hs : Attributed s) {t : ProgressThread} (ht : s.progressThreads[0]? = some t)
    (hactive : t.report ≠ .left) (r : Report) : Attributed (s.setReport 0 r) := by
  obtain ⟨-, hreporting⟩ := hs.active ht hactive
  cases hthreads : s.progressThreads with
  | nil => simp [hthreads] at ht
  | cons t' l =>
    have heq : t' = t := by simpa [hthreads] using ht
    have hearlier := hs.earlier
    rw [hthreads] at hearlier
    refine { hs with newest := ?_, earlier := ?_ }
    · intro x hx _
      have hx' : x = { t' with report := r } := by simpa [setReport, hthreads, eq_comm] using hx
      rw [hx', heq]
      exact hreporting
    · simpa [setReport, hthreads] using hearlier

theorem reportStep_attributed (hs : Attributed s) (k : ℕ) : Attributed (s.reportStep k) := by
  have hreported := reportStep_reported k s
  generalize s.reportStep k = s' at hreported ⊢
  cases hreported with
  | still => exact hs
  | undefined t ht hempty => exact { hs with }
  | moved t ht hactive r hleft =>
    obtain ⟨rfl, -⟩ := hs.active ht hactive
    exact setReport_attributed hs ht hactive r
  | sent t ht hactive p r =>
    obtain ⟨rfl, -, hid⟩ := hs.active ht hactive
    have hresponded : Attributed (s.respond t.action.id p r) := by
      refine { hs with responses := ?_ }
      intro x hx
      rcases List.mem_cons.mp hx with rfl | hx
      · exact hid
      · exact hs.responses x hx
    exact setReport_attributed hresponded ht hactive _

/-- Steps that leave the threads and the responses alone. -/
theorem Attributed.frame (hs : Attributed s) {s' : CustomActionHandler} (hthreads : s'.progressThreads = s.progressThreads)
    (hresponses : s'.responses = s.responses)
    (hkeep : s.worker.isReporting → s'.worker.isReporting ∧ s'.call.action = s.call.action)
    (hspawn : ∀ action, s'.worker = .spawn action → action.id = s'.call.action.id) : Attributed s' where
  spawning := hspawn
  newest := by
    intro t ht hactive
    rw [hthreads] at ht
    obtain ⟨hreporting, hid⟩ := hs.newest t ht hactive
    obtain ⟨hreporting', hcall⟩ := hkeep hreporting
    exact ⟨hreporting', by rw [hcall]; exact hid⟩
  earlier := by rw [hthreads]; exact hs.earlier
  responses := by rw [hresponses]; exact hs.responses

theorem back_attributed (hs : Attributed s) {α : Type} {v : List α} {f : α → CustomActionHandler}
    (hf : ∀ x ∈ v.head?, Attributed (f x)) : Attributed (s.back v f) :=
  back_induction { hs with } hf

theorem arrive_attributed (hs : Attributed s) (action : ActionToExecute) : Attributed (s.arrive action) := by
  unfold arrive
  split_ifs
  · exact hs
  · exact { hs with }
  · exact { hs with }

theorem accept_attributed (hs : Attributed s) (now : ℤ) : Attributed (s.accept now) := by
  unfold accept
  cases s.arrival with
  | idle => exact hs
  | compare action => exact back_attributed hs fun a _ => { hs with }
  | push action =>
    dsimp only
    split_ifs
    · exact { hs with }
    · exact { hs with }
  | store t => exact { hs with }

theorem cancel_attributed (hs : Attributed s) : Attributed s.cancel := by
  unfold cancel
  split_ifs
  · exact { hs with }
  · exact back_attributed hs fun m _ => { hs with }

theorem execute_attributed (hs : Attributed s) {m : ActionMetadata} {e : Execute} (hw : s.worker = .executing m e)
    (a : Answer) : Attributed (s.execute m a e) := by
  by_cases he : e = .clear
  · subst he
    exact hs.frame rfl rfl (fun _ => ⟨rfl, rfl⟩) nofun
  · have hexecutes := execute_executes a hw he
    obtain ⟨e', hw', -⟩ := hexecutes.worker
    refine hs.frame hexecutes.progressThreads hexecutes.responses (fun _ => ⟨by rw [hw']; rfl, hexecutes.action⟩) ?_
    rw [hw']
    nofun

theorem work_attributed (hs : Attributed s) (a : Answer) (hok : SameAction s (.worker a)) : Attributed (s.work a) := by
  unfold work
  cases hw : s.worker with
  | executing m e => exact execute_attributed hs hw a
  | top =>
    dsimp only
    split_ifs
    · exact hs.frame rfl rfl (by simp [hw, ActionWorker.isReporting]) nofun
    · exact hs
  | called =>
    exact back_attributed hs fun action _ => hs.frame rfl rfl (by simp [hw, ActionWorker.isReporting]) nofun
  | fetching | pushResult | pushProgress => exact hs.frame rfl rfl (by simp [hw, ActionWorker.isReporting]) nofun
  | printId | printProgress =>
    exact back_attributed hs fun x _ => hs.frame rfl rfl (by simp [hw, ActionWorker.isReporting]) nofun
  | copyAction =>
    refine back_attributed hs fun action hback => hs.frame rfl rfl (by simp [hw, ActionWorker.isReporting]) ?_
    intro action' haction'
    have heq : action' = action := by simpa [goto, eq_comm] using haction'
    have hsame := hok hw
    rw [Option.mem_def.mp hback] at hsame
    have hid : action.id = s.call.action.id := by simpa using hsame
    rw [heq]
    exact hid
  | spawn action =>
    -- no earlier thread runs outside of the reporting locations
    have hnewest := hs.newest
    have hearlier := hs.earlier
    rw [hw] at hnewest
    refine ⟨nofun, ?_, ?_, hs.responses⟩
    · intro t ht _
      have heq : t = { action } := by simpa [eq_comm] using ht
      rw [heq]
      exact ⟨rfl, hs.spawning action hw⟩
    · intro t ht
      by_contra hactive
      cases hthreads : s.progressThreads with
      | nil => simp [hthreads] at ht
      | cons t' l =>
        rw [hthreads] at hnewest hearlier
        rcases List.mem_cons.mp (by simpa [hthreads] using ht) with rfl | hmem
        · exact absurd (hnewest t rfl hactive).1 (by simp [ActionWorker.isReporting])
        · exact hactive (hearlier t hmem)
  | enter => exact back_attributed hs fun m _ => hs.frame rfl rfl (fun _ => ⟨rfl, rfl⟩) nofun
  | testComplete | testSuccess =>
    refine back_attributed hs fun x _ => ?_
    split_ifs <;> exact hs.frame rfl rfl (fun _ => ⟨rfl, rfl⟩) nofun
  | setUnknown => exact back_attributed hs fun r _ => hs.frame rfl rfl (fun _ => ⟨rfl, rfl⟩) nofun
  | join =>
    refine back_attributed hs fun t hback => ?_
    split_ifs with hleft
    · refine { hs with spawning := nofun, newest := ?_ }
      intro t' ht' hactive
      have heq : t' = t := Option.mem_unique ht' hback
      exact absurd (heq ▸ hleft) hactive
    · exact hs
  | done => exact hs.frame rfl rfl (by simp [hw, ActionWorker.isReporting]) nofun

theorem step_attributed (hs : Attributed s) {i : HandlerInput} (hok : SameAction s i) : Attributed (step s i) := by
  refine step_induction hs ?_
  cases i with
  | arrival action => exact arrive_attributed hs action
  | callback now => exact accept_attributed hs now
  | cancellation => exact cancel_attributed hs
  | worker a => exact work_attributed hs a hok
  | thread k => exact reportStep_attributed hs k

theorem run_attributed (t : ℤ) {is : List HandlerInput} (hok : Meets step SameAction (initial t) is) :
    Attributed (run step (initial t) is) := by
  have hstep : ∀ s i, Attributed s → SameAction s i → Attributed (step s i) := fun s i hs hok => step_attributed hs hok
  exact hok.invariant hstep (attributed_initial t)

/-- **Responses carry the identifier of the action of the call**, in every run in which the second read of the queue
finds the same identifier as the first; and a thread that still sends does so for the call under way. -/
theorem responses_attributed (t : ℤ) (is : List HandlerInput) (hok : Meets step SameAction (initial t) is) :
    (∀ r ∈ (run step (initial t) is).responses, r.id = r.call.id) ∧
    ∀ th ∈ (run step (initial t) is).progressThreads, th.report ≠ .left →
      (run step (initial t) is).worker.isReporting ∧ th.action.id = (run step (initial t) is).call.action.id := by
  have hinv := run_attributed t hok
  refine ⟨hinv.responses, fun th hth hactive => ?_⟩
  obtain ⟨k, hk⟩ := List.mem_iff_getElem?.mp hth
  exact (hinv.active hk hactive).2

/-- One action, with a response. -/
def oneResponse : List HandlerInput :=
  [.arrival ⟨1⟩, .callback 0, .callback 0] ++ List.replicate 9 (.worker {}) ++ List.replicate 5 (.thread 0)

theorem responses_attributed_oneResponse : (run step (initial 60000000000) oneResponse).responses ≠ [] ∧
    ∀ r ∈ (run step (initial 60000000000) oneResponse).responses, r.id = r.call.id :=
  ⟨by decide, (responses_attributed 60000000000 oneResponse (by decide)).1⟩

/-- Action 2 arrives while the metadata of action 1 is being fetched. -/
def overtaken : List HandlerInput :=
  [.arrival ⟨1⟩, .callback 0, .callback 0, .worker {}, .worker {},
    .arrival ⟨2⟩, .callback 2000000000, .callback 2000000000, .callback 2000000000] ++
    List.replicate 7 (.worker {}) ++ List.replicate 5 (.thread 0)

theorem response_of_another_action :
    (run step (initial 60000000000) overtaken).responses = [⟨2, 0, .inProgress, ⟨1⟩⟩] ∧
    ¬ ∀ r ∈ (run step (initial 60000000000) overtaken).responses, r.id = r.call.id := by
  decide

end CustomActionHandler

end AutopilotManager
