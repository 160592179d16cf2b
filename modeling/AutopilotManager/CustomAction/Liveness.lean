import AutopilotManager.CustomAction.Join
import AutopilotManager.Lib.LeadsTo
import Mathlib.Data.Prod.Lex

/-!
# CustomAction.Liveness — the worker comes back

A call of `process_custom_action` waits in three places: after a stage, for the script, and for the progress thread.
Every other step of the worker takes it closer to the end of the call, so it comes back to the top of its loop if the
waits for the world end or are cut short by the flag; the wait for the thread ends by itself.
-/

namespace AutopilotManager

open Filter Lib

/-! ### How far the worker is -/

/-- What is left of `execute_custom_action` at most, of so many stages. -/
def Execute.rank (stages : ℕ) : Execute → ℕ
  | clear => 0
  | lower => 1
  | raise => 2
  | printOutcome => 3
  | outcome rs => 3 + rs.length
  | stopFailed | setComplete => 7
  | failed | testScript => 8
  | printFailed | setResult _ => 9
  | stage i => 10 + 12 * (stages - i)
  | runScript => 10
  | waitScript | sleepScript => 11
  | script => 12
  | printProgress i => 13 + 12 * (stages - (i + 1))
  | printId i => 14 + 12 * (stages - (i + 1))
  | setInProgress i | setSuccess i => 15 + 12 * (stages - (i + 1))
  | testProgress i => 16 + 12 * (stages - (i + 1))
  | setProgress i => 17 + 12 * (stages - (i + 1))
  | update i => 18 + 12 * (stages - (i + 1))
  | wait i | sleep i | landed i | poll i => 19 + 12 * (stages - (i + 1))
  | runStage i => 20 + 12 * (stages - (i + 1))
  | printStage i => 21 + 12 * (stages - (i + 1))

/-- Waiting for the world: for the timeout of a stage or script, for the landing or the take-off. -/
def Execute.isWaiting : Execute → Bool
  | wait _ | sleep _ | landed _ | poll _ | waitScript | sleepScript => true
  | _ => false

/-- How far the test of the flag is. -/
def Execute.untilTest : Execute → ℕ
  | sleep _ | poll _ | sleepScript => 1
  | landed _ => 2
  | _ => 0

/-- How many steps a progress thread makes at most before it leaves its loop, if its condition is false, because of the
flag or because of the result. -/
def Report.untilLeft (stopped : Bool) : Report → ℕ
  | left => 0
  | testStopped => if stopped then 1 else 7
  | respond _ _ => if stopped then 2 else 8
  | readResult _ => if stopped then 3 else 9
  | readProgress => if stopped then 4 else 10
  | testResult => if stopped then 5 else 6

theorem Report.untilLeft_stopped (r : Report) : r.untilLeft true ≤ r.untilLeft false := by
  cases r <;> simp [untilLeft]

namespace ActionWorker

/-- What is left of a call: the calls of `process_custom_action` and, in one, of `execute_custom_action`. -/
def rank : ActionWorker → ℕ ×ₗ ℕ
  | top => toLex (0, 0)
  | done => toLex (1, 0)
  | join => toLex (2, 0)
  | setUnknown => toLex (3, 0)
  | testSuccess => toLex (4, 0)
  | testComplete => toLex (5, 0)
  | executing m e => toLex (6, e.rank m.stages.length)
  | enter => toLex (7, 0)
  | spawn _ => toLex (8, 0)
  | copyAction => toLex (9, 0)
  | printProgress => toLex (10, 0)
  | printId => toLex (11, 0)
  | pushProgress => toLex (12, 0)
  | pushResult => toLex (13, 0)
  | fetching => toLex (14, 0)
  | called => toLex (15, 0)

def isWaiting : ActionWorker → Bool
  | executing _ e => e.isWaiting
  | _ => false

def untilTest : ActionWorker → ℕ
  | executing _ e => e.untilTest
  | _ => 0

/-- A step from `w` to `w'` takes the worker on, or it waits. -/
inductive Descends (w w' : ActionWorker) : Prop
  | on (h : w'.rank < w.rank)
  | waits (hrank : w'.rank = w.rank) (h : w.isWaiting) (h' : w'.isWaiting)
  | joins (h : w = .join) (h' : w' = .join)

variable {m : ActionMetadata} {e e' : Execute}

theorem rank_executing_lt (h : e'.rank m.stages.length < e.rank m.stages.length) :
    rank (executing m e') < rank (executing m e) :=
  Prod.Lex.toLex_lt_toLex.mpr (.inr ⟨rfl, h⟩)

theorem descends_executing (h : e'.rank m.stages.length < e.rank m.stages.length) :
    Descends (executing m e) (executing m e') :=
  .on (rank_executing_lt h)

theorem rank_done : rank done < rank join := Prod.Lex.toLex_lt_toLex.mpr (.inl (by decide))

theorem descends_waiting (hrank : e'.rank m.stages.length = e.rank m.stages.length) (h : e.isWaiting)
    (h' : e'.isWaiting) : Descends (executing m e) (executing m e') :=
  .waits (congrArg (fun r => toLex (6, r)) hrank) h h'

end ActionWorker

namespace CustomActionHandler

variable {s : CustomActionHandler}

open ActionWorker

/-- What holds after a read that is defined, of what it goes on with. -/
theorem back_of_defined {P : CustomActionHandler → Prop} {α : Type} {v : List α} {f : α → CustomActionHandler}
    (hdefined : ¬ (s.back v f).undefined) (hf : ∀ x ∈ v.head?, P (f x)) : P (s.back v f) := by
  cases v with
  | nil => exact absurd rfl hdefined
  | cons x l => exact hf x rfl

theorem back_descends {w : ActionWorker} {α : Type} {v : List α} {f : α → CustomActionHandler}
    (hdefined : ¬ (s.back v f).undefined) (hf : ∀ x, Descends w (f x).worker) : Descends w (s.back v f).worker :=
  back_of_defined (P := fun s' => Descends w s'.worker) hdefined fun x _ => hf x

/-! ### The steps of the worker -/

section Execute

variable {m : ActionMetadata} {e : Execute} (a : Answer) (hdefined : ¬ (s.execute m a e).undefined)

include hdefined in
/-- Every step of `execute_custom_action` takes the worker on, or it waits for the world. -/
theorem execute_descends : Descends (.executing m e) (s.execute m a e).worker := by
  cases e with
  | stage i =>
    rw [execute]
    split_ifs with hlt hstopped
    · -- a stage that the flag skips is one less to go
      exact descends_executing (by simp only [Execute.rank]; omega)
    · exact descends_executing (by simp only [Execute.rank]; omega)
    · exact descends_executing (by simp only [Execute.over, Execute.rank, List.length]; omega)
  | runStage i =>
    rw [execute]
    dsimp only
    split_ifs <;> exact descends_executing (by simp only [Execute.rank]; omega)
  | printStage i | printId i | printProgress i =>
    exact back_descends hdefined fun _ => descends_executing (by simp only [Execute.rank]; omega)
  | printFailed | printOutcome =>
    exact back_descends hdefined fun _ => descends_executing (by simp [Execute.rank])
  | failed | setComplete =>
    exact back_descends hdefined fun _ => descends_executing (by simp [Execute.rank, Execute.over])
  | setProgress i | setInProgress i | setSuccess i =>
    exact back_descends hdefined fun _ => descends_executing (by simp only [Execute.rank]; omega)
  | setResult r => exact back_descends hdefined fun _ => descends_executing (by simp [Execute.rank])
  | testProgress i =>
    refine back_descends hdefined fun p => ?_
    split_ifs <;> exact descends_executing (by simp only [Execute.rank]; omega)
  | testScript =>
    refine back_descends hdefined fun r => ?_
    split_ifs <;> exact descends_executing (by simp [Execute.rank, Execute.over])
  | wait i =>
    -- a wait goes on to the update of the progress, or stays where it is for the world
    rw [execute, waitStage]
    split
    · exact descends_executing (by simp [Execute.rank])
    all_goals
      split_ifs
      · exact descends_executing (by simp [Execute.rank])
      · exact descends_waiting rfl rfl rfl
  | sleep i | landed i =>
    rw [execute]
    split_ifs
    · exact descends_executing (by simp [Execute.rank])
    · exact descends_waiting rfl rfl rfl
  | poll i => exact descends_waiting rfl rfl rfl
  | update i =>
    rw [execute]
    split_ifs <;> exact descends_executing (by simp only [Execute.rank]; omega)
  | script =>
    rw [execute]
    split_ifs
    · exact descends_executing (by simp [Execute.rank])
    · split <;> exact descends_executing (by simp [Execute.rank])
  | waitScript | sleepScript =>
    rw [execute]
    split_ifs
    · exact descends_executing (by simp [Execute.rank])
    · exact descends_waiting rfl rfl rfl
  | runScript | stopFailed | raise | lower => exact descends_executing (by simp [Execute.rank, Execute.over])
  | outcome rs =>
    cases rs with
    | nil => exact descends_executing (by simp [Execute.rank])
    | cons r rs =>
      refine back_descends hdefined fun x => ?_
      split_ifs <;> exact descends_executing (by simp [Execute.rank])
  -- the call leaves `execute_custom_action`: the first component of the rank falls
  | clear => exact .on (Prod.Lex.toLex_lt_toLex.mpr (.inl (Nat.lt_succ_self 5)))

end Execute

/-- Every step of the worker that is not at the top of its loop takes it on, or it waits. -/
theorem work_descends (hbusy : s.worker ≠ .top) (a : Answer) (hdefined : ¬ (s.work a).undefined) :
    Descends s.worker (s.work a).worker := by
  have hon {j k : ℕ} (hlt : j < k) (l : ℕ) : toLex (j, l) < toLex (k, 0) := Prod.Lex.toLex_lt_toLex.mpr (.inl hlt)
  unfold work at hdefined ⊢
  cases hw : s.worker with
  | top => exact absurd hw hbusy
  | executing m e =>
    rw [hw] at hdefined
    exact execute_descends a hdefined
  | called | printId | printProgress | copyAction | setUnknown =>
    rw [hw] at hdefined
    exact back_descends hdefined fun _ => .on (hon (by decide) 0)
  | fetching | pushResult | pushProgress | spawn action | done => exact .on (hon (by decide) 0)
  | enter =>
    rw [hw] at hdefined
    exact back_descends hdefined fun m => .on (hon (by decide) _)
  | testComplete | testSuccess =>
    rw [hw] at hdefined
    refine back_descends hdefined fun _ => ?_
    split_ifs <;> exact .on (hon (by decide) 0)
  | join =>
    rw [hw] at hdefined
    refine back_descends hdefined fun t => ?_
    split_ifs
    · exact .on (hon (by decide) 0)
    · exact .joins rfl hw

/-- A wait that the flag cuts short ends with the next test of the flag. -/
theorem execute_stopped {m : ActionMetadata} {e : Execute} (hwaiting : e.isWaiting) (hstopped : s.actionStopped)
    (a : Answer) :
    (s.execute m a e).worker.rank < rank (.executing m e) ∨
      (s.execute m a e).actionStopped ∧ (s.execute m a e).worker.isWaiting ∧
        (s.execute m a e).worker.rank = rank (.executing m e) ∧
        (s.execute m a e).worker.untilTest < untilTest (.executing m e) := by
  cases e with
  | wait i =>
    left
    rw [execute, waitStage, if_pos hstopped, if_pos hstopped]
    split <;> exact rank_executing_lt (by simp [Execute.rank])
  | waitScript =>
    left
    rw [execute, if_pos hstopped]
    exact rank_executing_lt (by simp [Execute.rank])
  | sleep i | sleepScript | landed i =>
    rw [execute]
    split_ifs
    · exact .inl (rank_executing_lt (by simp [Execute.rank]))
    · exact .inr ⟨hstopped, rfl, rfl, by simp [goto, untilTest, Execute.untilTest]⟩
  | poll i => exact .inr ⟨hstopped, rfl, rfl, by simp [execute, untilTest, Execute.untilTest]⟩
  | _ => cases hwaiting

theorem work_stopped (hwaiting : s.worker.isWaiting) (hstopped : s.actionStopped) (a : Answer) :
    (s.work a).worker.rank < s.worker.rank ∨
      (s.work a).actionStopped ∧ (s.work a).worker.isWaiting ∧ (s.work a).worker.rank = s.worker.rank ∧
        (s.work a).worker.untilTest < s.worker.untilTest := by
  cases hw : s.worker with
  | executing m e =>
    rw [hw] at hwaiting
    rw [work, hw]
    exact execute_stopped hwaiting hstopped a
  | _ =>
    rw [hw] at hwaiting
    cases hwaiting

/-! ### The wait for the progress thread -/

/-- How many steps the newest progress thread makes at most before it leaves its loop, whose condition is false. -/
def untilLeft (s : CustomActionHandler) : ℕ :=
  s.progressThreads.head?.elim 0 fun t => t.report.untilLeft s.actionStopped

theorem untilLeft_mono {s' : CustomActionHandler} (hthreads : s'.progressThreads.head? = s.progressThreads.head?)
    (hstopped : s.actionStopped → s'.actionStopped) : s'.untilLeft ≤ s.untilLeft := by
  unfold untilLeft
  rw [hthreads]
  cases s.progressThreads.head? with
  | none => exact le_rfl
  | some t =>
    cases hs : s.actionStopped with
    | true => rw [hstopped hs]
    | false =>
      cases s'.actionStopped with
      | true => exact Report.untilLeft_stopped t.report
      | false => exact le_rfl

/-- A step that is not one of the worker lets the newest thread where it is, or is one of it. -/
theorem untilLeft_access {i : HandlerInput} (hworker : ∀ a, i ≠ .worker a) (hthread : i ≠ .thread 0) :
    (s.access i).untilLeft ≤ s.untilLeft := by
  have hback {α : Type} {v : List α} {f : α → CustomActionHandler}
      (hf : ∀ y, (f y).progressThreads.head? = s.progressThreads.head?) :
      (s.back v f).progressThreads.head? = s.progressThreads.head? :=
    back_induction (P := fun s' => s'.progressThreads.head? = s.progressThreads.head?) rfl fun y _ => hf y
  -- the distance depends on the newest thread, and falls when the flag is set
  refine untilLeft_mono ?_ (access_aside hworker).actionStopped
  cases i with
  | worker a => exact absurd rfl (hworker a)
  | arrival action =>
    rw [access, arrive]
    split_ifs <;> rfl
  | callback now =>
    rw [access, accept]
    cases s.arrival with
    | idle | store t => rfl
    | compare action => exact hback fun _ => rfl
    | push action =>
      dsimp only
      split_ifs <;> rfl
  | cancellation =>
    rw [access, cancel]
    split_ifs
    · rfl
    · exact hback fun _ => rfl
  | thread k =>
    -- an earlier thread moves itself only
    obtain ⟨k, rfl⟩ := Nat.exists_eq_succ_of_ne_zero (fun h => hthread (congrArg HandlerInput.thread h))
    have hmodify (r : Report) : (s.setReport (k + 1) r).progressThreads.head? = s.progressThreads.head? := by
      unfold setReport
      cases s.progressThreads <;> rfl
    rw [access]
    have hreported := reportStep_reported (k + 1) s
    generalize s.reportStep (k + 1) = s' at hreported ⊢
    cases hreported with
    | still => rfl
    | undefined t ht hempty => rfl
    | moved t ht hactive r _ => exact hmodify r
    | sent t ht hactive p r => exact hmodify _

theorem untilLeft_setReport {t : ProgressThread} {l : List ProgressThread} (hthreads : s.progressThreads = t :: l)
    (r : Report) : (s.setReport 0 r).untilLeft = r.untilLeft s.actionStopped := by
  rw [untilLeft, setReport, hthreads]
  rfl

/-- Where its condition is false, each step of the newest thread takes it out of its loop. -/
theorem untilLeft_reportStep (hending : ¬ s.reports) (hactive : ¬ s.hasLeft) (hdefined : ¬ (s.reportStep 0).undefined) :
    (s.reportStep 0).untilLeft < s.untilLeft := by
  cases hthreads : s.progressThreads with
  | nil =>
    rw [hasLeft, hthreads] at hactive
    exact absurd rfl hactive
  | cons t l =>
    -- a step of the thread sets its position, after a read that finds something
    have hset (r : Report) := untilLeft_setReport hthreads r
    have hback {α : Type} {v : List α} {f : α → Report} {k : ℕ}
        (hdefined : ¬ (s.back v fun y => s.setReport 0 (f y)).undefined)
        (hf : ∀ y ∈ v.head?, (f y).untilLeft s.actionStopped < k) :
        (s.back v fun y => s.setReport 0 (f y)).untilLeft < k := by
      refine back_of_defined (P := fun s' => s'.untilLeft < k) hdefined fun y hy => ?_
      rw [hset]
      exact hf y hy
    have huntil : s.untilLeft = t.report.untilLeft s.actionStopped := by
      rw [untilLeft, hthreads]
      rfl
    rw [reportStep, hthreads, List.getElem?_cons_zero] at hdefined ⊢
    dsimp only at hdefined ⊢
    unfold sendProgressStatus at hdefined ⊢
    rw [huntil]
    cases hreport : t.report with
    | left => simp [hasLeft, hthreads, hreport] at hactive
    | testStopped =>
      dsimp only
      rw [hset]
      cases s.actionStopped <;> decide
    | testResult =>
      rw [hreport] at hdefined
      refine hback hdefined fun r hr => ?_
      cases hstopped : s.actionStopped with
      | true => split_ifs <;> decide
      | false =>
        -- the flag is down, so it is the result that ends the loop
        have hunknown : r = .unknown := by simpa [reports, hstopped, Option.mem_def.mp hr] using hending
        rw [if_neg (not_not.mpr hunknown)]
        decide
    | readProgress =>
      rw [hreport] at hdefined
      refine hback hdefined fun p _ => ?_
      cases s.actionStopped <;> simp [Report.untilLeft]
    | readResult p =>
      rw [hreport] at hdefined
      refine hback hdefined fun r _ => ?_
      cases s.actionStopped <;> simp [Report.untilLeft]
    | respond p r =>
      -- the response is sent and the thread goes to its test, which it will not pass
      have hset := untilLeft_setReport (s := s.respond t.action.id p r) hthreads .testStopped
      dsimp only
      rw [hset]
      show Report.untilLeft s.actionStopped _ < _
      cases s.actionStopped <;> simp [Report.untilLeft]

/-! ### Infinite runs -/

/-- An infinite run in which every read is of a vector that is not empty, the thread of a call is always stopped, the
worker and the newest progress thread are scheduled again and again, and no wait for the world lasts for good while the
flag that cuts it short is down. -/
structure FairRun (t : ℤ) (is : ℕ → HandlerInput) (x : ℕ → CustomActionHandler) : Prop
    extends IsRun step (initial t) is x where
  defined : ∀ n, ¬ (x n).undefined
  seen : ∀ n, Seen (x n) (is n)
  worker : ∃ᶠ n in atTop, ∃ a, is n = .worker a
  thread : ∃ᶠ n in atTop, is n = .thread 0
  waits : ∃ᶠ n in atTop, ¬ (x n).worker.isWaiting ∨ (x n).actionStopped

namespace FairRun

variable {t : ℤ} {is : ℕ → HandlerInput} {x : ℕ → CustomActionHandler} {n : ℕ}

theorem ends (h : FairRun t is x) (n : ℕ) : Ends (x n) := by
  rw [h.eq_run]
  exact run_ends t (h.meets h.seen n)

theorem access (h : FairRun t is x) (n : ℕ) : x (n + 1) = (x n).access (is n) := by
  rw [h.next, step, if_neg (h.defined n)]

theorem work (h : FairRun t is x) {a : Answer} (hi : is n = .worker a) : x (n + 1) = (x n).work a := by
  rw [h.access, hi]
  rfl

theorem aside (h : FairRun t is x) (hi : ¬ ∃ a, is n = .worker a) : Aside (x n) (x (n + 1)) := by
  rw [h.access]
  exact access_aside fun a ha => hi ⟨a, ha⟩

theorem descends (h : FairRun t is x) {a : Answer} (hi : is n = .worker a) (hbusy : (x n).worker ≠ .top) :
    Descends (x n).worker (x (n + 1)).worker := by
  have hdefined := h.defined (n + 1)
  rw [h.work hi] at hdefined ⊢
  exact work_descends hbusy a hdefined

/-- Where the worker does not wait it is taken on. -/
theorem moves (h : FairRun t is x) (r : ℕ ×ₗ ℕ) :
    LeadsTo (fun n => ((x n).worker ≠ .top ∧ ¬ (x n).worker.isWaiting ∧ (x n).worker ≠ .join) ∧ (x n).worker.rank = r)
      fun n => (x n).worker.rank < r := by
  have hact : ∀ n, ((x n).worker ≠ .top ∧ ¬ (x n).worker.isWaiting ∧ (x n).worker ≠ .join) ∧ (x n).worker.rank = r →
      (∃ a, is n = .worker a) → (x (n + 1)).worker.rank < r := by
    rintro n ⟨⟨htop, hwaiting, hjoin⟩, rfl⟩ ⟨a, hi⟩
    cases h.descends hi htop with
    | on hlt => exact hlt
    | waits _ hwaits _ => exact absurd hwaits hwaiting
    | joins hjoins _ => exact absurd hjoins hjoin
  refine leadsTo_of_fair h.worker (fun n hn => ?_) hact
  by_cases hi : ∃ a, is n = .worker a
  · exact .inl (hact n hn hi)
  · rw [(h.aside hi).worker]
    exact .inr hn

/-- A wait that the flag cuts short ends. -/
theorem waits_stopped (h : FairRun t is x) (r : ℕ ×ₗ ℕ) :
    LeadsTo (fun n => ((x n).worker.isWaiting ∧ (x n).worker.rank = r) ∧ (x n).actionStopped)
      fun n => (x n).worker.rank < r := by
  have hact : ∀ n, ((x n).worker.isWaiting ∧ (x n).worker.rank = r) ∧ (x n).actionStopped →
      (∃ a, is n = .worker a) → (x (n + 1)).worker.rank < r ∨
        (((x (n + 1)).worker.isWaiting ∧ (x (n + 1)).worker.rank = r) ∧ (x (n + 1)).actionStopped) ∧
          (x (n + 1)).worker.untilTest < (x n).worker.untilTest := by
    rintro n ⟨⟨hwaiting, rfl⟩, hstopped⟩ ⟨a, hi⟩
    rw [h.work hi]
    refine (work_stopped hwaiting hstopped a).imp_right ?_
    rintro ⟨hstopped', hwaiting', hrank, htest⟩
    exact ⟨⟨⟨hwaiting', hrank⟩, hstopped'⟩, htest⟩
  refine leadsTo_of_fair_rank (fun n => (x n).worker.untilTest) h.worker (fun n hn => ?_) hact
  by_cases hi : ∃ a, is n = .worker a
  · exact (hact n hn hi).imp_right fun hkept => ⟨hkept.1, hkept.2.le⟩
  · rw [(h.aside hi).worker]
    exact .inr ⟨⟨hn.1, (h.aside hi).actionStopped hn.2⟩, le_rfl⟩

/-- A step leaves a wait as it is, or ends it. -/
theorem waiting_step (h : FairRun t is x) (hwaiting : (x n).worker.isWaiting) :
    (x (n + 1)).worker.rank < (x n).worker.rank ∨
      (x (n + 1)).worker.isWaiting ∧ (x (n + 1)).worker.rank = (x n).worker.rank := by
  by_cases hi : ∃ a, is n = .worker a
  · obtain ⟨a, hi⟩ := hi
    have hbusy : (x n).worker ≠ .top := fun htop => by
      rw [htop] at hwaiting
      cases hwaiting
    cases h.descends hi hbusy with
    | on hlt => exact .inl hlt
    | waits hsame _ hwaiting' => exact .inr ⟨hwaiting', hsame⟩
    | joins hjoin _ =>
      rw [hjoin] at hwaiting
      cases hwaiting
  · rw [(h.aside hi).worker]
    exact .inr ⟨hwaiting, rfl⟩

/-- A wait takes the worker on when it ends. -/
theorem waits_end (h : FairRun t is x) (r : ℕ ×ₗ ℕ) :
    LeadsTo (fun n => (x n).worker.isWaiting ∧ (x n).worker.rank = r) fun n => (x n).worker.rank < r := by
  have hkeep : ∀ n, (x n).worker.isWaiting ∧ (x n).worker.rank = r →
      (x (n + 1)).worker.rank < r ∨ (x (n + 1)).worker.isWaiting ∧ (x (n + 1)).worker.rank = r := by
    rintro n ⟨hwaiting, rfl⟩
    exact h.waiting_step hwaiting
  refine (leadsTo_meet hkeep h.waits).trans_or ?_
  rintro n ⟨hn, hover⟩
  exact h.waits_stopped r n ⟨hn, hover.resolve_left (not_not.mpr hn.1)⟩

/-- At `join` a step of the worker ends the call, or changes nothing. -/
theorem work_join (h : FairRun t is x) {a : Answer} (hi : is n = .worker a) (hjoin : (x n).worker = .join) :
    (x (n + 1)).worker = .done ∨ x (n + 1) = x n ∧ ¬ (x n).hasLeft := by
  have hdefined := h.defined (n + 1)
  rw [h.work hi, CustomActionHandler.work, hjoin] at hdefined ⊢
  refine back_of_defined (P := fun s' => s'.worker = .done ∨ s' = x n ∧ ¬ (x n).hasLeft) hdefined fun t ht => ?_
  split_ifs with hleft
  · exact .inl rfl
  · exact .inr ⟨rfl, by simpa [hasLeft, Option.mem_def.mp ht] using hleft⟩

/-- While the worker waits for it, the newest progress thread leaves its loop. -/
theorem thread_leaves (h : FairRun t is x) :
    LeadsTo (fun n => (x n).worker = .join) fun n =>
      (x n).worker.rank < rank .join ∨ (x n).worker = .join ∧ (x n).hasLeft := by
  have hact : ∀ n, (x n).worker = .join → is n = .thread 0 → ¬ (x n).hasLeft →
      (x (n + 1)).untilLeft < (x n).untilLeft := by
    intro n hjoin hi hactive
    have hdefined := h.defined (n + 1)
    rw [h.access, hi] at hdefined ⊢
    exact untilLeft_reportStep (((h.ends n).isEnding hjoin).resolve_left hactive) hactive hdefined
  refine leadsTo_of_fair_rank (fun n => (x n).untilLeft) h.thread (fun n hjoin => ?_) fun n hjoin hi => ?_
  · by_cases hi : ∃ a, is n = .worker a
    · obtain ⟨a, hi⟩ := hi
      rcases h.work_join hi hjoin with hends | ⟨hsame, -⟩
      · exact .inl (.inl (hends ▸ rank_done))
      · rw [hsame]
        exact .inr ⟨hjoin, le_rfl⟩
    · have haside := h.aside hi
      by_cases hleft : (x n).hasLeft
      · exact .inl (.inr ⟨haside.worker.trans hjoin, haside.hasLeft hleft⟩)
      · refine .inr ⟨haside.worker.trans hjoin, ?_⟩
        by_cases hthread : is n = .thread 0
        · exact (hact n hjoin hthread hleft).le
        · rw [h.access]
          exact untilLeft_access (fun a ha => hi ⟨a, ha⟩) hthread
  · have haside := h.aside (by rw [hi]; simp)
    by_cases hleft : (x n).hasLeft
    · exact .inl (.inr ⟨haside.worker.trans hjoin, haside.hasLeft hleft⟩)
    · exact .inr ⟨haside.worker.trans hjoin, hact n hjoin hi hleft⟩

/-- The wait for the progress thread ends. -/
theorem joins (h : FairRun t is x) :
    LeadsTo (fun n => (x n).worker = .join) fun n => (x n).worker.rank < rank .join := by
  have hact : ∀ n, (x n).worker = .join ∧ (x n).hasLeft → (∃ a, is n = .worker a) →
      (x (n + 1)).worker.rank < rank .join := by
    rintro n ⟨hjoin, hleft⟩ ⟨a, hi⟩
    rcases h.work_join hi hjoin with hends | ⟨-, hactive⟩
    · exact hends ▸ rank_done
    · exact absurd hleft hactive
  refine h.thread_leaves.trans_or (leadsTo_of_fair h.worker (fun n hn => ?_) hact)
  by_cases hi : ∃ a, is n = .worker a
  · exact .inl (hact n hn hi)
  · exact .inr ⟨(h.aside hi).worker.trans hn.1, (h.aside hi).hasLeft hn.2⟩

/-- From everywhere the worker comes back to the top of its loop. -/
theorem leadsTo_top (h : FairRun t is x) : LeadsTo (fun _ => True) fun n => (x n).worker = .top := by
  refine leadsTo_of_rank (fun n => (x n).worker.rank) fun r n hn => ?_
  have hlower : (∃ m, n ≤ m ∧ (x m).worker.rank < r) → ∃ m, n ≤ m ∧
      ((x m).worker = .top ∨ True ∧ (x m).worker.rank < r) :=
    fun ⟨m, hm, hlt⟩ => ⟨m, hm, .inr ⟨trivial, hlt⟩⟩
  by_cases htop : (x n).worker = .top
  · exact ⟨n, le_rfl, .inl htop⟩
  by_cases hwaiting : (x n).worker.isWaiting
  · exact hlower (h.waits_end r n ⟨hwaiting, hn.2⟩)
  by_cases hjoin : (x n).worker = .join
  · obtain ⟨m, hm, hlt⟩ := h.joins n hjoin
    refine hlower ⟨m, hm, ?_⟩
    rwa [← hn.2, hjoin]
  · exact hlower (h.moves r n ⟨⟨htop, hwaiting, hjoin⟩, hn.2⟩)

end FairRun

/-- **The worker comes back**: in a fair run it is at the top of its loop again and again, so every call of
`process_custom_action` returns. -/
theorem returns_to_top {t : ℤ} {is : ℕ → HandlerInput} {x : ℕ → CustomActionHandler} (h : FairRun t is x) :
    ∃ᶠ n in atTop, (x n).worker = .top :=
  h.leadsTo_top.frequently

/-- After an action whose thread leaves its loop in time, the worker, the thread and the callback take turns. -/
def seenSchedule (n : ℕ) : HandlerInput :=
  seenAction.getD n (if n % 3 = 0 then .worker {} else if n % 3 = 1 then .thread 0 else .callback 0)

def seenStates (n : ℕ) : CustomActionHandler := run step (initial 60000000000) ((List.range n).map seenSchedule)

theorem seenSchedule_of_le {n : ℕ} (hn : 22 ≤ n) :
    seenSchedule n = if n % 3 = 0 then .worker {} else if n % 3 = 1 then .thread 0 else .callback 0 := by
  have hlength : seenAction.length = 22 := by decide
  rw [seenSchedule, List.getD_eq_getElem?_getD, List.getElem?_eq_none (hlength.trans_le hn)]
  rfl

theorem isRun_seenStates : IsRun step (initial 60000000000) seenSchedule seenStates :=
  isRun_run step (initial 60000000000) seenSchedule

/-- From the input 31 on nothing changes. -/
theorem seenStates_settled {n : ℕ} (hn : 31 ≤ n) : seenStates n = seenStates 31 := by
  have hfixed : ∀ i ∈ [HandlerInput.worker {}, .thread 0, .callback 0], step (seenStates 31) i = seenStates 31 := by
    decide +kernel
  refine isRun_seenStates.settled (fun k hk => hfixed _ ?_) hn
  rw [seenSchedule_of_le (by omega)]
  split_ifs <;> simp

/-- What holds of the steps before, and of the three that take turns after, holds of every step. -/
theorem seenSchedule_induction {P : CustomActionHandler → HandlerInput → Prop}
    (hbefore : ∀ n < 31, P (seenStates n) (seenSchedule n))
    (hafter : ∀ i ∈ [HandlerInput.worker {}, .thread 0, .callback 0], P (seenStates 31) i) (n : ℕ) :
    P (seenStates n) (seenSchedule n) := by
  by_cases hn : n < 31
  · exact hbefore n hn
  · rw [seenStates_settled (not_lt.mp hn), seenSchedule_of_le (by omega)]
    refine hafter _ ?_
    split_ifs <;> simp

theorem fairRun_seenSchedule : FairRun 60000000000 seenSchedule seenStates where
  toIsRun := isRun_seenStates
  defined := seenSchedule_induction (P := fun s _ => ¬ s.undefined) (by decide +kernel) (by decide +kernel)
  seen := seenSchedule_induction (by decide +kernel) (by decide +kernel)
  worker := by
    refine frequently_atTop.mpr fun n => ⟨3 * (n + 8), by omega, {}, ?_⟩
    rw [seenSchedule_of_le (by omega), if_pos (by omega)]
  thread := by
    refine frequently_atTop.mpr fun n => ⟨3 * (n + 8) + 1, by omega, ?_⟩
    rw [seenSchedule_of_le (by omega), if_neg (by omega), if_pos (by omega)]
  waits := by
    have htop : ¬ (seenStates 31).worker.isWaiting := by decide +kernel
    refine frequently_atTop.mpr fun n => ⟨n + 31, by omega, .inl ?_⟩
    rw [seenStates_settled (by omega)]
    exact htop

theorem returns_to_top_seenSchedule : ∃ᶠ n in atTop, (seenStates n).worker = .top :=
  returns_to_top fairRun_seenSchedule

end CustomActionHandler

end AutopilotManager
