import AutopilotManager.CustomAction.Queue
import AutopilotManager.Mission.Basic
import Mathlib.Data.Rat.Defs

/-!
# CustomAction.Handler — the threads of the custom action handler

`CustomActionHandler` access by access: the two callbacks, the worker with `process_custom_action` and
`execute_custom_action`, and the progress threads share five vectors and two flags without a lock.  A step is one
vector operation or one load or store of a flag; how long a call outside or a sleep takes is up to the other parties.
The vectors list the newest element first, so `back()` is the head, and a read of an empty one is undefined
behaviour, which ends the run.
-/

namespace AutopilotManager

open Lib

/-! ### The data of an action -/

/-- `mavsdk::CustomAction::Result`; `other` stands for the results that the handler does not name. -/
inductive Result
  | unknown
  | success
  | error
  | timeout
  | inProgress
  | other (code : ℕ)
  deriving DecidableEq

inductive StateTransitionCondition
  | onResultSuccess
  | onTimeout
  | onLandingComplete
  | onTakeoffComplete
  deriving DecidableEq

inductive ActionCompleteCondition
  | onResultSuccess
  | onTimeout
  deriving DecidableEq

/-- What the handler reads of `mavsdk::CustomAction::ActionMetadata`; of a stage that is the transition condition. -/
structure ActionMetadata where
  stages : List StateTransitionCondition := []
  globalScript : String := ""
  actionCompleteCondition : ActionCompleteCondition := .onResultSuccess
  deriving DecidableEq

/-! ### Where the parties are -/

/-- The callback for an action: tested `empty()`, about to compare with `back()`; about to test the time and push; or
about to store the flag. -/
inductive Arrival
  | idle
  | compare (action : ActionToExecute)
  | push (action : ActionToExecute)
  | store (now : ℤ)
  deriving DecidableEq

/-- A progress thread in `send_progress_status`. -/
inductive Report
  | testStopped
  | testResult
  | readProgress
  | readResult (progress : ℚ)
  | respond (progress : ℚ) (result : Result)
  | left
  deriving DecidableEq

structure ProgressThread where
  action : ActionToExecute
  report : Report := .testStopped
  deriving DecidableEq

/-- `execute_custom_action`, with `update_action_progress_from_stage`.  A line on the console reads the metadata, or
the progress. -/
inductive Execute
  | stage (i : ℕ)
  | printStage (i : ℕ)
  | runStage (i : ℕ)
  | printFailed
  | failed
  | stopFailed
  | wait (i : ℕ)
  | sleep (i : ℕ)
  | landed (i : ℕ)
  | poll (i : ℕ)
  | update (i : ℕ)
  | setProgress (i : ℕ)
  | testProgress (i : ℕ)
  | setInProgress (i : ℕ)
  | printId (i : ℕ)
  | printProgress (i : ℕ)
  | setSuccess (i : ℕ)
  | script
  | waitScript
  | sleepScript
  | runScript
  | setResult (result : Result)
  | testScript
  | setComplete
  | outcome (results : List Result)
  | printOutcome
  | raise
  | lower
  | clear
  deriving DecidableEq

/-- The worker: `new_action_check` with `process_custom_action`, which holds the metadata it executes. -/
inductive ActionWorker
  | top
  | called
  | fetching
  | pushResult
  | pushProgress
  | printId
  | printProgress
  | copyAction
  | spawn (action : ActionToExecute)
  | enter
  | executing (metadata : ActionMetadata) (e : Execute)
  | testComplete
  | testSuccess
  | setUnknown
  | join
  | done
  deriving DecidableEq

/-- A response to the flight controller, with the action of the call of `process_custom_action` under way. -/
structure Response where
  id : UInt32
  progress : ℚ
  result : Result
  call : ActionToExecute
  deriving DecidableEq

/-- A call of `process_custom_action`: the action it was given, the metadata it fetched, the stages it executed with
their results, newest first, the results of the global script, and whether a cancellation arrived meanwhile. -/
structure ActionCall where
  action : ActionToExecute
  metadata : ActionMetadata := {}
  stages : List (ℕ × Result) := []
  scripts : List Result := []
  cancelled : Bool := false
  deriving DecidableEq

/-- The members, where each party is, and what has been done: `call` is the call under way or the last one, `past`
lists the calls that have returned.  `_actions_progress` holds doubles, here rationals: the arithmetic is exact.  The
two times are locals of `run()`, which the callback captures by reference and so refers to after `run()` has returned;
here they live on, and so does the action of the call, in the source a reference into `_actions`. -/
structure CustomActionHandler where
  actions : List ActionToExecute := []
  actionsProgress : List ℚ := []
  actionsResult : List Result := []
  actionsMetadata : List ActionMetadata := []
  progressThreads : List ProgressThread := []
  newAction : Bool := false
  actionStopped : Bool := false
  landedState : LandedState := .unknown
  startTime : ℤ
  newActionTime : ℤ
  arrival : Arrival := .idle
  cancelling : Bool := false
  worker : ActionWorker := .top
  undefined : Bool := false
  responses : List Response := []
  call : ActionCall := { action := ⟨0⟩ }
  past : List ActionCall := []
  deriving DecidableEq

/-- What the call outside that a step of the worker makes answers: the metadata, the result of a stage or script, the
telemetry, and whether a wait is over. -/
structure Answer where
  metadata : ActionMetadata := {}
  result : Result := .success
  landedState : LandedState := .onGround
  elapsed : Bool := true

/-- The next access of a party: of the callback for an action, which begins with `arrival`, of the callback for a
cancellation, of the worker, or of the progress thread that `k` others were pushed after. -/
inductive HandlerInput
  | arrival (action : ActionToExecute)
  | callback (now : ℤ)
  | cancellation
  | worker (answer : Answer)
  | thread (k : ℕ)

/-! ### Metadata and locations -/

def ActionMetadata.condition (m : ActionMetadata) (i : ℕ) : StateTransitionCondition :=
  m.stages.getD i .onResultSuccess

/-- The stages or the script are done; a message depends on the recorded result. -/
def Execute.over : Execute := .outcome [.timeout, .error, .success]

/-- Where `execute_custom_action` begins. -/
def ActionMetadata.entry (m : ActionMetadata) : Execute :=
  if m.stages ≠ [] then .stage 0 else if m.globalScript ≠ "" then .script else .over

/-- `process_custom_action` has been given its action and has not returned. -/
def ActionWorker.isProcessing : ActionWorker → Bool
  | .top | .called | .done => false
  | _ => true

/-- About to lower the flag at the end of a call. -/
def ActionWorker.isLowering : ActionWorker → Bool
  | executing _ .lower => true
  | _ => false

namespace CustomActionHandler

/-! ### Accesses -/

/-- `back()` of a vector. -/
def back {α : Type} (s : CustomActionHandler) (v : List α) (f : α → CustomActionHandler) : CustomActionHandler :=
  match v with
  | x :: _ => f x
  | [] => { s with undefined := true }

/-- `_actions_result.back() = r` -/
def setResult (r : Result) (next : ActionWorker) (s : CustomActionHandler) : CustomActionHandler :=
  s.back s.actionsResult fun _ => { s with actionsResult := r :: s.actionsResult.tail, worker := next }

/-- `_actions_progress.back() = p` -/
def setProgress (p : ℚ) (next : ActionWorker) (s : CustomActionHandler) : CustomActionHandler :=
  s.back s.actionsProgress fun _ => { s with actionsProgress := p :: s.actionsProgress.tail, worker := next }

def goto (next : ActionWorker) (s : CustomActionHandler) : CustomActionHandler := { s with worker := next }

/-! ### The callbacks -/

/-- An action has been accepted less than a second and a half before; clocks count nanoseconds. -/
def isTooEarly (now : ℤ) (s : CustomActionHandler) : Bool :=
  s.newActionTime ≠ s.startTime && (now - s.newActionTime).tdiv 1000000 < 1500

/-- The callback for an action is called again only when it has returned. -/
def arrive (action : ActionToExecute) (s : CustomActionHandler) : CustomActionHandler :=
  if s.arrival ≠ .idle then s
  else if s.actions = [] then { s with arrival := .push action }
  else { s with arrival := .compare action }

def accept (now : ℤ) (s : CustomActionHandler) : CustomActionHandler :=
  match s.arrival with
  | .idle => s
  | .compare action => s.back s.actions fun a =>
    { s with arrival := if a.id ≠ action.id then .push action else .idle }
  | .push action =>
    if s.isTooEarly now then { s with arrival := .idle }
    else { s with actions := action :: s.actions, arrival := .store now }
  | .store now => { s with newAction := true, newActionTime := now, arrival := .idle }

/-- The callback for a cancellation: print the newest action, then store the flag. -/
def cancel (s : CustomActionHandler) : CustomActionHandler :=
  if s.cancelling then { s with actionStopped := true, cancelling := false }
  else s.back s.actionsMetadata fun _ =>
    { s with cancelling := true, call.cancelled := s.call.cancelled || s.worker.isProcessing }

/-! ### The progress threads -/

def setReport (k : ℕ) (r : Report) (s : CustomActionHandler) : CustomActionHandler :=
  { s with progressThreads := s.progressThreads.modify k fun t => { t with report := r } }

def respond (id : UInt32) (progress : ℚ) (result : Result) (s : CustomActionHandler) : CustomActionHandler :=
  { s with responses := ⟨id, progress, result, s.call.action⟩ :: s.responses }

/-- One step of `send_progress_status`. -/
def sendProgressStatus (k : ℕ) (t : ProgressThread) (s : CustomActionHandler) : CustomActionHandler :=
  match t.report with
  | .testStopped => s.setReport k (if s.actionStopped then .left else .testResult)
  | .testResult => s.back s.actionsResult fun r => s.setReport k (if r ≠ .unknown then .readProgress else .left)
  | .readProgress => s.back s.actionsProgress fun p => s.setReport k (.readResult p)
  | .readResult p => s.back s.actionsResult fun r => s.setReport k (.respond p r)
  | .respond p r => (s.respond t.action.id p r).setReport k .testStopped
  | .left => s

def reportStep (k : ℕ) (s : CustomActionHandler) : CustomActionHandler :=
  match s.progressThreads[k]? with
  | some t => s.sendProgressStatus k t
  | none => s

/-! ### The worker -/

/-- The wait after a stage looks at the flag first; without a condition it does not wait. -/
def waitStage (m : ActionMetadata) (i : ℕ) (s : CustomActionHandler) : CustomActionHandler :=
  match m.condition i with
  | .onResultSuccess => s.goto (.executing m (.update i))
  | .onTimeout => s.goto (.executing m (if s.actionStopped then .update i else .sleep i))
  | .onLandingComplete | .onTakeoffComplete =>
    s.goto (.executing m (if s.actionStopped then .update i else .landed i))

/-- The vehicle has landed, or taken off, as far as the member says. -/
def transitionComplete (m : ActionMetadata) (i : ℕ) (s : CustomActionHandler) : Bool :=
  match m.condition i with
  | .onLandingComplete => ¬ (s.landedState = .landing ∨ s.landedState ≠ .onGround)
  | .onTakeoffComplete => ¬ (s.landedState = .takingOff ∨ s.landedState ≠ .inAir)
  | _ => true

/-- One step of `execute_custom_action`. -/
def execute (m : ActionMetadata) (a : Answer) (s : CustomActionHandler) : Execute → CustomActionHandler
  | .stage i =>
    if i < m.stages.length then
      s.goto (.executing m (if s.actionStopped then .stage (i + 1) else .printStage i))
    else s.goto (.executing m .over)
  | .printStage i => s.back s.actionsMetadata fun _ => s.goto (.executing m (.runStage i))
  | .runStage i =>
    { s with
      call.stages := (i, a.result) :: s.call.stages
      worker := .executing m (if a.result ≠ .success then .printFailed else .wait i) }
  | .printFailed => s.back s.actionsMetadata fun _ => s.goto (.executing m .failed)
  | .failed => s.setResult .error (.executing m .stopFailed)
  | .stopFailed => { s with actionStopped := true, worker := .executing m .over }
  | .wait i => s.waitStage m i
  | .sleep i => s.goto (.executing m (if a.elapsed then .update i else .wait i))
  | .landed i => s.goto (.executing m (if s.transitionComplete m i then .update i else .poll i))
  | .poll i => { s with landedState := a.landedState, worker := .executing m (.wait i) }
  | .update i => s.goto (.executing m (if s.actionStopped then .stage (i + 1) else .setProgress i))
  | .setProgress i => s.setProgress ((i + 1) / m.stages.length * 100) (.executing m (.testProgress i))
  | .testProgress i => s.back s.actionsProgress fun p =>
    s.goto (.executing m (if p ≠ 100 then .setInProgress i else .setSuccess i))
  | .setInProgress i => s.setResult .inProgress (.executing m (.printId i))
  | .printId i => s.back s.actionsMetadata fun _ => s.goto (.executing m (.printProgress i))
  | .printProgress i => s.back s.actionsProgress fun _ => s.goto (.executing m (.stage (i + 1)))
  | .setSuccess i => s.setResult .success (.executing m (.stage (i + 1)))
  | .script =>
    if s.actionStopped then s.goto (.executing m (.setResult .unknown))
    else
      match m.actionCompleteCondition with
      | .onResultSuccess => s.goto (.executing m .runScript)
      | .onTimeout => s.goto (.executing m .waitScript)
  | .waitScript => s.goto (.executing m (if s.actionStopped then .runScript else .sleepScript))
  | .sleepScript => s.goto (.executing m (if a.elapsed then .runScript else .waitScript))
  | .runScript =>
    { s with call.scripts := a.result :: s.call.scripts, worker := .executing m (.setResult a.result) }
  | .setResult r => s.setResult r (.executing m .testScript)
  | .testScript => s.back s.actionsResult fun r =>
    s.goto (.executing m (if r = .success then .setComplete else .over))
  | .setComplete => s.setProgress 100 (.executing m .over)
  | .outcome (r :: rs) => s.back s.actionsResult fun x =>
    s.goto (.executing m (if x = r then .printOutcome else .outcome rs))
  | .outcome [] => s.goto (.executing m .raise)
  | .printOutcome => s.back s.actionsMetadata fun _ => s.goto (.executing m .raise)
  | .raise => { s with actionStopped := true, worker := .executing m .lower }
  | .lower => { s with actionStopped := false, worker := .executing m .clear }
  | .clear => { s with actions := [], worker := .testComplete }

/-- One step of `new_action_check`. -/
def work (a : Answer) (s : CustomActionHandler) : CustomActionHandler :=
  match s.worker with
  | .top => if s.newAction then s.goto .called else s
  | .called => s.back s.actions fun action => { s with worker := .fetching, call := { action } }
  | .fetching =>
    { s with
      actionsMetadata := a.metadata :: s.actionsMetadata
      call.metadata := a.metadata
      worker := .pushResult }
  | .pushResult => { s with actionsResult := .inProgress :: s.actionsResult, worker := .pushProgress }
  | .pushProgress => { s with actionsProgress := 0 :: s.actionsProgress, worker := .printId }
  | .printId => s.back s.actionsMetadata fun _ => s.goto .printProgress
  | .printProgress => s.back s.actionsProgress fun _ => s.goto .copyAction
  | .copyAction => s.back s.actions fun action => s.goto (.spawn action)
  | .spawn action => { s with progressThreads := { action } :: s.progressThreads, worker := .enter }
  | .enter => s.back s.actionsMetadata fun m => s.goto (.executing m m.entry)
  | .executing m e => s.execute m a e
  | .testComplete => s.back s.actionsProgress fun p => s.goto (if p = 100 then .testSuccess else .join)
  | .testSuccess => s.back s.actionsResult fun r => s.goto (if r = .success then .setUnknown else .join)
  | .setUnknown => s.setResult .unknown .join
  | .join => s.back s.progressThreads fun t =>
    if t.report = .left then { s with past := s.call :: s.past, worker := .done } else s
  | .done => { s with newAction := false, worker := .top }

/-! ### The machine -/

def access (s : CustomActionHandler) : HandlerInput → CustomActionHandler
  | .arrival action => s.arrive action
  | .callback now => s.accept now
  | .cancellation => s.cancel
  | .worker answer => s.work answer
  | .thread k => s.reportStep k

def step (s : CustomActionHandler) (i : HandlerInput) : CustomActionHandler :=
  if s.undefined then s else s.access i

/-- The start: both times are one minute ahead. -/
def initial (t : ℤ) : CustomActionHandler where
  startTime := t
  newActionTime := t

/-! ### What a step of a party can do -/

/-- A step of `execute_custom_action` that does not clear the queue: these members are as before, and a vector that it
writes to does not become empty. -/
structure Executes (m : ActionMetadata) (e : Execute) (s s' : CustomActionHandler) : Prop where
  worker : ∃ e', s'.worker = .executing m e' ∧ (e' = .clear → e = .lower)
  actions : s'.actions = s.actions
  actionsMetadata : s'.actionsMetadata = s.actionsMetadata
  progressThreads : s'.progressThreads = s.progressThreads
  actionsResult : s.actionsResult ≠ [] → s'.actionsResult ≠ []
  actionsProgress : s.actionsProgress ≠ [] → s'.actionsProgress ≠ []
  newAction : s'.newAction = s.newAction
  arrival : s'.arrival = s.arrival
  cancelling : s'.cancelling = s.cancelling
  responses : s'.responses = s.responses
  action : s'.call.action = s.call.action
  cancelled : s'.call.cancelled = s.call.cancelled
  past : s'.past = s.past

/-- A step of the progress thread `k`, if it has not left its loop: it finds an empty vector, goes on, or sends a
response.  It leaves when it finds the flag or the result that stops it. -/
inductive Reported (k : ℕ) (s : CustomActionHandler) : CustomActionHandler → Prop
  | still : Reported k s s
  | undefined (t : ProgressThread) (ht : s.progressThreads[k]? = some t)
      (hempty : s.actionsResult = [] ∨ s.actionsProgress = []) : Reported k s { s with undefined := true }
  | moved (t : ProgressThread) (ht : s.progressThreads[k]? = some t) (hactive : t.report ≠ .left) (r : Report)
      (hleft : r = .left → s.actionStopped ∨ s.actionsResult.head? = some .unknown) :
      Reported k s (s.setReport k r)
  | sent (t : ProgressThread) (ht : s.progressThreads[k]? = some t) (hactive : t.report ≠ .left) (p : ℚ)
      (r : Result) : Reported k s ((s.respond t.action.id p r).setReport k .testStopped)

variable {s : CustomActionHandler}

/-- What holds after a read, holds of the state in which it is undefined and of what it goes on with. -/
theorem back_induction {P : CustomActionHandler → Prop} {α : Type} {v : List α} {f : α → CustomActionHandler}
    (hempty : P { s with undefined := true }) (hf : ∀ x ∈ v.head?, P (f x)) : P (s.back v f) := by
  cases v with
  | nil => exact hempty
  | cons x l => exact hf x rfl

/-- A read of a vector that is not empty. -/
theorem back_of_ne_nil {P : CustomActionHandler → Prop} {α : Type} {v : List α} {f : α → CustomActionHandler}
    (hv : v ≠ []) (hf : ∀ x ∈ v.head?, P (f x)) : P (s.back v f) := by
  cases v with
  | nil => exact absurd rfl hv
  | cons x l => exact hf x rfl

/-- What holds before and after the access, holds after the step. -/
theorem step_induction {P : CustomActionHandler → Prop} {i : HandlerInput} (hs : P s) (haccess : P (s.access i)) :
    P (step s i) := by
  unfold step
  split_ifs
  · exact hs
  · exact haccess

section Execute

variable {m : ActionMetadata} {e : Execute} (a : Answer) (hw : s.worker = .executing m e)

theorem goto_executes {e' : Execute} (he' : e' = .clear → e = .lower) : Executes m e s (s.goto (.executing m e')) :=
  ⟨⟨e', rfl, he'⟩, rfl, rfl, rfl, id, id, rfl, rfl, rfl, rfl, rfl, rfl, rfl⟩

section Clear

variable (he : e ≠ .clear)

include hw he in
theorem back_executes {α : Type} {v : List α} {f : α → CustomActionHandler} (hf : ∀ x, Executes m e s (f x)) :
    Executes m e s (s.back v f) :=
  back_induction ⟨⟨e, hw, fun h => absurd h he⟩, rfl, rfl, rfl, id, id, rfl, rfl, rfl, rfl, rfl, rfl, rfl⟩ fun x _ => hf x

include hw he in
theorem setResult_executes (r : Result) {e' : Execute} (he' : e' = .clear → e = .lower) :
    Executes m e s (s.setResult r (.executing m e')) :=
  back_executes hw he fun _ =>
    ⟨⟨e', rfl, he'⟩, rfl, rfl, rfl, fun _ => List.cons_ne_nil _ _, id, rfl, rfl, rfl, rfl, rfl, rfl, rfl⟩

include hw he in
theorem setProgress_executes (p : ℚ) {e' : Execute} (he' : e' = .clear → e = .lower) :
    Executes m e s (s.setProgress p (.executing m e')) :=
  back_executes hw he fun _ =>
    ⟨⟨e', rfl, he'⟩, rfl, rfl, rfl, id, fun _ => List.cons_ne_nil _ _, rfl, rfl, rfl, rfl, rfl, rfl, rfl⟩

include hw he in
theorem execute_executes : Executes m e s (s.execute m a e) := by
  cases e with
  | clear => exact absurd rfl he
  | lower => exact ⟨⟨_, rfl, fun _ => rfl⟩, rfl, rfl, rfl, id, id, rfl, rfl, rfl, rfl, rfl, rfl, rfl⟩
  | stopFailed | poll i | runScript | raise =>
    exact ⟨⟨_, rfl, nofun⟩, rfl, rfl, rfl, id, id, rfl, rfl, rfl, rfl, rfl, rfl, rfl⟩
  | runStage i =>
    exact ⟨⟨_, rfl, by split_ifs <;> nofun⟩, rfl, rfl, rfl, id, id, rfl, rfl, rfl, rfl, rfl, rfl, rfl⟩
  | stage i =>
    rw [execute]
    split_ifs <;> exact goto_executes nofun
  | wait i =>
    rw [execute, waitStage]
    split
    · exact goto_executes nofun
    · exact goto_executes (by split_ifs <;> nofun)
    · exact goto_executes (by split_ifs <;> nofun)
    · exact goto_executes (by split_ifs <;> nofun)
  | sleep i | landed i | update i | waitScript | sleepScript => exact goto_executes (by split_ifs <;> nofun)
  | script =>
    rw [execute]
    split_ifs
    · exact goto_executes nofun
    · split <;> exact goto_executes nofun
  | failed | setInProgress i | setSuccess i | setResult r => exact setResult_executes hw he _ nofun
  | setProgress i | setComplete => exact setProgress_executes hw he _ nofun
  | printStage i | printFailed | printId i | printProgress i | printOutcome =>
    exact back_executes hw he fun _ => goto_executes nofun
  | testProgress i | testScript => exact back_executes hw he fun _ => goto_executes (by split_ifs <;> nofun)
  | outcome rs =>
    cases rs with
    | nil => exact goto_executes nofun
    | cons r rs => exact back_executes hw he fun _ => goto_executes (by split_ifs <;> nofun)

end Clear

end Execute

theorem reportStep_reported (k : ℕ) (s : CustomActionHandler) : Reported k s (s.reportStep k) := by
  unfold reportStep
  cases ht : s.progressThreads[k]? with
  | none => exact .still
  | some t =>
    dsimp only
    unfold sendProgressStatus
    cases hreport : t.report with
    | left => exact .still
    | testStopped =>
      refine .moved t ht (by simp [hreport]) _ fun h => .inl ?_
      simpa using h
    | testResult =>
      cases hresult : s.actionsResult with
      | nil => exact .undefined t ht (.inl hresult)
      | cons r l =>
        refine .moved t ht (by simp [hreport]) _ fun h => .inr ?_
        simpa [hresult] using h
    | readProgress =>
      cases hprogress : s.actionsProgress with
      | nil => exact .undefined t ht (.inr hprogress)
      | cons p l => exact .moved t ht (by simp [hreport]) _ nofun
    | readResult p =>
      cases hresult : s.actionsResult with
      | nil => exact .undefined t ht (.inl hresult)
      | cons r l => exact .moved t ht (by simp [hreport]) _ nofun
    | respond p r => exact .sent t ht (by simp [hreport]) p r

/-- A step of another party than the worker: what the worker writes and nobody else, stays. -/
structure KeepsWorker (s s' : CustomActionHandler) : Prop where
  worker : s'.worker = s.worker
  landedState : s'.landedState = s.landedState
  actionsMetadata : s'.actionsMetadata = s.actionsMetadata
  actionsResult : s'.actionsResult = s.actionsResult
  actionsProgress : s'.actionsProgress = s.actionsProgress
  metadata : s'.call.metadata = s.call.metadata
  stages : s'.call.stages = s.call.stages
  scripts : s'.call.scripts = s.call.scripts

theorem KeepsWorker.refl (s : CustomActionHandler) : KeepsWorker s s := ⟨rfl, rfl, rfl, rfl, rfl, rfl, rfl, rfl⟩

theorem access_keepsWorker {i : HandlerInput} (hi : ∀ a, i ≠ .worker a) : KeepsWorker s (s.access i) := by
  have hback : ∀ {α : Type} {v : List α} {f : α → CustomActionHandler}, (∀ x, KeepsWorker s (f x)) →
      KeepsWorker s (s.back v f) := fun hf =>
    back_induction ⟨rfl, rfl, rfl, rfl, rfl, rfl, rfl, rfl⟩ fun x _ => hf x
  cases i with
  | worker a => exact absurd rfl (hi a)
  | arrival action =>
    rw [access, arrive]
    split_ifs <;> exact ⟨rfl, rfl, rfl, rfl, rfl, rfl, rfl, rfl⟩
  | callback now =>
    rw [access, accept]
    cases s.arrival with
    | idle => exact .refl s
    | compare action => exact hback fun a => ⟨rfl, rfl, rfl, rfl, rfl, rfl, rfl, rfl⟩
    | push action =>
      dsimp only
      split_ifs <;> exact ⟨rfl, rfl, rfl, rfl, rfl, rfl, rfl, rfl⟩
    | store t => exact ⟨rfl, rfl, rfl, rfl, rfl, rfl, rfl, rfl⟩
  | cancellation =>
    rw [access, cancel]
    split_ifs
    · exact ⟨rfl, rfl, rfl, rfl, rfl, rfl, rfl, rfl⟩
    · exact hback fun m => ⟨rfl, rfl, rfl, rfl, rfl, rfl, rfl, rfl⟩
  | thread k =>
    rw [access]
    have hreported := reportStep_reported k s
    generalize s.reportStep k = s' at hreported ⊢
    cases hreported <;> exact ⟨rfl, rfl, rfl, rfl, rfl, rfl, rfl, rfl⟩

end CustomActionHandler

end AutopilotManager
