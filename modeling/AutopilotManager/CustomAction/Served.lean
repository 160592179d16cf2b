import AutopilotManager.CustomAction.Liveness
import AutopilotManager.CustomAction.Refinement

/-!
# CustomAction.Served — the last accepted action is executed

The callback stores the flag for an action that it has pushed, and the worker clears it only at the end of a call.  As
every call ends, in the end the flag is clear or another action has been accepted; and where it is clear, nothing is
left to be executed.
-/

namespace AutopilotManager

open Filter Lib

namespace CustomActionHandler

variable {s : CustomActionHandler}

/-- A callback that accepts nothing is not about to store the flag. -/
theorem stored_accept {now : ℤ} (hnothing : s.acceptance (.callback now) = []) :
    (s.accept now).arrival.stored = none := by
  unfold acceptance at hnothing
  unfold accept
  cases harrival : s.arrival with
  | idle => rw [harrival]; rfl
  | compare action =>
    refine back_induction (P := fun s' => s'.arrival.stored = none) (by rw [harrival]; rfl) fun x _ => ?_
    dsimp only
    split_ifs <;> rfl
  | push action =>
    rw [harrival] at hnothing
    dsimp only at hnothing ⊢
    split_ifs at hnothing ⊢ with hearly
    rfl
  | store time => rfl

/-- The worker leaves the callback alone, and at most clears the flag. -/
theorem work_newAction (s : CustomActionHandler) (a : Answer) :
    (s.work a).arrival = s.arrival ∧ ((s.work a).newAction → s.newAction) := by
  by_cases hnone : s.queueAccess (.worker a) = []
  · have hkeeps := work_keepsQueue hnone
    exact ⟨hkeeps.arrival, fun hflag => hkeeps.newAction ▸ hflag⟩
  unfold queueAccess at hnone
  cases hw : s.worker with
  | top =>
    rw [work, hw]
    dsimp only
    split_ifs <;> exact ⟨rfl, id⟩
  | called =>
    rw [work, hw]
    exact back_induction (P := fun s' => s'.arrival = s.arrival ∧ (s'.newAction → s.newAction)) ⟨rfl, id⟩ fun _ _ =>
      ⟨rfl, id⟩
  | executing m e =>
    cases e with
    | clear =>
      rw [work, hw]
      exact ⟨rfl, id⟩
    | _ => exact absurd (by rw [hw]) hnone
  | done =>
    rw [work, hw]
    exact ⟨rfl, fun hflag => absurd hflag Bool.false_ne_true⟩
  | _ => exact absurd (by rw [hw]) hnone

/-- An access that accepts nothing where no flag is about to be stored, stores none. -/
theorem access_rests {i : HandlerInput} (hnothing : s.acceptance i = []) (hidle : s.arrival.stored = none) :
    (s.access i).arrival.stored = none ∧ ((s.access i).newAction → s.newAction) := by
  have hkeeps {s' : CustomActionHandler} (h : KeepsQueue s s') :
      s'.arrival.stored = none ∧ (s'.newAction → s.newAction) := by
    rw [h.arrival, h.newAction]
    exact ⟨hidle, id⟩
  cases i with
  | arrival action =>
    rw [access, arrive]
    split_ifs
    · exact ⟨hidle, id⟩
    · exact ⟨rfl, id⟩
    · exact ⟨rfl, id⟩
  | callback now =>
    refine ⟨stored_accept hnothing, ?_⟩
    rw [access, accept]
    cases harrival : s.arrival with
    | idle => exact id
    | compare action => exact back_induction (P := fun s' => s'.newAction → s.newAction) id fun _ _ => id
    | push action =>
      dsimp only
      split_ifs <;> exact id
    | store time =>
      -- a flag to store is ruled out: the callback is not in its last step
      rw [harrival] at hidle
      cases hidle
  | cancellation =>
    rw [access, cancel]
    split_ifs
    · exact ⟨hidle, id⟩
    · exact hkeeps (back_keepsQueue fun _ => ⟨rfl, rfl, rfl, rfl, rfl, rfl, rfl⟩)
  | worker a =>
    obtain ⟨harrival, hflag⟩ := work_newAction s a
    exact ⟨harrival ▸ hidle, hflag⟩
  | thread k =>
    have hreported := reportStep_reported k s
    rw [access]
    generalize s.reportStep k = s' at hreported ⊢
    cases hreported <;> exact ⟨hidle, id⟩

/-- The worker comes to the top of its loop with the flag cleared. -/
theorem newAction_of_top (hbusy : s.worker ≠ .top) {a : Answer} (htop : (s.work a).worker = .top) :
    ¬ (s.work a).newAction := by
  have hback {α : Type} {v : List α} {f : α → CustomActionHandler} (hwork : s.work a = s.back v f)
      (hf : ∀ x, (f x).worker ≠ .top) : ¬ (s.work a).newAction := by
    -- a read leads back to the top in no case, also where it fails
    have hno : (s.back v f).worker ≠ .top := back_induction (P := fun s' => s'.worker ≠ .top) hbusy fun x _ => hf x
    exact absurd (hwork ▸ htop) hno
  cases hw : s.worker with
  | top => exact absurd hw hbusy
  | done =>
    -- the last step of a call takes the flag down
    rw [work, hw]
    exact Bool.false_ne_true
  | executing m e =>
    rw [work, hw] at htop
    by_cases hclear : e = .clear
    · subst hclear
      cases htop
    · obtain ⟨e', hw', -⟩ := (execute_executes a hw hclear).worker
      rw [hw'] at htop
      cases htop
  | fetching | pushResult | pushProgress | spawn action =>
    rw [work, hw] at htop
    cases htop
  | called | printId | printProgress | copyAction | enter =>
    exact hback (by rw [work, hw]) fun _ => by simp [goto]
  | setUnknown => exact hback (by rw [work, hw, setResult]) fun _ => by simp
  | testComplete | testSuccess =>
    refine hback (by rw [work, hw]) fun _ => ?_
    rw [goto]
    split_ifs <;> simp
  | join =>
    refine hback (by rw [work, hw]) fun t => ?_
    split_ifs
    · simp
    · exact hbusy

namespace FairRun

variable {t : ℤ} {is : ℕ → HandlerInput} {x : ℕ → CustomActionHandler} {n : ℕ} {as : List ActionToExecute}

/-- Before the input `n` these actions have been accepted, and no flag is about to be stored. -/
structure Quiet (t : ℤ) (is : ℕ → HandlerInput) (x : ℕ → CustomActionHandler) (as : List ActionToExecute) (n : ℕ) :
    Prop where
  accepted : acceptedActions (initial t) ((List.range n).map is) = as
  stored : (x n).arrival.stored = none

theorem acceptedActions_succ (h : FairRun t is x) (n : ℕ) :
    acceptedActions (initial t) ((List.range (n + 1)).map is) =
      acceptedActions (initial t) ((List.range n).map is) ++ (x n).acceptance (is n) := by
  rw [List.range_succ, List.map_append, List.map_singleton, acceptedActions, emitted_concat, ← h.eq_run,
    if_neg (h.defined n)]
  rfl

theorem acceptance_of_eq (h : FairRun t is x) (haccepted : acceptedActions (initial t) ((List.range n).map is) = as)
    (hsame : acceptedActions (initial t) ((List.range (n + 1)).map is) = as) : (x n).acceptance (is n) = [] := by
  rw [h.acceptedActions_succ, haccepted] at hsame
  exact List.append_right_eq_self.mp hsame

/-- The callback stores the flag, if another action is not accepted. -/
theorem leadsTo_quiet (h : FairRun t is x) (hcallback : ∃ᶠ n in atTop, ∃ now, is n = .callback now) :
    LeadsTo (fun n => acceptedActions (initial t) ((List.range n).map is) = as) fun n =>
      acceptedActions (initial t) ((List.range n).map is) ≠ as ∨ Quiet t is x as n := by
  refine leadsTo_of_fair hcallback (fun n _ => ?_) ?_
  · by_cases hsame : acceptedActions (initial t) ((List.range (n + 1)).map is) = as
    · exact .inr hsame
    · exact .inl (.inl hsame)
  · rintro n haccepted ⟨now, hi⟩
    by_cases hsame : acceptedActions (initial t) ((List.range (n + 1)).map is) = as
    · refine .inr ⟨hsame, ?_⟩
      have hnothing := h.acceptance_of_eq haccepted hsame
      rw [hi] at hnothing
      rw [h.access, hi]
      exact stored_accept hnothing
    · exact .inl hsame

theorem Quiet.step (hq : Quiet t is x as n) (h : FairRun t is x) :
    acceptedActions (initial t) ((List.range (n + 1)).map is) ≠ as ∨
      Quiet t is x as (n + 1) ∧ ((x (n + 1)).newAction → (x n).newAction) := by
  by_cases hsame : acceptedActions (initial t) ((List.range (n + 1)).map is) = as
  · have hrests := access_rests (h.acceptance_of_eq hq.accepted hsame) hq.stored
    rw [← h.access] at hrests
    exact .inr ⟨⟨hsame, hrests.1⟩, hrests.2⟩
  · exact .inl hsame

/-- The worker clears the flag, if another action is not accepted. -/
theorem leadsTo_served (h : FairRun t is x) :
    LeadsTo (Quiet t is x as) fun n =>
      acceptedActions (initial t) ((List.range n).map is) ≠ as ∨ Quiet t is x as n ∧ ¬ (x n).newAction := by
  -- a call comes to its end, where it takes the flag down
  have hbusy : LeadsTo (fun n => Quiet t is x as n ∧ (x n).worker ≠ .top) fun n =>
      acceptedActions (initial t) ((List.range n).map is) ≠ as ∨ Quiet t is x as n ∧ ¬ (x n).newAction := by
    refine leadsTo_of_frequently_not ?_ (h.leadsTo_top.frequently.mono fun n htop hn => hn.2 htop)
    rintro n ⟨hq, hbusy⟩
    rcases hq.step h with hmore | ⟨hq', -⟩
    · exact .inl (.inl hmore)
    by_cases htop : (x (n + 1)).worker = .top
    · by_cases hi : ∃ a, is n = .worker a
      · obtain ⟨a, hi⟩ := hi
        refine .inl (.inr ⟨hq', ?_⟩)
        rw [h.work hi] at htop ⊢
        exact newAction_of_top hbusy htop
      · exact absurd ((h.aside hi).worker ▸ htop) hbusy
    · exact .inr ⟨hq', htop⟩
  -- at the top the worker finds the flag taken down, or a call begins
  have htop : LeadsTo (fun n => Quiet t is x as n ∧ (x n).worker = .top) fun n =>
      (acceptedActions (initial t) ((List.range n).map is) ≠ as ∨ Quiet t is x as n ∧ ¬ (x n).newAction) ∨
        Quiet t is x as n ∧ (x n).worker ≠ .top := by
    refine leadsTo_of_fair h.worker ?_ ?_
    · rintro n ⟨hq, htop⟩
      rcases hq.step h with hmore | ⟨hq', -⟩
      · exact .inl (.inl (.inl hmore))
      · exact (em _).symm.imp (fun hbusy => .inr ⟨hq', hbusy⟩) fun htop' => ⟨hq', htop'⟩
    · rintro n ⟨hq, htop⟩ ⟨a, hi⟩
      rcases hq.step h with hmore | ⟨hq', hflag⟩
      · exact .inl (.inl hmore)
      by_cases hnew : (x n).newAction
      · refine .inr ⟨hq', ?_⟩
        rw [h.work hi, CustomActionHandler.work, htop, if_pos hnew]
        simp [goto]
      · exact .inl (.inr ⟨hq', mt hflag hnew⟩)
  intro n hq
  by_cases hrests : (x n).worker = .top
  · exact htop.trans_or hbusy n ⟨hq, hrests⟩
  · exact hbusy n ⟨hq, hrests⟩

end FairRun

/-- **The last accepted action is executed**: in a fair run whose callbacks return and that nothing disturbs, the last
action accepted by some time is in the end the last one executed, unless another is accepted. -/
theorem last_action_executed {t : ℤ} {is : ℕ → HandlerInput} {x : ℕ → CustomActionHandler} (h : FairRun t is x)
    (hcallback : ∃ᶠ n in atTop, ∃ now, is n = .callback now) (hundisturbed : ∀ n, Undisturbed (x n) (is n)) (n : ℕ) :
    let accepted n := acceptedActions (initial t) ((List.range n).map is)
    ∃ m, n ≤ m ∧ (accepted m ≠ accepted n ∨ (x m).executed.head? = (accepted n).getLast?) := by
  intro accepted
  refine (h.leadsTo_quiet hcallback).trans (fun m hm => ?_) n (rfl : accepted n = accepted n)
  rcases hm with hmore | hquiet
  · exact ⟨m, le_rfl, .inl hmore⟩
  · obtain ⟨k, hmk, hmore | ⟨hrests, hflag⟩⟩ := h.leadsTo_served m hquiet
    · exact ⟨k, hmk, .inl hmore⟩
    · refine ⟨k, hmk, .inr ?_⟩
      have hstored := hrests.stored
      rw [h.eq_run] at hflag hstored ⊢
      rw [← hrests.accepted]
      exact executed_of_rest t _ (h.meets hundisturbed k) hflag hstored

theorem last_action_executed_seenSchedule :
    ∃ m, 3 ≤ m ∧ (acceptedActions (initial 60000000000) ((List.range m).map seenSchedule) ≠ [⟨1⟩] ∨
      (seenStates m).executed.head? = some ⟨1⟩) := by
  have hcallback : ∃ᶠ n in atTop, ∃ now, seenSchedule n = .callback now := by
    refine frequently_atTop.mpr fun n => ⟨3 * (n + 8) + 2, by omega, 0, ?_⟩
    rw [seenSchedule_of_le (by omega), if_neg (by omega), if_neg (by omega)]
  have hundisturbed := seenSchedule_induction (P := Undisturbed) (by decide +kernel) (by decide +kernel)
  have haccepted : acceptedActions (initial 60000000000) ((List.range 3).map seenSchedule) = [⟨1⟩] := by decide +kernel
  have hexecuted := last_action_executed fairRun_seenSchedule hcallback hundisturbed 3
  dsimp only at hexecuted
  rw [haccepted] at hexecuted
  exact hexecuted

end CustomActionHandler

end AutopilotManager
