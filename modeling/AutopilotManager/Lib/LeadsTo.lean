import AutopilotManager.Lib.Transition
import Mathlib.Data.List.Range
import Mathlib.Order.Filter.AtTopBot.Basic

/-!
# Lib.LeadsTo — what must happen in an infinite run

`IsRun` relates the states of an infinite run to its inputs.  `LeadsTo P Q` says that whenever `P` holds in such a run,
`Q` holds then or later; time is the number of steps made.  The rules build such facts from steps of one party that come
again and again, and from ranks that these steps lower.
-/

namespace AutopilotManager.Lib

open Filter

section Machine

variable {σ ι : Type*} {step : σ → ι → σ} {s : σ} {is : ℕ → ι} {x : ℕ → σ}

/-- The states `x` of the run from `s` on the inputs `is`, each before its input. -/
structure IsRun (step : σ → ι → σ) (s : σ) (is : ℕ → ι) (x : ℕ → σ) : Prop where
  start : x 0 = s
  next : ∀ n, x (n + 1) = step (x n) (is n)

/-- Every state of an infinite run is that after a finite one. -/
theorem IsRun.eq_run (h : IsRun step s is x) (n : ℕ) : x n = run step s ((List.range n).map is) := by
  induction n with
  | zero => exact h.start
  | succ n ih => rw [h.next, List.range_succ, List.map_append, List.map_singleton, run_concat, ih]

/-- The steps of an infinite run and of its beginnings meet the same. -/
theorem IsRun.meets (h : IsRun step s is x) {Ok : σ → ι → Prop} (hok : ∀ n, Ok (x n) (is n)) (n : ℕ) :
    Meets step Ok s ((List.range n).map is) := by
  induction n with
  | zero => trivial
  | succ n ih =>
    rw [List.range_succ, List.map_append, List.map_singleton, meets_concat, ← h.eq_run]
    exact ⟨ih, hok n⟩

theorem isRun_run (step : σ → ι → σ) (s : σ) (is : ℕ → ι) :
    IsRun step s is fun n => run step s ((List.range n).map is) :=
  ⟨rfl, fun n => by rw [List.range_succ, List.map_append, List.map_singleton, run_concat]⟩

/-- A state that no later input changes stays. -/
theorem IsRun.settled (h : IsRun step s is x) {k : ℕ} (hfixed : ∀ n, k ≤ n → step (x k) (is n) = x k) {n : ℕ}
    (hn : k ≤ n) : x n = x k := by
  induction n, hn using Nat.le_induction with
  | base => rfl
  | succ n hn ih => rw [h.next, ih, hfixed n hn]

end Machine

section Rules

variable {P Q R acts : ℕ → Prop}

/-- Whenever `P` holds, `Q` holds then or later. -/
def LeadsTo (P Q : ℕ → Prop) : Prop := ∀ n, P n → ∃ m, n ≤ m ∧ Q m

theorem LeadsTo.trans (h : LeadsTo P Q) (h' : LeadsTo Q R) : LeadsTo P R := by
  intro n hn
  obtain ⟨m, hnm, hm⟩ := h n hn
  obtain ⟨k, hmk, hk⟩ := h' m hm
  exact ⟨k, hnm.trans hmk, hk⟩

/-- What leads to `Q` or to something that does. -/
theorem LeadsTo.trans_or (h : LeadsTo P fun n => Q n ∨ R n) (h' : LeadsTo R Q) : LeadsTo P Q :=
  h.trans fun n hn => hn.elim (fun hQ => ⟨n, le_rfl, hQ⟩) (h' n)

/-- What everything leads to happens again and again. -/
theorem LeadsTo.frequently (h : LeadsTo (fun _ => True) Q) : ∃ᶠ n in atTop, Q n :=
  frequently_atTop.mpr fun n => h n trivial

/-- **Meeting**: what each step keeps unless it reaches `Q`, meets what happens again and again, unless `Q` is
reached. -/
theorem leadsTo_meet (hkeep : ∀ n, P n → Q (n + 1) ∨ P (n + 1)) (hR : ∃ᶠ n in atTop, R n) :
    LeadsTo P fun n => Q n ∨ P n ∧ R n := by
  intro n hn
  obtain ⟨m, hm, hRm⟩ := frequently_atTop.mp hR n
  have hkept : (∃ k, n ≤ k ∧ Q k) ∨ P m := by
    clear hRm
    induction m, hm using Nat.le_induction with
    | base => exact .inr hn
    | succ m hm ih =>
      rcases ih with hreached | hkept
      · exact .inl hreached
      · exact (hkeep m hkept).imp_left fun hQ => ⟨m + 1, Nat.le_succ_of_le hm, hQ⟩
  rcases hkept with ⟨k, hk, hQ⟩ | hkept
  · exact ⟨k, hk, .inl hQ⟩
  · exact ⟨m, hm, .inr ⟨hkept, hRm⟩⟩

/-- **Ends**: what is kept until `Q`, and does not hold for good, leads to `Q`. -/
theorem leadsTo_of_frequently_not (hkeep : ∀ n, P n → Q (n + 1) ∨ P (n + 1)) (hends : ∃ᶠ n in atTop, ¬ P n) :
    LeadsTo P Q :=
  (leadsTo_meet hkeep hends).trans_or fun _ hn => absurd hn.1 hn.2

/-- **Fairness**: what is kept until `Q`, and makes each of the steps `acts` reach `Q`, leads to `Q` if these steps come
again and again. -/
theorem leadsTo_of_fair (hfair : ∃ᶠ n in atTop, acts n) (hkeep : ∀ n, P n → Q (n + 1) ∨ P (n + 1))
    (hact : ∀ n, P n → acts n → Q (n + 1)) : LeadsTo P Q :=
  (leadsTo_meet hkeep hfair).trans_or fun n hn => ⟨n + 1, n.le_succ, hact n hn.1 hn.2⟩

/-- **Ranks**: a rank that is always lowered unless `Q` is reached. -/
theorem leadsTo_of_rank {α : Type*} [Preorder α] [WellFoundedLT α] (rank : ℕ → α)
    (h : ∀ a, LeadsTo (fun n => P n ∧ rank n = a) fun n => Q n ∨ P n ∧ rank n < a) : LeadsTo P Q := by
  have hrank : ∀ a, LeadsTo (fun n => P n ∧ rank n = a) Q := by
    intro a
    induction a using WellFoundedLT.induction with
    | ind a ih => exact (h a).trans_or fun n hn => ih _ hn.2 n ⟨hn.1, rfl⟩
  exact fun n hn => hrank (rank n) n ⟨hn, rfl⟩

/-- **Ranks under fairness**: no step raises the rank unless it reaches `Q`, and each of the steps `acts` lowers it. -/
theorem leadsTo_of_fair_rank {α : Type*} [PartialOrder α] [WellFoundedLT α] (rank : ℕ → α)
    (hfair : ∃ᶠ n in atTop, acts n)
    (hkeep : ∀ n, P n → Q (n + 1) ∨ P (n + 1) ∧ rank (n + 1) ≤ rank n)
    (hact : ∀ n, P n → acts n → Q (n + 1) ∨ P (n + 1) ∧ rank (n + 1) < rank n) : LeadsTo P Q := by
  refine leadsTo_of_rank rank fun a => leadsTo_of_fair hfair (fun n hn => ?_) fun n hn hacts => ?_
  · obtain ⟨hP, rfl⟩ := hn
    rcases hkeep n hP with hQ | ⟨hP', hle⟩
    · exact .inl (.inl hQ)
    · exact (eq_or_lt_of_le hle).symm.imp (fun hlt => .inr ⟨hP', hlt⟩) fun heq => ⟨hP', heq⟩
  · obtain ⟨hP, rfl⟩ := hn
    exact hact n hP hacts

end Rules

end AutopilotManager.Lib
