import AutopilotManager.Lib.Transition
import Mathlib.Data.List.Destutter

/-!
# Lib.Announcer — a status that is announced when it has changed

The status is observed again and again, and an observation finds the way out open or closed.  A change that finds it
closed stays pending.  Whenever the way out is open the last announcement is the present status, and there are no
more announcements than changes.
-/

namespace AutopilotManager.Lib

/-- The status, whether it has yet to be announced, and what has been announced, newest first. -/
structure Announcer (α : Type*) where
  status : α
  pending : Bool := true
  announced : List α := []

/-- A status as it is observed, and whether the way out is open. -/
structure Observation (α : Type*) where
  status : α
  isOpen : Bool

namespace Announcer

variable {α : Type*} [DecidableEq α]

def observe (s : Announcer α) (o : Observation α) : Announcer α :=
  let pending := s.pending || o.status ≠ s.status
  if pending && o.isOpen then ⟨o.status, false, o.status :: s.announced⟩ else ⟨o.status, pending, s.announced⟩

variable {s : Announcer α} {o : Observation α} {os : List (Observation α)}

@[simp] theorem status_observe : (s.observe o).status = o.status := by
  unfold observe
  dsimp only
  split_ifs <;> rfl

/-- What is not pending has been announced last. -/
def Settled (s : Announcer α) : Prop := s.pending = false → s.announced.head? = some s.status

theorem settled_observe (hs : Settled s) (o : Observation α) : Settled (s.observe o) := by
  unfold observe
  dsimp only
  split_ifs
  · exact fun _ => rfl
  · intro hpending
    obtain ⟨hpending, hsame⟩ := Bool.or_eq_false_iff.mp hpending
    have hstatus : o.status = s.status := by simpa using hsame
    exact (hs hpending).trans (congrArg some hstatus.symm)

/-- **The last announcement is current** after every observation that finds the way out open. -/
theorem head?_observe_of_isOpen (hs : Settled s) (hopen : o.isOpen) :
    (s.observe o).announced.head? = some o.status := by
  have hpending : (s.observe o).pending = false := by
    unfold observe
    dsimp only
    rw [hopen, Bool.and_true]
    split_ifs with h
    · rfl
    · exact eq_false_of_ne_true h
  rw [settled_observe hs o hpending, status_observe]

theorem settled_run (hs : Settled s) (os : List (Observation α)) : Settled (run observe s os) := by
  have hstep : ∀ (s : Announcer α) o, Settled s → Settled (s.observe o) := fun _ o hs => settled_observe hs o
  exact run_invariant hstep hs os

/-- What one observation adds is paid for by a change. -/
theorem length_observe_le (s : Announcer α) (o : Observation α) :
    (s.observe o).announced.length + (s.observe o).pending.toNat ≤
      s.announced.length + s.pending.toNat + if s.status ≠ o.status then 1 else 0 := by
  unfold observe
  dsimp only
  by_cases hstatus : s.status = o.status
  · rw [if_neg (not_not.mpr hstatus), hstatus]
    cases s.pending <;> cases o.isOpen <;> simp
  · rw [if_pos hstatus]
    have hchanged : (s.pending || decide (o.status ≠ s.status)) = true := by simp [Ne.symm hstatus]
    rw [hchanged]
    cases o.isOpen <;> simp

/-- **No announcement without a change**: after the first one there are no more than the status has changes. -/
theorem length_run_le (s : Announcer α) (os : List (Observation α)) :
    (run observe s os).announced.length + (run observe s os).pending.toNat + 1 ≤
      s.announced.length + s.pending.toNat + ((os.map Observation.status).destutter' (· ≠ ·) s.status).length := by
  induction os generalizing s with
  | nil => simp
  | cons o os ih =>
    have hfirst := length_observe_le s o
    have hrest := ih (s.observe o)
    rw [status_observe] at hrest
    rw [run_cons, List.map_cons]
    by_cases hstatus : s.status = o.status
    · rw [if_neg (not_not.mpr hstatus)] at hfirst
      rw [List.destutter'_cons_neg _ (not_not.mpr hstatus), hstatus]
      omega
    · rw [if_pos hstatus] at hfirst
      rw [List.destutter'_cons_pos _ hstatus, List.length_cons]
      omega

/-- **Every change is announced** while the way out is open. -/
theorem announced_run {a : α} {rest : List α} (hopen : ∀ o ∈ os, o.isOpen) :
    (run observe ⟨a, false, a :: rest⟩ os).announced.reverse =
      rest.reverse ++ (os.map Observation.status).destutter' (· ≠ ·) a := by
  induction os generalizing a rest with
  | nil => exact List.reverse_cons
  | cons o os ih =>
    obtain ⟨hfirst, hrest⟩ := List.forall_mem_cons.mp hopen
    rw [run_cons, List.map_cons]
    by_cases hstatus : a = o.status
    · have hobserve : observe ⟨a, false, a :: rest⟩ o = ⟨a, false, a :: rest⟩ := by
        simp [observe, hstatus]
      rw [hobserve, ih hrest, List.destutter'_cons_neg _ (not_not.mpr hstatus)]
    · have hobserve : observe ⟨a, false, a :: rest⟩ o = ⟨o.status, false, o.status :: a :: rest⟩ := by
        simp [observe, hfirst, Ne.symm hstatus]
      rw [hobserve, ih hrest, List.destutter'_cons_pos _ hstatus, List.reverse_cons, List.append_assoc]
      rfl

/-- The first announcement is of the first status, whatever the status was before. -/
theorem announced_run_pending (a : α) (hopen : ∀ o ∈ os, o.isOpen) :
    (run observe ⟨a, true, []⟩ os).announced.reverse = (os.map Observation.status).destutter (· ≠ ·) := by
  cases os with
  | nil => rfl
  | cons o os =>
    obtain ⟨hfirst, hrest⟩ := List.forall_mem_cons.mp hopen
    have hobserve : observe ⟨a, true, []⟩ o = ⟨o.status, false, [o.status]⟩ := by simp [observe, hfirst]
    rw [run_cons, hobserve, announced_run hrest]
    rfl

end Announcer

end AutopilotManager.Lib
