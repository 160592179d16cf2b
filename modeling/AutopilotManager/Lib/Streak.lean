import Mathlib.Algebra.Group.Nat.Defs
import Mathlib.Data.List.Basic
import Mathlib.Data.List.Induction

/-!
# Lib.Streak — how long a fault has lasted

`streak p l` counts the entries at the end of a history `l` that meet `p`.  It grows by one entry at a time, and a
signed 16-bit counter of what does so tells whether it is over a limit until it is `2 ^ 15`, and no longer.
-/

namespace AutopilotManager.Lib

variable {α : Type*} {p : α → Bool}

/-- How many entries at the end of `l` meet `p`. -/
def streak (p : α → Bool) (l : List α) : ℕ := (l.reverse.takeWhile p).length

@[simp] theorem streak_nil (p : α → Bool) : streak p [] = 0 := rfl

theorem streak_concat (p : α → Bool) (l : List α) (a : α) :
    streak p (l ++ [a]) = if p a then streak p l + 1 else 0 := by
  rw [streak, List.reverse_concat, List.takeWhile_cons]
  split_ifs <;> rfl

theorem streak_replicate {a : α} (ha : p a) (n : ℕ) : streak p (List.replicate n a) = n := by
  rw [streak, List.reverse_replicate, List.takeWhile_replicate, if_pos ha, List.length_replicate]

/-- A streak is at the end. -/
theorem replicate_suffix_of_le_streak {n : ℕ} {l : List Bool} (h : n ≤ streak id l) : List.replicate n true <:+ l := by
  induction l using List.reverseRecOn generalizing n with
  | nil =>
    rw [Nat.le_zero.mp h]
    exact List.nil_suffix
  | append_singleton l a ih =>
    cases n with
    | zero => exact List.nil_suffix
    | succ n =>
      rw [streak_concat] at h
      split_ifs at h with ha
      · obtain ⟨before, hbefore⟩ := ih (Nat.le_of_succ_le_succ h)
        have hlast : a = true := ha
        rw [List.replicate_succ', ← hbefore, hlast]
        exact ⟨before, (List.append_assoc ..).symm⟩
      · omega

theorem streak_concat_le (p : α → Bool) (l : List α) (a : α) : streak p (l ++ [a]) ≤ streak p l + 1 := by
  rw [streak_concat]
  split_ifs
  · exact Nat.le_refl _
  · exact Nat.zero_le _

/-- **What grows by one takes every value**: a history in which `r` is at least `n` begins with one in which it is `n`. -/
theorem exists_prefix_eq {r : List α → ℕ} (hnil : r [] = 0) (hgrow : ∀ l a, r (l ++ [a]) ≤ r l + 1) {l : List α}
    {n : ℕ} (h : n ≤ r l) : ∃ k, k <+: l ∧ r k = n := by
  induction l using List.reverseRecOn with
  | nil =>
    rw [hnil] at h
    exact ⟨[], List.prefix_refl _, hnil.trans (Nat.le_zero.mp h).symm⟩
  | append_singleton l a ih =>
    rcases Nat.eq_or_lt_of_le h with heq | hlt
    · exact ⟨l ++ [a], List.prefix_refl _, heq.symm⟩
    · obtain ⟨k, hk, hvalue⟩ := ih (Nat.le_of_lt_succ (Nat.lt_of_lt_of_le hlt (hgrow l a)))
      exact ⟨k, hk.trans (List.prefix_append _ _), hvalue⟩

theorem le_length {r : List α → ℕ} (hnil : r [] = 0) (hgrow : ∀ l a, r (l ++ [a]) ≤ r l + 1) (l : List α) :
    r l ≤ l.length := by
  induction l using List.reverseRecOn with
  | nil => exact Nat.le_of_eq hnil
  | append_singleton l a ih =>
    rw [List.length_append, List.length_singleton]
    exact Nat.le_trans (hgrow l a) (Nat.succ_le_succ ih)

/-! ### Counters of 16 bits -/

/-- Below `2 ^ 15` a wrapping counter compares like the number it counts. -/
theorem lt_ofNat_iff {k n : ℕ} (hk : k < 2 ^ 15) (hn : n < 2 ^ 15) : Int16.ofNat k < Int16.ofNat n ↔ k < n := by
  rw [Int16.lt_iff_toInt_lt, Int16.toInt_ofNat_of_lt hk, Int16.toInt_ofNat_of_lt hn]
  omega

/-- At `2 ^ 15` it is negative. -/
theorem not_lt_ofNat_two_pow {k : ℕ} (hk : k < 2 ^ 15) : ¬ Int16.ofNat k < Int16.ofNat (2 ^ 15) := by
  have hwrapped : (Int16.ofNat (2 ^ 15)).toInt = -2 ^ 15 := rfl
  rw [Int16.lt_iff_toInt_lt, Int16.toInt_ofNat_of_lt hk, hwrapped]
  omega

/-- **The counter is right exactly until what it counts is too much for it.** -/
theorem counter_right_iff {r : List α → ℕ} (hnil : r [] = 0) (hgrow : ∀ l a, r (l ++ [a]) ≤ r l + 1) {k : ℕ}
    (hk : k < 2 ^ 15) (l : List α) :
    (∀ l', l' <+: l → (Int16.ofNat k < Int16.ofNat (r l') ↔ k < r l')) ↔ ∀ l', l' <+: l → r l' < 2 ^ 15 := by
  refine ⟨fun h l' hl' => ?_, fun h l' hl' => lt_ofNat_iff hk (h l' hl')⟩
  by_contra hlong
  obtain ⟨m, hm, hvalue⟩ := exists_prefix_eq hnil hgrow (Nat.not_lt.mp hlong)
  have hright := h m (hm.trans hl')
  rw [hvalue] at hright
  exact not_lt_ofNat_two_pow hk (hright.mpr hk)

/-! ### Stamps -/

/-- For each stamp whether it is not later than the one before; the first is compared with `prev`. -/
def notLater {β : Type*} (le : β → β → Bool) (prev : β) : List β → List Bool
  | [] => []
  | t :: ts => le t prev :: notLater le t ts

theorem notLater_concat {β : Type*} (le : β → β → Bool) (prev : β) (ts : List β) (t : β) :
    notLater le prev (ts ++ [t]) = notLater le prev ts ++ [le t ((ts.getLast?).getD prev)] := by
  induction ts generalizing prev with
  | nil => rfl
  | cons u ts ih =>
    rw [List.cons_append, notLater, ih, notLater, List.cons_append]
    cases ts with
    | nil => rfl
    | cons v vs => rw [List.getLast?_cons_cons]; rfl

theorem notLater_map {β γ : Type*} {le : β → β → Bool} {le' : γ → γ → Bool} {f : β → γ}
    (hf : ∀ t u, le' (f t) (f u) = le t u) (prev : β) (ts : List β) :
    notLater le' (f prev) (ts.map f) = notLater le prev ts := by
  induction ts generalizing prev with
  | nil => rfl
  | cons t ts ih => rw [List.map_cons, notLater, notLater, hf, ih]

end AutopilotManager.Lib
