import Mathlib.Data.List.MinMax

/-!
# Lib.MinElement — the smallest element under a comparison

`std::min_element`: one pass that keeps the best element so far.  The comparison is any strict partial order, so that it
may leave elements without relation to the others (NaN among numbers): such an element is returned if it stands
first and is passed over elsewhere.
-/

namespace AutopilotManager.Lib

variable {α : Type*} {r : α → α → Prop} [DecidableRel r] {p m m' : α} {ps ps' : List α}

/-- `std::min_element` under the comparison `r`; `none` is the iterator behind the last element. -/
def minElement (r : α → α → Prop) [DecidableRel r] : List α → Option α
  | [] => none
  | p :: ps => some (ps.foldl (fun best x => if r x best then x else best) p)

theorem minElement_eq_foldl (r : α → α → Prop) [DecidableRel r] (ps : List α) :
    minElement r ps = ps.foldl (List.argAux r) none := by
  have hsome : ∀ (ps : List α) (p : α), some (ps.foldl (fun best x => if r x best then x else best) p) =
      ps.foldl (List.argAux r) (some p) := by
    intro ps
    induction ps with
    | nil => intro p; rfl
    | cons x ps ih =>
      intro p
      rw [List.foldl_cons, List.foldl_cons, ih]
      simp only [List.argAux]
      by_cases hx : r x p
      · rw [if_pos hx, if_pos hx]
      · rw [if_neg hx, if_neg hx]
  cases ps with
  | nil => rfl
  | cons p ps => exact hsome ps p

theorem minElement_eq_none_iff : minElement r ps = none ↔ ps = [] := by
  rw [minElement_eq_foldl, List.foldl_argAux_eq_none, and_iff_left rfl]

/-- The element returned is the first or one below it. -/
theorem minElement_cons (htrans : IsTrans α r) (h : minElement r (p :: ps) = some m) : m = p ∨ m ∈ ps ∧ r m p := by
  have hfold : ∀ (ps : List α) (p : α), ps.foldl (fun best x => if r x best then x else best) p = p ∨
      ps.foldl (fun best x => if r x best then x else best) p ∈ ps ∧
        r (ps.foldl (fun best x => if r x best then x else best) p) p := by
    intro ps
    induction ps with
    | nil => intro p; exact .inl rfl
    | cons x ps ih =>
      intro p
      rw [List.foldl_cons]
      by_cases hx : r x p
      · rw [if_pos hx]
        rcases ih x with heq | ⟨hmem, hlt⟩
        · rw [heq]
          exact .inr ⟨by simp, hx⟩
        · exact .inr ⟨List.mem_cons_of_mem _ hmem, htrans.trans _ _ _ hlt hx⟩
      · rw [if_neg hx]
        exact (ih p).imp id fun ⟨hmem, hlt⟩ => ⟨List.mem_cons_of_mem _ hmem, hlt⟩
  rw [← Option.some.inj h]
  exact hfold ps p

theorem minElement_mem (htrans : IsTrans α r) (h : minElement r ps = some m) : m ∈ ps := by
  cases ps with
  | nil => cases h
  | cons p ps =>
    rcases minElement_cons htrans h with rfl | ⟨hmem, -⟩
    · simp
    · exact List.mem_cons_of_mem _ hmem

/-- No element is below the one returned. -/
theorem not_lt_minElement (hirrefl : Std.Irrefl r) (htrans : IsTrans α r) (h : minElement r ps = some m)
    (hp : p ∈ ps) : ¬ r p m := by
  rw [minElement_eq_foldl] at h
  exact List.not_of_mem_foldl_argAux r hirrefl htrans hp h

/-- A first element that nothing is below is returned, whatever it is above. -/
theorem minElement_of_not_lt_head (h : ∀ q ∈ ps, ¬ r q p) : minElement r (p :: ps) = some p := by
  refine congrArg some ?_
  induction ps with
  | nil => rfl
  | cons x ps ih =>
    rw [List.foldl_cons, if_neg (h x (by simp))]
    exact ih fun q hq => h q (List.mem_cons_of_mem _ hq)

/-- The elements returned from two orders of one list are not below each other. -/
theorem not_lt_minElement_of_perm (hirrefl : Std.Irrefl r) (htrans : IsTrans α r) (hperm : ps.Perm ps')
    (h : minElement r ps = some m) (h' : minElement r ps' = some m') : ¬ r m' m :=
  not_lt_minElement hirrefl htrans h (hperm.mem_iff.mpr (minElement_mem htrans h'))

end AutopilotManager.Lib
