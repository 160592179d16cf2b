import Mathlib.Data.List.Induction

/-!
# Lib.Transition — runs of a machine driven by inputs

`step s i` is the state after one atomic step of a machine on the input `i`; nondeterminism is part of the
input.  `run` folds a list of inputs, `Meets Ok` says that every step of a run meets a condition on the state
before the step and the input of the step.
-/

namespace AutopilotManager.Lib

section Machine

variable {σ ι : Type*} (step : σ → ι → σ)

/-- The state after the inputs `is`, one atomic step each. -/
def run (s : σ) (is : List ι) : σ := is.foldl step s

/-- Every step of the run from `s` meets `Ok`, a condition on the state before it and its input. -/
def Meets (Ok : σ → ι → Prop) : σ → List ι → Prop
  | _, [] => True
  | s, i :: is => Ok s i ∧ Meets Ok (step s i) is

instance Meets.decidable (Ok : σ → ι → Prop) [∀ s i, Decidable (Ok s i)] :
    ∀ (s : σ) (is : List ι), Decidable (Meets step Ok s is)
  | _, [] => .isTrue trivial
  | s, i :: is =>
    have := Meets.decidable Ok (step s i) is
    inferInstanceAs (Decidable (Ok s i ∧ Meets step Ok (step s i) is))

variable {step}

@[simp] theorem run_nil (s : σ) : run step s [] = s := rfl

@[simp] theorem run_cons (s : σ) (i : ι) (is : List ι) :
    run step s (i :: is) = run step (step s i) is := rfl

theorem run_append (s : σ) (is js : List ι) :
    run step s (is ++ js) = run step (run step s is) js := List.foldl_append

@[simp] theorem run_concat (s : σ) (is : List ι) (i : ι) :
    run step s (is ++ [i]) = step (run step s is) i := by
  rw [run_append]; rfl

theorem meets_append {Ok : σ → ι → Prop} {s : σ} {is js : List ι} :
    Meets step Ok s (is ++ js) ↔ Meets step Ok s is ∧ Meets step Ok (run step s is) js := by
  induction is generalizing s with
  | nil => simp [Meets]
  | cons i is ih => simp [Meets, ih, and_assoc]

theorem meets_concat {Ok : σ → ι → Prop} {s : σ} {is : List ι} {i : ι} :
    Meets step Ok s (is ++ [i]) ↔ Meets step Ok s is ∧ Ok (run step s is) i := by
  simp [meets_append, Meets]

theorem meets_prefixes {Ok : σ → ι → Prop} {s : σ} {is js : List ι} (h : Meets step Ok s is) (hjs : js <+: is) :
    Meets step Ok s js := by
  obtain ⟨rest, rfl⟩ := hjs
  exact (meets_append.mp h).1

/-- **Watches**: a machine that steps like another in a part of its state runs like it there. -/
theorem run_project {τ : Type*} {step' : τ → ι → τ} {π : τ → σ} (hstep : ∀ t i, π (step' t i) = step (π t) i)
    (t : τ) (is : List ι) : π (run step' t is) = run step (π t) is := by
  induction is generalizing t with
  | nil => rfl
  | cons i is ih => rw [run_cons, run_cons, ih, hstep]

/-- The steps of a watched run meet what the steps of the run meet. -/
theorem meets_project {τ : Type*} {step' : τ → ι → τ} {π : τ → σ} (hstep : ∀ t i, π (step' t i) = step (π t) i)
    {Ok : σ → ι → Prop} {t : τ} {is : List ι} :
    Meets step' (fun t i => Ok (π t) i) t is ↔ Meets step Ok (π t) is := by
  induction is generalizing t with
  | nil => exact Iff.rfl
  | cons i is ih => rw [Meets, Meets, ih, hstep]

/-- **Invariant rule under a condition**: what one step meeting `Ok` keeps, a run whose steps all meet `Ok`
keeps. -/
theorem Meets.invariant {Ok : σ → ι → Prop} {Inv : σ → Prop}
    (hstep : ∀ s i, Inv s → Ok s i → Inv (step s i)) {s : σ} {is : List ι} (h0 : Inv s)
    (h : Meets step Ok s is) : Inv (run step s is) := by
  induction is generalizing s with
  | nil => exact h0
  | cons i is ih => exact ih (hstep s i h0 h.1) h.2

/-- A weaker condition is met by the runs that meet the stronger one. -/
theorem Meets.mono {Ok Ok' : σ → ι → Prop} (hmono : ∀ s i, Ok s i → Ok' s i) {s : σ} {is : List ι}
    (h : Meets step Ok s is) : Meets step Ok' s is := by
  induction is generalizing s with
  | nil => trivial
  | cons i is ih => exact ⟨hmono s i h.1, ih h.2⟩

/-- An input that never meets `Ok` where an invariant holds is none of a run that meets it. -/
theorem Meets.not_mem {Ok : σ → ι → Prop} {Inv : σ → Prop} (hstep : ∀ s i, Inv s → Inv (step s i)) {s : σ} {is : List ι}
    (h0 : Inv s) (h : Meets step Ok s is) {i : ι} (hno : ∀ s, Inv s → ¬ Ok s i) : i ∉ is := by
  induction is generalizing s with
  | nil => exact List.not_mem_nil
  | cons j is ih =>
    rw [List.mem_cons, not_or]
    refine ⟨?_, ih (hstep s j h0) h.2⟩
    rintro rfl
    exact hno s h0 h.1

/-- **Exact conditions**: if a step keeps the invariant exactly when it meets `Ok`, the steps of a run all meet `Ok`
exactly when the invariant holds all along. -/
theorem meets_iff_prefixes {Ok : σ → ι → Prop} (Inv : σ → Prop)
    (hstep : ∀ s i, Inv s → (Ok s i ↔ Inv (step s i))) {s : σ} {is : List ι} (h0 : Inv s) :
    Meets step Ok s is ↔ ∀ js, js <+: is → Inv (run step s js) := by
  induction is generalizing s with
  | nil =>
    refine ⟨fun _ js hjs => ?_, fun _ => trivial⟩
    rw [List.prefix_nil.mp hjs]
    exact h0
  | cons i is ih =>
    constructor
    · rintro ⟨hok, hrest⟩ js hjs
      cases js with
      | nil => exact h0
      | cons j js =>
        obtain ⟨rfl, htail⟩ := List.cons_prefix_cons.mp hjs
        exact (ih ((hstep s j h0).mp hok)).mp hrest js htail
    · intro h
      have h1 : Inv (step s i) := h [i] ⟨is, rfl⟩
      exact ⟨(hstep s i h0).mpr h1, (ih h1).mpr fun js hjs => h (i :: js) (List.cons_prefix_cons.mpr ⟨rfl, hjs⟩)⟩

/-- **Equal conditions**: two conditions that agree where an invariant holds, and keep it where they are met, are met by
the same runs. -/
theorem meets_congr {Ok Ok' : σ → ι → Prop} (Inv : σ → Prop) (hiff : ∀ s i, Inv s → (Ok s i ↔ Ok' s i))
    (hstep : ∀ s i, Inv s → Ok s i → Inv (step s i)) {s : σ} {is : List ι} (h0 : Inv s) :
    Meets step Ok s is ↔ Meets step Ok' s is := by
  induction is generalizing s with
  | nil => exact Iff.rfl
  | cons i is ih =>
    constructor
    · rintro ⟨hok, hrest⟩
      exact ⟨(hiff s i h0).mp hok, (ih (hstep s i h0 hok)).mp hrest⟩
    · rintro ⟨hok', hrest⟩
      have hok : Ok s i := (hiff s i h0).mpr hok'
      exact ⟨hok, (ih (hstep s i h0 hok)).mpr hrest⟩

/-- **Invariant rule**: what every step keeps, every run keeps. -/
theorem run_invariant {Inv : σ → Prop} (hstep : ∀ s i, Inv s → Inv (step s i)) {s : σ} (h0 : Inv s)
    (is : List ι) : Inv (run step s is) := by
  induction is generalizing s with
  | nil => exact h0
  | cons i is ih => exact ih (hstep s i h0)

/-! ### Simulation -/

/-- What the steps of a run emit, where each step emits what `emit` says. -/
def emitted (step : σ → ι → σ) {β : Type*} (emit : σ → ι → List β) : σ → List ι → List β
  | _, [] => []
  | s, i :: is => emit s i ++ emitted step emit (step s i) is

theorem emitted_concat {β : Type*} {emit : σ → ι → List β} {s : σ} {is : List ι} {i : ι} :
    emitted step emit s (is ++ [i]) = emitted step emit s is ++ emit (run step s is) i := by
  induction is generalizing s with
  | nil => simp [emitted]
  | cons j is ih => simp [emitted, ih]

/-- **Simulation**: if each step is, for another machine, the run of what it emits, so is a run. -/
theorem run_simulates {τ κ : Type*} {step' : τ → κ → τ} {emit : σ → ι → List κ} {R : σ → τ → Prop}
    (hstep : ∀ s t i, R s t → R (step s i) (run step' t (emit s i))) {s : σ} {t : τ} (h0 : R s t) (is : List ι) :
    R (run step s is) (run step' t (emitted step emit s is)) := by
  induction is generalizing s t with
  | nil => exact h0
  | cons i is ih =>
    rw [emitted, run_append]
    exact ih (hstep s t i h0)

/-! ### Logs -/

/-- **What a run has logged**: where each step logs what `emit` says, the log holds what it held at the start and what
the steps of the run have logged. -/
theorem mem_log_run_iff {β : Type*} {log : σ → List β} {emit : σ → ι → List β}
    (hlog : ∀ s i, log (step s i) = log s ++ emit s i) (s : σ) (is : List ι) {x : β} :
    x ∈ log (run step s is) ↔
      x ∈ log s ∨ ∃ before i, before ++ [i] <+: is ∧ x ∈ emit (run step s before) i := by
  induction is using List.reverseRecOn with
  | nil => simp
  | append_singleton is i ih =>
    rw [run_concat, hlog, List.mem_append, ih]
    constructor
    · rintro ((hstart | ⟨before, j, hprefix, hx⟩) | hx)
      · exact .inl hstart
      · exact .inr ⟨before, j, hprefix.trans (List.prefix_append is [i]), hx⟩
      · exact .inr ⟨is, i, List.prefix_rfl, hx⟩
    · rintro (hstart | ⟨before, j, hprefix, hx⟩)
      · exact .inl (.inl hstart)
      · rcases List.prefix_concat_iff.mp hprefix with hlast | hearlier
        · obtain ⟨rfl, hij⟩ := List.append_inj' hlast rfl
          obtain rfl : j = i := by simpa using hij
          exact .inr hx
        · exact .inl (.inr ⟨before, j, hearlier, hx⟩)

/-! ### Histories -/

/-- A step of the run from `s` meets `W`, and none after it meets `T`. -/
def Since (step : σ → ι → σ) (W T : σ → ι → Prop) (s : σ) (is : List ι) : Prop :=
  ∃ before i after, is = before ++ [i] ++ after ∧ W (run step s before) i ∧
    Meets step (fun s i => ¬ T s i) (run step s (before ++ [i])) after

/-- **Histories grow at their end**: the last step meets `W`, or there was one before it and it does not meet `T`. -/
theorem since_concat {W T : σ → ι → Prop} {s : σ} {is : List ι} {i : ι} :
    Since step W T s (is ++ [i]) ↔ W (run step s is) i ∨ Since step W T s is ∧ ¬ T (run step s is) i := by
  constructor
  · rintro ⟨before, j, after, his, hW, hafter⟩
    rcases List.eq_nil_or_concat after with rfl | ⟨after, last, rfl⟩
    · rw [List.append_nil] at his
      obtain ⟨rfl, hlast⟩ := List.append_inj' his rfl
      obtain rfl : i = j := by simpa using hlast
      exact .inl hW
    · rw [List.concat_eq_append, ← List.append_assoc] at his
      obtain ⟨rfl, hlast⟩ := List.append_inj' his rfl
      obtain rfl : i = last := by simpa using hlast
      rw [List.concat_eq_append, meets_concat, ← run_append] at hafter
      exact .inr ⟨⟨before, j, after, rfl, hW, hafter.1⟩, hafter.2⟩
  · rintro (hW | ⟨⟨before, j, after, rfl, hW, hafter⟩, hT⟩)
    · exact ⟨is, i, [], by simp, hW, trivial⟩
    · refine ⟨before, j, after ++ [i], by simp, hW, meets_concat.mpr ⟨hafter, ?_⟩⟩
      rw [← run_append]
      exact hT

/-! ### Parts that some steps write -/

/-- The run from `s` has written nothing, or its latest step that writes has written `x`. -/
def Holds {β : Type*} (step : σ → ι → σ) (write : σ → ι → Option β) (s : σ) (is : List ι) (start x : β) : Prop :=
  Meets step (fun s i => write s i = none) s is ∧ x = start ∨
    ∃ before i after, is = before ++ [i] ++ after ∧ write (run step s before) i = some x ∧
      Meets step (fun s i => write s i = none) (run step s (before ++ [i])) after

/-- **What a part of the state holds**: if in the states of the run each step leaves the part or writes what `write`
says, it holds what it held at the start or what the latest step that writes has written. -/
theorem holds_run {β : Type*} (get : σ → β) (write : σ → ι → Option β) {s : σ} (is : List ι)
    (hstep : ∀ js i, get (step (run step s js) i) = (write (run step s js) i).getD (get (run step s js))) :
    Holds step write s is (get s) (get (run step s is)) := by
  induction is using List.reverseRecOn with
  | nil => exact .inl ⟨trivial, rfl⟩
  | append_singleton is i ih =>
    rw [run_concat, hstep is i]
    cases hwrite : write (run step s is) i with
    | some x => exact .inr ⟨is, i, [], by simp, hwrite, trivial⟩
    | none =>
      rcases ih with ⟨hnone, hstart⟩ | ⟨before, j, after, his, hwritten, hnone⟩
      · exact .inl ⟨meets_concat.mpr ⟨hnone, hwrite⟩, hstart⟩
      · refine .inr ⟨before, j, after ++ [i], by rw [his]; simp, hwritten, meets_concat.mpr ⟨hnone, ?_⟩⟩
        rw [← run_append, ← his]
        exact hwrite

/-- What is held is what there was at the start, or a step of the run has written it. -/
theorem Holds.written {β : Type*} {write : σ → ι → Option β} {s : σ} {is : List ι} {start x : β}
    (h : Holds step write s is start x) :
    x = start ∨ ∃ before i, before ++ [i] <+: is ∧ write (run step s before) i = some x := by
  rcases h with ⟨-, hstart⟩ | ⟨before, i, after, rfl, hwritten, -⟩
  · exact .inl hstart
  · exact .inr ⟨before, i, List.prefix_append .., hwritten⟩

end Machine

end AutopilotManager.Lib
