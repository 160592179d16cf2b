import AutopilotManager.Lib.KeyLines
import Mathlib.Data.List.Find
import Mathlib.Data.List.Induction

/-!
# Lib.Registers — keys that are read into parts of a state

A reader of key lines in which every key has a part of the state of its own.  If no line makes it fail, a part holds
at the end what the last line that mentions its key has behind the `=`, wherever on the line the key stands.
-/

namespace AutopilotManager.Lib

variable {σ α ε : Type*}

/-- A key with the part of the state that its values are read into. -/
structure Register (σ α ε : Type*) where
  key : List Char
  parse : List Char → Except ε α
  get : σ → α
  put : α → σ → σ

instance decidableExistsOk : (x : Except ε α) → Decidable (∃ a, x = .ok a)
  | .ok a => .isTrue ⟨a, rfl⟩
  | .error _ => .isFalse fun ⟨_, h⟩ => Except.noConfusion rfl rfl (heq_of_eq h)

namespace Register

/-- The test of the key on a line; an exception leaves with the state so far. -/
def field (r : Register σ α ε) : Field σ (ε × σ) :=
  ⟨r.key, fun value s =>
    match r.parse value with
    | .ok x => .ok (r.put x s)
    | .error e => .error (e, s)⟩

@[simp] theorem key_field (r : Register σ α ε) : r.field.key = r.key := rfl

/-- If the line mentions the key, what is behind the `=` is a value for it. -/
def Legible (r : Register σ α ε) (line : List Char) : Prop :=
  contains line r.key → ∃ x, r.parse (afterFirst '=' line) = .ok x

/-- What one test does to the state on a legible line. -/
def assign (r : Register σ α ε) (line : List Char) (s : σ) : σ :=
  if contains line r.key then
    match r.parse (afterFirst '=' line) with
    | .ok x => r.put x s
    | .error _ => s
  else s

/-- The last line that mentions the key. -/
def lastLine (r : Register σ α ε) (lines : List (List Char)) : Option (List Char) :=
  lines.reverse.find? fun line => contains line r.key

/-- What the part holds after the lines: what the last line that mentions the key has behind the `=`. -/
def Holds (r : Register σ α ε) (lines : List (List Char)) (s : σ) (x : α) : Prop :=
  match r.lastLine lines with
  | some line => r.parse (afterFirst '=' line) = .ok x
  | none => r.get s = x

theorem lastLine_concat (r : Register σ α ε) (lines : List (List Char)) (line : List Char) :
    r.lastLine (lines ++ [line]) = if contains line r.key then some line else r.lastLine lines := by
  unfold lastLine
  rw [List.reverse_concat, List.find?_cons]
  cases contains line r.key <;> rfl

variable {r : Register σ α ε} {line : List Char}

theorem test_of_legible (h : r.Legible line) (s : σ) : r.field.test line s = .ok (r.assign line s) := by
  unfold Field.test assign
  by_cases hin : contains line r.key
  · obtain ⟨x, hx⟩ := h hin
    rw [key_field, if_pos hin, if_pos hin]
    simp only [field, hx]
  · rw [key_field, if_neg hin, if_neg hin]

theorem test_of_not_legible (h : ¬ r.Legible line) (s : σ) : ∃ e, r.field.test line s = .error e := by
  unfold Legible at h
  obtain ⟨hin, hfail⟩ := Classical.not_imp.mp h
  unfold Field.test
  rw [key_field, if_pos hin]
  cases hparse : r.parse (afterFirst '=' line) with
  | ok x => exact absurd ⟨x, hparse⟩ hfail
  | error e => exact ⟨(e, s), by simp only [field, hparse]⟩

end Register

open Register

/-- A part keeps what is put into it, and the other keys leave it alone. -/
structure Independent (rs : List (Register σ α ε)) : Prop where
  own : ∀ r ∈ rs, ∀ t x s, r.parse t = .ok x → r.get (r.put x s) = x
  apart : rs.Pairwise fun r r' =>
    (∀ t x s, r'.parse t = .ok x → r.get (r'.put x s) = r.get s) ∧
      ∀ t x s, r.parse t = .ok x → r'.get (r.put x s) = r'.get s

/-- What all tests do to the state on a legible line. -/
def assignLine (rs : List (Register σ α ε)) (line : List Char) (s : σ) : σ := rs.foldl (fun s r => r.assign line s) s

variable {rs : List (Register σ α ε)} {r : Register σ α ε} {line : List Char} {lines : List (List Char)}

theorem readLine_of_legible (h : ∀ r ∈ rs, r.Legible line) (s : σ) :
    readLine (rs.map field) line s = .ok (assignLine rs line s) := by
  induction rs generalizing s with
  | nil => rfl
  | cons r rs ih =>
    have ih := ih (fun r' hr' => h r' (List.mem_cons_of_mem _ hr')) (r.assign line s)
    rw [readLine, List.map_cons, List.foldlM_cons, test_of_legible (h r (by simp))]
    exact ih

theorem readLine_of_not_legible (hr : r ∈ rs) (h : ¬ r.Legible line) (s : σ) :
    ∃ e, readLine (rs.map field) line s = .error e := by
  induction rs generalizing s with
  | nil => exact absurd hr List.not_mem_nil
  | cons r' rs ih =>
    rw [readLine, List.map_cons, List.foldlM_cons]
    cases htest : r'.field.test line s with
    | error e => exact ⟨e, rfl⟩
    | ok s' =>
      rcases List.mem_cons.mp hr with rfl | hr
      · obtain ⟨e, he⟩ := test_of_not_legible h s
        rw [he] at htest
        cases htest
      · exact ih hr s'

theorem readLines_of_legible (h : ∀ line ∈ lines, ∀ r ∈ rs, r.Legible line) (s : σ) :
    readLines (rs.map field) lines s = .ok (lines.foldl (fun s line => assignLine rs line s) s) := by
  induction lines generalizing s with
  | nil => rfl
  | cons line lines ih =>
    have ih := ih (fun line' hline' => h line' (List.mem_cons_of_mem _ hline')) (assignLine rs line s)
    rw [readLines, List.foldlM_cons, readLine_of_legible (h line (by simp))]
    exact ih

theorem readLines_of_not_legible (hline : line ∈ lines) (hr : r ∈ rs) (h : ¬ r.Legible line) (s : σ) :
    ∃ e, readLines (rs.map field) lines s = .error e := by
  induction lines generalizing s with
  | nil => exact absurd hline List.not_mem_nil
  | cons line' lines ih =>
    rw [readLines, List.foldlM_cons]
    cases hread : readLine (rs.map field) line' s with
    | error e => exact ⟨e, rfl⟩
    | ok s' =>
      rcases List.mem_cons.mp hline with rfl | hline
      · obtain ⟨e, he⟩ := readLine_of_not_legible hr h s
        rw [he] at hread
        cases hread
      · exact ih hline s'

/-! ### What the parts hold -/

/-- A test that leaves a part alone. -/
theorem get_assign_of_apart {r' : Register σ α ε} (h : ∀ t x s, r'.parse t = .ok x → r.get (r'.put x s) = r.get s)
    (s : σ) : r.get (r'.assign line s) = r.get s := by
  unfold assign
  split_ifs
  · cases hparse : r'.parse (afterFirst '=' line) with
    | ok x => exact h _ x s hparse
    | error e => rfl
  · rfl

theorem get_assignLine_of_apart
    (h : ∀ r' ∈ rs, ∀ t x s, r'.parse t = .ok x → r.get (r'.put x s) = r.get s) (s : σ) :
    r.get (assignLine rs line s) = r.get s := by
  induction rs generalizing s with
  | nil => rfl
  | cons r' rs ih =>
    have ih := ih (fun r'' hr'' => h r'' (List.mem_cons_of_mem _ hr'')) (r'.assign line s)
    exact ih.trans (get_assign_of_apart (h r' (by simp)) s)

/-- Of all tests on a line a part sees its own. -/
theorem get_assignLine (hrs : Independent rs) (hr : r ∈ rs) (line : List Char) (s : σ) :
    ∃ s', r.get s' = r.get s ∧ r.get (assignLine rs line s) = r.get (r.assign line s') := by
  obtain ⟨before, after, rfl⟩ := List.append_of_mem hr
  obtain ⟨-, hafter, hbefore⟩ := List.pairwise_append.mp hrs.apart
  refine ⟨assignLine before line s, get_assignLine_of_apart (fun r' hr' => ?_) s, ?_⟩
  · exact (hbefore r' hr' r (by simp)).2
  · have hsplit : assignLine (before ++ r :: after) line s =
        assignLine after line (r.assign line (assignLine before line s)) := by
      unfold assignLine
      rw [List.foldl_append, List.foldl_cons]
    rw [hsplit]
    exact get_assignLine_of_apart (fun r' hr' => ((List.pairwise_cons.mp hafter).1 r' hr').1) _

/-- **The last mention counts.** -/
theorem holds_assignLines (hrs : Independent rs) (hr : r ∈ rs) (h : ∀ line ∈ lines, r.Legible line) (s : σ) :
    r.Holds lines s (r.get (lines.foldl (fun s line => assignLine rs line s) s)) := by
  induction lines using List.reverseRecOn with
  | nil => exact rfl
  | append_singleton lines line ih =>
    have ih := ih fun line' hline' => h line' (List.mem_append_left _ hline')
    obtain ⟨s', hs', hget⟩ := get_assignLine hrs hr line (lines.foldl (fun s line => assignLine rs line s) s)
    rw [List.foldl_append, List.foldl_cons, List.foldl_nil, hget]
    unfold Holds assign
    rw [lastLine_concat]
    by_cases hin : contains line r.key
    · obtain ⟨x, hx⟩ := h line (by simp) hin
      rw [if_pos hin, if_pos hin]
      simp only [hx, hrs.own r hr _ x s' hx]
    · rw [if_neg hin, if_neg hin, hs']
      exact ih

/-- A part holds one value. -/
theorem Register.Holds.unique {s : σ} {x y : α} (hx : r.Holds lines s x) (hy : r.Holds lines s y) : x = y := by
  unfold Holds at hx hy
  cases hlast : r.lastLine lines with
  | none =>
    rw [hlast] at hx hy
    exact hx.symm.trans hy
  | some line =>
    rw [hlast] at hx hy
    exact Except.ok.inj (hx.symm.trans hy)

/-- **When a file is read as it should be**: all lines are legible, and the last mention of every key has the value the
key should have. -/
theorem readLines_wanted_iff (hrs : Independent rs) (want : Register σ α ε → α) (s : σ) :
    (∃ s', readLines (rs.map field) lines s = .ok s' ∧ ∀ r ∈ rs, r.get s' = want r) ↔
      (∀ line ∈ lines, ∀ r ∈ rs, r.Legible line) ∧ ∀ r ∈ rs, r.Holds lines s (want r) := by
  constructor
  · rintro ⟨s', hread, hwant⟩
    have hlegible : ∀ line ∈ lines, ∀ r ∈ rs, r.Legible line := by
      intro line hline r hr
      by_contra hfail
      obtain ⟨e, he⟩ := readLines_of_not_legible hline hr hfail s
      rw [he] at hread
      cases hread
    refine ⟨hlegible, fun r hr => ?_⟩
    rw [readLines_of_legible hlegible] at hread
    rw [← hwant r hr, ← Except.ok.inj hread]
    exact holds_assignLines hrs hr (fun line hline => hlegible line hline r hr) s
  · rintro ⟨hlegible, hholds⟩
    refine ⟨_, readLines_of_legible hlegible s, fun r hr => ?_⟩
    exact (holds_assignLines hrs hr (fun line hline => hlegible line hline r hr) s).unique (hholds r hr)

/-! ### Files of entries -/

namespace Register

/-- The value a part should have: that of the key's own entry, or what the part held. -/
def intended (r : Register σ α ε) (es : List (List Char × List Char)) (s : σ) : α :=
  match es.find? fun e => e.1 = r.key with
  | some e => (r.parse e.2).toOption.getD (r.get s)
  | none => r.get s

/-- The last entry that has the key, or a value that contains it. -/
def lastMention (r : Register σ α ε) (es : List (List Char × List Char)) : Option (List Char × List Char) :=
  es.reverse.find? fun e => e.1 = r.key ∨ r.key <:+: e.2

/-- A value that contains the key is a value for it, and if the last entry that mentions the key is another's, its
value is the one that the part should have. -/
structure Undisturbed (r : Register σ α ε) (es : List (List Char × List Char)) (s : σ) : Prop where
  legible : ∀ e ∈ es, r.key <:+: e.2 → ∃ x, r.parse e.2 = .ok x
  last : ∀ e ∈ r.lastMention es, e.1 ≠ r.key → r.parse e.2 = .ok (r.intended es s)

end Register

/-- The entries have different known keys, each with a value for it. -/
structure WellFormed (rs : List (Register σ α ε)) (es : List (List Char × List Char)) : Prop where
  known : ∀ e ∈ es, ∃ r ∈ rs, r.key = e.1
  distinct : (es.map Prod.fst).Nodup
  legible : ∀ e ∈ es, ∀ r ∈ rs, r.key = e.1 → ∃ x, r.parse e.2 = .ok x

variable {es : List (List Char × List Char)}

/-- A line mentions a key that it starts with or has in its value. -/
theorem contains_entry_iff (hsep : Separate (rs.map field)) (hes : WellFormed rs es) {e : List Char × List Char}
    (he : e ∈ es) (hr : r ∈ rs) : contains (entry e.1 e.2) r.key ↔ e.1 = r.key ∨ r.key <:+: e.2 := by
  have hnoSep : '=' ∉ r.key := hsep.noSep r.field (List.mem_map_of_mem hr)
  rw [contains, decide_eq_true_eq, entry, infix_append_sep hnoSep]
  refine or_congr_left ⟨fun hin => ?_, fun heq => heq ▸ List.infix_refl _⟩
  obtain ⟨r', hr', hkey⟩ := hes.known e he
  rw [← hkey] at hin ⊢
  exact (hsep.eq_of_infix (List.mem_map_of_mem hr) (List.mem_map_of_mem hr') hin).symm

theorem afterFirst_entry (hsep : Separate (rs.map field)) (hes : WellFormed rs es) {e : List Char × List Char}
    (he : e ∈ es) : afterFirst '=' (entry e.1 e.2) = e.2 := by
  obtain ⟨r, hr, hkey⟩ := hes.known e he
  have hnoSep : '=' ∉ r.key := hsep.noSep r.field (List.mem_map_of_mem hr)
  rw [entry, afterFirst_append (hkey ▸ hnoSep)]

/-- The own entry of a key is found. -/
theorem find?_own (hes : WellFormed rs es) {e : List Char × List Char} (he : e ∈ es) (hkey : e.1 = r.key) :
    es.find? (fun e => e.1 = r.key) = some e := by
  obtain ⟨before, after, rfl⟩ := List.append_of_mem he
  have hdistinct := hes.distinct
  rw [List.map_append, List.map_cons, List.nodup_append] at hdistinct
  have hnone : before.find? (fun e => decide (e.1 = r.key)) = none := by
    refine List.find?_eq_none.mpr fun e' he' hsame => ?_
    have hsame : e'.1 = r.key := of_decide_eq_true hsame
    exact hdistinct.2.2 e'.1 (List.mem_map_of_mem he') e.1 (by simp) (hsame.trans hkey.symm)
  rw [List.find?_append, hnone, Option.none_or, List.find?_cons, decide_eq_true hkey]

theorem parse_own (hes : WellFormed rs es) (hr : r ∈ rs) {e : List Char × List Char} (he : e ∈ es)
    (hkey : e.1 = r.key) (s : σ) : r.parse e.2 = .ok (r.intended es s) := by
  obtain ⟨x, hx⟩ := hes.legible e he r hr hkey.symm
  unfold intended
  rw [find?_own hes he hkey]
  simp only [hx]
  rfl

theorem lastLine_entries (hsep : Separate (rs.map field)) (hes : WellFormed rs es) (hr : r ∈ rs) :
    r.lastLine (es.map fun e => entry e.1 e.2) = (r.lastMention es).map fun e => entry e.1 e.2 := by
  unfold lastLine lastMention
  rw [← List.map_reverse, List.find?_map]
  refine congrArg (Option.map _) (List.find?_congr fun e he => ?_)
  rw [Function.comp_apply, Bool.eq_iff_iff, contains_entry_iff hsep hes (List.mem_reverse.mp he) hr, decide_eq_true_eq]

/-- A part ends with the value that it should have exactly if it is not disturbed. -/
theorem holds_intended_iff (hsep : Separate (rs.map field)) (hes : WellFormed rs es) (hr : r ∈ rs) (s : σ) :
    r.Holds (es.map fun e => entry e.1 e.2) s (r.intended es s) ↔
      ∀ e ∈ r.lastMention es, e.1 ≠ r.key → r.parse e.2 = .ok (r.intended es s) := by
  unfold Holds
  rw [lastLine_entries hsep hes hr]
  cases hlast : r.lastMention es with
  | none =>
    refine ⟨fun _ e he => absurd he (by simp), fun _ => ?_⟩
    have hnone : es.find? (fun e => e.1 = r.key) = none := by
      refine List.find?_eq_none.mpr fun e he hkey => ?_
      have hmention := List.find?_eq_none.mp hlast e (List.mem_reverse.mpr he)
      exact hmention (decide_eq_true (.inl (of_decide_eq_true hkey)))
    unfold intended
    rw [hnone]
    rfl
  | some e =>
    have he : e ∈ es := List.mem_reverse.mp (List.mem_of_find?_eq_some hlast)
    rw [Option.map_some]
    simp only [afterFirst_entry hsep hes he]
    constructor
    · intro hparse e' he' _
      obtain rfl := Option.some.inj he'
      exact hparse
    · intro h
      by_cases hkey : e.1 = r.key
      · exact parse_own hes hr he hkey s
      · exact h e rfl hkey

theorem legible_entries_iff (hsep : Separate (rs.map field)) (hes : WellFormed rs es) :
    (∀ line ∈ es.map fun e => entry e.1 e.2, ∀ r ∈ rs, r.Legible line) ↔
      ∀ r ∈ rs, ∀ e ∈ es, r.key <:+: e.2 → ∃ x, r.parse e.2 = .ok x := by
  constructor
  · intro h r hr e he hin
    have hlegible := h _ (List.mem_map_of_mem he) r hr ((contains_entry_iff hsep hes he hr).mpr (.inr hin))
    rwa [afterFirst_entry hsep hes he] at hlegible
  · intro h line hline r hr hin
    obtain ⟨e, he, rfl⟩ := List.mem_map.mp hline
    rw [afterFirst_entry hsep hes he]
    rcases (contains_entry_iff hsep hes he hr).mp hin with hkey | hin
    · exact hes.legible e he r hr hkey.symm
    · exact h r hr e he hin

/-- Values that contain no key but that of their entry disturb nothing. -/
theorem undisturbed_of_apart (hes : WellFormed rs es) (hr : r ∈ rs) (h : ∀ e ∈ es, r.key <:+: e.2 → r.key = e.1)
    (s : σ) : r.Undisturbed es s := by
  refine ⟨fun e he hin => hes.legible e he r hr (h e he hin), fun e hlast hne => ?_⟩
  have he : e ∈ es := List.mem_reverse.mp (List.mem_of_find?_eq_some hlast)
  have hfound := List.find?_some hlast
  have hmention : e.1 = r.key ∨ r.key <:+: e.2 := of_decide_eq_true hfound
  exact absurd (hmention.elim id fun hin => (h e he hin).symm) hne

/-- **When every entry is read into its own part and into no other**: exactly when no part is disturbed. -/
theorem readLines_intended_iff (hrs : Independent rs) (hsep : Separate (rs.map field)) (hes : WellFormed rs es) (s : σ) :
    (∃ s', readLines (rs.map field) (es.map fun e => entry e.1 e.2) s = .ok s' ∧
      ∀ r ∈ rs, r.get s' = r.intended es s) ↔ ∀ r ∈ rs, r.Undisturbed es s := by
  rw [readLines_wanted_iff hrs (fun r => r.intended es s) s, legible_entries_iff hsep hes]
  constructor
  · rintro ⟨hlegible, hholds⟩ r hr
    exact ⟨hlegible r hr, (holds_intended_iff hsep hes hr s).mp (hholds r hr)⟩
  · intro h
    exact ⟨fun r hr => (h r hr).legible, fun r hr => (holds_intended_iff hsep hes hr s).mpr (h r hr).last⟩

end AutopilotManager.Lib
