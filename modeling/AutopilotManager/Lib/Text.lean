import Mathlib.Data.List.Infix

/-!
# Lib.Text — character sequences under the C++ string functions

Searching (`find`), cutting (`substr`) and reading lines (`getline`).  A text is a list of characters.
-/

namespace AutopilotManager.Lib

/-- `text.find(key) != npos`. -/
def contains (text key : List Char) : Bool := decide (key <:+: text)

/-- `text.substr(text.find(c) + 1)`: what follows the first `c`, the whole text when there is no `c`. -/
def afterFirst (c : Char) (text : List Char) : List Char :=
  match text.dropWhile (· != c) with
  | [] => text
  | _ :: rest => rest

/-- The lines `std::getline` returns until the stream ends. -/
def getlines : List Char → List (List Char)
  | [] => []
  | c :: cs =>
    if c = '\n' then [] :: getlines cs
    else match getlines cs with
      | [] => [[c]]
      | l :: ls => (c :: l) :: ls

/-- `file << line << std::endl` for each line. -/
def putlines (ls : List (List Char)) : List Char := ls.flatMap (· ++ ['\n'])

theorem afterFirst_append {c : Char} {a : List Char} (ha : c ∉ a) (b : List Char) :
    afterFirst c (a ++ c :: b) = b := by
  have h : (a ++ c :: b).dropWhile (· != c) = c :: b := by
    rw [List.dropWhile_append_of_pos (fun x hx => bne_iff_ne.mpr (ne_of_mem_of_not_mem hx ha))]
    simp
  simp [afterFirst, h]

/-- A key without the separator lies on one side of it. -/
theorem infix_append_sep {key a b : List Char} {c : Char} (hc : c ∉ key) :
    key <:+: a ++ c :: b ↔ key <:+: a ∨ key <:+: b := by
  constructor
  · rintro ⟨s, t, h⟩
    rcases List.append_eq_append_iff.mp h with ⟨u, hu, -⟩ | ⟨u, hu, hv⟩
    · exact Or.inl ⟨s, u, hu.symm⟩
    · cases u with
      | nil => exact Or.inl ⟨s, [], by rw [List.append_nil] at hu ⊢; exact hu⟩
      | cons d u =>
        obtain ⟨rfl, hb⟩ := List.cons_eq_cons.mp hv
        rw [List.append_cons] at hu
        rcases List.append_eq_append_iff.mp hu with ⟨w, hw, hkey⟩ | ⟨w, -, hkey⟩
        · -- the separator would end the part of `key` left of `w`
          rcases List.eq_nil_or_concat w with rfl | ⟨w', e, rfl⟩
          · exact Or.inr ⟨[], t, by rw [hb, hkey]; rfl⟩
          · rw [List.concat_eq_append, ← List.append_assoc] at hw
            obtain ⟨-, he⟩ := List.append_inj' hw rfl
            exact absurd (by rw [hkey, ← List.singleton_inj.mp he]; simp) hc
        · exact Or.inr ⟨w, t, by rw [hb, hkey]; rfl⟩
  · rintro (⟨s, t, rfl⟩ | ⟨s, t, rfl⟩)
    · exact ⟨s, t ++ c :: b, by simp⟩
    · exact ⟨a ++ c :: s, t, by simp⟩

theorem getlines_line {l : List Char} (hl : '\n' ∉ l) (rest : List Char) :
    getlines (l ++ '\n' :: rest) = l :: getlines rest := by
  induction l with
  | nil => simp [getlines]
  | cons c l ih =>
    have hc : c ≠ '\n' := fun h => hl (by simp [h])
    have ih := ih (fun h => hl (List.mem_cons_of_mem _ h))
    simp [getlines, hc, ih]

theorem putlines_cons (l : List Char) (ls : List (List Char)) : putlines (l :: ls) = l ++ '\n' :: putlines ls := by
  simp [putlines]

theorem getlines_putlines_append {ls : List (List Char)} (h : ∀ l ∈ ls, '\n' ∉ l) (rest : List Char) :
    getlines (putlines ls ++ rest) = ls ++ getlines rest := by
  induction ls with
  | nil => rfl
  | cons l ls ih =>
    have ih := ih (fun l' hl' => h l' (List.mem_cons_of_mem _ hl'))
    rw [putlines_cons, List.append_assoc, List.cons_append, getlines_line (h l (by simp)), ih, List.cons_append]

/-- Lines without a line break are read back as they were written. -/
theorem getlines_putlines {ls : List (List Char)} (h : ∀ l ∈ ls, '\n' ∉ l) : getlines (putlines ls) = ls := by
  simpa [getlines] using getlines_putlines_append h []

/-- A last line is read without its line break too. -/
theorem getlines_of_not_mem {l : List Char} (hl : '\n' ∉ l) (hne : l ≠ []) : getlines l = [l] := by
  induction l with
  | nil => exact absurd rfl hne
  | cons c l ih =>
    have hc : c ≠ '\n' := fun h => hl (by simp [h])
    have hl' : '\n' ∉ l := fun h => hl (List.mem_cons_of_mem _ h)
    cases l with
    | nil => simp [getlines, hc]
    | cons d l => rw [getlines, if_neg hc, ih hl' (by simp)]

theorem putlines_append_singleton (ls : List (List Char)) (l : List Char) :
    putlines (ls ++ [l]) = putlines ls ++ (l ++ ['\n']) := by
  simp [putlines]

/-- Everything but the last line break is enough to read all lines back. -/
theorem getlines_take_of_le {ls : List (List Char)} {l : List Char} (h : ∀ l' ∈ ls ++ [l], '\n' ∉ l') (hne : l ≠ [])
    {n : ℕ} (hn : (putlines (ls ++ [l])).length ≤ n + 1) :
    getlines ((putlines (ls ++ [l])).take n) = ls ++ [l] := by
  rcases Nat.lt_or_ge n (putlines (ls ++ [l])).length with hlt | hge
  · have hcut : n = (putlines ls ++ l).length := by
      rw [putlines_append_singleton] at hn hlt
      simp only [List.length_append, List.length_cons, List.length_nil] at hn hlt ⊢
      omega
    rw [putlines_append_singleton, ← List.append_assoc, hcut, List.take_left,
      getlines_putlines_append (fun l' hl' => h l' (by simp [hl'])), getlines_of_not_mem (h l (by simp)) hne]
  · rw [List.take_of_length_le hge, getlines_putlines h]

/-- When the text of the lines is cut inside the last line, what is read are beginnings of the other lines and a
shorter last line. -/
theorem mem_getlines_take {ls : List (List Char)} {l : List Char} (h : ∀ l' ∈ ls ++ [l], '\n' ∉ l') {n : ℕ}
    (hn : n + 1 < (putlines (ls ++ [l])).length) {x : List Char}
    (hx : x ∈ getlines ((putlines (ls ++ [l])).take n)) : (∃ l' ∈ ls, x <+: l') ∨ x.length < l.length := by
  have hpart : ∀ {y : List Char} {k : ℕ}, '\n' ∉ y → x ∈ getlines (y.take k) → x = y.take k := by
    intro y k hy hx
    have hfree : '\n' ∉ y.take k := fun hm => hy (List.mem_of_mem_take hm)
    by_cases hnil : y.take k = []
    · rw [hnil] at hx; simp [getlines] at hx
    · rw [getlines_of_not_mem hfree hnil] at hx; exact List.mem_singleton.mp hx
  induction ls generalizing n with
  | nil =>
    rw [List.nil_append, putlines_cons] at hx hn
    have hlt : n < l.length := by simp [putlines] at hn; omega
    rw [List.take_append_of_le_length hlt.le] at hx
    right
    rw [hpart (h l (by simp)) hx, List.length_take]
    omega
  | cons l₀ ls ih =>
    rw [List.cons_append, putlines_cons] at hx hn
    rcases Nat.lt_or_ge l₀.length n with hlt | hle
    · -- the first line is whole
      obtain ⟨k, rfl⟩ : ∃ k, n = l₀.length + (k + 1) := ⟨n - l₀.length - 1, by omega⟩
      rw [List.take_length_add_append, List.take_succ_cons, getlines_line (h l₀ (by simp))] at hx
      rcases List.mem_cons.mp hx with rfl | hx
      · exact Or.inl ⟨x, by simp, List.prefix_refl x⟩
      · have hk : k + 1 < (putlines (ls ++ [l])).length := by simp at hn; omega
        rcases ih (fun l' hl' => h l' (List.mem_cons_of_mem _ hl')) hk hx with ⟨l', hl', hp⟩ | hlen
        · exact Or.inl ⟨l', List.mem_cons_of_mem _ hl', hp⟩
        · exact Or.inr hlen
    · rw [List.take_append_of_le_length hle] at hx
      exact Or.inl ⟨l₀, by simp, by rw [hpart (h l₀ (by simp)) hx]; exact List.take_prefix _ _⟩

theorem newline_not_mem_getlines {text l : List Char} (h : l ∈ getlines text) : '\n' ∉ l := by
  induction text generalizing l with
  | nil => simp [getlines] at h
  | cons c cs ih =>
    rw [getlines] at h
    split_ifs at h with hc
    · rcases List.mem_cons.mp h with rfl | h
      · simp
      · exact ih h
    · have hne : '\n' ≠ c := fun e => hc e.symm
      cases hcs : getlines cs with
      | nil =>
        rw [hcs] at h
        simpa [List.mem_singleton.mp h] using hne
      | cons l' ls =>
        rw [hcs] at h
        rcases List.mem_cons.mp h with rfl | h
        · exact fun hm => (List.mem_cons.mp hm).elim hne (ih (by simp [hcs]))
        · exact ih (by simp [hcs, h])

end AutopilotManager.Lib
