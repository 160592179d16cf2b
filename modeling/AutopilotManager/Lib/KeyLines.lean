import AutopilotManager.Lib.Text
import Mathlib.Data.List.Basic

/-!
# Lib.KeyLines — files of `key=value` lines

A reader that tests every line for every known key by substring search (`readLine`, `readLines`), and the plain
meaning of such a file, the text behind `key=` on the first line that starts so (`lookup`).  With keys that do
not contain each other and values that contain no other key, the reader assigns each line to its own key and nothing
else (`readLines_entries`).
-/

namespace AutopilotManager.Lib

section Reader

variable {σ ε : Type*}

/-- A known key and what is done with the text behind the `=` of a line that contains it. -/
structure Field (σ ε : Type*) where
  key : List Char
  assign : List Char → σ → Except ε σ

/-- The test of one key on a line. -/
def Field.test (f : Field σ ε) (line : List Char) (s : σ) : Except ε σ :=
  if contains line f.key then f.assign (afterFirst '=' line) s else .ok s

/-- All tests on one line, in order; the first that fails ends the reading. -/
def readLine (fs : List (Field σ ε)) (line : List Char) (s : σ) : Except ε σ :=
  fs.foldlM (fun s f => f.test line s) s

def readLines (fs : List (Field σ ε)) (lines : List (List Char)) (s : σ) : Except ε σ :=
  lines.foldlM (fun s line => readLine fs line s) s

/-- The line of a key and its value. -/
def entry (key value : List Char) : List Char := key ++ '=' :: value

/-- No key contains the separator, and none of two keys contains the other. -/
structure Separate (fs : List (Field σ ε)) : Prop where
  noSep : ∀ f ∈ fs, '=' ∉ f.key
  apart : fs.Pairwise fun f g => ¬ f.key <:+: g.key ∧ ¬ g.key <:+: f.key

/-- A key that is found in another is that key. -/
theorem Separate.eq_of_infix {fs : List (Field σ ε)} (h : Separate fs) {f g : Field σ ε} (hf : f ∈ fs) (hg : g ∈ fs)
    (hin : f.key <:+: g.key) : f.key = g.key := by
  by_contra hne
  obtain ⟨before, after, rfl⟩ := List.append_of_mem hf
  obtain ⟨-, hafter, hbefore⟩ := List.pairwise_append.mp h.apart
  rcases List.mem_append.mp hg with hg | hg
  · exact (hbefore g hg f (by simp)).2 hin
  · rcases List.mem_cons.mp hg with rfl | hg
    · exact hne rfl
    · exact ((List.pairwise_cons.mp hafter).1 g hg).1 hin

theorem Field.test_of_not_contains {f : Field σ ε} {line : List Char} (h : ¬ f.key <:+: line) (s : σ) :
    f.test line s = .ok s := by
  simp [Field.test, contains, h]

theorem readLine_of_not_contains {fs : List (Field σ ε)} {line : List Char}
    (h : ∀ f ∈ fs, ¬ f.key <:+: line) (s : σ) : readLine fs line s = .ok s := by
  induction fs with
  | nil => rfl
  | cons f fs ih =>
    have ih := ih fun g hg => h g (List.mem_cons_of_mem _ hg)
    rw [readLine, List.foldlM_cons, Field.test_of_not_contains (h f (by simp))]
    exact ih

/-- **A line is read by its own key only**, if its value contains no other. -/
theorem readLine_entry {fs : List (Field σ ε)} (hfs : Separate fs) {f : Field σ ε} (hf : f ∈ fs)
    {value : List Char} (hv : ∀ g ∈ fs, g.key <:+: value → g.key = f.key) (s : σ) :
    readLine fs (entry f.key value) s = f.assign value s := by
  obtain ⟨pre, post, rfl⟩ := List.append_of_mem hf
  obtain ⟨-, hpost, hpre⟩ := List.pairwise_append.mp hfs.apart
  have hother : ∀ g ∈ pre ++ f :: post, ¬ g.key <:+: f.key → ¬ g.key <:+: entry f.key value := by
    intro g hg hgf h
    rcases (infix_append_sep (hfs.noSep g hg)).mp h with h | h
    · exact hgf h
    · exact hgf (hv g hg h ▸ List.infix_refl _)
  have h1 : ∀ g ∈ pre, ¬ g.key <:+: entry f.key value := fun g hg =>
    hother g (by simp [hg]) (hpre g hg f (by simp)).1
  have h2 : ∀ g ∈ post, ¬ g.key <:+: entry f.key value := fun g hg =>
    hother g (by simp [hg]) ((List.pairwise_cons.mp hpost).1 g hg).2
  have hown : f.test (entry f.key value) s = f.assign value s := by
    have hin : f.key <:+: entry f.key value := (infix_append_sep (hfs.noSep f hf)).mpr (.inl (List.infix_refl _))
    rw [Field.test, contains, decide_eq_true hin, if_pos rfl, entry, afterFirst_append (hfs.noSep f hf)]
  have hpre' : pre.foldlM (fun s f' => f'.test (entry f.key value) s) s = .ok s := readLine_of_not_contains h1 s
  have hcons : (f :: post).foldlM (fun s f' => f'.test (entry f.key value) s) s =
      f.assign value s >>= fun s' => readLine post (entry f.key value) s' := by
    rw [List.foldlM_cons, hown]; rfl
  rw [readLine, List.foldlM_append, hpre']
  refine hcons.trans ?_
  cases f.assign value s with
  | error e => rfl
  | ok s' => exact readLine_of_not_contains h2 s'

/-- **Entries of known keys, in any order, are assigned one after the other.** -/
theorem readLines_entries {fs : List (Field σ ε)} (hfs : Separate fs) {es : List (Field σ ε × List Char)}
    (hes : ∀ e ∈ es, e.1 ∈ fs ∧ ∀ g ∈ fs, g.key <:+: e.2 → g.key = e.1.key) (s : σ) :
    readLines fs (es.map fun e => entry e.1.key e.2) s = es.foldlM (fun s e => e.1.assign e.2 s) s := by
  induction es generalizing s with
  | nil => rfl
  | cons e es ih =>
    obtain ⟨hmem, hval⟩ := hes e (by simp)
    have ih := ih fun e' he' => hes e' (List.mem_cons_of_mem _ he')
    rw [readLines, List.map_cons, List.foldlM_cons, readLine_entry hfs hmem hval, List.foldlM_cons]
    cases e.1.assign e.2 s with
    | error x => rfl
    | ok s' => exact ih s'

end Reader

/-! ### The plain meaning of a file -/

/-- The text behind `key=` on the first line that starts with it. -/
def lookup (key : List Char) (lines : List (List Char)) : Option (List Char) :=
  lines.findSome? fun line => line.dropPrefix? (key ++ ['='])

theorem dropPrefix?_eq_some {p line rest : List Char} : line.dropPrefix? p = some rest ↔ line = p ++ rest := by
  rw [List.dropPrefix?_eq_some_iff]
  constructor
  · rintro ⟨p', h, hp⟩; rw [h, eq_of_beq hp]
  · rintro rfl; exact ⟨p, rfl, beq_self_eq_true p⟩

theorem dropPrefix?_entry_self (key value : List Char) :
    (entry key value).dropPrefix? (key ++ ['=']) = some value :=
  dropPrefix?_eq_some.mpr (by simp [entry])

/-- A line of one key does not start with another key and the separator. -/
theorem not_prefix_entry {key key' value : List Char} (h : '=' ∉ key) (h' : '=' ∉ key') (hne : key ≠ key') :
    ¬ key ++ ['='] <+: entry key' value := by
  rintro ⟨rest, heq⟩
  rw [List.append_assoc, List.singleton_append, entry] at heq
  have hcut := congrArg (List.takeWhile (· != '=')) heq
  have htake : ∀ k : List Char, '=' ∉ k → ∀ t, (k ++ '=' :: t).takeWhile (· != '=') = k := by
    intro k hk t
    rw [List.takeWhile_append_of_pos fun x hx => bne_iff_ne.mpr (ne_of_mem_of_not_mem hx hk)]
    simp
  rw [htake key h, htake key' h'] at hcut
  exact hne hcut

theorem dropPrefix?_eq_none_of_not_prefix {p line : List Char} (h : ¬ p <+: line) : line.dropPrefix? p = none := by
  cases hd : line.dropPrefix? p with
  | none => rfl
  | some rest => exact absurd ⟨rest, (dropPrefix?_eq_some.mp hd).symm⟩ h

theorem lookup_append_of_not_prefix {key : List Char} {ls : List (List Char)}
    (h : ∀ l ∈ ls, ¬ key ++ ['='] <+: l) (ls' : List (List Char)) : lookup key (ls ++ ls') = lookup key ls' := by
  have hnone : ls.findSome? (fun line => line.dropPrefix? (key ++ ['='])) = none :=
    List.findSome?_eq_none_iff.mpr fun l hl => dropPrefix?_eq_none_of_not_prefix (h l hl)
  rw [lookup, List.findSome?_append, hnone, Option.none_or, lookup]

theorem mem_of_lookup {key value : List Char} {ls : List (List Char)} (h : lookup key ls = some value) :
    entry key value ∈ ls := by
  obtain ⟨l, hl, hd⟩ := List.exists_of_findSome?_eq_some h
  rw [dropPrefix?_eq_some] at hd
  simpa [entry, hd] using hl

/-- **Among entries of distinct keys every key is found with its own value.** -/
theorem lookup_entries {es : List (List Char × List Char)} (hsep : ∀ e ∈ es, '=' ∉ e.1)
    (hdist : (es.map Prod.fst).Nodup) {e : List Char × List Char} (he : e ∈ es) :
    lookup e.1 (es.map fun e => entry e.1 e.2) = some e.2 := by
  obtain ⟨pre, post, rfl⟩ := List.append_of_mem he
  rw [List.map_append, List.map_cons, lookup_append_of_not_prefix]
  · simp [lookup, dropPrefix?_entry_self]
  · intro l hl
    obtain ⟨e', he', rfl⟩ := List.mem_map.mp hl
    rw [List.map_append, List.map_cons, List.nodup_append] at hdist
    have hne : e.1 ≠ e'.1 := fun h => hdist.2.2 e'.1 (List.mem_map_of_mem he') e.1 (by simp) h.symm
    exact not_prefix_entry (hsep e he) (hsep e' (by simp [he'])) hne

end AutopilotManager.Lib
