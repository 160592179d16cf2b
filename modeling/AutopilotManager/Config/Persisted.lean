import AutopilotManager.Config.RoundTrip

/-!
# Config.Persisted — what a configuration file says about each member

The value of a member in a file is the text behind its key, read as its type.  A written file has the values of
the written object exactly when it is whole, no text breaks its line, all doubles are exact in six decimals, and
the two switches that share a member in the printing list are equal.
-/

namespace AutopilotManager

open Lib

/-- A value regardless of the width of the integer that holds it. -/
inductive Value
  | number (n : ℤ)
  | text (v : String)
  | real (v : Double)
  deriving DecidableEq

namespace Cell

def value : Cell → Value
  | flag v => .number v.toNat
  | text v => .text v
  | real v => .real v
  | int v => .number v.toInt

theorem value_injective {x y : Cell} (hk : x.kind = y.kind) (hv : x.value = y.value) : x = y := by
  cases x <;> cases y <;> simp_all [kind, value, UInt8.toNat_inj, Int32.toInt_inj]

/-- What a line of the file keeps as it is: a text without line break, a double with six decimals. -/
def Printable : Cell → Prop
  | text v => '\n' ∉ v.toList
  | real v => v.sixDecimals = v
  | _ => True

theorem Storable.printable {x : Cell} (h : x.Storable) : x.Printable := by
  cases x with
  | text v => exact h.1
  | real v => exact Double.sixDecimals_of_isMillionths h
  | _ => trivial

theorem stored_eq_self {x : Cell} (h : x.Printable) : x.stored = x := by
  cases x with
  | real v => exact congrArg real h
  | _ => rfl

end Cell

namespace AutopilotManagerConfig

open Cell

/-- The value of a member in the file `text`. -/
def persisted (text : List Char) (m : Member) : Option Value :=
  (lookup m.name.toList (getlines text)).bind fun t =>
    match parse (m.get {}).kind t with
    | .ok x => some x.value
    | .error _ => none

/-! ### Members and lines -/

/-- The line printed under the name of a member shows it, but for one line, which shows another switch. -/
theorem exists_writer {m : Member} (hm : m ∈ members) (c : AutopilotManagerConfig) :
    ∃ w ∈ writers, w.key = m.name ∧ (w.get c = m.get c ∨
      m.get c = .flag c.safeLandingEnabled ∧ w.get c = .flag c.simpleCollisionAvoidEnabled) := by
  have hall : (members.zip writers).Forall fun p => p.2.key = p.1.name ∧ (p.2.get c = p.1.get c ∨
      p.1.get c = .flag c.safeLandingEnabled ∧ p.2.get c = .flag c.simpleCollisionAvoidEnabled) := by
    simp only [members, writers, List.zip_cons_cons, List.zip_nil_left, List.Forall, true_or, and_self, or_true]
  have hfst : m ∈ (members.zip writers).map Prod.fst := by
    rw [List.map_fst_zip (by decide)]; exact hm
  obtain ⟨p, hp, rfl⟩ := List.mem_map.mp hfst
  exact ⟨p.2, (List.of_mem_zip hp).2, List.forall_iff_forall_mem.mp hall p hp⟩

theorem exists_member {w : Writer} (hw : w ∈ writers) (c : AutopilotManagerConfig) :
    ∃ m ∈ members, m.name = w.key ∧ (w.get c = m.get c ∨
      m.get c = .flag c.safeLandingEnabled ∧ w.get c = .flag c.simpleCollisionAvoidEnabled) := by
  have hall : (members.zip writers).Forall fun p => p.1.name = p.2.key ∧ (p.2.get c = p.1.get c ∨
      p.1.get c = .flag c.safeLandingEnabled ∧ p.2.get c = .flag c.simpleCollisionAvoidEnabled) := by
    simp only [members, writers, List.zip_cons_cons, List.zip_nil_left, List.Forall, true_or, and_self, or_true]
  have hsnd : w ∈ (members.zip writers).map Prod.snd := by
    rw [List.map_snd_zip (by decide)]; exact hw
  obtain ⟨p, hp, rfl⟩ := List.mem_map.mp hsnd
  exact ⟨p.1, (List.of_mem_zip hp).1, List.forall_iff_forall_mem.mp hall p hp⟩

/-- The kind of a member does not depend on the object. -/
theorem kind_get {m : Member} (hm : m ∈ members) (c c' : AutopilotManagerConfig) :
    (m.get c).kind = (m.get c').kind := by
  have hall : members.Forall fun m => (m.get c).kind = (m.get c').kind := by
    simp only [members, List.Forall, kind, and_self]
  exact List.forall_iff_forall_mem.mp hall m hm

/-! ### The lines of a written file -/

theorem mem_writerKeys {w : Writer} (hw : w ∈ writers) : w.key.toList ∈ readers.map fun r => r.key.toList := by
  have hkeys : w.key ∈ readers.map Reader.key := writers_key_eq ▸ List.mem_map_of_mem hw
  obtain ⟨r, hr, h⟩ := List.mem_map.mp hkeys
  exact List.mem_map.mpr ⟨r, hr, by rw [h]⟩

theorem noSep_writers {w : Writer} (hw : w ∈ writers) : '=' ∉ w.key.toList :=
  keyFacts_readers.noSep _ (mem_writerKeys hw)

theorem nodup_writers : (writers.map fun w => w.key.toList).Nodup := by
  have hkeys : (writers.map fun w => w.key.toList) = readers.map fun r => r.key.toList := by
    have h := congrArg (List.map String.toList) writers_key_eq
    rwa [List.map_map, List.map_map] at h
  rw [hkeys]
  exact nodup_readers

theorem not_prefix_header (key : List Char) : ¬ key ++ ['='] <+: header := by
  intro h
  have hmem : '=' ∈ header := h.subset (by simp)
  exact absurd hmem (by decide)

/-- Each line of the file is found by its key. -/
theorem lookup_fileLines (c : AutopilotManagerConfig) {w : Writer} (hw : w ∈ writers) :
    lookup w.key.toList c.fileLines = some (w.get c).render := by
  have hhead : ∀ l ∈ [header], ¬ w.key.toList ++ ['='] <+: l := by
    intro l hl
    rw [List.mem_singleton.mp hl]
    exact not_prefix_header _
  have hlines : c.fileLines = [header] ++
      (writers.map fun w => (w.key.toList, (w.get c).render)).map fun e => entry e.1 e.2 := by
    rw [List.map_map]; rfl
  rw [hlines, lookup_append_of_not_prefix hhead]
  refine lookup_entries (e := (w.key.toList, (w.get c).render)) ?_ ?_ (List.mem_map_of_mem hw)
  · intro e he
    obtain ⟨w', hw', rfl⟩ := List.mem_map.mp he
    exact noSep_writers hw'
  · rw [List.map_map]
    exact nodup_writers

theorem newline_not_mem_render {x : Cell} (h : x.Printable) : '\n' ∉ x.render := by
  cases x with
  | flag v => exact (not_mem_numeral fun c hc => mem_toStringInt hc).2
  | text v => exact h
  | real v => exact (not_mem_numeral fun c hc => mem_toStringDouble hc).2
  | int v => exact (not_mem_numeral fun c hc => mem_toStringInt hc).2

/-- What the line of a member says in a file that has all lines. -/
theorem persisted_of_fileLines {c : AutopilotManagerConfig} {text : List Char} (ht : getlines text = c.fileLines)
    {m : Member} (hm : m ∈ members) {w : Writer} (hw : w ∈ writers) (hkey : w.key = m.name)
    (hkind : (w.get c).kind = (m.get c).kind) : persisted text m = some (w.get c).stored.value := by
  rw [persisted, ht, ← hkey, lookup_fileLines c hw, kind_get hm {} c, ← hkind]
  simp only [Option.bind_some, parse_render]

/-! ### The last line -/

/-- The line printed last. -/
def lastWriter : Writer :=
  ⟨"simple_collision_avoid_action_on_condition_true", fun c => .text c.simpleCollisionAvoidActionOnConditionTrue⟩

theorem writers_eq_concat : writers = writers.dropLast ++ [lastWriter] := rfl

/-- The member printed last. -/
def lastMember : Member :=
  ⟨"simple_collision_avoid_action_on_condition_true", fun c => .text c.simpleCollisionAvoidActionOnConditionTrue⟩

theorem lastMember_mem : lastMember ∈ members := List.mem_of_getLast? rfl

theorem fileLines_eq_concat (c : AutopilotManagerConfig) : ∃ ls,
    c.fileLines = ls ++ [entry lastWriter.key.toList (lastWriter.get c).render] ∧
      ∀ l ∈ ls, ¬ lastWriter.key.toList ++ ['='] <+: l := by
  refine ⟨header :: writers.dropLast.map fun w => entry w.key.toList (w.get c).render, ?_, ?_⟩
  · rw [fileLines, List.cons_append]
    conv_lhs => rw [writers_eq_concat]
    rw [List.map_append]
    rfl
  · intro l hl
    rcases List.mem_cons.mp hl with rfl | hl
    · exact not_prefix_header _
    · obtain ⟨w, hw, rfl⟩ := List.mem_map.mp hl
      have hmem : w ∈ writers := List.mem_of_mem_dropLast hw
      have hlast : lastWriter ∈ writers := by rw [writers_eq_concat]; simp
      have hdist := nodup_writers
      rw [writers_eq_concat, List.map_append, List.nodup_append] at hdist
      have hne := hdist.2.2 w.key.toList (List.mem_map_of_mem hw) lastWriter.key.toList (by simp)
      exact not_prefix_entry (noSep_writers hlast) (noSep_writers hmem) fun h => hne h.symm

/-- A text found in a file is what stands behind the key, and has no line break. -/
theorem lookup_of_persisted_text {text : List Char} {m : Member} (hk : (m.get {}).kind = .text) {v : String}
    (h : persisted text m = some (.text v)) : lookup m.name.toList (getlines text) = some v.toList := by
  rw [persisted, hk] at h
  obtain ⟨t, ht, hv⟩ := Option.bind_eq_some_iff.mp h
  obtain rfl : String.ofList t = v := by simpa [parse, value] using hv
  rw [ht, String.toList_ofList]

theorem newline_not_mem_of_lookup {key text t : List Char} (h : lookup key (getlines text) = some t) :
    '\n' ∉ t := by
  have hfree := newline_not_mem_getlines (mem_of_lookup h)
  simp only [entry, List.mem_append, List.mem_cons, not_or] at hfree
  exact hfree.2.2

theorem newline_not_mem_fileLines_of_members {c : AutopilotManagerConfig}
    (h : ∀ m ∈ members, ∀ v, m.get c = .text v → '\n' ∉ v.toList) : ∀ l ∈ c.fileLines, '\n' ∉ l := by
  refine newline_not_mem_fileLines ?_
  intro w hw
  obtain ⟨m, hm, -, hget⟩ := exists_member hw c
  cases hx : w.get c with
  | text v =>
    rcases hget with hget | ⟨-, hget⟩
    · exact h m hm v (hget ▸ hx)
    · rw [hx] at hget; exact absurd hget (by simp)
  | flag v => exact newline_not_mem_render (x := .flag v) trivial
  | real v => exact (not_mem_numeral fun c hc => mem_toStringDouble hc).2
  | int v => exact newline_not_mem_render (x := .int v) trivial

/-- A file without the end of its last line does not have the value of the last member. -/
theorem length_le_of_persisted {c : AutopilotManagerConfig} {n : ℕ} (hall : ∀ l ∈ c.fileLines, '\n' ∉ l)
    (h : persisted (c.fileText.take n) lastMember = some (lastMember.get c).value) :
    c.fileText.length ≤ n + 1 := by
  by_contra hlt
  obtain ⟨ls, hls, hother⟩ := fileLines_eq_concat c
  have hmem := mem_of_lookup (lookup_of_persisted_text rfl h)
  rw [fileText, hls] at hmem hlt
  rw [hls] at hall
  rcases mem_getlines_take hall (by omega) hmem with ⟨l, hl, hp⟩ | hlen
  · exact hother l hl (List.IsPrefix.trans ⟨(lastWriter.get c).render, by simp [entry]; rfl⟩ hp)
  · exact absurd hlen (lt_irrefl _)

theorem getlines_fileText_take {c : AutopilotManagerConfig} {n : ℕ} (hall : ∀ l ∈ c.fileLines, '\n' ∉ l)
    (hlen : c.fileText.length ≤ n + 1) : getlines (c.fileText.take n) = c.fileLines := by
  obtain ⟨ls, hls, -⟩ := fileLines_eq_concat c
  rw [fileText, hls] at hlen ⊢
  rw [hls] at hall
  exact getlines_take_of_le hall (by simp [entry]) hlen

theorem exists_writer_of_switches {c : AutopilotManagerConfig} {m : Member} (hm : m ∈ members)
    (hsw : c.safeLandingEnabled = c.simpleCollisionAvoidEnabled) :
    ∃ w ∈ writers, w.key = m.name ∧ w.get c = m.get c := by
  obtain ⟨w, hw, hkey, hget | ⟨hm', hw'⟩⟩ := exists_writer hm c
  · exact ⟨w, hw, hkey, hget⟩
  · exact ⟨w, hw, hkey, by rw [hm', hw', hsw]⟩

/-- The line of the safe landing switch shows the other switch. -/
theorem switches_of_persisted {c : AutopilotManagerConfig} {text : List Char} (ht : getlines text = c.fileLines)
    (h : ∀ m ∈ members, persisted text m = some (m.get c).value) :
    c.safeLandingEnabled = c.simpleCollisionAvoidEnabled := by
  have hm : ⟨"safe_landing_enabled", fun c => .flag c.safeLandingEnabled⟩ ∈ members :=
    List.mem_of_getElem? (i := 19) rfl
  have hw : ⟨"safe_landing_enabled", fun c => .flag c.simpleCollisionAvoidEnabled⟩ ∈ writers :=
    List.mem_of_getElem? (i := 19) rfl
  have hline := h _ hm
  rw [persisted_of_fileLines ht hm hw rfl rfl] at hline
  have hflag : Cell.flag c.simpleCollisionAvoidEnabled = .flag c.safeLandingEnabled :=
    value_injective rfl (Option.some.inj hline)
  exact (Cell.flag.inj hflag).symm

theorem printable_of_stored {x : Cell} (hbreak : ∀ v, x = .text v → '\n' ∉ v.toList)
    (h : x.stored.value = x.value) : x.Printable := by
  cases x with
  | text v => exact hbreak v rfl
  | real v => exact Value.real.inj h
  | _ => trivial

/-- **What a file cut after `n` characters says**: it has the value of every member if and only if at most the last
line break is cut, the two switches are equal, and every member is printable. -/
theorem persisted_fileText_iff (c : AutopilotManagerConfig) (n : ℕ) :
    (∀ m ∈ members, persisted (c.fileText.take n) m = some (m.get c).value) ↔
      c.fileText.length ≤ n + 1 ∧ c.safeLandingEnabled = c.simpleCollisionAvoidEnabled ∧
        ∀ m ∈ members, (m.get c).Printable := by
  constructor
  · intro h
    have hbreak : ∀ m ∈ members, ∀ v, m.get c = .text v → '\n' ∉ v.toList := by
      intro m hm v hv
      have hk : (m.get {}).kind = .text := by rw [kind_get hm {} c, hv]; rfl
      exact newline_not_mem_of_lookup (lookup_of_persisted_text hk (by rw [h m hm, hv]; rfl))
    have hall := newline_not_mem_fileLines_of_members hbreak
    have hlen := length_le_of_persisted hall (h lastMember lastMember_mem)
    have hlines := getlines_fileText_take hall hlen
    have hsw := switches_of_persisted hlines h
    refine ⟨hlen, hsw, ?_⟩
    intro m hm
    obtain ⟨w, hw, hkey, hget⟩ := exists_writer_of_switches hm hsw
    have hline := h m hm
    rw [persisted_of_fileLines hlines hm hw hkey (by rw [hget]), hget] at hline
    exact printable_of_stored (hbreak m hm) (Option.some.inj hline)
  · rintro ⟨hlen, hsw, hprint⟩ m hm
    have hbreak : ∀ m ∈ members, ∀ v, m.get c = .text v → '\n' ∉ v.toList := by
      intro m hm v hv
      have hp := hprint m hm
      rw [hv] at hp
      exact hp
    have hlines := getlines_fileText_take (newline_not_mem_fileLines_of_members hbreak) hlen
    obtain ⟨w, hw, hkey, hget⟩ := exists_writer_of_switches hm hsw
    rw [persisted_of_fileLines hlines hm hw hkey (by rw [hget]), hget, stored_eq_self (hprint m hm)]

end AutopilotManagerConfig

end AutopilotManager
