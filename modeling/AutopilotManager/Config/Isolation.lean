import AutopilotManager.Config.Persisted
import AutopilotManager.Lib.Registers

/-!
# Config.Isolation — which lines of a configuration file disturb each other

`InitFromFile` searches every key in the whole line, so a text value that contains the name of another member is also
read into that member.  A file of well-formed lines is read as it says exactly when the last such reading of each
member is harmless.
-/

namespace AutopilotManager

open Lib

namespace AutopilotManagerConfig

/-! ### Members as registers -/

/-- The members with the tests that read them. -/
def registers : List (Register AutopilotManagerConfig Cell StdException) :=
  (members.zip readers).map fun p => ⟨p.2.key.toList, parse p.2.kind, p.1.get, p.2.put⟩

theorem fields_eq : fields = registers.map Register.field := by
  have hsnd : (members.zip readers).map Prod.snd = readers := List.map_snd_zip (by decide)
  have hfield : ∀ p : Member × Reader,
      field p.2 = Register.field ⟨p.2.key.toList, parse p.2.kind, p.1.get, p.2.put⟩ := fun p => by
    refine congrArg (Lib.Field.mk _) (funext fun value => funext fun c => ?_)
    dsimp only
    cases parse p.2.kind value <;> rfl
  calc fields = ((members.zip readers).map Prod.snd).map field := by rw [hsnd, fields]
    _ = (members.zip readers).map (field ∘ Prod.snd) := List.map_map
    _ = registers.map Register.field := by
      rw [registers, List.map_map]
      exact List.map_congr_left fun p _ => hfield p

theorem separate_registers : Separate (registers.map Register.field) := fields_eq ▸ separate_fields

/-- The values of all members. -/
def cells (c : AutopilotManagerConfig) : List Cell := members.map fun m => m.get c

/-- Each test assigns the member in its place. -/
theorem cells_put {i : ℕ} {r : Reader} (hr : readers[i]? = some r) {x : Cell} (hx : x.kind = r.kind)
    (c : AutopilotManagerConfig) : (r.put x c).cells = c.cells.set i x := by
  have hall : readers.zipIdx.Forall fun p => ∀ x c, x.kind = p.1.kind → (p.1.put x c).cells = c.cells.set p.2 x := by
    simp only [readers, Reader.flag, Reader.text, Reader.real, Reader.int, List.zipIdx_cons, List.zipIdx_nil,
      List.Forall]
    repeat' apply And.intro
    all_goals
      intro x c hkind
      cases x <;> first | rfl | cases hkind
  have hmem : (r, i) ∈ readers.zipIdx := List.mem_zipIdx_iff_getElem?.mpr hr
  exact List.forall_iff_forall_mem.mp hall (r, i) hmem x c hx

theorem kind_of_parse {k : Kind} {t : List Char} {x : Cell} (h : parse k t = .ok x) : x.kind = k := by
  cases k with
  | text =>
    rw [← Except.ok.inj h]
    rfl
  | flag | int =>
    change Except.map _ (stoi t) = _ at h
    cases hi : stoi t with
    | error e =>
      rw [hi] at h
      cases h
    | ok i =>
      rw [hi] at h
      rw [← Except.ok.inj h]
      rfl
  | real =>
    change Except.map _ (stod t) = _ at h
    cases hd : stod t with
    | error e =>
      rw [hd] at h
      cases h
    | ok d =>
      rw [hd] at h
      rw [← Except.ok.inj h]
      rfl

theorem get_put {i j : ℕ} {m : Member} {r : Reader} (hm : members[i]? = some m) (hr : readers[j]? = some r)
    {t : List Char} {x : Cell} (hx : parse r.kind t = .ok x) (c : AutopilotManagerConfig) :
    m.get (r.put x c) = if i = j then x else m.get c := by
  have hcell : ∀ c : AutopilotManagerConfig, c.cells[i]? = some (m.get c) := fun c => by
    rw [cells, List.getElem?_map, hm]
    rfl
  have hput := hcell (r.put x c)
  have hlength : i < c.cells.length := (List.getElem?_eq_some_iff.mp (hcell c)).1
  rw [cells_put hr (kind_of_parse hx), List.getElem?_set, hcell c] at hput
  by_cases hij : i = j
  · subst hij
    rw [if_pos rfl, if_pos hlength] at hput
    rw [if_pos rfl]
    exact (Option.some.inj hput).symm
  · rw [if_neg (Ne.symm hij)] at hput
    rw [if_neg hij]
    exact (Option.some.inj hput).symm

/-- A register is a member with the test in the same place. -/
theorem exists_place {i : ℕ} {r : Register AutopilotManagerConfig Cell StdException} (hr : registers[i]? = some r) :
    ∃ m r', members[i]? = some m ∧ readers[i]? = some r' ∧
      r = ⟨r'.key.toList, parse r'.kind, m.get, r'.put⟩ := by
  rw [registers, List.getElem?_map, Option.map_eq_some_iff] at hr
  obtain ⟨⟨m, r'⟩, hzip, rfl⟩ := hr
  obtain ⟨hm, hr'⟩ := List.getElem?_zip_eq_some.mp hzip
  exact ⟨m, r', hm, hr', rfl⟩

theorem independent_registers : Independent registers where
  own r hr t x c hx := by
    obtain ⟨i, hi⟩ := List.getElem?_of_mem hr
    obtain ⟨m, r', hm, hr', rfl⟩ := exists_place hi
    exact (get_put hm hr' hx c).trans (if_pos rfl)
  apart := by
    refine List.pairwise_iff_getElem.mpr fun i j hi hj hij => ?_
    obtain ⟨m, r, hm, hr, hregister⟩ := exists_place (List.getElem?_eq_getElem hi)
    obtain ⟨m', r', hm', hr', hregister'⟩ := exists_place (List.getElem?_eq_getElem hj)
    rw [hregister, hregister']
    exact ⟨fun t x c hx => (get_put hm hr' hx c).trans (if_neg hij.ne),
      fun t x c hx => (get_put hm' hr hx c).trans (if_neg hij.ne')⟩

/-! ### Files -/

/-- **When a file of well-formed lines is read as it says**: every member has the value of its own line, or the one it
had, exactly when no member is disturbed by the text of another line. -/
theorem lines_isolated_iff {es : List (List Char × List Char)} (hes : WellFormed registers es) {configPath : String}
    {files : Files} {text : List Char} (hfile : files configPath = some text)
    (hlines : getlines text = es.map fun e => entry e.1 e.2) (c : AutopilotManagerConfig) :
    (∃ c', initFromFile configPath files c = .ok (true, c') ∧ ∀ r ∈ registers, r.get c' = r.intended es c) ↔
      ∀ r ∈ registers, r.Undisturbed es c := by
  rw [← readLines_intended_iff independent_registers separate_registers hes c, initFromFile_of_some hfile, hlines,
    fields_eq]
  constructor
  · rintro ⟨c', hread, hget⟩
    cases hok : readLines (registers.map Register.field) (es.map fun e => entry e.1 e.2) c with
    | error e =>
      rw [hok] at hread
      cases hread
    | ok c'' =>
      rw [hok] at hread
      obtain ⟨-, rfl⟩ := Prod.mk.inj (Except.ok.inj hread)
      exact ⟨c'', rfl, hget⟩
  · rintro ⟨c', hread, hget⟩
    exact ⟨c', by rw [hread]; rfl, hget⟩

/-- The text of a file of entries. -/
def textOf (es : List (List Char × List Char)) : List Char := putlines (es.map fun e => entry e.1 e.2)

/-- Two lines whose texts contain no key. -/
def plainEntries : List (List Char × List Char) :=
  [("script_to_call".toList, "land.sh".toList), ("api_call".toList, "ping".toList)]

theorem lines_isolated_plain : ∃ c', initFromFile "am.conf" (fun _ => some (textOf plainEntries)) {} = .ok (true, c') ∧
    ∀ r ∈ registers, r.get c' = r.intended plainEntries {} := by
  have hes : WellFormed registers plainEntries := ⟨by decide +kernel, by decide +kernel, by decide +kernel⟩
  have hlines : getlines (textOf plainEntries) = plainEntries.map fun e => entry e.1 e.2 := by decide +kernel
  refine (lines_isolated_iff hes rfl hlines {}).mpr fun r hr => undisturbed_of_apart hes hr (fun e he hin => ?_) {}
  have hkey : r.key ∈ readers.map fun r => r.key.toList := by
    obtain ⟨p, hp, rfl⟩ := List.mem_map.mp hr
    exact List.mem_map_of_mem (List.of_mem_zip hp).2
  have hmark : ∀ e ∈ plainEntries, '_' ∉ e.2 := by decide
  exact absurd (hin.subset (keyFacts_readers.underscore r.key hkey)) (hmark e he)

/-- The script is called with the name of another member. -/
def strayEntries : List (List Char × List Char) :=
  [("api_call".toList, "ping".toList), ("script_to_call".toList, "run.sh api_call".toList)]

/-- The text for the script is read into the other member too. -/
theorem lines_disturbed_stray : WellFormed registers strayEntries ∧
    initFromFile "am.conf" (fun _ => some (textOf strayEntries)) {} =
      .ok (true, { apiCall := "run.sh api_call", scriptToCall := "run.sh api_call" }) ∧
    ¬ ∃ c', initFromFile "am.conf" (fun _ => some (textOf strayEntries)) {} = .ok (true, c') ∧
      ∀ r ∈ registers, r.get c' = r.intended strayEntries {} := by
  have hread : initFromFile "am.conf" (fun _ => some (textOf strayEntries)) {} =
      .ok (true, { apiCall := "run.sh api_call", scriptToCall := "run.sh api_call" }) := by decide +kernel
  refine ⟨⟨by decide +kernel, by decide +kernel, by decide +kernel⟩, hread, ?_⟩
  rintro ⟨c', hc', hget⟩
  obtain ⟨-, rfl⟩ := Prod.mk.inj (Except.ok.inj (hread.symm.trans hc'))
  have hall : ¬ ∀ r ∈ registers, r.get { apiCall := "run.sh api_call", scriptToCall := "run.sh api_call" } =
      r.intended strayEntries {} := by decide +kernel
  exact hall hget

end AutopilotManagerConfig

end AutopilotManager
