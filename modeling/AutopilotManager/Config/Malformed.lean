import AutopilotManager.Config.Isolation
import Mathlib.Data.List.Nodup

/-!
# Config.Malformed — configuration files with bad numbers

`InitFromFile` gives the text behind the `=` to `std::stoi` and `std::stod` as it is.  Their exceptions are caught
nowhere, they stop at the first character that is not of the number, and an `int` for a flag loses its high bytes.
What remains is the exact class of files that are loaded as a reader of the file would expect.
-/

namespace AutopilotManager

open Lib

/-! ### Numbers on a line -/

namespace Cell

/-- The text starts, behind white space, with a value of the type's range. -/
def Starts (t : List Char) : Cell → Prop
  | flag v => ∃ i, stoi t = .ok i ∧ i.toInt = v.toNat
  | text v => t = v.toList
  | real v => stod t = .ok v
  | int v => stoi t = .ok v

/-- The text holds this number and nothing else but white space; `inf` and `nan` are no numbers. -/
def Spells (t : List Char) : Cell → Prop
  | flag v => Starts t (flag v) ∧ ∀ c ∈ stoiRest t, isSpace c
  | text _ => False
  | real (.fin q) => Starts t (real (.fin q)) ∧ ∀ c ∈ stodRest t, isSpace c
  | real _ => False
  | int v => Starts t (int v) ∧ ∀ c ∈ stoiRest t, isSpace c

theorem Spells.starts {t : List Char} {x : Cell} (h : x.Spells t) : x.Starts t := by
  cases x with
  | flag v => exact h.1
  | text v => exact h.elim
  | int v => exact h.1
  | real v =>
    cases v with
    | nan => exact h.elim
    | inf s => exact h.elim
    | fin q => exact h.1

/-- A value in the range of its type is the one `InitFromFile` takes. -/
theorem Starts.parse_eq {t : List Char} {x : Cell} (h : x.Starts t) : parse x.kind t = .ok x := by
  cases x with
  | flag v =>
    obtain ⟨i, hi, hv⟩ := h
    have hlow : i.toUInt32.toUInt8 = v := by
      rw [← Int32.ofInt_toInt i, hv, Int32.ofInt_eq_ofNat]
      simp
    simp only [parse, kind, hi]
    exact congrArg (fun u => Except.ok (flag u)) hlow
  | text v =>
    have ht : t = v.toList := h
    simp only [parse, kind, ht, String.ofList_toList]
  | real v =>
    have hd : stod t = .ok v := h
    simp only [parse, kind, hd]
    rfl
  | int v =>
    have hi : stoi t = .ok v := h
    simp only [parse, kind, hi]
    rfl

/-- What `InitFromFile` takes is a value in the range of its type, unless a flag is wrapped. -/
theorem starts_of_parse {k : Kind} {t : List Char} {x : Cell} (h : parse k t = .ok x)
    (hflag : k = .flag → ∀ i, stoi t = .ok i → 0 ≤ i.toInt ∧ i.toInt < 256) :
    ∃ y : Cell, y.kind = k ∧ y.Starts t := by
  cases k with
  | flag =>
    change Except.map _ (stoi t) = _ at h
    cases hi : stoi t with
    | error e =>
      rw [hi] at h
      cases h
    | ok i =>
      obtain ⟨hlow, hhigh⟩ := hflag rfl i hi
      refine ⟨.flag (UInt8.ofNat i.toInt.toNat), rfl, i, hi, ?_⟩
      rw [UInt8.toNat_ofNat_of_lt' (by change i.toInt.toNat < 256; omega)]
      omega
  | text => exact ⟨.text (String.ofList t), rfl, String.toList_ofList.symm⟩
  | real =>
    change Except.map _ (stod t) = _ at h
    cases hd : stod t with
    | error e =>
      rw [hd] at h
      cases h
    | ok d => exact ⟨.real d, rfl, hd⟩
  | int =>
    change Except.map _ (stoi t) = _ at h
    cases hi : stoi t with
    | error e =>
      rw [hi] at h
      cases h
    | ok i => exact ⟨.int i, rfl, hi⟩

/-- The printed form of a number holds it as it comes back. -/
theorem spells_render {x : Cell} (htext : x.kind ≠ .text) (hfin : ∀ v, x = .real v → ∃ q, v = .fin q) :
    x.stored.Spells x.render := by
  have hblank : ∀ t : List Char, t = [] → ∀ c ∈ t, isSpace c := by
    rintro t rfl c hc
    exact absurd hc List.not_mem_nil
  cases x with
  | flag v =>
    have hlt : v.toNat < 2 ^ 8 := v.toNat_lt
    have hstoi := stoi_toStringInt (i := v.toNat) ⟨by omega, by omega⟩
    refine ⟨⟨_, hstoi, Int32.toInt_ofInt_of_le (by omega) (by omega)⟩, hblank _ (stoiRest_toStringInt _)⟩
  | text v => exact absurd rfl htext
  | int v =>
    have hstoi := stoi_toStringInt (i := v.toInt) ⟨v.le_toInt, v.toInt_lt⟩
    rw [Int32.ofInt_toInt] at hstoi
    exact ⟨hstoi, hblank _ (stoiRest_toStringInt _)⟩
  | real v =>
    obtain ⟨q, rfl⟩ := hfin v rfl
    have hstod := stod_toStringDouble (.fin q)
    obtain ⟨q', hq'⟩ := Double.sixDecimals_fin q
    rw [hq'] at hstod
    change Spells _ (real (Double.sixDecimals (.fin q)))
    rw [hq']
    exact ⟨hstod, hblank _ (stodRest_toStringDouble q.1)⟩

end Cell

namespace AutopilotManagerConfig

open Cell

/-! ### Files -/

/-- The register of a member and the test in its place. -/
def register (p : Member × Reader) : Register AutopilotManagerConfig Cell StdException :=
  ⟨p.2.key.toList, parse p.2.kind, p.1.get, p.2.put⟩

theorem register_mem {p : Member × Reader} (hp : p ∈ members.zip readers) : register p ∈ registers :=
  List.mem_map_of_mem hp

/-- What a loaded object has from the lines of the file. -/
structure Loaded (lines : List (List Char)) (c c' : AutopilotManagerConfig) : Prop where
  /-- A numeric member is taken from a line that holds a number of its type, if a line mentions it. -/
  taken : ∀ p ∈ members.zip readers, p.2.kind ≠ .text →
    match (register p).lastLine lines with
    | some line => (p.1.get c').Spells (afterFirst '=' line)
    | none => p.1.get c' = p.1.get c
  /-- No integer for a flag is wrapped. -/
  unwrapped : ∀ p ∈ members.zip readers, p.2.kind = .flag → ∀ line ∈ lines, contains line p.2.key.toList →
    ∀ i, stoi (afterFirst '=' line) = .ok i → 0 ≤ i.toInt ∧ i.toInt < 256

/-- How a call of `InitFromFile` should end: not by an exception, with `false` and the object as it was, or with
`true` and an object loaded from the file. -/
def Reported (configPath : String) (files : Files) (c : AutopilotManagerConfig) : Prop :=
  match initFromFile configPath files c with
  | .error _ => False
  | .ok (false, c') => c' = c
  | .ok (true, c') => ∃ text, files configPath = some text ∧ Loaded (getlines text) c c'

/-- Each line that mentions a numeric member starts behind the `=` with a number of the member's type, and the last
such line has nothing else there but white space. -/
structure WellNumbered (lines : List (List Char)) : Prop where
  starts : ∀ p ∈ members.zip readers, p.2.kind ≠ .text → ∀ line ∈ lines, contains line p.2.key.toList →
    ∃ x : Cell, x.kind = p.2.kind ∧ x.Starts (afterFirst '=' line)
  whole : ∀ p ∈ members.zip readers, p.2.kind ≠ .text → ∀ line ∈ (register p).lastLine lines,
    ∃ x : Cell, x.kind = p.2.kind ∧ x.Spells (afterFirst '=' line)

variable {lines : List (List Char)} {c c' : AutopilotManagerConfig}

/-- No line of a well-numbered file throws. -/
theorem WellNumbered.legible (h : WellNumbered lines) : ∀ line ∈ lines, ∀ r ∈ registers, r.Legible line := by
  intro line hline r hr hin
  obtain ⟨p, hp, rfl⟩ := List.mem_map.mp hr
  by_cases htext : p.2.kind = .text
  · exact ⟨.text (String.ofList (afterFirst '=' line)), by simp only [htext, parse]⟩
  · obtain ⟨x, hkind, hx⟩ := h.starts p hp htext line hline hin
    exact ⟨x, hkind ▸ hx.parse_eq⟩

/-- What the loader leaves of legible lines. -/
theorem holds_register (h : ∀ line ∈ lines, ∀ r ∈ registers, r.Legible line) {p : Member × Reader}
    (hp : p ∈ members.zip readers) (c : AutopilotManagerConfig) :
    (register p).Holds lines c (p.1.get (lines.foldl (fun s line => assignLine registers line s) c)) :=
  holds_assignLines independent_registers (register_mem hp) (fun line hline => h line hline _ (register_mem hp)) c

theorem loaded_of_wellNumbered (h : WellNumbered lines) (c : AutopilotManagerConfig) :
    Loaded lines c (lines.foldl (fun s line => assignLine registers line s) c) where
  taken p hp htext := by
    have hholds := holds_register h.legible hp c
    unfold Register.Holds at hholds
    cases hlast : (register p).lastLine lines with
    | none =>
      rw [hlast] at hholds
      exact hholds.symm
    | some line =>
      rw [hlast] at hholds
      obtain ⟨x, hkind, hx⟩ := h.whole p hp htext line hlast
      have hparse : parse p.2.kind (afterFirst '=' line) = .ok x := hkind ▸ hx.starts.parse_eq
      rw [Except.ok.inj (hholds.symm.trans hparse)]
      exact hx
  unwrapped p hp hflag line hline hin i hi := by
    obtain ⟨x, hkind, hx⟩ := h.starts p hp (by rw [hflag]; decide) line hline hin
    rw [hflag] at hkind
    cases x with
    | flag v =>
      obtain ⟨i', hi', hv⟩ := hx
      have hlt : v.toNat < 2 ^ 8 := v.toNat_lt
      rw [Except.ok.inj (hi.symm.trans hi')]
      omega
    | text v => cases hkind
    | real v => cases hkind
    | int v => cases hkind

theorem wellNumbered_of_loaded (hlegible : ∀ line ∈ lines, ∀ r ∈ registers, r.Legible line)
    (h : Loaded lines c (lines.foldl (fun s line => assignLine registers line s) c)) : WellNumbered lines where
  starts p hp htext line hline hin := by
    obtain ⟨x, hx⟩ := hlegible line hline _ (register_mem hp) hin
    exact starts_of_parse hx fun hflag i hi => h.unwrapped p hp hflag line hline hin i hi
  whole p hp htext line hline := by
    have hholds := holds_register hlegible hp c
    have htaken := h.taken p hp htext
    have hlast : (register p).lastLine lines = some line := hline
    unfold Register.Holds at hholds
    rw [hlast] at hholds htaken
    exact ⟨_, kind_of_parse hholds, htaken⟩

/-- A line of a written file mentions a numeric member only with its number. -/
theorem spells_of_mention (hlegible : ∀ w ∈ writers, (w.get c).Legible w.key)
    (hfin : ∀ w ∈ writers, ∀ v, w.get c = .real v → ∃ q, v = .fin q) {r : Reader} (hr : r ∈ readers)
    (htext : r.kind ≠ .text) {line : List Char} (hline : line ∈ c.fileLines) (hin : contains line r.key.toList) :
    ∃ x : Cell, x.kind = r.kind ∧ x.Spells (afterFirst '=' line) := by
  have hfield : field r ∈ fields := List.mem_map_of_mem hr
  have hin : (field r).key <:+: line := of_decide_eq_true hin
  rw [fileLines_eq] at hline
  rcases List.mem_cons.mp hline with rfl | hline
  · exact absurd hin (not_infix_of_key hfield underscore_not_mem_header)
  · obtain ⟨e, he, rfl⟩ := List.mem_map.mp hline
    obtain ⟨p, hp, rfl⟩ := List.mem_map.mp he
    obtain ⟨hreader, hwriter⟩ := List.of_mem_zip hp
    have hown : field p.1 ∈ fields := List.mem_map_of_mem hreader
    have hkey : (field r).key = (field p.1).key := by
      rcases (infix_append_sep (separate_fields.noSep _ hfield)).mp hin with hin | hin
      · exact separate_fields.eq_of_infix hfield hown hin
      · have hrender := (render_of_legible (hlegible p.2 hwriter)).2 _ hfield hin
        rw [hrender, ← key_eq hp]
        rfl
    have hreader : p.1 = r := List.inj_on_of_nodup_map nodup_readers hreader hr hkey.symm
    have hkind : (p.2.get c).kind = r.kind := (kind_eq hp c).trans (congrArg Reader.kind hreader)
    rw [entry, afterFirst_append (separate_fields.noSep _ hown)]
    refine ⟨(p.2.get c).stored, by rw [stored_of_legible (hlegible p.2 hwriter), hkind], ?_⟩
    exact spells_render (by rw [hkind]; exact htext) (hfin p.2 hwriter)

/-- A written file is well numbered, if its doubles are finite and what it shows comes back. -/
theorem wellNumbered_fileLines (hlegible : ∀ w ∈ writers, (w.get c).Legible w.key)
    (hfin : ∀ w ∈ writers, ∀ v, w.get c = .real v → ∃ q, v = .fin q) : WellNumbered c.fileLines where
  starts p hp htext line hline hin := by
    obtain ⟨x, hkind, hx⟩ := spells_of_mention hlegible hfin (List.of_mem_zip hp).2 htext hline hin
    exact ⟨x, hkind, hx.starts⟩
  whole p hp htext line hline := by
    have hlast : c.fileLines.reverse.find? (fun line => contains line p.2.key.toList) = some line := hline
    have hmem : line ∈ c.fileLines := List.mem_reverse.mp (List.mem_of_find?_eq_some hlast)
    have hin := List.find?_some hlast
    exact spells_of_mention hlegible hfin (List.of_mem_zip hp).2 htext hmem hin

/-- **When a configuration file is loaded or reported**: exactly if it cannot be opened or all its numbers are in order.
An exception, a wrapped flag or a half-read number comes with any other file. -/
theorem initFromFile_reported_iff (configPath : String) (files : Files) (c : AutopilotManagerConfig) :
    Reported configPath files c ↔ ∀ text, files configPath = some text → WellNumbered (getlines text) := by
  unfold Reported
  cases hfile : files configPath with
  | none => simp [initFromFile, hfile]
  | some text =>
    rw [initFromFile_of_some hfile, fields_eq]
    by_cases hlegible : ∀ line ∈ getlines text, ∀ r ∈ registers, r.Legible line
    · rw [readLines_of_legible hlegible]
      constructor
      · rintro ⟨text', htext', hloaded⟩
        obtain rfl := Option.some.inj htext'
        rintro text' htext'
        obtain rfl := Option.some.inj htext'
        exact wellNumbered_of_loaded hlegible hloaded
      · intro h
        exact ⟨text, rfl, loaded_of_wellNumbered (h text rfl) c⟩
    · constructor
      · intro h
        obtain ⟨line, hline, hfail⟩ := not_forall₂.mp hlegible
        obtain ⟨r, hr, hfail⟩ := not_forall₂.mp hfail
        obtain ⟨e, he⟩ := readLines_of_not_legible hline hr hfail c
        rw [he] at h
        exact h.elim
      · intro h
        exact absurd (h text rfl).legible hlegible

/-- An empty value throws, and a value above 255 is wrapped. -/
theorem malformed_unreported :
    initFromFile "am.conf" (fun _ => some "camera_yaw=".toList) {} = .error (.invalidArgument, {}) ∧
    ¬ Reported "am.conf" (fun _ => some "camera_yaw=".toList) {} ∧
    initFromFile "am.conf" (fun _ => some "safe_landing_enabled=256".toList) { safeLandingEnabled := 1 } =
      .ok (true, { safeLandingEnabled := 0 }) ∧
    ¬ Reported "am.conf" (fun _ => some "safe_landing_enabled=256".toList) { safeLandingEnabled := 1 } := by
  have hthrow : initFromFile "am.conf" (fun _ => some "camera_yaw=".toList) {} = .error (.invalidArgument, {}) := by
    decide +kernel
  have hwrap : initFromFile "am.conf" (fun _ => some "safe_landing_enabled=256".toList) { safeLandingEnabled := 1 } =
      .ok (true, { safeLandingEnabled := 0 }) := by decide +kernel
  refine ⟨hthrow, fun h => ?_, hwrap, fun h => ?_⟩
  · unfold Reported at h
    rw [hthrow] at h
    exact h
  · unfold Reported at h
    rw [hwrap] at h
    obtain ⟨text, htext, hloaded⟩ := h
    obtain rfl := Option.some.inj htext
    have hmem : (⟨"safe_landing_enabled", fun c => .flag c.safeLandingEnabled⟩,
        .flag "safe_landing_enabled" fun v c => { c with safeLandingEnabled := v }) ∈ members.zip readers :=
      List.mem_of_getElem? (i := 19) rfl
    have hrange := hloaded.unwrapped _ hmem rfl "safe_landing_enabled=256".toList (by decide +kernel)
      (by decide +kernel) 256 (by decide +kernel)
    exact absurd hrange.2 (by decide)

end AutopilotManagerConfig

end AutopilotManager
