import AutopilotManager.Config.File

/-!
# Config.RoundTrip — reading back a written configuration

What `InitFromFile` makes of a file `WriteToFile` has written.  Every member comes back except
`safe_landing_enabled`, behind whose key the printing list has `simple_collision_avoid_enabled`.
-/

namespace AutopilotManager

open Lib

namespace Lib.Double

/-- A finite multiple of `10⁻⁶`. -/
def IsMillionths : Double → Prop
  | fin q => ∃ k : ℤ, q.1 = k / 10 ^ 6
  | _ => False

instance : DecidablePred IsMillionths
  | nan => .isFalse id
  | inf _ => .isFalse id
  | fin q => decidable_of_iff ((q.1 * 10 ^ 6).den = 1) <| by
      rw [Rat.den_eq_one_iff, IsMillionths]
      constructor
      · intro h
        exact ⟨_, by rw [h, mul_div_cancel_right₀ _ (by norm_num)]⟩
      · rintro ⟨k, hk⟩
        have hnum : q.1 * 10 ^ 6 = (k : ℚ) := by rw [hk, div_mul_cancel₀ _ (by norm_num)]
        rw [hnum, Rat.num_intCast]

/-- A multiple of `10⁻⁶` is printed exactly. -/
theorem sixDecimals_of_isMillionths {d : Double} (h : d.IsMillionths) : d.sixDecimals = d := by
  cases d with
  | nan => exact h.elim
  | inf s => exact h.elim
  | fin q =>
    obtain ⟨k, hk⟩ := h
    have habs : |q.1| * 10 ^ 6 = ((|k| : ℤ) : ℚ) := by
      rw [hk, abs_div, abs_of_pos (by norm_num : (0 : ℚ) < 10 ^ 6), div_mul_cancel₀ _ (by norm_num), Int.cast_abs]
    have hcast : (millionths q.1 : ℚ) / 10 ^ 6 = |q.1| := by
      have hnat : (millionths q.1 : ℤ) = |k| := by
        rw [millionths, habs, roundHalfEven_intCast, Int.toNat_of_nonneg (abs_nonneg k)]
      rw [eq_comm, eq_div_iff (by norm_num), habs, ← hnat]
      push_cast; rfl
    rw [sixDecimals, hcast]
    split_ifs with hneg
    · rw [abs_of_neg hneg, neg_neg, ofRat_val]
    · rw [abs_of_nonneg (not_lt.mp hneg), ofRat_val]

end Lib.Double

/-! ### One value -/

namespace Cell

/-- The value that comes back: doubles keep six decimals. -/
def stored : Cell → Cell
  | real v => real v.sixDecimals
  | x => x

/-- **A rendered value is parsed back.** -/
theorem parse_render (x : Cell) : parse x.kind x.render = .ok x.stored := by
  cases x with
  | flag v =>
    have hlt : v.toNat < 2 ^ 8 := v.toNat_lt
    have hv : (Int32.ofInt v.toNat).toUInt32.toUInt8 = v := by
      rw [Int32.ofInt_eq_ofNat]; simp
    simp only [parse, kind, render, stored]
    rw [stoi_toStringInt ⟨by omega, by omega⟩]
    exact congrArg (fun u => Except.ok (flag u)) hv
  | text v => simp [parse, kind, render, stored]
  | real v =>
    simp only [parse, kind, render, stored, stod_toStringDouble]
    rfl
  | int v =>
    simp only [parse, kind, render, stored]
    rw [stoi_toStringInt ⟨v.le_toInt, v.toInt_lt⟩]
    exact congrArg (fun i => Except.ok (int i)) (Int32.ofInt_toInt v)

/-- What may be written: texts without line break and key, and doubles that are exactly multiples of `10⁻⁶`.  One that
only reads back equal is `Legible`, which is all that the way back needs. -/
def Storable : Cell → Prop
  | text v => '\n' ∉ v.toList ∧ ∀ r ∈ readers, ¬ r.key.toList <:+: v.toList
  | real v => v.IsMillionths
  | _ => True

/-- A test for `Storable`: every key has an underscore. -/
def plain : Cell → Bool
  | text v => decide ('\n' ∉ v.toList ∧ '_' ∉ v.toList)
  | real v => decide v.IsMillionths
  | _ => true

theorem storable_of_plain {x : Cell} (h : x.plain) : x.Storable := by
  cases x with
  | text v =>
    obtain ⟨hbreak, hmark⟩ := of_decide_eq_true h
    exact ⟨hbreak, fun _ hr => AutopilotManagerConfig.not_infix_of_key (List.mem_map_of_mem hr) hmark⟩
  | real v =>
    have hv : v.IsMillionths := of_decide_eq_true h
    exact hv
  | _ => trivial

/-- What comes back from the line of `key`: a text without line break and other keys, a double with six decimals. -/
def Legible (key : String) : Cell → Prop
  | text v => '\n' ∉ v.toList ∧ ∀ r ∈ readers, r.key.toList <:+: v.toList → r.key = key
  | real v => v.sixDecimals = v
  | _ => True

instance (key : String) : DecidablePred (Legible key)
  | flag _ => .isTrue trivial
  | text v => inferInstanceAs
      (Decidable ('\n' ∉ v.toList ∧ ∀ r ∈ readers, r.key.toList <:+: v.toList → r.key = key))
  | real v => inferInstanceAs (Decidable (v.sixDecimals = v))
  | int _ => .isTrue trivial

theorem Storable.legible {x : Cell} (h : x.Storable) (key : String) : x.Legible key := by
  cases x with
  | text v => exact ⟨h.1, fun r hr hin => absurd hin (h.2 r hr)⟩
  | real v => exact Double.sixDecimals_of_isMillionths h
  | _ => trivial

theorem stored_of_legible {x : Cell} {key : String} (h : x.Legible key) : x.stored = x := by
  cases x with
  | real v => exact congrArg real h
  | _ => rfl

end Cell

namespace AutopilotManagerConfig

open Cell

theorem render_of_legible {x : Cell} {key : String} (h : x.Legible key) :
    '\n' ∉ x.render ∧ ∀ f ∈ fields, f.key <:+: x.render → f.key = key.toList := by
  have hnum : ∀ t : List Char, (∀ c ∈ t, c ∈ numeralChars) →
      '\n' ∉ t ∧ ∀ f ∈ fields, f.key <:+: t → f.key = key.toList :=
    fun t ht => ⟨(not_mem_numeral ht).2, fun f hf hin => absurd hin (not_infix_of_key hf (not_mem_numeral ht).1)⟩
  cases x with
  | flag v => exact hnum _ fun c hc => mem_toStringInt hc
  | text v =>
    refine ⟨h.1, ?_⟩
    rintro f hf hin
    obtain ⟨r, hr, rfl⟩ := List.mem_map.mp hf
    exact congrArg String.toList (h.2 r hr hin)
  | real v => exact hnum _ fun c hc => mem_toStringDouble hc
  | int v => exact hnum _ fun c hc => mem_toStringInt hc

/-! ### The whole file -/

/-- The keys of the file with the values printed behind them. -/
def entries (c : AutopilotManagerConfig) : List (Field AutopilotManagerConfig Thrown × List Char) :=
  (readers.zip writers).map fun p => (field p.1, (p.2.get c).render)

/-- The keys are printed in the order in which they are searched. -/
theorem key_eq {p : Reader × Writer} (hp : p ∈ readers.zip writers) : p.1.key = p.2.key := by
  have hall : (readers.zip writers).map (fun p => p.1.key) = (readers.zip writers).map fun p => p.2.key := by
    simp only [readers, writers, Reader.flag, Reader.text, Reader.real, Reader.int, List.zip_cons_cons,
      List.zip_nil_left, List.map_cons, List.map_nil]
  exact List.map_inj_left.mp hall p hp

/-- Each key is read into a member of the kind that is printed behind it. -/
theorem kind_eq {p : Reader × Writer} (hp : p ∈ readers.zip writers) (c : AutopilotManagerConfig) :
    (p.2.get c).kind = p.1.kind := by
  have hall : (readers.zip writers).map (fun p => (p.2.get c).kind) =
      (readers.zip writers).map fun p => p.1.kind := by
    simp only [readers, writers, Reader.flag, Reader.text, Reader.real, Reader.int, List.zip_cons_cons,
      List.zip_nil_left, List.map_cons, List.map_nil, kind]
  exact List.map_inj_left.mp hall p hp

theorem fileLines_eq (c : AutopilotManagerConfig) :
    c.fileLines = header :: c.entries.map fun e => entry e.1.key e.2 := by
  have hsnd : (readers.zip writers).map Prod.snd = writers := List.map_snd_zip (by decide)
  have hmap : writers.map (fun w => entry w.key.toList (w.get c).render) =
      c.entries.map fun e => entry e.1.key e.2 := by
    conv_lhs => rw [← hsnd]
    rw [entries, List.map_map, List.map_map]
    refine List.map_inj_left.mpr ?_
    intro p hp
    simp [field, key_eq hp]
  rw [fileLines, hmap]

/-- Reading the entries puts every value into its member. -/
theorem assign_entries {ps : List (Reader × Writer)} {c : AutopilotManagerConfig}
    (hkind : ∀ p ∈ ps, (p.2.get c).kind = p.1.kind) (o : AutopilotManagerConfig) :
    (ps.map fun p => (field p.1, (p.2.get c).render)).foldlM (fun s e => e.1.assign e.2 s) o =
      Except.ok (ps.foldl (fun s p => p.1.put (p.2.get c).stored s) o) := by
  induction ps generalizing o with
  | nil => rfl
  | cons p ps ih =>
    have hp : (field p.1).assign (p.2.get c).render o = .ok (p.1.put (p.2.get c).stored o) := by
      simp only [field, ← hkind p (by simp), parse_render]
    rw [List.map_cons, List.foldlM_cons, hp]
    exact ih (fun q hq => hkind q (List.mem_cons_of_mem _ hq)) _

/-- What comes back: the line of `safe_landing_enabled` shows another member. -/
def readBack (c : AutopilotManagerConfig) : AutopilotManagerConfig :=
  { c with safeLandingEnabled := c.simpleCollisionAvoidEnabled }

theorem readBack_eq_self {c : AutopilotManagerConfig} :
    c.readBack = c ↔ c.safeLandingEnabled = c.simpleCollisionAvoidEnabled := by
  constructor
  · intro h
    exact (congrArg safeLandingEnabled h).symm
  · intro h
    exact congrArg (fun v => { c with safeLandingEnabled := v }) h.symm

/-- Putting all printed values into any object. -/
theorem put_entries (c o : AutopilotManagerConfig) :
    (readers.zip writers).foldl (fun s p => p.1.put (p.2.get c) s) o = c.readBack := by
  simp only [readBack, readers, writers, Reader.flag, Reader.text, Reader.real, Reader.int, List.zip_cons_cons,
    List.zip_nil_left, List.foldl_cons, List.foldl_nil]

/-- A configuration whose members may be written. -/
def Storable (c : AutopilotManagerConfig) : Prop := ∀ w ∈ writers, (w.get c).Storable

/-- A configuration whose lines are read as they are printed. -/
def Legible (c : AutopilotManagerConfig) : Prop := ∀ w ∈ writers, (w.get c).Legible w.key

instance (c : AutopilotManagerConfig) : Decidable c.Legible := inferInstanceAs (Decidable (∀ w ∈ writers, _))

theorem Storable.legible {c : AutopilotManagerConfig} (hc : c.Storable) : c.Legible :=
  fun w hw => (hc w hw).legible w.key

theorem stored_entries {c : AutopilotManagerConfig} (hc : c.Legible) (o : AutopilotManagerConfig) :
    (readers.zip writers).foldl (fun s p => p.1.put (p.2.get c).stored s) o =
      (readers.zip writers).foldl (fun s p => p.1.put (p.2.get c) s) o := by
  refine List.foldl_ext _ _ _ ?_
  intro s p hp
  rw [stored_of_legible (hc p.2 (List.of_mem_zip hp).2)]

theorem newline_not_mem_fileLines {c : AutopilotManagerConfig} (hc : ∀ w ∈ writers, '\n' ∉ (w.get c).render) :
    ∀ l ∈ c.fileLines, '\n' ∉ l := by
  intro l hl
  rw [fileLines_eq] at hl
  rcases List.mem_cons.mp hl with rfl | hl
  · decide
  · obtain ⟨e, he, rfl⟩ := List.mem_map.mp hl
    obtain ⟨p, hp, rfl⟩ := List.mem_map.mp he
    obtain ⟨hr, hw⟩ := List.of_mem_zip hp
    have hkey := newline_not_mem_key (List.mem_map_of_mem (f := field) hr)
    simp only [entry, List.mem_append, List.mem_cons, not_or]
    exact ⟨hkey, by decide, hc p.2 hw⟩

/-- **Reading the lines of a legible configuration into any object.** -/
theorem readLines_fileLines {c : AutopilotManagerConfig} (hc : c.Legible) (o : AutopilotManagerConfig) :
    readLines fields c.fileLines o = .ok c.readBack := by
  have hheader : readLine fields header o = .ok o :=
    readLine_of_not_contains (fun f hf => not_infix_of_key hf underscore_not_mem_header) o
  have hes : ∀ e ∈ c.entries, e.1 ∈ fields ∧ ∀ g ∈ fields, g.key <:+: e.2 → g.key = e.1.key := by
    intro e he
    obtain ⟨p, hp, rfl⟩ := List.mem_map.mp he
    obtain ⟨hr, hw⟩ := List.of_mem_zip hp
    refine ⟨List.mem_map_of_mem hr, ?_⟩
    intro g hg hin
    rw [(render_of_legible (hc p.2 hw)).2 g hg hin, ← key_eq hp, field]
  have hrest := readLines_entries separate_fields hes o
  rw [entries, assign_entries (fun p hp => kind_eq hp c), stored_entries hc, put_entries] at hrest
  rw [fileLines_eq, readLines, List.foldlM_cons, hheader]
  exact hrest

theorem getlines_fileText {c : AutopilotManagerConfig} (hc : c.Legible) : getlines c.fileText = c.fileLines :=
  getlines_putlines (newline_not_mem_fileLines fun w hw => (render_of_legible (hc w hw)).1)

end AutopilotManagerConfig

/-- The file system takes the whole text of `c`. -/
structure Disk.Takes (disk : Disk) (c : AutopilotManagerConfig) : Prop where
  opens : disk.opens = true
  room : c.fileText.length ≤ disk.room
  renames : disk.renames = true

/-- A file system with just the room for the text of `c`. -/
def Disk.fitting (c : AutopilotManagerConfig) : Disk := ⟨true, c.fileText.length, true⟩

theorem Disk.takes_fitting (c : AutopilotManagerConfig) : (Disk.fitting c).Takes c := ⟨rfl, le_rfl, rfl⟩

namespace AutopilotManagerConfig

theorem writeToFile_of_takes {c : AutopilotManagerConfig} {disk : Disk} (hd : disk.Takes c) (configPath : String)
    (files : Files) : (c.writeToFile configPath disk files).2 configPath = some c.fileText := by
  rw [writeToFile_configPath, if_pos ⟨hd.opens, hd.renames⟩, List.take_of_length_le hd.room]

theorem initFromFile_writeToFile {c : AutopilotManagerConfig} (hc : c.Legible) {disk : Disk} (hd : disk.Takes c)
    (configPath : String) (files : Files) (o : AutopilotManagerConfig) :
    initFromFile configPath (c.writeToFile configPath disk files).2 o = .ok (true, c.readBack) := by
  rw [initFromFile_of_some (writeToFile_of_takes hd configPath files), getlines_fileText hc,
    readLines_fileLines hc]
  rfl

/-- **The file round trip.**  Written to a file and read into any object, a storable configuration comes back
equal if and only if its two switches for safe landing and for collision avoidance are equal. -/
theorem round_trip_iff {c : AutopilotManagerConfig} (hc : c.Storable) {disk : Disk} (hd : disk.Takes c)
    (configPath : String) (files : Files) (o : AutopilotManagerConfig) :
    initFromFile configPath (c.writeToFile configPath disk files).2 o = .ok (true, c) ↔
      c.safeLandingEnabled = c.simpleCollisionAvoidEnabled := by
  rw [initFromFile_writeToFile hc.legible hd, ← readBack_eq_self]
  constructor
  · intro h
    exact (Prod.mk.inj (Except.ok.inj h)).2
  · intro h
    rw [h]

/-- A configuration with both switches on and members of all kinds. -/
def bothOn : AutopilotManagerConfig :=
  { scriptToCall := "land.sh", safeLandingEnabled := 1, cameraYaw := .ofRat (3 / 2),
    landingSiteSearchSpiralPoints := 12, simpleCollisionAvoidEnabled := 1 }

theorem storable_of_plain {c : AutopilotManagerConfig} (h : writers.all fun w => (w.get c).plain) :
    c.Storable :=
  fun w hw => Cell.storable_of_plain (List.all_eq_true.mp h w hw)

theorem storable_bothOn : bothOn.Storable := storable_of_plain (by decide +kernel)

theorem round_trip_bothOn :
    initFromFile "am.conf" (bothOn.writeToFile "am.conf" (.fitting bothOn) fun _ => none).2 {} =
      .ok (true, bothOn) :=
  (round_trip_iff storable_bothOn (Disk.takes_fitting bothOn) _ _ _).mpr rfl

/-- The default object with safe landing switched on comes back with safe landing off. -/
theorem round_trip_loses_safeLandingEnabled :
    ∃ c : AutopilotManagerConfig, c.Storable ∧ ∃ disk : Disk, disk.Takes c ∧
      initFromFile "am.conf" (c.writeToFile "am.conf" disk fun _ => none).2 {} ≠ .ok (true, c) := by
  have hc : ({ safeLandingEnabled := 1 } : AutopilotManagerConfig).Storable :=
    storable_of_plain (by decide +kernel)
  refine ⟨_, hc, _, Disk.takes_fitting _, ?_⟩
  rw [initFromFile_writeToFile hc.legible (Disk.takes_fitting _)]
  intro h
  exact absurd (readBack_eq_self.mp (Prod.mk.inj (Except.ok.inj h)).2) (by decide)

end AutopilotManagerConfig

end AutopilotManager
