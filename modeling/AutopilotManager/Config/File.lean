import AutopilotManager.Config.Basic
import AutopilotManager.Lib.KeyLines
import Mathlib.Logic.Function.Basic

/-!
# Config.File — `WriteToFile` and `InitFromFile`

The two file operations of the configuration object over a map of file contents.  The standard library reports
a bad number by an exception, which leaves `InitFromFile` in the middle of a line: the object read so far goes
with it.
-/

namespace AutopilotManager

open Lib

/-- The contents of the files that can be opened. -/
abbrev Files := String → Option (List Char)

/-- What the file system does during one `WriteToFile`: whether the temporary file opens, how many characters
reach it before writing stops, whether it can be renamed.  The source looks at the first and the last. -/
structure Disk where
  opens : Bool
  room : ℕ
  renames : Bool

namespace AutopilotManagerConfig

/-! ### Writing -/

def header : List Char := "[AutopilotManagerConfig]".toList

/-- The lines `WriteToFile` prints. -/
def fileLines (c : AutopilotManagerConfig) : List (List Char) :=
  header :: writers.map fun w => entry w.key.toList (w.get c).render

def fileText (c : AutopilotManagerConfig) : List Char := putlines c.fileLines

/-- `WriteToFile`: print to a temporary file, rename it to `configPath`. -/
def writeToFile (c : AutopilotManagerConfig) (configPath : String) (disk : Disk) (files : Files) :
    Bool × Files :=
  let tempPath := configPath ++ ".tmp"
  if disk.opens then
    -- the state of the stream is not tested after printing
    let files := Function.update files tempPath (some (c.fileText.take disk.room))
    if disk.renames then
      (true, Function.update (Function.update files configPath (files tempPath)) tempPath none)
    else (false, files)
  else (false, files)

/-! ### Reading -/

/-- What an exception out of `InitFromFile` leaves: its kind and the object assigned so far. -/
abbrev Thrown := StdException × AutopilotManagerConfig

/-- One test of `InitFromFile` as a key with its assignment. -/
def field (r : Reader) : Field AutopilotManagerConfig Thrown :=
  ⟨r.key.toList, fun value c =>
    match parse r.kind value with
    | .ok x => .ok (r.put x c)
    | .error e => .error (e, c)⟩

def fields : List (Field AutopilotManagerConfig Thrown) := readers.map field

/-- `InitFromFile` into the object `c`. -/
def initFromFile (configPath : String) (files : Files) (c : AutopilotManagerConfig) :
    Except Thrown (Bool × AutopilotManagerConfig) :=
  match files configPath with
  | none => .ok (false, c)
  | some text => (readLines fields (getlines text) c).map fun c => (true, c)

theorem initFromFile_of_some {configPath : String} {files : Files} {text : List Char}
    (h : files configPath = some text) (c : AutopilotManagerConfig) :
    initFromFile configPath files c = (readLines fields (getlines text) c).map fun c => (true, c) := by
  simp only [initFromFile, h]

/-! ### What a write leaves in the file system -/

theorem tempPath_ne (configPath : String) : configPath ++ ".tmp" ≠ configPath := by
  intro h
  have hlen := congrArg String.length h
  rw [String.length_append] at hlen
  have htmp : (".tmp" : String).length = 4 := by decide
  omega

/-- A write replaces the configuration file only by a rename. -/
theorem writeToFile_configPath (c : AutopilotManagerConfig) (configPath : String) (disk : Disk) (files : Files) :
    (c.writeToFile configPath disk files).2 configPath =
      if disk.opens ∧ disk.renames then some (c.fileText.take disk.room) else files configPath := by
  have hne := tempPath_ne configPath
  cases ho : disk.opens <;> cases hr : disk.renames <;>
    simp [writeToFile, ho, hr, Function.update_of_ne hne.symm]

/-- A write touches no file but the configuration file and its temporary file. -/
theorem writeToFile_other (c : AutopilotManagerConfig) {configPath path : String} (disk : Disk) (files : Files)
    (h : path ≠ configPath) (ht : path ≠ configPath ++ ".tmp") :
    (c.writeToFile configPath disk files).2 path = files path := by
  rw [writeToFile]
  split_ifs <;> simp [Function.update_of_ne h, Function.update_of_ne ht]

/-! ### The keys and the values of the file -/

/-- What reading relies on: a key has an underscore, no separator and no line break, and no key is found in
another. -/
structure KeyFacts (keys : List (List Char)) : Prop where
  underscore : ∀ k ∈ keys, '_' ∈ k
  noSep : ∀ k ∈ keys, '=' ∉ k
  noBreak : ∀ k ∈ keys, '\n' ∉ k
  apart : keys.Pairwise fun a b => ¬ a <:+: b ∧ ¬ b <:+: a

/-- A word that is found in another begins one of its ends. -/
theorem any_tails_of_infix {a b : List Char} (h : a <:+: b) : b.tails.any a.isPrefixOf := by
  obtain ⟨t, hprefix, hsuffix⟩ := List.infix_iff_prefix_suffix.mp h
  exact List.any_eq_true.mpr ⟨t, (List.mem_tails t b).mpr hsuffix, List.isPrefixOf_iff_prefix.mpr hprefix⟩

theorem keyFacts_readers : KeyFacts (readers.map fun r => r.key.toList) := by
  -- the search through the ends of a word is decided faster than `<:+:`
  have hapart : ∀ {keys : List (List Char)},
      (keys.Pairwise fun a b => ¬ b.tails.any a.isPrefixOf ∧ ¬ a.tails.any b.isPrefixOf) →
      keys.Pairwise fun a b => ¬ a <:+: b ∧ ¬ b <:+: a := fun h =>
    h.imp fun ⟨hfirst, hsecond⟩ => ⟨mt any_tails_of_infix hfirst, mt any_tails_of_infix hsecond⟩
  -- the characters of the keys are computed once, the rest is decided on them
  simp only [readers, Reader.flag, Reader.text, Reader.real, Reader.int, List.map_cons, List.map_nil,
    String.reduceToList]
  refine ⟨?_, ?_, ?_, hapart ?_⟩ <;> decide +kernel

theorem nodup_readers : (readers.map fun r => r.key.toList).Nodup := by
  refine keyFacts_readers.apart.imp ?_
  rintro a b h rfl
  exact h.1 (List.infix_refl _)

theorem mem_keys {f : Field AutopilotManagerConfig Thrown} (hf : f ∈ fields) :
    f.key ∈ readers.map fun r => r.key.toList := by
  obtain ⟨r, hr, rfl⟩ := List.mem_map.mp hf
  exact List.mem_map_of_mem hr

theorem separate_fields : Separate fields where
  noSep := fun _ hf => keyFacts_readers.noSep _ (mem_keys hf)
  apart := List.pairwise_map.mpr (List.pairwise_map.mp keyFacts_readers.apart)

theorem underscore_mem_key {f : Field AutopilotManagerConfig Thrown} (hf : f ∈ fields) : '_' ∈ f.key :=
  keyFacts_readers.underscore _ (mem_keys hf)

theorem newline_not_mem_key {f : Field AutopilotManagerConfig Thrown} (hf : f ∈ fields) : '\n' ∉ f.key :=
  keyFacts_readers.noBreak _ (mem_keys hf)

theorem not_infix_of_key {f : Field AutopilotManagerConfig Thrown} (hf : f ∈ fields) {t : List Char} (ht : '_' ∉ t) :
    ¬ f.key <:+: t := fun h => ht (h.subset (underscore_mem_key hf))

/-- The keys printed are the keys searched, in the same order. -/
theorem writers_key_eq : writers.map Writer.key = readers.map Reader.key := rfl

theorem underscore_not_mem_header : '_' ∉ header := by decide

/-- A rendered number has neither an underscore nor a line break. -/
theorem not_mem_numeral {t : List Char} (ht : ∀ c ∈ t, c ∈ numeralChars) : '_' ∉ t ∧ '\n' ∉ t := by
  constructor <;> intro h <;> exact absurd (ht _ h) (by decide)

end AutopilotManagerConfig

end AutopilotManager
