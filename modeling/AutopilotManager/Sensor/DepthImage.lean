import AutopilotManager.Landing.Health

/-!
# Sensor.DepthImage — the way of a depth image to the health check

`handle_incoming_depth_image` of the Sensor Manager, followed by `healthCheck` of the Landing Manager on what it has
stored.  Of the stamp of an image only the nanoseconds are handed over, so images that come at whole seconds look
old.
-/

namespace AutopilotManager

open Lib

/-- `builtin_interfaces/Time`. -/
structure Stamp where
  sec : Int32
  nanosec : UInt32
  deriving DecidableEq

def Stamp.lt (a b : Stamp) : Bool := a.sec < b.sec || (a.sec = b.sec && a.nanosec < b.nanosec)

inductive ImageEncoding
  | type16UC1
  | type32FC1
  | other (encoding : String)
  deriving DecidableEq

/-- A depth image with what its handling meets: how many points are left of it, and whether the transform of its stamp
is found. -/
structure ImageInput where
  stamp : Stamp
  encoding : ImageEncoding := .type32FC1
  pixels : ℕ := 1
  transformed : Bool := true

/-- The members of the Sensor Manager that the handler uses; a downsampler is made for one encoding. -/
structure SensorManager where
  imageDownsampler : Option ImageEncoding := none
  intrinsicsRh : ℕ
  intrinsicsRw : ℕ
  downsampledDepth : Option DepthImage := none
  deriving DecidableEq

namespace SensorManager

/-- `set_downsampler`. -/
def setDownsampler (i : ImageInput) (s : SensorManager) : SensorManager :=
  match s.imageDownsampler with
  | some _ => s
  | none =>
    match i.encoding with
    | .type16UC1 => { s with imageDownsampler := some .type16UC1 }
    | .type32FC1 => { s with imageDownsampler := some .type32FC1 }
    | .other _ => s

/-- What is stored of an image; `timestamp_ns` is `header.stamp.nanosec`. -/
def depthImage (i : ImageInput) : DepthImage := ⟨.ofNat i.stamp.nanosec.toNat, i.pixels⟩

/-- `handle_incoming_depth_image`. -/
def handleIncomingDepthImage (i : ImageInput) (s : SensorManager) : SensorManager :=
  let s := s.setDownsampler i
  if s.imageDownsampler = none then s
  else if s.intrinsicsRh = 0 ∨ s.intrinsicsRw = 0 then s
  else if !i.transformed then s
  else { s with downsampledDepth := some (depthImage i) }

/-- The image is stored. -/
def stores (i : ImageInput) (s : SensorManager) : Bool :=
  (s.setDownsampler i).imageDownsampler.isSome && s.intrinsicsRh ≠ 0 && s.intrinsicsRw ≠ 0 && i.transformed

theorem setDownsampler_intrinsics (i : ImageInput) (s : SensorManager) :
    (s.setDownsampler i).intrinsicsRh = s.intrinsicsRh ∧ (s.setDownsampler i).intrinsicsRw = s.intrinsicsRw := by
  unfold setDownsampler
  split
  · exact ⟨rfl, rfl⟩
  · split <;> exact ⟨rfl, rfl⟩

theorem downsampledDepth_of_stores {i : ImageInput} {s : SensorManager} (h : s.stores i) :
    (s.handleIncomingDepthImage i).downsampledDepth = some (depthImage i) := by
  obtain ⟨hrh, hrw⟩ := setDownsampler_intrinsics i s
  simp only [stores, Bool.and_eq_true, decide_eq_true_eq, Option.isSome_iff_ne_none] at h
  obtain ⟨⟨⟨hdownsampler, hrh0⟩, hrw0⟩, htransformed⟩ := h
  unfold handleIncomingDepthImage
  dsimp only
  rw [if_neg hdownsampler, if_neg (by rw [hrh, hrw]; exact not_or.mpr ⟨hrh0, hrw0⟩), if_neg (by simp [htransformed])]

end SensorManager

/-! ### The camera and the health check -/

/-- The two modules an image passes through. -/
structure DepthPath where
  sensor : SensorManager
  landing : LandingManager := {}

namespace DepthPath

open LandingManager SensorManager

/-- An image comes in, and one call of the health check sees what is stored. -/
def step (s : DepthPath) (i : ImageInput) : DepthPath :=
  let sensor := s.sensor.handleIncomingDepthImage i
  { sensor, landing := s.landing.healthCheck sensor.downsampledDepth }

/-- Every image is stored. -/
def Stores (s : DepthPath) (i : ImageInput) : Prop := s.sensor.stores i

instance : DecidableRel Stores := fun s i => inferInstanceAs (Decidable (s.sensor.stores i = true))

/-- How many images at the end had, one after the other, nanoseconds that are not above their predecessor's; the first
is compared with zero. -/
def staleImages (is : List ImageInput) : ℕ :=
  streak id (notLater (fun t prev => decide (t ≤ prev)) 0 (is.map fun i => i.stamp.nanosec))

/-- Images that are all stored are seen one by one. -/
theorem landing_run {s : DepthPath} {is : List ImageInput} (h : Meets step Stores s is) :
    (run step s is).landing = run check s.landing (is.map fun i => some (depthImage i)) := by
  induction is generalizing s with
  | nil => rfl
  | cons i is ih =>
    obtain ⟨hstores, hrest⟩ := h
    rw [run_cons, ih hrest, List.map_cons, run_cons]
    have hlanding : (step s i).landing = s.landing.healthCheck (s.sensor.handleIncomingDepthImage i).downsampledDepth :=
      rfl
    rw [hlanding, downsampledDepth_of_stores hstores]
    rfl

/-- The time handed over has the order of the nanoseconds. -/
theorem ofNat_nanosec_le_iff (t u : UInt32) : Int64.ofNat t.toNat ≤ Int64.ofNat u.toNat ↔ t ≤ u := by
  have ht := t.toNat_lt
  have hu := u.toNat_lt
  rw [Int64.le_iff_toInt_le, Int64.toInt_ofNat_of_lt (by omega), Int64.toInt_ofNat_of_lt (by omega),
    UInt32.le_iff_toNat_le]
  omega

theorem oldImages_map (is : List ImageInput) :
    oldImages (is.map fun i => some (depthImage i)) = staleImages is := by
  have htimes : timestamps (is.map fun i => some (depthImage i)) =
      (is.map fun i => i.stamp.nanosec).map fun t => Int64.ofNat t.toNat := by
    rw [timestamps, List.filterMap_map, List.map_map, ← List.filterMap_eq_map]
    rfl
  have hle : ∀ t u : UInt32, decide (Int64.ofNat t.toNat ≤ Int64.ofNat u.toNat) = decide (t ≤ u) := fun t u =>
    decide_eq_decide.mpr (ofNat_nanosec_le_iff t u)
  rw [oldImages, htimes]
  exact congrArg (streak id) (notLater_map (f := fun t : UInt32 => Int64.ofNat t.toNat) hle 0 _)

theorem staleImages_concat_le (is : List ImageInput) (i : ImageInput) :
    staleImages (is ++ [i]) ≤ staleImages is + 1 := by
  rw [staleImages, List.map_append, List.map_singleton, notLater_concat]
  exact streak_concat_le ..

/-- After stored images the flag tells whether the counter is over its limit. -/
theorem hasOldTimestamps_run {sensor : SensorManager} {is : List ImageInput}
    (h : Meets step Stores { sensor } is) :
    (run step { sensor } is).landing.healthStatus.hasOldTimestamps ↔
      Int16.ofNat 50 < Int16.ofNat (staleImages is) := by
  rw [landing_run h, (run_checked _).oldTimestamps, oldImages_map]

/-- **When a live camera is called stale**: no call reports old timestamps exactly when at no time the nanoseconds of
the last 51 images were each not above those of the image before, and the times handed over increase exactly when
the nanoseconds do. -/
theorem never_stale_iff (sensor : SensorManager) (is : List ImageInput) (h : Meets step Stores { sensor } is) :
    ((∀ js, js <+: is → ¬ (run step { sensor } js).landing.healthStatus.hasOldTimestamps) ↔
      ∀ js, js <+: is → staleImages js ≤ 50) ∧
    ((is.map fun i => (depthImage i).timestampNs).Pairwise (· < ·) ↔
      (is.map fun i => i.stamp.nanosec).Pairwise (· < ·)) := by
  refine ⟨⟨fun hnever js hjs => ?_, fun hshort js hjs => ?_⟩, ?_⟩
  · by_contra hlong
    obtain ⟨k, hk, hstale⟩ := exists_prefix_eq (r := staleImages) rfl staleImages_concat_le (n := 51)
      (by omega : 51 ≤ staleImages js)
    refine hnever k (hk.trans hjs) ?_
    rw [hasOldTimestamps_run (meets_prefixes h (hk.trans hjs)), hstale]
    decide
  · have hle := hshort js hjs
    rw [hasOldTimestamps_run (meets_prefixes h hjs), lt_ofNat_iff (by decide) (by omega)]
    omega
  · have hlt : ∀ i j : ImageInput,
        (depthImage i).timestampNs < (depthImage j).timestampNs ↔ i.stamp.nanosec < j.stamp.nanosec := fun i j => by
      rw [← Int64.not_le, ← UInt32.not_le, not_iff_not]
      exact ofNat_nanosec_le_iff ..
    rw [List.pairwise_map, List.pairwise_map]
    exact ⟨List.Pairwise.imp fun h => (hlt _ _).mp h, List.Pairwise.imp fun h => (hlt _ _).mpr h⟩

/-! ### A slow camera -/

/-- A Sensor Manager that knows the camera. -/
def knownCamera : SensorManager := { intrinsicsRh := 480, intrinsicsRw := 640 }

/-- An image every second, from second one on. -/
def everySecond (n : ℕ) : List ImageInput := (List.range' 1 n).map fun k => { stamp := ⟨.ofNat k, 0⟩ }

/-- Three images within one second. -/
def threeImages : List ImageInput :=
  [{ stamp := ⟨7, 100000000⟩ }, { stamp := ⟨7, 400000000⟩ }, { stamp := ⟨7, 700000000⟩ }]

theorem never_stale_three :
    (∀ js, js <+: threeImages → ¬ (run step { sensor := knownCamera } js).landing.healthStatus.hasOldTimestamps) ∧
      (threeImages.map fun i => (depthImage i).timestampNs).Pairwise (· < ·) := by
  have hstored : Meets step Stores { sensor := knownCamera } threeImages := by decide
  refine ⟨(never_stale_iff knownCamera threeImages hstored).1.mpr fun js hjs => ?_,
    (never_stale_iff knownCamera threeImages hstored).2.mpr (by decide)⟩
  have hstale := le_length rfl staleImages_concat_le js
  have hlength := hjs.length_le
  have hthree : threeImages.length = 3 := rfl
  omega

/-- A camera that sends an image every second, its stamps increasing, is called stale with the 51st. -/
theorem slow_camera_stale :
    (everySecond 51).Pairwise (fun i j => i.stamp.lt j.stamp) ∧
      Meets step Stores { sensor := knownCamera } (everySecond 51) ∧
      (run step { sensor := knownCamera } (everySecond 51)).landing.healthStatus.hasOldTimestamps := by
  refine ⟨by decide +kernel, by decide +kernel, by decide +kernel⟩

end DepthPath

end AutopilotManager
