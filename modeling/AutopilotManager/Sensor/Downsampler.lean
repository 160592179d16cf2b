import AutopilotManager.Collision.Distance
import AutopilotManager.Sensor.DepthImage

/-!
# Sensor.Downsampler — the downsampler and the images it is given

`set_downsampler`, `handle_incoming_camera_info` and `handle_incoming_depth_image` of the Sensor Manager with the
messages as they come.  The downsampler is created for the first image that has a known encoding and is never
created again, so it is handed images it was not made for as soon as the camera changes its format.
-/

namespace AutopilotManager

open Lib

/-- `sensor_msgs/Image`. -/
structure ImageMsg where
  stamp : Stamp := ⟨0, 0⟩
  width : UInt32
  height : UInt32
  encoding : ImageEncoding
  data : List UInt8 := []

/-- `sensor_msgs/CameraInfo`. -/
structure CameraInfo where
  k : Fin 9 → Double
  width : UInt32
  height : UInt32

/-- The pixels an instance of the downsampler reads: `getInstance<uint16_t>` or `getInstance<float>`. -/
inductive PixelType
  | uint16
  | float
  deriving DecidableEq

/-- The encoding whose buffers hold such pixels. -/
def PixelType.encoding : PixelType → ImageEncoding
  | uint16 => .type16UC1
  | float => .type32FC1

/-- An `ImageDownsampler`: what it was created for. -/
structure ImageDownsampler where
  pixelType : PixelType
  width : UInt32
  height : UInt32
  blockSizeX : Int16
  blockSizeY : Int16
  minDepthToUseM : Double
  deriving DecidableEq

/-- `geometry_msgs/TransformStamped`, as the transform buffer answers. -/
structure StampedTransform where
  translation : Double × Double × Double
  rotation : Double × Double × Double × Double

/-- `ExtendedDownsampledImageF`. -/
structure ExtendedDownsampledImage (R : Type) where
  depthPixelArray : List DepthPixel
  intrinsics : R
  position : Double × Double × Double
  orientation : Double × Double × Double × Double
  timestampNs : Int64

/-- What the handlers call of the downsampler library, over its type of rectified intrinsics, and how an orientation
turns a vector. -/
structure DownsamplerLibrary (R : Type) where
  rectifiedIntrinsics : (fx fy cx cy : Double) → (width height : UInt32) → R
  rh : R → UInt32
  rw : R → UInt32
  inverseFocalLength : R → Double × Double
  principalPoint : R → Double × Double
  adaptIntrinsics : ImageDownsampler → (raw adapted : R) → R
  downsample : ImageDownsampler → List UInt8 → List DepthPixel
  rotate : Double × Double × Double × Double → Double × Double × Double → Double × Double × Double

/-- The members of the Sensor Manager that its camera callbacks use, with the calls of `downsample` they have made,
oldest first. -/
structure DepthCamera (R : Type) where
  imageDownsampler : Option ImageDownsampler := none
  intrinsics : R
  inverseFocalLength : Double × Double := (0, 0)
  principalPoint : Double × Double := (0, 0)
  downsamplingBlockSize : Int16 := 4
  downsampledDepth : Option (ExtendedDownsampledImage R) := none
  downsampleCalls : List (ImageDownsampler × ImageMsg) := []

/-- A message of one of the two topics; of an image also what the transform buffer answers for its stamp. -/
inductive CameraInput
  | cameraInfo (msg : CameraInfo)
  | depthImage (msg : ImageMsg) (transform : Option StampedTransform)

namespace DepthCamera

variable {R : Type} (lib : DownsamplerLibrary R)

/-! ### The callbacks -/

/-- `_downsampling_min_depth_to_use_m`. -/
def downsamplingMinDepthToUseM : Double := (Double.ofRat (1 / 5)).toFloat

/-- `ImageDownsamplerInterface::getInstance` for an image. -/
def getInstance (pixelType : PixelType) (blockSize : Int16) (msg : ImageMsg) : ImageDownsampler where
  pixelType := pixelType
  width := msg.width
  height := msg.height
  blockSizeX := blockSize
  blockSizeY := blockSize
  minDepthToUseM := downsamplingMinDepthToUseM

/-- `set_downsampler`, with its answer. -/
def setDownsampler (msg : ImageMsg) (s : DepthCamera R) : Bool × DepthCamera R :=
  match s.imageDownsampler with
  | some _ => (true, s)
  | none =>
    match msg.encoding with
    | .type16UC1 => (true, { s with imageDownsampler := some (getInstance .uint16 s.downsamplingBlockSize msg) })
    | .type32FC1 => (true, { s with imageDownsampler := some (getInstance .float s.downsamplingBlockSize msg) })
    | .other _ => (false, s)

/-- `handle_incoming_camera_info`. -/
def handleIncomingCameraInfo (msg : CameraInfo) (s : DepthCamera R) : DepthCamera R :=
  let rawIntrinsics := lib.rectifiedIntrinsics (msg.k 0) (msg.k 4) (msg.k 2) (msg.k 5) msg.width msg.height
  match s.imageDownsampler with
  | none => s
  | some downsampler =>
    let intrinsics := lib.adaptIntrinsics downsampler rawIntrinsics s.intrinsics
    { s with
      intrinsics := intrinsics
      inverseFocalLength := lib.inverseFocalLength intrinsics
      principalPoint := lib.principalPoint intrinsics }

/-- `intrinsicPlausible`. -/
def intrinsicPlausible (s : DepthCamera R) : Bool := lib.rh s.intrinsics ≠ 0 && lib.rw s.intrinsics ≠ 0

/-- The `float`s of a translation. -/
def toPosition (v : Double × Double × Double) : Double × Double × Double :=
  (v.1.toFloat, v.2.1.toFloat, v.2.2.toFloat)

/-- The `float`s of a rotation. -/
def toOrientation (q : Double × Double × Double × Double) : Double × Double × Double × Double :=
  (q.1.toFloat, q.2.1.toFloat, q.2.2.1.toFloat, q.2.2.2.toFloat)

/-- `handle_incoming_depth_image`; the answer of `set_downsampler` is not looked at. -/
def handleIncomingDepthImage (msg : ImageMsg) (transform : Option StampedTransform) (s : DepthCamera R) :
    DepthCamera R :=
  let s := (s.setDownsampler msg).2
  match s.imageDownsampler with
  | none => s
  | some downsampler =>
    if !s.intrinsicPlausible lib then s
    else
      let depthPixelArray := lib.downsample downsampler msg.data
      let s := { s with downsampleCalls := s.downsampleCalls ++ [(downsampler, msg)] }
      match transform with
      | none => s
      | some t =>
        { s with
          downsampledDepth := some
            { depthPixelArray
              intrinsics := s.intrinsics
              position := toPosition t.translation
              orientation := toOrientation t.rotation
              timestampNs := .ofNat msg.stamp.nanosec.toNat } }

def step (s : DepthCamera R) : CameraInput → DepthCamera R
  | .cameraInfo msg => s.handleIncomingCameraInfo lib msg
  | .depthImage msg transform => s.handleIncomingDepthImage lib msg transform

/-- The constructor: there is no downsampler yet, and the intrinsics are whatever their type starts with. -/
def initial (intrinsics : R) : DepthCamera R := { intrinsics }

/-! ### What a callback does -/

/-- The pixels of an encoding that is handled. -/
def pixelType? : ImageEncoding → Option PixelType
  | .type16UC1 => some .uint16
  | .type32FC1 => some .float
  | .other _ => none

/-- The instance that is created for an image. -/
def created (blockSize : Int16) (msg : ImageMsg) : Option ImageDownsampler :=
  (pixelType? msg.encoding).map fun pixelType => getInstance pixelType blockSize msg

/-- The calls of `downsample` that a callback makes. -/
def downsampleCall (s : DepthCamera R) : CameraInput → List (ImageDownsampler × ImageMsg)
  | .cameraInfo _ => []
  | .depthImage msg _ =>
    if s.intrinsicPlausible lib then
      ((s.imageDownsampler.or (created s.downsamplingBlockSize msg)).map fun d => (d, msg)).toList
    else []

/-- The instance after a callback: the old one stays, and only without one the image counts. -/
def instanceAfter (s : DepthCamera R) : CameraInput → Option ImageDownsampler
  | .cameraInfo _ => s.imageDownsampler
  | .depthImage msg _ => s.imageDownsampler.or (created s.downsamplingBlockSize msg)

variable {lib}

theorem pixelType?_eq_some {encoding : ImageEncoding} {pixelType : PixelType} :
    pixelType? encoding = some pixelType ↔ pixelType.encoding = encoding := by
  cases encoding <;> cases pixelType <;> simp [pixelType?, PixelType.encoding]

theorem setDownsampler_eq (msg : ImageMsg) (s : DepthCamera R) :
    (s.setDownsampler msg).2 =
      { s with imageDownsampler := s.imageDownsampler.or (created s.downsamplingBlockSize msg) } := by
  have hkeeps : ∀ {o}, s.imageDownsampler = o → s = { s with imageDownsampler := o } := by
    rintro _ rfl
    rfl
  unfold setDownsampler created
  cases hdownsampler : s.imageDownsampler with
  | some d => exact hkeeps hdownsampler
  | none =>
    cases msg.encoding with
    | type16UC1 => rfl
    | type32FC1 => rfl
    | other encoding => exact hkeeps hdownsampler

/-- **What a callback does** to the instance, to the block size and to the calls. -/
theorem step_spec (lib : DownsamplerLibrary R) (s : DepthCamera R) (i : CameraInput) :
    (s.step lib i).imageDownsampler = s.instanceAfter i ∧
      (s.step lib i).downsamplingBlockSize = s.downsamplingBlockSize ∧
      (s.step lib i).downsampleCalls = s.downsampleCalls ++ s.downsampleCall lib i := by
  cases i with
  | cameraInfo msg =>
    rw [step, handleIncomingCameraInfo, downsampleCall, List.append_nil, instanceAfter]
    dsimp only
    split
    · exact ⟨rfl, rfl, rfl⟩
    · exact ⟨rfl, rfl, rfl⟩
  | depthImage msg transform =>
    rw [step, handleIncomingDepthImage, setDownsampler_eq, downsampleCall, instanceAfter]
    dsimp only
    cases hdownsampler : s.imageDownsampler.or (created s.downsamplingBlockSize msg) with
    | none =>
      simp
    | some d =>
      have hintrinsics : intrinsicPlausible lib { s with imageDownsampler := some d } = s.intrinsicPlausible lib := rfl
      dsimp only
      rw [hintrinsics]
      by_cases h : s.intrinsicPlausible lib
      · cases transform <;> simp [h]
      · simp [h]

/-! ### The first image -/

/-- Two images of one format: the same size and the same encoding. -/
def SameFormat (msg msg' : ImageMsg) : Prop :=
  msg.width = msg'.width ∧ msg.height = msg'.height ∧ msg.encoding = msg'.encoding

/-- The image has the size and the encoding for which the instance was created. -/
def Fits (d : ImageDownsampler) (msg : ImageMsg) : Prop :=
  msg.width = d.width ∧ msg.height = d.height ∧ msg.encoding = d.pixelType.encoding

instance : DecidableRel Fits := fun _ _ => inferInstanceAs (Decidable (_ ∧ _ ∧ _))

/-- The depth images among the messages. -/
def images (is : List CameraInput) : List ImageMsg :=
  is.filterMap fun
    | .cameraInfo _ => none
    | .depthImage msg _ => some msg

/-- The first image with an encoding that is handled. -/
def firstHandled (is : List CameraInput) : Option ImageMsg :=
  (images is).find? fun msg => (pixelType? msg.encoding).isSome

theorem firstHandled_cameraInfo (is : List CameraInput) (msg : CameraInfo) :
    firstHandled (is ++ [.cameraInfo msg]) = firstHandled is := by
  simp [firstHandled, images]

theorem firstHandled_depthImage (is : List CameraInput) (msg : ImageMsg) (transform : Option StampedTransform) :
    firstHandled (is ++ [.depthImage msg transform]) =
      (firstHandled is).or (if (pixelType? msg.encoding).isSome then some msg else none) := by
  simp [firstHandled, images, List.find?_append, List.find?_singleton]

theorem handled_of_firstHandled {is : List CameraInput} {first : ImageMsg} (h : firstHandled is = some first) :
    (pixelType? first.encoding).isSome := by
  unfold firstHandled at h
  simpa using List.find?_some h

theorem created_eq_none_of_not_handled {blockSize : Int16} {msg : ImageMsg}
    (h : ¬ (pixelType? msg.encoding).isSome) : created blockSize msg = none := by
  rw [created, Option.not_isSome_iff_eq_none.mp h, Option.map_none]

theorem created_of_handled (blockSize : Int16) {msg : ImageMsg} (h : (pixelType? msg.encoding).isSome) :
    ∃ pixelType, created blockSize msg = some (getInstance pixelType blockSize msg) ∧
      pixelType.encoding = msg.encoding := by
  obtain ⟨pixelType, hpixel⟩ := Option.isSome_iff_exists.mp h
  exact ⟨pixelType, by rw [created, hpixel, Option.map_some], pixelType?_eq_some.mp hpixel⟩

/-- **The instance in use** was created for the first image with an encoding that is handled. -/
theorem imageDownsampler_run (lib : DownsamplerLibrary R) (intrinsics : R) (is : List CameraInput) :
    (run (step lib) (initial intrinsics) is).imageDownsampler = (firstHandled is).bind (created 4) ∧
      (run (step lib) (initial intrinsics) is).downsamplingBlockSize = 4 := by
  induction is using List.reverseRecOn with
  | nil => exact ⟨rfl, rfl⟩
  | append_singleton is i ih =>
    obtain ⟨hinstance, hblock⟩ := ih
    obtain ⟨hstep, hstepBlock, -⟩ := step_spec lib (run (step lib) (initial intrinsics) is) i
    rw [run_concat, hstep, hstepBlock]
    refine ⟨?_, hblock⟩
    cases i with
    | cameraInfo msg => rw [instanceAfter, hinstance, firstHandled_cameraInfo]
    | depthImage msg transform =>
      rw [instanceAfter, hinstance, hblock, firstHandled_depthImage]
      cases hfirst : firstHandled is with
      | some first =>
        obtain ⟨pixelType, hcreated, -⟩ := created_of_handled 4 (handled_of_firstHandled hfirst)
        simp [hcreated]
      | none =>
        by_cases hhandled : (pixelType? msg.encoding).isSome
        · simp [hhandled]
        · simp [hhandled, created_eq_none_of_not_handled hhandled]

/-- A call of `downsample` in a run: an image that comes with plausible intrinsics, and the instance created for the
first image handled so far. -/
theorem mem_downsampleCalls_iff {intrinsics : R} {is : List CameraInput} {d : ImageDownsampler} {msg : ImageMsg} :
    (d, msg) ∈ (run (step lib) (initial intrinsics) is).downsampleCalls ↔
      ∃ before transform first, before ++ [.depthImage msg transform] <+: is ∧
        (run (step lib) (initial intrinsics) before).intrinsicPlausible lib ∧
        firstHandled (before ++ [.depthImage msg transform]) = some first ∧ created 4 first = some d := by
  -- the instance that is called was created for the first image that is handled
  have hinstance : ∀ before i, (run (step lib) (initial intrinsics) before).instanceAfter i =
      (firstHandled (before ++ [i])).bind (created 4) := fun before i => by
    have hrun := (imageDownsampler_run lib intrinsics (before ++ [i])).1
    rw [run_concat, (step_spec lib _ i).1] at hrun
    exact hrun
  have hlog : ∀ s i, (step lib s i).downsampleCalls = s.downsampleCalls ++ downsampleCall lib s i :=
    fun s i => (step_spec lib s i).2.2
  rw [mem_log_run_iff hlog]
  constructor
  · rintro (hstart | ⟨before, i, hprefix, hcall⟩)
    · exact absurd hstart List.not_mem_nil
    · cases i with
      | cameraInfo info => exact absurd hcall List.not_mem_nil
      | depthImage msg' transform =>
        rw [downsampleCall] at hcall
        split_ifs at hcall with hintrinsics
        · obtain ⟨d', hd', hpair⟩ := Option.map_eq_some_iff.mp (Option.mem_toList.mp hcall)
          obtain ⟨rfl, rfl⟩ := Prod.mk.inj hpair
          have hbind := hinstance before (.depthImage msg' transform)
          rw [instanceAfter, hd'] at hbind
          obtain ⟨first, hfirst, hcreated⟩ := Option.bind_eq_some_iff.mp hbind.symm
          exact ⟨before, transform, first, hprefix, hintrinsics, hfirst, hcreated⟩
        · exact absurd hcall List.not_mem_nil
  · rintro ⟨before, transform, first, hprefix, hintrinsics, hfirst, hcreated⟩
    refine .inr ⟨before, .depthImage msg transform, hprefix, ?_⟩
    have hbind := hinstance before (.depthImage msg transform)
    rw [hfirst, Option.bind_some, hcreated, instanceAfter] at hbind
    rw [downsampleCall, if_pos hintrinsics, hbind]
    exact List.mem_singleton_self _

/-- **When the downsampler fits its images**: exactly when every image that comes with plausible intrinsics has the
format of the first image that is handled. -/
theorem downsample_fits_iff (lib : DownsamplerLibrary R) (intrinsics : R) (is : List CameraInput) :
    (∀ call ∈ (run (step lib) (initial intrinsics) is).downsampleCalls, Fits call.1 call.2) ↔
      ∀ before msg transform first, before ++ [.depthImage msg transform] <+: is →
        (run (step lib) (initial intrinsics) before).intrinsicPlausible lib →
        firstHandled (before ++ [.depthImage msg transform]) = some first → SameFormat msg first := by
  -- an instance fits what has the format of the image it was created for
  have hfits : ∀ {msg first : ImageMsg} {d : ImageDownsampler}, created 4 first = some d →
      (Fits d msg ↔ SameFormat msg first) := by
    intro msg first d hcreated
    obtain ⟨pixelType, hpixel, rfl⟩ := Option.map_eq_some_iff.mp hcreated
    rw [Fits, SameFormat, ← pixelType?_eq_some.mp hpixel]
    rfl
  constructor
  · intro hall before msg transform first hprefix hintrinsics hfirst
    obtain ⟨pixelType, hcreated, -⟩ := created_of_handled 4 (handled_of_firstHandled hfirst)
    have hcall := mem_downsampleCalls_iff.mpr ⟨before, transform, first, hprefix, hintrinsics, hfirst, hcreated⟩
    exact (hfits hcreated).mp (hall _ hcall)
  · rintro hsame ⟨d, msg⟩ hcall
    obtain ⟨before, transform, first, hprefix, hintrinsics, hfirst, hcreated⟩ := mem_downsampleCalls_iff.mp hcall
    exact (hfits hcreated).mpr (hsame before msg transform first hprefix hintrinsics hfirst)

/-! ### A camera that changes its format -/

/-- A library that keeps of the intrinsics the size only, in blocks of four by four pixels. -/
def blocksOfFour : DownsamplerLibrary (UInt32 × UInt32) where
  rectifiedIntrinsics _ _ _ _ width height := (height, width)
  rh r := r.1
  rw r := r.2
  inverseFocalLength _ := (0, 0)
  principalPoint _ := (0, 0)
  adaptIntrinsics _ raw _ := (raw.1 / 4, raw.2 / 4)
  downsample _ _ := []
  rotate _ v := v

/-- An image that is handled, the camera info, and one more image. -/
def imageAfter (msg : ImageMsg) : List CameraInput :=
  [.depthImage { width := 640, height := 480, encoding := .type16UC1 } none,
    .cameraInfo { k := fun _ => 1, width := 640, height := 480 }, .depthImage msg none]

/-- A smaller image, and one whose encoding is not handled at all, go to the instance made for the first image. -/
theorem format_change_not_fits :
    (¬ ∀ call ∈ (run (step blocksOfFour) (initial (0, 0))
        (imageAfter { width := 320, height := 240, encoding := .type16UC1 })).downsampleCalls, Fits call.1 call.2) ∧
      ¬ ∀ call ∈ (run (step blocksOfFour) (initial (0, 0))
        (imageAfter { width := 640, height := 480, encoding := .other "rgb8" })).downsampleCalls,
          Fits call.1 call.2 := by
  decide

/-! ### The path to the health check -/

/-- The Sensor Manager with no more of a downsampler than its encoding, and of an image no more than its points. -/
def toSensorManager (lib : DownsamplerLibrary R) (s : DepthCamera R) : SensorManager where
  imageDownsampler := s.imageDownsampler.map fun d => d.pixelType.encoding
  intrinsicsRh := (lib.rh s.intrinsics).toNat
  intrinsicsRw := (lib.rw s.intrinsics).toNat
  downsampledDepth := s.downsampledDepth.map fun image => ⟨image.timestampNs, image.depthPixelArray.length⟩

/-- What the path to the health check sees of an image. -/
def imageInput (lib : DownsamplerLibrary R) (msg : ImageMsg) (transform : Option StampedTransform) (s : DepthCamera R) :
    ImageInput where
  stamp := msg.stamp
  encoding := msg.encoding
  pixels := ((s.setDownsampler msg).2.imageDownsampler.map fun d => (lib.downsample d msg.data).length).getD 0
  transformed := transform.isSome

theorem toSensorManager_setDownsampler (msg : ImageMsg) (transform : Option StampedTransform) (s : DepthCamera R) :
    (s.setDownsampler msg).2.toSensorManager lib =
      (s.toSensorManager lib).setDownsampler (s.imageInput lib msg transform) := by
  unfold SensorManager.setDownsampler setDownsampler
  cases hdownsampler : s.imageDownsampler with
  | some d => simp [toSensorManager, hdownsampler]
  | none =>
    rcases hencoding : msg.encoding with _ | _ | encoding <;>
      simp [toSensorManager, imageInput, hdownsampler, hencoding, PixelType.encoding, getInstance]

/-- **The two handlers agree**: what the health check is handed is what the full handler stores. -/
theorem toSensorManager_handleIncomingDepthImage (lib : DownsamplerLibrary R) (msg : ImageMsg)
    (transform : Option StampedTransform) (s : DepthCamera R) :
    (s.handleIncomingDepthImage lib msg transform).toSensorManager lib =
      (s.toSensorManager lib).handleIncomingDepthImage (s.imageInput lib msg transform) := by
  unfold SensorManager.handleIncomingDepthImage handleIncomingDepthImage
  dsimp only
  rw [← toSensorManager_setDownsampler]
  obtain ⟨s', hs'⟩ : ∃ s', s' = (s.setDownsampler msg).2 := ⟨_, rfl⟩
  rw [← hs']
  -- the two models test the intrinsics in different words
  have hmissing : ¬ s'.intrinsicPlausible lib ↔
      (s'.toSensorManager lib).intrinsicsRh = 0 ∨ (s'.toSensorManager lib).intrinsicsRw = 0 := by
    simp [intrinsicPlausible, toSensorManager, ← UInt32.toNat_inj, imp_iff_not_or]
  have hinstance : (s'.toSensorManager lib).imageDownsampler =
      s'.imageDownsampler.map fun d => d.pixelType.encoding := rfl
  cases hdownsampler : s'.imageDownsampler with
  | none =>
    rw [hinstance, hdownsampler, Option.map_none, if_pos rfl]
  | some d =>
    have hpixels : (s.imageInput lib msg transform).pixels = (lib.downsample d msg.data).length := by
      rw [imageInput, ← hs', hdownsampler]
      rfl
    rw [hinstance, hdownsampler, Option.map_some, if_neg (Option.some_ne_none _)]
    dsimp only
    by_cases hintrinsics : s'.intrinsicPlausible lib
    · rw [if_neg (hmissing.not_right.mp hintrinsics), if_neg (by simpa using hintrinsics)]
      cases transform with
      | none => simp [toSensorManager, imageInput, hdownsampler]
      | some t =>
        -- the image that is stored is the same, reduced to its time and size
        have hstored : SensorManager.depthImage (s.imageInput lib msg (some t)) =
            ⟨.ofNat msg.stamp.nanosec.toNat, (lib.downsample d msg.data).length⟩ := by
          rw [SensorManager.depthImage, hpixels]
          rfl
        rw [hstored]
        simp [toSensorManager, imageInput, hdownsampler]
    · rw [if_pos (hmissing.mp hintrinsics), if_pos (by simpa using hintrinsics)]

end DepthCamera

end AutopilotManager
