import AutopilotManager.Landing.Mapper
import AutopilotManager.Lib.MinElement
import AutopilotManager.Mission.Step
import AutopilotManager.Sensor.Downsampler

/-!
# Landing.PointCloud — the points of an image

The loop of `mapper` over the pixels of an image.  A pixel that is not too close becomes a point in the frame of the
world; the near ones make up the cloud of the landing mapper, and all of them count for the height of the image.  All
numbers are `float`s, and how a quaternion turns a vector is the library's.
-/

namespace AutopilotManager

open Lib MissionManager

/-- What one processed image gives to the landing mapper. -/
structure PointCloud where
  pointcloudForMapper : List (Double × Double × Double) := []
  pointHeightMin : Double := .ofRat Double.fltMax
  deriving DecidableEq

namespace LandingManager

variable {R : Type} (lib : DownsamplerLibrary R) (image : ExtendedDownsampledImage R)

def minDepthToUse : Double := (Double.ofRat (7 / 10)).toFloat
def maxDepthToUse : Double := 16

/-- The pixel is neither missing nor too close. -/
def usesPixel (pixel : DepthPixel) : Bool := pixel.depth.isFinite && minDepthToUse.lt pixel.depth

/-- The pixel becomes a point of the cloud. -/
def mapsPixel (pixel : DepthPixel) : Bool := usesPixel pixel && pixel.depth.lt maxDepthToUse

/-- The point of a pixel. -/
def point (pixel : DepthPixel) : Double × Double × Double :=
  let principalPoint := lib.principalPoint image.intrinsics
  let inverseFocalLength := lib.inverseFocalLength image.intrinsics
  let x := mulF (mulF (pixel.x - principalPoint.1).toFloat inverseFocalLength.1) pixel.depth
  let y := mulF (mulF (pixel.y - principalPoint.2).toFloat inverseFocalLength.2) pixel.depth
  let turned := lib.rotate image.orientation (x, y, pixel.depth)
  (addF turned.1 image.position.1, addF turned.2.1 image.position.2.1, addF turned.2.2 image.position.2.2)

/-- How far a point lies below the vehicle. -/
def pointHeight (point : Double × Double × Double) : Double := (point.2.2 - image.position.2.2).toFloat

/-- One pixel of the loop. -/
def addPixel (cloud : PointCloud) (pixel : DepthPixel) : PointCloud :=
  if usesPixel pixel then
    let point := point lib image pixel
    let cloud :=
      if pixel.depth.lt maxDepthToUse then
        { cloud with pointcloudForMapper := cloud.pointcloudForMapper ++ [point] }
      else cloud
    let pointHeight := pointHeight image point
    if pointHeight.lt cloud.pointHeightMin then { cloud with pointHeightMin := pointHeight } else cloud
  else cloud

/-- The loop over the pixels. -/
def pointCloud : PointCloud := image.depthPixelArray.foldl (addPixel lib image) {}

/-! ### The loop -/

/-- The comparison of the heights. -/
def Lower (x y : Double) : Prop := x.lt y

instance : DecidableRel Lower := fun _ _ => inferInstanceAs (Decidable (_ = true))

theorem irrefl_lower : Std.Irrefl Lower := ⟨Double.not_lt_self⟩

theorem trans_lower : IsTrans Double Lower := ⟨fun _ _ _ => Double.lt_trans⟩

/-- The height of the point of a pixel. -/
def pixelHeight (pixel : DepthPixel) : Double := pointHeight image (point lib image pixel)

variable {lib image} {pixel : DepthPixel} {ps : List DepthPixel}

/-- One pixel adds its point, if it is near, and may lower the height. -/
theorem addPixel_of_uses (huses : usesPixel pixel) (cloud : PointCloud) :
    addPixel lib image cloud pixel =
      { pointcloudForMapper := cloud.pointcloudForMapper ++
          if mapsPixel pixel then [point lib image pixel] else []
        pointHeightMin := if (pixelHeight lib image pixel).lt cloud.pointHeightMin then
          pixelHeight lib image pixel else cloud.pointHeightMin } := by
  unfold addPixel
  rw [if_pos huses]
  unfold mapsPixel pixelHeight
  rw [huses, Bool.true_and]
  dsimp only
  split_ifs <;> simp_all

theorem addPixel_of_not_uses (hskips : ¬ usesPixel pixel) (cloud : PointCloud) :
    addPixel lib image cloud pixel = cloud := if_neg hskips

/-- **The cloud** is that of the near pixels, in their order. -/
theorem pointcloudForMapper_foldl (ps : List DepthPixel) (cloud : PointCloud) :
    (ps.foldl (addPixel lib image) cloud).pointcloudForMapper =
      cloud.pointcloudForMapper ++ (ps.filter mapsPixel).map (point lib image) := by
  induction ps generalizing cloud with
  | nil => simp
  | cons pixel ps ih =>
    rw [List.foldl_cons, ih]
    by_cases huses : usesPixel pixel
    · rw [addPixel_of_uses huses]
      by_cases hmaps : mapsPixel pixel
      · rw [if_pos hmaps, List.filter_cons_of_pos hmaps, List.append_assoc]
        rfl
      · rw [if_neg hmaps, List.filter_cons_of_neg hmaps, List.append_nil]
    · have hmaps : ¬ mapsPixel pixel := fun h => huses (Bool.and_eq_true_iff.mp h).1
      rw [addPixel_of_not_uses huses, List.filter_cons_of_neg hmaps]

/-- **The height** is the smallest of those of the used pixels, as far as they can be compared. -/
theorem pointHeightMin_foldl (ps : List DepthPixel) (cloud : PointCloud) :
    some (ps.foldl (addPixel lib image) cloud).pointHeightMin =
      minElement Lower (cloud.pointHeightMin :: (ps.filter usesPixel).map (pixelHeight lib image)) := by
  refine congrArg some ?_
  induction ps generalizing cloud with
  | nil => rfl
  | cons pixel ps ih =>
    rw [List.foldl_cons, ih]
    by_cases huses : usesPixel pixel
    · rw [addPixel_of_uses huses, List.filter_cons_of_pos huses]
      rfl
    · rw [addPixel_of_not_uses huses, List.filter_cons_of_neg huses]

theorem pointHeightMin_eq (lib : DownsamplerLibrary R) (image : ExtendedDownsampledImage R) :
    minElement Lower (.ofRat Double.fltMax ::
      (image.depthPixelArray.filter usesPixel).map (pixelHeight lib image)) =
        some (pointCloud lib image).pointHeightMin :=
  (pointHeightMin_foldl image.depthPixelArray {}).symm

/-- A point of the cloud is that of a near pixel. -/
theorem mem_pointCloud {p : Double × Double × Double} :
    p ∈ (pointCloud lib image).pointcloudForMapper ↔
      ∃ pixel ∈ image.depthPixelArray, mapsPixel pixel ∧ point lib image pixel = p := by
  rw [pointCloud, pointcloudForMapper_foldl]
  simp [and_assoc]

/-- No used pixel lies above the height of the image. -/
theorem not_lt_pointHeightMin (hpixel : pixel ∈ image.depthPixelArray) (huses : usesPixel pixel) :
    ¬ (pixelHeight lib image pixel).lt (pointCloud lib image).pointHeightMin := by
  have hlower : ¬ Lower (pixelHeight lib image pixel) (pointCloud lib image).pointHeightMin := by
    refine not_lt_minElement irrefl_lower trans_lower (pointHeightMin_eq lib image) ?_
    exact List.mem_cons_of_mem _ (List.mem_map_of_mem (List.mem_filter.mpr ⟨hpixel, huses⟩))
  exact hlower

/-- The height of the image is that of a used pixel, unless it has stayed where it starts. -/
theorem pointHeightMin_cases : (pointCloud lib image).pointHeightMin = .ofRat Double.fltMax ∨
    ∃ pixel ∈ image.depthPixelArray, usesPixel pixel ∧
      pixelHeight lib image pixel = (pointCloud lib image).pointHeightMin := by
  have hmem := minElement_mem trans_lower (pointHeightMin_eq lib image)
  rcases List.mem_cons.mp hmem with hstart | hused
  · exact .inl hstart
  · obtain ⟨pixel, hpixel, hheight⟩ := List.mem_map.mp hused
    obtain ⟨hmem, huses⟩ := List.mem_filter.mp hpixel
    exact .inr ⟨pixel, hmem, huses, hheight⟩

end LandingManager

end AutopilotManager
