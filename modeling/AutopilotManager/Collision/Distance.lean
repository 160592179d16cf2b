import AutopilotManager.Config.Modules

/-!
# Collision.Distance — the distance of the Collision Avoidance Manager

`filter_pixels_to_roi` and `compute_distance_to_obstacle`: the smallest depth in the middle of the downsampled image
is kept for the Mission Manager.  All numbers are `float`s.
-/

namespace AutopilotManager

open Lib

/-- A pixel of the downsampled image. -/
structure DepthPixel where
  x : Double
  y : Double
  depth : Double
  deriving DecidableEq

/-- The downsampled image: its pixels, and the width and the height of the rectified image. -/
structure DownsampledImage where
  depthPixelArray : List DepthPixel
  rectifiedWidth : UInt32
  rectifiedHeight : UInt32

/-- The region of interest, as fractions of the image. -/
structure ROISettings where
  widthFraction : Double := (Double.ofRat (2 / 10)).toFloat
  heightFraction : Double := (Double.ofRat (2 / 10)).toFloat
  widthCenter : Double := .ofRat (1 / 2)
  heightCenter : Double := .ofRat (1 / 2)
  deriving DecidableEq

/-- What one call of the timer reads: the latest image, and what stands behind the last pixel when the region of
interest leaves none, since the iterator is followed all the same. -/
structure DistanceInput where
  depthMsg : Option DownsampledImage
  pastEnd : Double

/-- `CollisionAvoidanceManager`. -/
structure CollisionAvoidanceManager where
  config : CollisionAvoidanceManagerConfiguration := {}
  roiSettings : ROISettings := {}
  depth : Double := .nan
  deriving DecidableEq

namespace CollisionAvoidanceManager

/-! ### The region of interest -/

/-- A `uint32_t` as a `float`. -/
def ofUInt32 (n : UInt32) : Double := (Double.ofRat n.toNat).toFloat

/-- The cast of a `float` to `uint32_t`, which the language defines for values in range. -/
def castUInt32 : Double → UInt32
  | .fin q => .ofNat (q.1.num.tdiv q.1.den).toNat
  | _ => 0

/-- Half of a fraction: `0.5f * fraction`. -/
def half (fraction : Double) : Double := (.ofRat (1 / 2) * fraction).toFloat

/-- `(center - 0.5f * fraction) * size`. -/
def roiMin (center fraction : Double) (size : UInt32) : UInt32 :=
  castUInt32 ((center - half fraction).toFloat * ofUInt32 size).toFloat

/-- `(center + 0.5f * fraction) * size`. -/
def roiMax (center fraction : Double) (size : UInt32) : UInt32 :=
  castUInt32 ((center + half fraction).toFloat * ofUInt32 size).toFloat

def isPixelValid (pixel : DepthPixel) (colMin colMax rowMin rowMax : UInt32) : Bool :=
  if pixel.x.lt (ofUInt32 colMin) || (ofUInt32 colMax).lt pixel.x then false
  else if pixel.y.lt (ofUInt32 rowMin) || (ofUInt32 rowMax).lt pixel.y then false
  else true

/-- `filter_pixels_to_roi`. -/
def filterPixelsToRoi (image : DownsampledImage) (roi : ROISettings) : List DepthPixel :=
  let colMin := roiMin roi.widthCenter roi.widthFraction image.rectifiedWidth
  let colMax := roiMax roi.widthCenter roi.widthFraction image.rectifiedWidth
  let rowMin := roiMin roi.heightCenter roi.heightFraction image.rectifiedHeight
  let rowMax := roiMax roi.heightCenter roi.heightFraction image.rectifiedHeight
  image.depthPixelArray.filter fun pixel => isPixelValid pixel colMin colMax rowMin rowMax

/-- `std::min_element` by depth: the first pixel than which none is nearer. -/
def minDepthPixel : List DepthPixel → Option DepthPixel
  | [] => none
  | p :: ps => some (ps.foldl (fun best pixel => if pixel.depth.lt best.depth then pixel else best) p)

/-! ### The timer -/

def isEnabledInConfig (config : CollisionAvoidanceManagerConfiguration) : Bool :=
  config.autopilotManagerEnabled ≠ 0 && config.simpleCollisionAvoidEnabled ≠ 0

/-- What an enabled call stores: the smallest depth in the region of interest, infinity without an image. -/
def distance (roi : ROISettings) (i : DistanceInput) : Double :=
  match i.depthMsg with
  | some image =>
    if 0 < image.depthPixelArray.length then
      match minDepthPixel (filterPixelsToRoi image roi) with
      | some pixel => pixel.depth
      | none => i.pastEnd
    else .inf false
  | none => .inf false

/-- `compute_distance_to_obstacle`. -/
def computeDistanceToObstacle (config : CollisionAvoidanceManagerConfiguration) (i : DistanceInput)
    (s : CollisionAvoidanceManager) : CollisionAvoidanceManager :=
  let s := { s with config := config }
  if isEnabledInConfig s.config then { s with depth := distance s.roiSettings i } else s

/-- `get_latest_distance`. -/
def getLatestDistance (s : CollisionAvoidanceManager) : Double := s.depth

/-! ### The stored distance -/

variable {roi : ROISettings} {config : CollisionAvoidanceManagerConfiguration} {i : DistanceInput}
  {s : CollisionAvoidanceManager}

theorem computeDistanceToObstacle_of_enabled (h : isEnabledInConfig config) :
    (s.computeDistanceToObstacle config i).depth = distance s.roiSettings i := by
  unfold computeDistanceToObstacle
  dsimp only
  rw [if_pos h]

theorem computeDistanceToObstacle_of_disabled (h : ¬ isEnabledInConfig config) :
    (s.computeDistanceToObstacle config i).depth = s.depth := by
  unfold computeDistanceToObstacle
  dsimp only
  rw [if_neg h]

theorem minDepthPixel_mem {ps : List DepthPixel} {pixel : DepthPixel} (h : minDepthPixel ps = some pixel) :
    pixel ∈ ps := by
  have hfold : ∀ (ps : List DepthPixel) (best : DepthPixel),
      ps.foldl (fun best pixel => if pixel.depth.lt best.depth then pixel else best) best ∈ best :: ps := by
    intro ps
    induction ps with
    | nil => intro best; simp
    | cons p ps ih =>
      intro best
      rw [List.foldl_cons]
      rcases List.mem_cons.mp (ih (if p.depth.lt best.depth then p else best)) with heq | hmem
      · rw [heq]
        split_ifs <;> simp
      · exact List.mem_cons_of_mem _ (List.mem_cons_of_mem _ hmem)
  cases ps with
  | nil => exact absurd h (by simp [minDepthPixel])
  | cons p ps =>
    rw [← Option.some.inj h]
    exact hfold ps p

theorem roiSettings_computeDistanceToObstacle (config : CollisionAvoidanceManagerConfiguration) (i : DistanceInput)
    (s : CollisionAvoidanceManager) : (s.computeDistanceToObstacle config i).roiSettings = s.roiSettings := by
  unfold computeDistanceToObstacle
  dsimp only
  split_ifs <;> rfl

/-- A finite distance is that of an image with pixels: the depth of one in the region of interest, or, if that is empty,
what stands behind the last pixel. -/
theorem distance_cases (hfinite : (distance roi i).isFinite) :
    ∃ image, i.depthMsg = some image ∧ image.depthPixelArray ≠ [] ∧
      ((∃ pixel ∈ filterPixelsToRoi image roi, pixel.depth = distance roi i) ∨
        filterPixelsToRoi image roi = [] ∧ distance roi i = i.pastEnd) := by
  unfold distance at hfinite ⊢
  cases hmsg : i.depthMsg with
  | none =>
    rw [hmsg] at hfinite
    exact absurd hfinite Bool.false_ne_true
  | some image =>
    rw [hmsg] at hfinite
    dsimp only at hfinite ⊢
    split_ifs at hfinite ⊢ with hpixels
    · refine ⟨image, rfl, List.length_pos_iff.mp hpixels, ?_⟩
      cases hmin : minDepthPixel (filterPixelsToRoi image roi) with
      | some pixel => exact .inl ⟨pixel, minDepthPixel_mem hmin, rfl⟩
      | none =>
        refine .inr ⟨?_, rfl⟩
        cases hregion : filterPixelsToRoi image roi with
        | nil => rfl
        | cons pixel rest =>
          rw [hregion] at hmin
          cases hmin
    · exact absurd hfinite Bool.false_ne_true

end CollisionAvoidanceManager

end AutopilotManager
