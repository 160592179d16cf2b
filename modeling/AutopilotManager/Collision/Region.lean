import AutopilotManager.Collision.Distance
import AutopilotManager.Lib.MinElement

/-!
# Collision.Region — what the region of interest leaves

The image is tested for pixels before the region of interest is cut out, and the smallest depth is searched under the
`<` of `float`s.  So an empty region is read behind its end, and a NaN depth hides what comes after it.
-/

namespace AutopilotManager

open Lib

namespace CollisionAvoidanceManager

variable {roi : ROISettings} {image : DownsampledImage} {pixel m : DepthPixel} {ps ps' : List DepthPixel}
  {config : CollisionAvoidanceManagerConfiguration} {s : CollisionAvoidanceManager}

/-! ### Pixels of the region -/

/-- The test of `filter_pixels_to_roi` on a pixel of the image. -/
def passes (roi : ROISettings) (image : DownsampledImage) (pixel : DepthPixel) : Bool :=
  isPixelValid pixel (roiMin roi.widthCenter roi.widthFraction image.rectifiedWidth)
    (roiMax roi.widthCenter roi.widthFraction image.rectifiedWidth)
    (roiMin roi.heightCenter roi.heightFraction image.rectifiedHeight)
    (roiMax roi.heightCenter roi.heightFraction image.rectifiedHeight)

/-- The pixel lies in the region: `col_min <= x <= col_max` and `row_min <= y <= row_max`. -/
def InRegion (roi : ROISettings) (image : DownsampledImage) (pixel : DepthPixel) : Prop :=
  (ofUInt32 (roiMin roi.widthCenter roi.widthFraction image.rectifiedWidth)).le pixel.x ∧
    pixel.x.le (ofUInt32 (roiMax roi.widthCenter roi.widthFraction image.rectifiedWidth)) ∧
    (ofUInt32 (roiMin roi.heightCenter roi.heightFraction image.rectifiedHeight)).le pixel.y ∧
    pixel.y.le (ofUInt32 (roiMax roi.heightCenter roi.heightFraction image.rectifiedHeight))

instance (roi : ROISettings) (image : DownsampledImage) : DecidablePred (InRegion roi image) :=
  fun _ => inferInstanceAs (Decidable (_ ∧ _))

theorem filterPixelsToRoi_eq (image : DownsampledImage) (roi : ROISettings) :
    filterPixelsToRoi image roi = image.depthPixelArray.filter (passes roi image) := rfl

theorem mem_filterPixelsToRoi :
    pixel ∈ filterPixelsToRoi image roi ↔ pixel ∈ image.depthPixelArray ∧ passes roi image pixel := by
  rw [filterPixelsToRoi_eq, List.mem_filter]

/-- A pixel of the region passes; so does a pixel with a NaN coordinate, which lies nowhere. -/
theorem passes_of_inRegion (h : InRegion roi image pixel) : passes roi image pixel := by
  obtain ⟨hleft, hright, htop, hbottom⟩ := h
  simp [passes, isPixelValid, Double.not_lt_of_le hleft, Double.not_lt_of_le hright, Double.not_lt_of_le htop,
    Double.not_lt_of_le hbottom]

/-! ### The nearest pixel -/

/-- The comparison of `std::min_element`: `lhs.depth < rhs.depth`. -/
def Nearer (lhs rhs : DepthPixel) : Prop := lhs.depth.lt rhs.depth

instance : DecidableRel Nearer := fun _ _ => inferInstanceAs (Decidable (_ = true))

theorem irrefl_nearer : Std.Irrefl Nearer := ⟨fun pixel => Double.not_lt_self pixel.depth⟩

theorem trans_nearer : IsTrans DepthPixel Nearer := ⟨fun _ _ _ => Double.lt_trans⟩

theorem minDepthPixel_eq (ps : List DepthPixel) : minDepthPixel ps = minElement Nearer ps := by
  cases ps with
  | nil => rfl
  | cons p ps => rfl

theorem not_nearer_minDepthPixel (h : minDepthPixel ps = some m) (hpixel : pixel ∈ ps) : ¬ Nearer pixel m :=
  not_lt_minElement irrefl_nearer trans_nearer (minDepthPixel_eq ps ▸ h) hpixel

/-- A first pixel with depth NaN is the one returned. -/
theorem minDepthPixel_of_nan (h : pixel.depth = .nan) (ps : List DepthPixel) :
    minDepthPixel (pixel :: ps) = some pixel := by
  rw [minDepthPixel_eq]
  exact minElement_of_not_lt_head fun q _ hlt => (Double.ne_nan_of_lt hlt).2 h

/-- Behind a first pixel with a number no NaN is returned. -/
theorem minDepthPixel_ne_nan (h : pixel.depth ≠ .nan) (hmin : minDepthPixel (pixel :: ps) = some m) :
    m.depth ≠ .nan := by
  rw [minDepthPixel_eq] at hmin
  rcases minElement_cons trans_nearer hmin with rfl | ⟨-, hlt⟩
  · exact h
  · exact (Double.ne_nan_of_lt hlt).1

theorem exists_minDepthPixel (h : ps ≠ []) : ∃ m, minDepthPixel ps = some m := by
  rw [minDepthPixel_eq]
  exact Option.ne_none_iff_exists'.mp fun hnone => h (minElement_eq_none_iff.mp hnone)

/-! ### The stored distance -/

/-- What an enabled call stores of an image that has pixels. -/
theorem depth_of_enabled (henabled : isEnabledInConfig config) (hpixels : image.depthPixelArray ≠ []) (pastEnd : Double) :
    (s.computeDistanceToObstacle config ⟨some image, pastEnd⟩).depth =
      ((minDepthPixel (filterPixelsToRoi image s.roiSettings)).map DepthPixel.depth).getD pastEnd := by
  rw [computeDistanceToObstacle_of_enabled henabled, distance]
  dsimp only
  rw [if_pos (List.length_pos_iff.mpr hpixels)]
  cases minDepthPixel (filterPixelsToRoi image s.roiSettings) <;> rfl

/-- A call with an image stores a depth of the region of interest, or infinity if that has no pixel: what stands behind
the last pixel is not read. -/
structure ReadsRegion (config : CollisionAvoidanceManagerConfiguration) (s : CollisionAvoidanceManager)
    (image : DownsampledImage) : Prop where
  inside : ∀ pastEnd pastEnd', (s.computeDistanceToObstacle config ⟨some image, pastEnd⟩).depth =
    (s.computeDistanceToObstacle config ⟨some image, pastEnd'⟩).depth
  infinite : filterPixelsToRoi image s.roiSettings = [] →
    ∀ pastEnd, (s.computeDistanceToObstacle config ⟨some image, pastEnd⟩).depth = .inf false

/-- **When only the region of interest is read**: exactly if a pixel of the image passes the filter. -/
theorem reads_region_iff (henabled : isEnabledInConfig config) (hpixels : image.depthPixelArray ≠ []) :
    ReadsRegion config s image ↔ ∃ pixel ∈ image.depthPixelArray, passes s.roiSettings image pixel := by
  constructor
  · intro h
    by_contra hnone
    have hempty : filterPixelsToRoi image s.roiSettings = [] := by
      refine List.eq_nil_iff_forall_not_mem.mpr fun pixel hpixel => hnone ?_
      exact ⟨pixel, mem_filterPixelsToRoi.mp hpixel⟩
    have hnan := h.infinite hempty .nan
    rw [depth_of_enabled henabled hpixels, hempty] at hnan
    cases hnan
  · rintro ⟨pixel, hpixel⟩
    have hne : filterPixelsToRoi image s.roiSettings ≠ [] := List.ne_nil_of_mem (mem_filterPixelsToRoi.mpr hpixel)
    obtain ⟨m, hm⟩ := exists_minDepthPixel hne
    refine ⟨fun pastEnd pastEnd' => ?_, fun hempty => absurd hempty hne⟩
    rw [depth_of_enabled henabled hpixels, depth_of_enabled henabled hpixels, hm]
    rfl

/-- A configuration with both switches on. -/
def enabledConfig : CollisionAvoidanceManagerConfiguration :=
  { autopilotManagerEnabled := 1, simpleCollisionAvoidEnabled := 1 }

/-- An image of 100 by 100 with these pixels. -/
def squareImage (ps : List DepthPixel) : DownsampledImage := ⟨ps, 100, 100⟩

theorem reads_region_middle : ReadsRegion enabledConfig {} (squareImage [⟨50, 50, 3⟩]) :=
  (reads_region_iff (by decide) (by decide)).mpr ⟨⟨50, 50, 3⟩, by simp [squareImage], by decide +kernel⟩

/-- The only pixel lies in a corner: the depth stored is what stands behind the last pixel. -/
theorem reads_behind_corner :
    (∀ pastEnd, (computeDistanceToObstacle enabledConfig ⟨some (squareImage [⟨0, 0, 3⟩]), pastEnd⟩ {}).depth = pastEnd) ∧
      ¬ ReadsRegion enabledConfig {} (squareImage [⟨0, 0, 3⟩]) := by
  have hempty : filterPixelsToRoi (squareImage [⟨0, 0, 3⟩]) {} = [] := by decide +kernel
  have hread : ∀ pastEnd,
      (computeDistanceToObstacle enabledConfig ⟨some (squareImage [⟨0, 0, 3⟩]), pastEnd⟩ {}).depth = pastEnd := by
    intro pastEnd
    rw [depth_of_enabled (by decide) (by decide), hempty]
    rfl
  refine ⟨hread, fun h => ?_⟩
  have hinf := h.infinite hempty .nan
  rw [hread] at hinf
  cases hinf

/-! ### The nearest obstacle -/

/-- The distance is the smallest finite depth in the region. -/
def IsNearest (roi : ROISettings) (image : DownsampledImage) (d : Double) : Prop :=
  ∃ q : Finite64, d = .fin q ∧ (∃ pixel ∈ image.depthPixelArray, InRegion roi image pixel ∧ pixel.depth = .fin q) ∧
    ∀ pixel ∈ image.depthPixelArray, InRegion roi image pixel → ∀ q', pixel.depth = .fin q' → q.1 ≤ q'.1

/-- The pixel lies in the region and has a finite depth. -/
def FiniteInRegion (roi : ROISettings) (image : DownsampledImage) (pixel : DepthPixel) : Prop :=
  pixel ∈ image.depthPixelArray ∧ InRegion roi image pixel ∧ ∃ q, pixel.depth = .fin q

theorem FiniteInRegion.mem_filterPixelsToRoi (h : FiniteInRegion roi image pixel) :
    pixel ∈ filterPixelsToRoi image roi :=
  CollisionAvoidanceManager.mem_filterPixelsToRoi.mpr ⟨h.1, passes_of_inRegion h.2.1⟩

/-- A nearest pixel that is no number is the first one. -/
theorem minDepthPixel_ne_nan_iff (h : minDepthPixel ps = some m) :
    m.depth ≠ .nan ↔ ∀ pixel ∈ ps.head?, pixel.depth ≠ .nan := by
  cases ps with
  | nil => cases h
  | cons p ps =>
    constructor
    · rintro hm pixel hpixel hnan
      obtain rfl : p = pixel := Option.some.inj hpixel
      rw [minDepthPixel_of_nan hnan] at h
      obtain rfl := Option.some.inj h
      exact hm hnan
    · intro hhead
      exact minDepthPixel_ne_nan (hhead p rfl) h

/-- When the nearest pixel of those that pass has the smallest finite depth of the region. -/
theorem isNearest_iff (hmin : minDepthPixel (filterPixelsToRoi image roi) = some m) :
    IsNearest roi image m.depth ↔ (∀ pixel ∈ (filterPixelsToRoi image roi).head?, pixel.depth ≠ .nan) ∧
      ∀ pixel ∈ filterPixelsToRoi image roi, ∃ near, FiniteInRegion roi image near ∧ ¬ Nearer pixel near := by
  rw [← minDepthPixel_ne_nan_iff hmin]
  have hm : m ∈ filterPixelsToRoi image roi := minDepthPixel_mem hmin
  constructor
  · rintro ⟨q, hq, ⟨near, hnear, hregion, hdepth⟩, -⟩
    refine ⟨by rw [hq]; exact Double.noConfusion, fun pixel hpixel => ?_⟩
    refine ⟨near, ⟨hnear, hregion, q, hdepth⟩, fun hlt => not_nearer_minDepthPixel hmin hpixel ?_⟩
    unfold Nearer at hlt ⊢
    rwa [hq, ← hdepth]
  · rintro ⟨hnum, hleast⟩
    obtain ⟨near, hnear, hlt⟩ := hleast m hm
    obtain ⟨q, hq⟩ := hnear.2.2
    -- `near` is not above `m` and `m` not above `near`
    have hback := not_nearer_minDepthPixel hmin hnear.mem_filterPixelsToRoi
    have hdepth : m.depth = .fin q := by
      rw [← hq]
      exact Double.eq_of_not_lt hnum (by rw [hq]; exact Double.noConfusion) hlt hback
    refine ⟨q, hdepth, ⟨near, hnear.1, hnear.2.1, hq⟩, fun pixel hpixel hregion q' hq' => ?_⟩
    have hpass : FiniteInRegion roi image pixel := ⟨hpixel, hregion, q', hq'⟩
    have hnot := not_nearer_minDepthPixel hmin hpass.mem_filterPixelsToRoi
    unfold Nearer at hnot
    rw [hdepth, hq'] at hnot
    exact not_lt.mp fun h => hnot (decide_eq_true h)

/-- The image with its pixels in another order. -/
def reordered (image : DownsampledImage) (ps : List DepthPixel) : DownsampledImage :=
  { image with depthPixelArray := ps }

/-- The filter passes the same pixels of a reordered image. -/
theorem filterPixelsToRoi_reordered (hperm : ps.Perm image.depthPixelArray) (roi : ROISettings) :
    (filterPixelsToRoi (reordered image ps) roi).Perm (filterPixelsToRoi image roi) :=
  hperm.filter (passes roi image)

/-- Two orders of pixels without NaN have nearest pixels of one depth. -/
theorem depth_eq_of_perm (hperm : ps.Perm ps') (hnum : ∀ pixel ∈ ps, pixel.depth ≠ .nan) {m' : DepthPixel}
    (h : minDepthPixel ps = some m) (h' : minDepthPixel ps' = some m') : m.depth = m'.depth := by
  have hm := hnum m (minDepthPixel_mem h)
  have hm' := hnum m' (hperm.mem_iff.mpr (minDepthPixel_mem h'))
  rw [minDepthPixel_eq] at h h'
  have hnot : ¬ Nearer m m' := not_lt_minElement_of_perm irrefl_nearer trans_nearer hperm.symm h' h
  have hnot' : ¬ Nearer m' m := not_lt_minElement_of_perm irrefl_nearer trans_nearer hperm h h'
  exact Double.eq_of_not_lt hm hm' hnot hnot'

/-- A pixel that passes can be put first among those that pass. -/
theorem exists_reordered_head (hpixel : pixel ∈ filterPixelsToRoi image roi) :
    ∃ ps rest, ps.Perm image.depthPixelArray ∧ filterPixelsToRoi (reordered image ps) roi = pixel :: rest := by
  obtain ⟨hmem, hpass⟩ := mem_filterPixelsToRoi.mp hpixel
  obtain ⟨before, after, hsplit⟩ := List.append_of_mem hmem
  refine ⟨pixel :: (before ++ after), (before ++ after).filter (passes roi image), ?_, ?_⟩
  · rw [hsplit]
    exact List.perm_middle.symm
  · exact List.filter_cons_of_pos hpass

/-- What an enabled call stores of an image from which a pixel passes. -/
theorem exists_depth_eq (henabled : isEnabledInConfig config) (hpixel : pixel ∈ filterPixelsToRoi image s.roiSettings)
    (pastEnd : Double) :
    ∃ m, minDepthPixel (filterPixelsToRoi image s.roiSettings) = some m ∧
      (s.computeDistanceToObstacle config ⟨some image, pastEnd⟩).depth = m.depth := by
  obtain ⟨m, hm⟩ := exists_minDepthPixel (List.ne_nil_of_mem hpixel)
  refine ⟨m, hm, ?_⟩
  rw [depth_of_enabled henabled (List.ne_nil_of_mem (mem_filterPixelsToRoi.mp hpixel).1), hm]
  rfl

/-- When the stored distance does not depend on the order of the pixels. -/
theorem depth_reordered_iff (henabled : isEnabledInConfig config)
    (hfinite : ∃ pixel, FiniteInRegion s.roiSettings image pixel) (pastEnd : Double) :
    (∀ ps, ps.Perm image.depthPixelArray →
      (s.computeDistanceToObstacle config ⟨some (reordered image ps), pastEnd⟩).depth =
        (s.computeDistanceToObstacle config ⟨some image, pastEnd⟩).depth) ↔
      ∀ pixel ∈ filterPixelsToRoi image s.roiSettings, pixel.depth ≠ .nan := by
  obtain ⟨near, hnear⟩ := hfinite
  obtain ⟨q, hq⟩ := hnear.2.2
  constructor
  · intro horder pixel hpixel hnan
    -- with `pixel` first it is stored, with `near` first it is not
    obtain ⟨ps, rest, hperm, hfilter⟩ := exists_reordered_head hpixel
    obtain ⟨ps', rest', hperm', hfilter'⟩ := exists_reordered_head hnear.mem_filterPixelsToRoi
    obtain ⟨m, hm, hdepth⟩ := exists_depth_eq henabled
      (show pixel ∈ filterPixelsToRoi (reordered image ps) s.roiSettings by rw [hfilter]; simp) pastEnd
    obtain ⟨m', hm', hdepth'⟩ := exists_depth_eq henabled
      (show near ∈ filterPixelsToRoi (reordered image ps') s.roiSettings by rw [hfilter']; simp) pastEnd
    rw [hfilter, minDepthPixel_of_nan hnan] at hm
    rw [hfilter'] at hm'
    have hnum : m'.depth ≠ .nan := minDepthPixel_ne_nan (by rw [hq]; exact Double.noConfusion) hm'
    refine hnum ?_
    rw [← hdepth', horder ps' hperm', ← horder ps hperm, hdepth, ← Option.some.inj hm, hnan]
  · intro hnum ps hperm
    have hfilter := filterPixelsToRoi_reordered hperm s.roiSettings
    obtain ⟨m, hm, hdepth⟩ := exists_depth_eq henabled hnear.mem_filterPixelsToRoi pastEnd
    obtain ⟨m', hm', hdepth'⟩ := exists_depth_eq henabled
      (hfilter.mem_iff.mpr hnear.mem_filterPixelsToRoi) pastEnd
    rw [hdepth, hdepth']
    exact (depth_eq_of_perm hfilter.symm hnum hm hm').symm

/-- **When the nearest obstacle is stored**: exactly if the first pixel that passes the filter has a number as its depth
and no pixel that passes is nearer than all finite ones of the region; and it is stored whatever the order of the
pixels exactly if no pixel that passes has depth NaN. -/
theorem nearest_stored_iff (henabled : isEnabledInConfig config)
    (hfinite : ∃ pixel, FiniteInRegion s.roiSettings image pixel) (pastEnd : Double) :
    (IsNearest s.roiSettings image (s.computeDistanceToObstacle config ⟨some image, pastEnd⟩).depth ↔
      (∀ pixel ∈ (filterPixelsToRoi image s.roiSettings).head?, pixel.depth ≠ .nan) ∧
        ∀ pixel ∈ filterPixelsToRoi image s.roiSettings,
          ∃ near, FiniteInRegion s.roiSettings image near ∧ ¬ Nearer pixel near) ∧
    ((∀ ps, ps.Perm image.depthPixelArray →
      (s.computeDistanceToObstacle config ⟨some (reordered image ps), pastEnd⟩).depth =
        (s.computeDistanceToObstacle config ⟨some image, pastEnd⟩).depth) ↔
      ∀ pixel ∈ filterPixelsToRoi image s.roiSettings, pixel.depth ≠ .nan) := by
  refine ⟨?_, depth_reordered_iff henabled hfinite pastEnd⟩
  obtain ⟨near, hnear⟩ := hfinite
  obtain ⟨m, hm, hdepth⟩ := exists_depth_eq henabled hnear.mem_filterPixelsToRoi pastEnd
  rw [hdepth]
  exact isNearest_iff hm

/-- Four pixels: one that is far, one without depth, one that is near, and one nearer in the corner. -/
def mixedImage : DownsampledImage := squareImage [⟨50, 50, 5⟩, ⟨50, 51, .nan⟩, ⟨51, 50, 3⟩, ⟨0, 0, 1⟩]

theorem nearest_stored_mixed :
    IsNearest {} mixedImage (computeDistanceToObstacle enabledConfig ⟨some mixedImage, .nan⟩ {}).depth := by
  obtain ⟨q, hq⟩ : ∃ q, (3 : Double) = .fin q := Double.ofRat_eq_fin (by decide +kernel)
  have hnear : FiniteInRegion {} mixedImage ⟨51, 50, 3⟩ :=
    ⟨by simp [mixedImage, squareImage], by decide +kernel, q, hq⟩
  have hfilter : filterPixelsToRoi mixedImage {} = [⟨50, 50, 5⟩, ⟨50, 51, .nan⟩, ⟨51, 50, 3⟩] := by decide +kernel
  have hiff := nearest_stored_iff (s := {}) (show isEnabledInConfig enabledConfig by decide) ⟨_, hnear⟩ .nan
  refine hiff.1.mpr ⟨?_, ?_⟩
  · rw [hfilter]
    decide +kernel
  · rw [hfilter]
    have hnot : ∀ pixel ∈ ([⟨50, 50, 5⟩, ⟨50, 51, .nan⟩, ⟨51, 50, 3⟩] : List DepthPixel),
        ¬ Nearer pixel ⟨51, 50, 3⟩ := by decide +kernel
    exact fun pixel hpixel => ⟨_, hnear, hnot pixel hpixel⟩

/-- The pixel without depth stands first: it hides the obstacle, which the other order shows. -/
theorem nearest_hidden_nan :
    (computeDistanceToObstacle enabledConfig ⟨some (squareImage [⟨50, 50, .nan⟩, ⟨51, 50, 3⟩]), .nan⟩ {}).depth = .nan ∧
    (computeDistanceToObstacle enabledConfig ⟨some (squareImage [⟨51, 50, 3⟩, ⟨50, 50, .nan⟩]), .nan⟩ {}).depth = 3 ∧
    ¬ IsNearest {} (squareImage [⟨50, 50, .nan⟩, ⟨51, 50, 3⟩])
      (computeDistanceToObstacle enabledConfig
        ⟨some (squareImage [⟨50, 50, .nan⟩, ⟨51, 50, 3⟩]), .nan⟩ {}).depth := by
  have hstored : (computeDistanceToObstacle enabledConfig
      ⟨some (squareImage [⟨50, 50, .nan⟩, ⟨51, 50, 3⟩]), .nan⟩ {}).depth = .nan := by decide +kernel
  refine ⟨hstored, by decide +kernel, ?_⟩
  rw [hstored]
  rintro ⟨q, hq, -⟩
  cases hq

end CollisionAvoidanceManager

end AutopilotManager
