import AutopilotManager.Landing.Mapper
import AutopilotManager.Lib.Transition

/-!
# Landing.Parameters — the range of the two parameters of the mapper

`initParameters` and `updateParameters` of the Landing Manager.  The setters refuse what is below one or above the
maximum, and a refused value is replaced by a fixed number; NaN is neither, and the fixed number is compared with
nothing.
-/

namespace AutopilotManager

open Lib

/-- A parameter lies between one and its maximum. -/
def InRange (value maximum : Double) : Prop := (1 : Double).le value ∧ value.le maximum

instance : DecidableRel InRange := fun _ _ => inferInstanceAs (Decidable (_ ∧ _))

/-- Both parameters lie in their ranges. -/
def MapperParameter.WithinLimits (p : MapperParameter) : Prop :=
  InRange p.searchAltitudeM p.maxSearchAltitudeM ∧ InRange p.windowSizeM p.maxWindowSizeM

instance : DecidablePred MapperParameter.WithinLimits := fun _ => inferInstanceAs (Decidable (_ ∧ _))

namespace LandingManager

/-- `initParameters`; the maxima are whole numbers when ROS supplies them. -/
def initParameters (config : LandingManagerConfiguration) (maxSearchAltitudeM maxWindowSizeM : Option Int32)
    (s : LandingManager) : LandingManager :=
  { s with
    config := config
    parameter :=
      { searchAltitudeM := .ofRat (15 / 2)
        windowSizeM := 2
        maxSearchAltitudeM := .ofRat (maxSearchAltitudeM.getD 8).toInt
        maxWindowSizeM := .ofRat (maxWindowSizeM.getD 8).toInt } }

/-! ### One parameter -/

/-- The setter refuses the value. -/
def refused (value maximum : Double) : Bool := value.lt 1 || maximum.lt value

/-- What `updateParameters` leaves of a configured value. -/
def stored (value maximum fallback : Double) : Double :=
  if value.eq 0 || refused value maximum then fallback else value.toFloat

/-- A configured value after which the parameter lies in its range: a number, the fallback being in range where it is
refused, and the nearest `float` not above the maximum where it is not. -/
def Suits (value maximum fallback : Double) : Prop :=
  value ≠ .nan ∧ (refused value maximum → fallback.le maximum) ∧
    (¬ refused value maximum → value.toFloat.le maximum)

instance {value maximum fallback : Double} : Decidable (Suits value maximum fallback) :=
  inferInstanceAs (Decidable (_ ∧ _ ∧ _))

variable {value maximum fallback : Double}

/-- Zero is refused by every setter. -/
theorem refused_of_eq_zero (h : value.eq 0) : refused value maximum := by
  obtain rfl := Double.eq_of_eq_true h
  have hlt : (0 : Double).lt 1 := by decide +kernel
  exact Bool.or_eq_true_iff.mpr (.inl hlt)

theorem stored_eq : stored value maximum fallback = if refused value maximum then fallback else value.toFloat := by
  have hiff : (value.eq 0 || refused value maximum) = refused value maximum := by
    cases hzero : value.eq 0 with
    | false => rfl
    | true => exact (refused_of_eq_zero hzero).symm
  rw [stored, hiff]

/-- A number that is not refused lies in the range. -/
theorem inRange_of_not_refused (hmaximum : maximum ≠ .nan) (hvalue : value ≠ .nan) (h : ¬ refused value maximum) :
    InRange value maximum := by
  obtain ⟨hlow, hhigh⟩ := not_or.mp (Bool.or_eq_true_iff.not.mp h)
  exact ⟨Double.le_of_not_lt (by decide +kernel) hvalue hlow, Double.le_of_not_lt hvalue hmaximum hhigh⟩

/-- The conversion to `float` does not fall below one. -/
theorem one_le_toFloat (h : (1 : Double).le value) : (1 : Double).le value.toFloat := by
  have hone : (1 : Double).toFloat = 1 := by decide +kernel
  have hmono := Double.toFloat_le_toFloat (by decide +kernel) h
  rw [hone] at hmono
  exact hmono

/-- **When one parameter ends up in its range.** -/
theorem inRange_stored_iff (hmaximum : (1 : Double).le maximum) (hfallback : (1 : Double).le fallback) :
    InRange (stored value maximum fallback) maximum ↔ Suits value maximum fallback := by
  rw [stored_eq]
  by_cases hrefused : refused value maximum
  · rw [if_pos hrefused]
    constructor
    · rintro ⟨-, hhigh⟩
      refine ⟨?_, fun _ => hhigh, fun h => absurd hrefused h⟩
      rintro rfl
      cases maximum <;> exact absurd hrefused Bool.false_ne_true
    · rintro ⟨-, hhigh, -⟩
      exact ⟨hfallback, hhigh hrefused⟩
  · rw [if_neg hrefused]
    constructor
    · rintro ⟨hlow, hhigh⟩
      refine ⟨?_, fun h => absurd h hrefused, fun _ => hhigh⟩
      rintro rfl
      exact (Double.ne_nan_of_le hlow).2 rfl
    · rintro ⟨hnumber, -, hhigh⟩
      have hvalue := inRange_of_not_refused (Double.ne_nan_of_le hmaximum).2 hnumber hrefused
      exact ⟨one_le_toFloat hvalue.1, hhigh hrefused⟩

/-- Where the maximum is a `float` itself, no value that is accepted leaves the range by its conversion. -/
theorem suits_iff_of_float (hmaximum : (1 : Double).le maximum) (hfloat : maximum.toFloat = maximum) :
    Suits value maximum fallback ↔ value ≠ .nan ∧ (refused value maximum → fallback.le maximum) := by
  refine ⟨fun h => ⟨h.1, h.2.1⟩, fun ⟨hnumber, hrange⟩ => ⟨hnumber, hrange, fun hrefused => ?_⟩⟩
  have hvalue := inRange_of_not_refused (Double.ne_nan_of_le hmaximum).2 hnumber hrefused
  have hmono := Double.toFloat_le_toFloat (Double.le_trans (by decide +kernel) hvalue.1) hvalue.2
  rw [hfloat] at hmono
  exact hmono

/-! ### Runs -/

/-- One call of `updateParameters` sets both parameters and leaves the maxima alone. -/
theorem updateParameters_parameter (config : LandingManagerConfiguration) (s : LandingManager) :
    (s.updateParameters config).parameter =
      { s.parameter with
        searchAltitudeM :=
          stored config.safeLandingDistanceToGround s.parameter.maxSearchAltitudeM (.ofRat (15 / 2))
        windowSizeM := stored config.safeLandingAreaSquareSize s.parameter.maxWindowSizeM 2 } := by
  have haltitude : (setSearchAltitudeM config.safeLandingDistanceToGround s.parameter) =
      if refused config.safeLandingDistanceToGround s.parameter.maxSearchAltitudeM then (false, s.parameter)
      else (true, { s.parameter with searchAltitudeM := config.safeLandingDistanceToGround.toFloat }) := by
    unfold setSearchAltitudeM refused
    split_ifs <;> simp_all
  have hwindow : ∀ p : MapperParameter, setSearchWindowM config.safeLandingAreaSquareSize p =
      if refused config.safeLandingAreaSquareSize p.maxWindowSizeM then (false, p)
      else (true, { p with windowSizeM := config.safeLandingAreaSquareSize.toFloat }) := by
    intro p
    unfold setSearchWindowM refused
    split_ifs <;> simp_all
  unfold updateParameters stored
  dsimp only
  rw [haltitude, hwindow]
  split_ifs <;> simp_all

/-- A configuration after which both parameters lie in their ranges. -/
def SuitsConfig (p : MapperParameter) (config : LandingManagerConfiguration) : Prop :=
  Suits config.safeLandingDistanceToGround p.maxSearchAltitudeM (.ofRat (15 / 2)) ∧
    Suits config.safeLandingAreaSquareSize p.maxWindowSizeM 2

instance : DecidableRel SuitsConfig := fun _ _ => inferInstanceAs (Decidable (_ ∧ _))

/-- `updateParameters` as the step of a run. -/
abbrev update (s : LandingManager) (config : LandingManagerConfiguration) : LandingManager := s.updateParameters config

theorem maxima_run (s : LandingManager) (configs : List LandingManagerConfiguration) :
    (run update s configs).parameter.maxSearchAltitudeM = s.parameter.maxSearchAltitudeM ∧
      (run update s configs).parameter.maxWindowSizeM = s.parameter.maxWindowSizeM := by
  induction configs using List.reverseRecOn with
  | nil => exact ⟨rfl, rfl⟩
  | append_singleton configs config ih =>
    rw [run_concat, update, updateParameters_parameter]
    exact ih

/-- After a call of a run both parameters lie in their ranges exactly when the configuration of that call suits. -/
theorem withinLimits_concat_iff {s : LandingManager} (haltitude : (1 : Double).le s.parameter.maxSearchAltitudeM)
    (hwindow : (1 : Double).le s.parameter.maxWindowSizeM) (configs : List LandingManagerConfiguration)
    (config : LandingManagerConfiguration) :
    (run update s (configs ++ [config])).parameter.WithinLimits ↔ SuitsConfig s.parameter config := by
  obtain ⟨hmaxAltitude, hmaxWindow⟩ := maxima_run s configs
  rw [run_concat, update, updateParameters_parameter, MapperParameter.WithinLimits, SuitsConfig]
  dsimp only
  rw [hmaxAltitude, hmaxWindow, inRange_stored_iff haltitude (by decide +kernel),
    inRange_stored_iff hwindow (by decide +kernel)]

/-- **When the parameters of the mapper stay in range**: after every call of a run both lie between one and their
maxima exactly when every configuration of the run suits. -/
theorem withinLimits_run_iff (s : LandingManager) (configs : List LandingManagerConfiguration)
    (haltitude : (1 : Double).le s.parameter.maxSearchAltitudeM)
    (hwindow : (1 : Double).le s.parameter.maxWindowSizeM) :
    (∀ before config, before ++ [config] <+: configs →
        (run update s (before ++ [config])).parameter.WithinLimits) ↔
      ∀ config ∈ configs, SuitsConfig s.parameter config := by
  constructor
  · intro hall config hmem
    obtain ⟨before, after, rfl⟩ := List.append_of_mem hmem
    have hprefix : before ++ [config] <+: before ++ config :: after := ⟨after, by simp⟩
    exact (withinLimits_concat_iff haltitude hwindow before config).mp (hall before config hprefix)
  · intro hall before config hprefix
    have hmem : config ∈ configs := hprefix.subset (by simp)
    exact (withinLimits_concat_iff haltitude hwindow before config).mpr (hall config hmem)

/-- The values of the configuration file, then no settings at all. -/
def ordinaryConfigs : List LandingManagerConfiguration :=
  [{ safeLandingDistanceToGround := 6, safeLandingAreaSquareSize := 2 }, {}]

/-- Values out of every range. -/
def extremeConfig : LandingManagerConfiguration :=
  { safeLandingDistanceToGround := 100, safeLandingAreaSquareSize := .inf true }

theorem withinLimits_run_extreme :
    (run update (initParameters {} none none {}) (ordinaryConfigs ++ [extremeConfig])).parameter.WithinLimits :=
  (withinLimits_run_iff (initParameters {} none none {}) (ordinaryConfigs ++ [extremeConfig]) (by decide +kernel)
    (by decide +kernel)).mpr (by decide +kernel) ordinaryConfigs extremeConfig List.prefix_rfl

/-- NaN is stored, and with maxima below the fixed numbers these are stored all the same. -/
theorem updateParameters_out_of_range :
    ¬ ((initParameters {} none none {}).updateParameters
        { safeLandingDistanceToGround := .nan }).parameter.WithinLimits ∧
      ¬ ((initParameters {} (some 5) none {}).updateParameters {}).parameter.WithinLimits ∧
      ¬ ((initParameters {} none (some 1) {}).updateParameters {}).parameter.WithinLimits := by
  decide +kernel

/-! ### Whole numbers as maxima -/

/-- A whole number as ROS supplies it, up to `2 ^ 24`, is a `float`. -/
theorem suits_iff_of_whole {n : ℤ} (hone : 1 ≤ n) (hn : n ≤ 2 ^ 24) :
    Suits value (.ofRat n) fallback ↔ value ≠ .nan ∧ (refused value (.ofRat n) → fallback.le (.ofRat n)) := by
  have hle : (1 : Double).le (.ofRat n) := Double.ofRat_le_ofRat (by norm_num) (by exact_mod_cast hone)
  exact suits_iff_of_float hle (Double.toFloat_intCast (abs_le.mpr ⟨by omega, hn⟩))

/-- Without maxima from ROS both parameters stay in range exactly as long as no value is NaN. -/
theorem withinLimits_default_iff (initial : LandingManagerConfiguration) (s : LandingManager)
    (configs : List LandingManagerConfiguration) :
    (∀ before config, before ++ [config] <+: configs →
        (run update (initParameters initial none none s) (before ++ [config])).parameter.WithinLimits) ↔
      ∀ config ∈ configs, config.safeLandingDistanceToGround ≠ .nan ∧ config.safeLandingAreaSquareSize ≠ .nan := by
  have hmaximum : (1 : Double).le (.ofRat (8 : ℤ)) := by decide +kernel
  have haltitude : (Double.ofRat (15 / 2)).le (.ofRat (8 : ℤ)) := by decide +kernel
  have hwindow : (2 : Double).le (.ofRat (8 : ℤ)) := by decide +kernel
  rw [withinLimits_run_iff _ _ hmaximum hmaximum]
  refine forall₂_congr fun config _ => and_congr ?_ ?_
  · exact (suits_iff_of_whole (by decide) (by decide)).trans (and_iff_left fun _ => haltitude)
  · exact (suits_iff_of_whole (by decide) (by decide)).trans (and_iff_left fun _ => hwindow)

end LandingManager

end AutopilotManager
