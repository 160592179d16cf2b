import Mathlib.Data.Int.Log
import Mathlib.Data.Rat.Floor
import Mathlib.Algebra.Order.Field.Rat
import Mathlib.Tactic.Ring

/-!
# Lib.Double — IEEE 754 numbers as exact rationals

`Format.round` rounds a rational to the nearest value of a binary format, ties to even, and a `Double` is NaN,
an infinity or a rational that binary64 represents: a fixed point of the rounding of magnitude at most
`DBL_MAX`.  Every operation is the exact result rounded once (`ofRat`), overflow gives an infinity.  The sign of
zero and the payload of NaN are not kept.
-/

namespace AutopilotManager.Lib

/-! ### Rounding -/

/-- The nearest integer, ties to even. -/
def roundHalfEven (q : ℚ) : ℤ :=
  if q - ⌊q⌋ < 1 / 2 then ⌊q⌋
  else if 1 / 2 < q - ⌊q⌋ then ⌊q⌋ + 1
  else if ⌊q⌋ % 2 = 0 then ⌊q⌋ else ⌊q⌋ + 1

@[simp] theorem roundHalfEven_intCast (n : ℤ) : roundHalfEven n = n := by
  simp [roundHalfEven]

theorem floor_le_roundHalfEven (q : ℚ) : ⌊q⌋ ≤ roundHalfEven q := by
  unfold roundHalfEven
  split_ifs <;> omega

theorem roundHalfEven_le_ceil (q : ℚ) : roundHalfEven q ≤ ⌈q⌉ := by
  rcases (Int.floor_le q).eq_or_lt with h | h
  · rw [← h]; simp
  · have h1 : ⌊q⌋ < ⌈q⌉ := by
      have := lt_of_lt_of_le h (Int.le_ceil q)
      exact_mod_cast this
    unfold roundHalfEven
    split_ifs <;> omega

/-- Rounding stays between integer bounds. -/
theorem abs_roundHalfEven_le {q : ℚ} {n : ℤ} (h : |q| ≤ n) : |roundHalfEven q| ≤ n := by
  obtain ⟨h1, h2⟩ := abs_le.mp h
  refine abs_le.mpr ⟨?_, ?_⟩
  · exact le_trans (Int.le_floor.mpr (by push_cast; exact h1)) (floor_le_roundHalfEven q)
  · exact le_trans (roundHalfEven_le_ceil q) (Int.ceil_le.mpr h2)

/-- Rounding keeps the order. -/
theorem roundHalfEven_mono {p q : ℚ} (h : p ≤ q) : roundHalfEven p ≤ roundHalfEven q := by
  rcases (Int.floor_le_floor h).eq_or_lt with hfloor | hfloor
  · -- between the same integers, the fractions decide
    unfold roundHalfEven
    rw [hfloor]
    have hp : p - ⌊q⌋ ≤ q - ⌊q⌋ := by linarith
    split_ifs <;> first | omega | (exfalso; linarith)
  · have hup : roundHalfEven p ≤ ⌊p⌋ + 1 := by
      unfold roundHalfEven
      split_ifs <;> omega
    have hdown := floor_le_roundHalfEven q
    omega

/-- A binary format: the bits of the significand and the exponent of the smallest subnormal. -/
structure Format where
  precision : ℕ
  minExp : ℤ
  precision_pos : 0 < precision

def binary64 : Format := ⟨53, -1074, by decide⟩
def binary32 : Format := ⟨24, -149, by decide⟩

namespace Format

variable (f : Format)

/-- The exponent of the last bit of the significand of `q`. -/
def ulpExp (q : ℚ) : ℤ := max (Int.log 2 |q| - (f.precision - 1)) f.minExp

/-- The nearest value of the format (of unbounded range), ties to even. -/
def round (q : ℚ) : ℚ := roundHalfEven (q / 2 ^ f.ulpExp q) * 2 ^ f.ulpExp q

theorem round_eq_self_of_int {q : ℚ} {n : ℤ} (h : q / 2 ^ f.ulpExp q = n) : f.round q = q := by
  have h2 : (2 : ℚ) ^ f.ulpExp q ≠ 0 := zpow_ne_zero _ (by norm_num)
  rw [round, h, roundHalfEven_intCast, ← h, div_mul_cancel₀ _ h2]

theorem abs_scaled_le (q : ℚ) : |q / 2 ^ f.ulpExp q| ≤ ((2 ^ f.precision : ℤ) : ℚ) := by
  have hpos : (0 : ℚ) < 2 ^ f.ulpExp q := zpow_pos (by norm_num) _
  rw [abs_div, abs_of_pos hpos, div_le_iff₀ hpos]
  have hlt : |q| < 2 ^ (Int.log 2 |q| + 1) := Int.lt_zpow_succ_log_self (by norm_num) |q|
  have hexp : Int.log 2 |q| + 1 ≤ (f.precision : ℤ) + f.ulpExp q := by
    have := le_max_left (Int.log 2 |q| - (f.precision - 1)) f.minExp
    unfold ulpExp
    omega
  calc |q| ≤ 2 ^ (Int.log 2 |q| + 1) := hlt.le
    _ ≤ 2 ^ ((f.precision : ℤ) + f.ulpExp q) := zpow_le_zpow_right₀ (by norm_num) hexp
    _ = ((2 ^ f.precision : ℤ) : ℚ) * 2 ^ f.ulpExp q := by
      rw [zpow_add₀ (by norm_num)]; push_cast; rw [zpow_natCast]

/-- A significand of at most `precision` bits (`2 ^ precision` included) over an exponent in range is a value of
the format. -/
theorem round_significand {m : ℤ} {e : ℤ} (hm : |m| ≤ 2 ^ f.precision) (he : f.minExp ≤ e) :
    f.round (m * 2 ^ e) = m * 2 ^ e := by
  have h2 : (2 : ℚ) ≠ 0 := by norm_num
  rcases eq_or_ne m 0 with rfl | hm0
  · have h0 := roundHalfEven_intCast 0
    rw [Int.cast_zero] at h0
    simp [round, h0]
  obtain ⟨q, hq⟩ : ∃ q : ℚ, q = m * 2 ^ e := ⟨_, rfl⟩
  rw [← hq]
  have hq0 : 0 < |q| := by
    rw [hq]; exact abs_pos.mpr (mul_ne_zero (by exact_mod_cast hm0) (zpow_ne_zero _ h2))
  have habs : |q| = ((|m| : ℤ) : ℚ) * 2 ^ e := by
    rw [hq, abs_mul, abs_of_pos (zpow_pos (by norm_num : (0 : ℚ) < 2) e)]; push_cast; rfl
  have hlog : (2 : ℚ) ^ Int.log 2 |q| ≤ |q| := Int.zpow_log_le_self (by norm_num) hq0
  rcases hm.eq_or_lt with htop | hlt
  · -- `|m| = 2 ^ precision`: the last bit may be worth `2 ^ (e + 1)`, and `m` is even
    have hle : Int.log 2 |q| ≤ f.precision + e := by
      have : (2 : ℚ) ^ Int.log 2 |q| ≤ 2 ^ ((f.precision : ℤ) + e) := by
        refine hlog.trans (le_of_eq ?_)
        rw [habs, htop, zpow_add₀ h2]; push_cast; rw [zpow_natCast]
      exact (zpow_le_zpow_iff_right₀ (by norm_num)).mp this
    obtain ⟨k, hk⟩ : ∃ k : ℤ, m = 2 * k := by
      have hdvd : (2 : ℤ) ∣ |m| := by rw [htop]; exact dvd_pow_self 2 f.precision_pos.ne'
      exact (dvd_abs 2 m).mp hdvd
    have hu : f.ulpExp q ≤ e + 1 := max_le (by omega) (by omega)
    obtain ⟨n, hn⟩ := Int.eq_ofNat_of_zero_le (sub_nonneg.mpr hu)
    refine f.round_eq_self_of_int (n := k * 2 ^ n) ?_
    rw [div_eq_iff (zpow_ne_zero _ h2)]
    have he1 : 1 + e = n + f.ulpExp q := by omega
    calc q = k * (2 * 2 ^ e) := by rw [hq, hk]; push_cast; ring
      _ = k * 2 ^ ((n : ℤ) + f.ulpExp q) := by rw [← zpow_one_add₀ h2, he1]
      _ = ((k * 2 ^ n : ℤ) : ℚ) * 2 ^ f.ulpExp q := by
        rw [zpow_add₀ h2, zpow_natCast]; push_cast; ring
  · have hle : Int.log 2 |q| < f.precision + e := by
      have : (2 : ℚ) ^ Int.log 2 |q| < 2 ^ ((f.precision : ℤ) + e) := by
        refine hlog.trans_lt ?_
        rw [habs, zpow_add₀ h2, zpow_natCast]
        exact mul_lt_mul_of_pos_right (by exact_mod_cast hlt) (zpow_pos (by norm_num) _)
      exact (zpow_lt_zpow_iff_right₀ (by norm_num)).mp this
    have hu : f.ulpExp q ≤ e := max_le (by omega) he
    obtain ⟨n, hn⟩ := Int.eq_ofNat_of_zero_le (sub_nonneg.mpr hu)
    refine f.round_eq_self_of_int (n := m * 2 ^ n) ?_
    rw [div_eq_iff (zpow_ne_zero _ h2)]
    have he1 : e = n + f.ulpExp q := by omega
    calc q = m * 2 ^ ((n : ℤ) + f.ulpExp q) := by rw [← he1]; exact hq
      _ = ((m * 2 ^ n : ℤ) : ℚ) * 2 ^ f.ulpExp q := by
        rw [zpow_add₀ h2, zpow_natCast]; push_cast; ring

/-- **Rounding is idempotent.** -/
@[simp] theorem round_round (q : ℚ) : f.round (f.round q) = f.round q :=
  f.round_significand (abs_roundHalfEven_le (f.abs_scaled_le q)) (le_max_right _ _)

/-- With its last bit below `2 ^ e`, a number is rounded to at most the power of two that has its last bit there. -/
theorem round_le_of_ulpExp_lt {p : ℚ} {e : ℤ} (h : f.ulpExp p < e) : f.round p ≤ 2 ^ (f.precision - 1 + e) := by
  have hpos : (0 : ℚ) < 2 ^ f.ulpExp p := zpow_pos (by norm_num) _
  have hround : roundHalfEven (p / 2 ^ f.ulpExp p) ≤ 2 ^ f.precision :=
    (abs_le.mp (abs_roundHalfEven_le (f.abs_scaled_le p))).2
  calc f.round p ≤ ((2 ^ f.precision : ℤ) : ℚ) * 2 ^ f.ulpExp p :=
        mul_le_mul_of_nonneg_right (by exact_mod_cast hround) hpos.le
    _ = 2 ^ ((f.precision : ℤ) + f.ulpExp p) := by
        rw [zpow_add₀ (by norm_num)]; push_cast; rw [zpow_natCast]
    _ ≤ 2 ^ (f.precision - 1 + e) := zpow_le_zpow_right₀ (by norm_num) (by omega)

/-- A normal number is rounded to at least its power of two. -/
theorem zpow_log_le_round {q : ℚ} (hq : 0 < q) (h : f.minExp < f.ulpExp q) : 2 ^ Int.log 2 q ≤ f.round q := by
  have hpos : (0 : ℚ) < 2 ^ f.ulpExp q := zpow_pos (by norm_num) _
  have hulp : f.ulpExp q = Int.log 2 q - (f.precision - 1) := by
    unfold ulpExp at h ⊢
    rw [abs_of_pos hq] at h ⊢
    omega
  have hprecision := f.precision_pos
  have hsplit : (2 : ℚ) ^ Int.log 2 q = ((2 ^ (f.precision - 1) : ℤ) : ℚ) * 2 ^ f.ulpExp q := by
    have hexp : Int.log 2 q = ((f.precision - 1 : ℕ) : ℤ) + f.ulpExp q := by omega
    rw [hexp, zpow_add₀ (by norm_num)]; push_cast; rw [zpow_natCast]
  have hle : (((2 ^ (f.precision - 1) : ℤ)) : ℚ) ≤ q / 2 ^ f.ulpExp q := by
    rw [le_div_iff₀ hpos, ← hsplit]
    exact Int.zpow_log_le_self (by norm_num) hq
  have hround : (2 ^ (f.precision - 1) : ℤ) ≤ roundHalfEven (q / 2 ^ f.ulpExp q) :=
    (Int.le_floor.mpr hle).trans (floor_le_roundHalfEven _)
  rw [hsplit]
  exact mul_le_mul_of_nonneg_right (by exact_mod_cast hround) hpos.le

theorem round_nonneg {q : ℚ} (hq : 0 ≤ q) : 0 ≤ f.round q := by
  have hpos : (0 : ℚ) < 2 ^ f.ulpExp q := zpow_pos (by norm_num) _
  have hfloor : 0 ≤ ⌊q / 2 ^ f.ulpExp q⌋ := Int.floor_nonneg.mpr (div_nonneg hq hpos.le)
  exact mul_nonneg (by exact_mod_cast hfloor.trans (floor_le_roundHalfEven _)) hpos.le

theorem round_nonpos {q : ℚ} (hq : q ≤ 0) : f.round q ≤ 0 := by
  have hpos : (0 : ℚ) < 2 ^ f.ulpExp q := zpow_pos (by norm_num) _
  have hscaled : q / 2 ^ f.ulpExp q ≤ 0 := div_nonpos_of_nonpos_of_nonneg hq hpos.le
  have hround : roundHalfEven (q / 2 ^ f.ulpExp q) ≤ 0 :=
    (roundHalfEven_le_ceil _).trans (Int.ceil_le.mpr (by simpa using hscaled))
  exact mul_nonpos_of_nonpos_of_nonneg (by exact_mod_cast hround) hpos.le

/-- **Rounding keeps the order** of numbers that are not negative. -/
theorem round_mono {p q : ℚ} (hp : 0 ≤ p) (h : p ≤ q) : f.round p ≤ f.round q := by
  rcases hp.eq_or_lt with rfl | hp
  · rw [show f.round 0 = 0 by simpa using f.round_significand (m := 0) (e := f.minExp) (by simp) le_rfl]
    exact f.round_nonneg h
  have hq : 0 < q := hp.trans_le h
  have hulp : f.ulpExp p ≤ f.ulpExp q := by
    unfold ulpExp
    rw [abs_of_pos hp, abs_of_pos hq]
    have := Int.log_mono_right (b := 2) hp h
    omega
  rcases hulp.eq_or_lt with heq | hlt
  · unfold round
    rw [heq]
    have hpos : (0 : ℚ) < 2 ^ f.ulpExp q := zpow_pos (by norm_num) _
    refine mul_le_mul_of_nonneg_right ?_ hpos.le
    exact_mod_cast roundHalfEven_mono (div_le_div_of_nonneg_right h hpos.le)
  · -- a power of two lies between the two roundings
    have hmin : f.minExp < f.ulpExp q := (le_max_right _ _).trans_lt hlt
    have hlog : f.precision - 1 + f.ulpExp q = Int.log 2 q := by
      unfold ulpExp at hmin ⊢
      rw [abs_of_pos hq] at hmin ⊢
      omega
    calc f.round p ≤ 2 ^ (f.precision - 1 + f.ulpExp q) := f.round_le_of_ulpExp_lt hlt
      _ = 2 ^ Int.log 2 q := by rw [hlog]
      _ ≤ f.round q := f.zpow_log_le_round hq hmin

end Format

/-! ### `double` -/

/-- `DBL_MAX`, the largest finite binary64. -/
def dblMax : ℚ := (2 ^ 53 - 1) * 2 ^ 971

/-- The rationals that binary64 represents. -/
abbrev Finite64 : Type := {q : ℚ // binary64.round q = q ∧ |q| ≤ dblMax}

inductive Double
  | nan
  | inf (negative : Bool)
  | fin (value : Finite64)
  deriving DecidableEq

namespace Double

/-- The double nearest to an exact result; out of range it is an infinity. -/
def ofRat (q : ℚ) : Double :=
  if h : |binary64.round q| ≤ dblMax then fin ⟨binary64.round q, binary64.round_round q, h⟩
  else inf (decide (q < 0))

instance (n : ℕ) : OfNat Double n := ⟨ofRat n⟩

def isFinite : Double → Bool
  | fin _ => true
  | _ => false

def neg : Double → Double
  | nan => nan
  | inf s => inf !s
  | fin q => ofRat (-q.1)

instance : Neg Double := ⟨neg⟩

def abs : Double → Double
  | nan => nan
  | inf _ => inf false
  | fin q => ofRat |q.1|

def add : Double → Double → Double
  | nan, _ => nan
  | _, nan => nan
  | inf s, inf t => if s = t then inf s else nan
  | inf s, fin _ => inf s
  | fin _, inf t => inf t
  | fin p, fin q => ofRat (p.1 + q.1)

instance : Add Double := ⟨add⟩
instance : Sub Double := ⟨fun x y => add x (neg y)⟩

/-- An infinity times a finite number. -/
def infTimes (s : Bool) (q : ℚ) : Double :=
  if q = 0 then nan else inf (s != decide (q < 0))

def mul : Double → Double → Double
  | nan, _ => nan
  | _, nan => nan
  | inf s, inf t => inf (s != t)
  | inf s, fin q => infTimes s q.1
  | fin p, inf t => infTimes t p.1
  | fin p, fin q => ofRat (p.1 * q.1)

instance : Mul Double := ⟨mul⟩

/-- `x / y` for a nonzero finite constant `y`. -/
def divConst (x : Double) (y : ℚ) : Double :=
  match x with
  | nan => nan
  | inf s => inf (s != decide (y < 0))
  | fin q => ofRat (q.1 / y)

def div : Double → Double → Double
  | nan, _ => nan
  | _, nan => nan
  | inf _, inf _ => nan
  | inf s, fin q => inf (s != decide (q.1 < 0))
  | fin _, inf _ => ofRat 0
  | fin p, fin q => if q.1 = 0 then (if p.1 = 0 then nan else inf (decide (p.1 < 0))) else ofRat (p.1 / q.1)

instance : Div Double := ⟨div⟩

/-- `FLT_MAX`, the largest finite binary32. -/
def fltMax : ℚ := (2 ^ 24 - 1) * 2 ^ 104

/-- The conversion to `float`; a `float` is kept as the double of the same value. -/
def toFloat : Double → Double
  | fin q => if |binary32.round q.1| ≤ fltMax then ofRat (binary32.round q.1) else inf (decide (q.1 < 0))
  | x => x

/-- `x < y`; false as soon as one side is NaN. -/
def lt : Double → Double → Bool
  | fin p, fin q => decide (p.1 < q.1)
  | fin _, inf t => !t
  | inf s, fin _ => s
  | inf s, inf t => s && !t
  | _, _ => false

/-- `x == y`; false as soon as one side is NaN. -/
def eq : Double → Double → Bool
  | fin p, fin q => decide (p.1 = q.1)
  | inf s, inf t => s == t
  | _, _ => false

def le (x y : Double) : Bool := lt x y || eq x y

/-! ### The order -/

theorem not_lt_self (x : Double) : ¬ x.lt x := by
  cases x <;> simp [lt]

theorem lt_trans {x y z : Double} (hxy : x.lt y) (hyz : y.lt z) : x.lt z := by
  cases x <;> cases y <;> cases z <;> simp_all [lt]
  exact hxy.trans hyz

/-- What is below something or above it is a number. -/
theorem ne_nan_of_lt {x y : Double} (h : x.lt y) : x ≠ nan ∧ y ≠ nan := by
  cases x <;> cases y <;> simp_all [lt]

/-- Two numbers of which none is below the other are equal. -/
theorem eq_of_not_lt {x y : Double} (hx : x ≠ nan) (hy : y ≠ nan) (hxy : ¬ x.lt y) (hyx : ¬ y.lt x) : x = y := by
  cases x with
  | nan => exact absurd rfl hx
  | inf s =>
    cases y with
    | nan => exact absurd rfl hy
    | inf t => cases s <;> cases t <;> simp_all [lt]
    | fin q => cases s <;> simp_all [lt]
  | fin p =>
    cases y with
    | nan => exact absurd rfl hy
    | inf t => cases t <;> simp_all [lt]
    | fin q =>
      have hle : q.1 ≤ p.1 := not_lt.mp fun h => hxy (decide_eq_true h)
      have hge : p.1 ≤ q.1 := not_lt.mp fun h => hyx (decide_eq_true h)
      exact congrArg fin (Subtype.ext (le_antisymm hge hle))

theorem eq_of_eq_true {x y : Double} (h : x.eq y) : x = y := by
  cases x with
  | nan => exact absurd h Bool.false_ne_true
  | inf s =>
    cases y with
    | inf t => exact congrArg inf (eq_of_beq h)
    | _ => exact absurd h Bool.false_ne_true
  | fin p =>
    cases y with
    | fin q => exact congrArg fin (Subtype.ext (of_decide_eq_true h))
    | _ => exact absurd h Bool.false_ne_true

/-- A number is equal to itself and to nothing else, NaN to nothing. -/
theorem eq_iff {x y : Double} : x.eq y ↔ x = y ∧ x ≠ nan := by
  constructor
  · intro h
    refine ⟨eq_of_eq_true h, ?_⟩
    rintro rfl
    exact Bool.false_ne_true h
  · rintro ⟨rfl, hx⟩
    cases x with
    | nan => exact absurd rfl hx
    | inf s => exact beq_self_eq_true s
    | fin q => exact decide_eq_true rfl

theorem not_lt_of_le {x y : Double} (h : x.le y) : ¬ y.lt x := by
  intro hyx
  rcases Bool.or_eq_true_iff.mp h with hxy | heq
  · exact not_lt_self x (lt_trans hxy hyx)
  · rw [eq_of_eq_true heq] at hyx
    exact not_lt_self y hyx

theorem le_of_not_lt {x y : Double} (hx : x ≠ nan) (hy : y ≠ nan) (h : ¬ y.lt x) : x.le y := by
  by_cases hxy : x.lt y
  · exact Bool.or_eq_true_iff.mpr (.inl hxy)
  · obtain rfl := eq_of_not_lt hx hy hxy h
    exact Bool.or_eq_true_iff.mpr (.inr (eq_iff.mpr ⟨rfl, hx⟩))

theorem le_trans {x y z : Double} (hxy : x.le y) (hyz : y.le z) : x.le z := by
  rcases Bool.or_eq_true_iff.mp hxy with hlt | heq
  · rcases Bool.or_eq_true_iff.mp hyz with hlt' | heq'
    · exact Bool.or_eq_true_iff.mpr (.inl (lt_trans hlt hlt'))
    · rw [← eq_of_eq_true heq']
      exact hxy
  · rw [eq_of_eq_true heq]
    exact hyz

theorem lt_trans_of_le {x y z : Double} (hxy : x.le y) (hyz : y.lt z) : x.lt z := by
  rcases Bool.or_eq_true_iff.mp hxy with hlt | heq
  · exact lt_trans hlt hyz
  · rw [eq_of_eq_true heq]
    exact hyz

/-- What is comparable is a number. -/
theorem ne_nan_of_le {x y : Double} (h : x.le y) : x ≠ nan ∧ y ≠ nan := by
  cases x <;> cases y <;> simp_all [le, lt, eq]

/-- A number is converted to a number. -/
theorem toFloat_ne_nan {x : Double} (hx : x ≠ nan) : x.toFloat ≠ nan := by
  have hofRat : ∀ q, ofRat q ≠ nan := fun q => by
    unfold ofRat
    split_ifs <;> simp
  cases x with
  | nan => exact absurd rfl hx
  | inf s => exact hx
  | fin q =>
    rw [toFloat]
    split_ifs
    · exact hofRat _
    · simp

/-- Rounding does not leave the finite range. -/
theorem abs_round_le_dblMax {q : ℚ} (h : |q| ≤ dblMax) : |binary64.round q| ≤ dblMax := by
  have h2 : (2 : ℚ) ≠ 0 := by norm_num
  have hpos : (0 : ℚ) < 2 ^ binary64.ulpExp q := zpow_pos (by norm_num) _
  have hu : binary64.ulpExp q ≤ 971 := by
    rcases (abs_nonneg q).eq_or_lt with h0 | h0
    · rw [Format.ulpExp, ← h0]; decide +kernel
    refine max_le ?_ (by decide)
    have hlog : Int.log 2 |q| < 1024 := by
      have : (2 : ℚ) ^ Int.log 2 |q| < 2 ^ (1024 : ℤ) := by
        refine lt_of_le_of_lt ((Int.zpow_log_le_self (by norm_num) h0).trans h) ?_
        decide +kernel
      exact (zpow_lt_zpow_iff_right₀ (by norm_num)).mp this
    have : (binary64.precision : ℤ) = 53 := rfl
    omega
  obtain ⟨n, hn⟩ := Int.eq_ofNat_of_zero_le (sub_nonneg.mpr hu)
  -- in units of the last place, `DBL_MAX` is the integer `(2 ^ 53 - 1) * 2 ^ n`
  have hmax : dblMax = (((2 ^ 53 - 1) * 2 ^ n : ℤ) : ℚ) * 2 ^ binary64.ulpExp q := by
    have : (2 : ℚ) ^ (971 : ℤ) = 2 ^ (n : ℤ) * 2 ^ binary64.ulpExp q := by
      rw [← zpow_add₀ h2]; congr 1; omega
    rw [dblMax, ← zpow_ofNat (2 : ℚ) 971, this]
    push_cast
    rw [zpow_natCast]; ring
  have hscaled : |q / 2 ^ binary64.ulpExp q| ≤ (((2 ^ 53 - 1) * 2 ^ n : ℤ) : ℚ) := by
    rw [abs_div, abs_of_pos hpos, div_le_iff₀ hpos, ← hmax]; exact h
  rw [Format.round, abs_mul, abs_of_pos hpos, hmax]
  exact mul_le_mul_of_nonneg_right (by exact_mod_cast abs_roundHalfEven_le hscaled) hpos.le

theorem ofRat_eq_fin {q : ℚ} (h : |q| ≤ dblMax) : ∃ v, ofRat q = fin v :=
  ⟨_, dif_pos (abs_round_le_dblMax h)⟩

/-- A represented value is the double nearest to itself. -/
@[simp] theorem ofRat_val (q : Finite64) : ofRat q.1 = fin q := by
  have h : |binary64.round q.1| ≤ dblMax := by rw [q.2.1]; exact q.2.2
  rw [ofRat, dif_pos h]
  exact congrArg fin (Subtype.ext q.2.1)

/-! ### Rounding and the order -/

/-- Numbers of which one is below the other or equal to it. -/
theorem fin_le_iff {p q : Finite64} : (fin p).le (fin q) ↔ p.1 ≤ q.1 := by
  simp [le, lt, eq, le_iff_lt_or_eq]

theorem ofRat_in_range {q : ℚ} (hq : 0 ≤ q) (h : binary64.round q ≤ dblMax) :
    ∃ v : Finite64, ofRat q = fin v ∧ v.1 = binary64.round q := by
  have habs : |binary64.round q| ≤ dblMax := by
    rw [abs_of_nonneg (binary64.round_nonneg hq)]
    exact h
  exact ⟨_, dif_pos habs, rfl⟩

theorem ofRat_overflow {q : ℚ} (hq : 0 ≤ q) (h : ¬ binary64.round q ≤ dblMax) : ofRat q = inf false := by
  have habs : ¬ |binary64.round q| ≤ dblMax := by
    rw [abs_of_nonneg (binary64.round_nonneg hq)]
    exact h
  have hsign : decide (q < 0) = false := decide_eq_false (not_lt.mpr hq)
  exact (dif_neg habs).trans (congrArg inf hsign)

theorem fin_le_inf (q : Finite64) : (fin q).le (inf false) := rfl

/-- The nearest doubles have the order of the numbers. -/
theorem ofRat_le_ofRat {p q : ℚ} (hp : 0 ≤ p) (h : p ≤ q) : (ofRat p).le (ofRat q) := by
  have hround : binary64.round p ≤ binary64.round q := binary64.round_mono hp h
  by_cases hq : binary64.round q ≤ dblMax
  · obtain ⟨u, hu, hpu⟩ := ofRat_in_range hp (hround.trans hq)
    obtain ⟨v, hv, hqv⟩ := ofRat_in_range (hp.trans h) hq
    rw [hu, hv, fin_le_iff, hpu, hqv]
    exact hround
  · rw [ofRat_overflow (hp.trans h) hq]
    by_cases hp' : binary64.round p ≤ dblMax
    · obtain ⟨u, hu, -⟩ := ofRat_in_range hp hp'
      rw [hu]
      exact fin_le_inf u
    · rw [ofRat_overflow hp hp']
      rfl

theorem toFloat_in_range {q : Finite64} (hq : 0 ≤ q.1) (h : binary32.round q.1 ≤ fltMax) :
    (fin q).toFloat = ofRat (binary32.round q.1) := by
  rw [toFloat, abs_of_nonneg (binary32.round_nonneg hq), if_pos h]

theorem toFloat_overflow {q : Finite64} (hq : 0 ≤ q.1) (h : ¬ binary32.round q.1 ≤ fltMax) :
    (fin q).toFloat = inf false := by
  rw [toFloat, abs_of_nonneg (binary32.round_nonneg hq), if_neg h, decide_eq_false (not_lt.mpr hq)]

theorem zero_le_fin_iff {q : Finite64} : le 0 (fin q) ↔ 0 ≤ q.1 := by
  have hround : binary64.round ((0 : ℕ) : ℚ) = 0 := by decide +kernel
  obtain ⟨v, hv, hv0⟩ := ofRat_in_range (q := ((0 : ℕ) : ℚ)) le_rfl (by rw [hround]; decide +kernel)
  have hzero : (0 : Double) = fin v := hv
  rw [hzero, fin_le_iff, hv0, hround]

/-- What is not below zero. -/
theorem zero_le_cases {x : Double} (hx : le 0 x) : x = inf false ∨ ∃ q, x = fin q ∧ 0 ≤ q.1 := by
  cases x with
  | nan => exact absurd hx (by decide +kernel)
  | inf s =>
    cases s with
    | true => exact absurd hx (by decide +kernel)
    | false => exact .inl rfl
  | fin q => exact .inr ⟨q, rfl, zero_le_fin_iff.mp hx⟩

theorem le_inf_of_zero_le {x : Double} (hx : le 0 x) : x.le (inf false) := by
  obtain rfl | ⟨q, rfl, -⟩ := zero_le_cases hx <;> rfl

theorem zero_le_ofRat {q : ℚ} (hq : 0 ≤ q) : le 0 (ofRat q) :=
  ofRat_le_ofRat (p := ((0 : ℕ) : ℚ)) le_rfl (by simpa using hq)

theorem zero_le_toFloat {q : Finite64} (hq : 0 ≤ q.1) : le 0 (fin q).toFloat := by
  by_cases h : binary32.round q.1 ≤ fltMax
  · rw [toFloat_in_range hq h]
    exact zero_le_ofRat (binary32.round_nonneg hq)
  · rw [toFloat_overflow hq h]
    decide +kernel

/-- **The conversion to `float` keeps the order** of values that are not negative. -/
theorem toFloat_le_toFloat {x y : Double} (hx : le 0 x) (h : x.le y) : x.toFloat.le y.toFloat := by
  obtain rfl | ⟨p, rfl, hp⟩ := zero_le_cases hx
  · cases y with
    | nan => exact absurd h (by decide)
    | inf t => cases t with
      | true => exact absurd h (by decide)
      | false => rfl
    | fin q => exact absurd h (by simp [le, lt, eq])
  · cases y with
    | nan => exact absurd h (by simp [le, lt, eq])
    | inf t => cases t with
      | true => exact absurd h (by simp [le, lt, eq])
      | false => exact le_inf_of_zero_le (zero_le_toFloat hp)
    | fin q =>
      have hpq : p.1 ≤ q.1 := fin_le_iff.mp h
      have hround : binary32.round p.1 ≤ binary32.round q.1 := binary32.round_mono hp hpq
      by_cases hq : binary32.round q.1 ≤ fltMax
      · rw [toFloat_in_range hp (hround.trans hq), toFloat_in_range (hp.trans hpq) hq]
        exact ofRat_le_ofRat (binary32.round_nonneg hp) hround
      · rw [toFloat_overflow (hp.trans hpq) hq]
        exact le_inf_of_zero_le (zero_le_toFloat hp)

/-- Quotients by a constant have the order of the dividends. -/
theorem divConst_le_divConst {x y : Double} (hx : le 0 x) (h : x.le y) {c : ℚ} (hc : 0 < c) :
    (x.divConst c).le (y.divConst c) := by
  have hsign : decide (c < 0) = false := decide_eq_false (not_lt.mpr hc.le)
  rcases zero_le_cases hx with rfl | ⟨p, rfl, hp⟩
  · rcases zero_le_cases (le_trans hx h) with rfl | ⟨q, rfl, -⟩
    · rw [divConst, hsign]
      rfl
    · exact absurd h (by simp [le, lt, eq])
  · have hquotient : 0 ≤ p.1 / c := div_nonneg hp hc.le
    rcases zero_le_cases (le_trans hx h) with rfl | ⟨q, rfl, -⟩
    · rw [divConst, divConst, hsign]
      exact le_inf_of_zero_le (zero_le_ofRat hquotient)
    · exact ofRat_le_ofRat hquotient (div_le_div_of_nonneg_right (fin_le_iff.mp h) hc.le)

theorem ofRat_nonpos {q : ℚ} (hq : q ≤ 0) : ofRat q = inf true ∨ ∃ v : Finite64, ofRat q = fin v ∧ v.1 ≤ 0 := by
  unfold ofRat
  split_ifs with h
  · exact .inr ⟨_, rfl, binary64.round_nonpos hq⟩
  · have hne : q ≠ 0 := by
      rintro rfl
      exact h (by decide +kernel)
    exact .inl (congrArg inf (decide_eq_true (lt_of_le_of_ne hq hne)))

/-- The quotient of a number below zero is not above zero. -/
theorem divConst_lt_of_neg {q c : ℚ} (hq : q < 0) (hc : 0 < c) {x : Finite64} (hx : 0 < x.1) :
    ((ofRat q).divConst c).lt (fin x) := by
  rcases ofRat_nonpos hq.le with hv | ⟨v, hv, hnonpos⟩
  · rw [hv, divConst, decide_eq_false (not_lt.mpr hc.le)]
    rfl
  · rw [hv, divConst]
    rcases ofRat_nonpos (div_nonpos_of_nonpos_of_nonneg hnonpos hc.le) with hw | ⟨w, hw, hle⟩
    · rw [hw]
      rfl
    · rw [hw]
      exact decide_eq_true (hle.trans_lt hx)

/-- Whole numbers up to `2 ^ 24` are `float`s. -/
theorem toFloat_intCast {n : ℤ} (h : |n| ≤ 2 ^ 24) : (ofRat n).toFloat = ofRat n := by
  have hbound : |(n : ℚ)| ≤ 2 ^ 24 := by exact_mod_cast h
  have hfltMax : (2 : ℚ) ^ 24 ≤ fltMax := by decide +kernel
  have hdblMax : fltMax ≤ dblMax := by decide +kernel
  have h53 : |n| ≤ 2 ^ binary64.precision := h.trans (by decide +kernel)
  have hround64 : binary64.round n = n := by
    simpa using binary64.round_significand (e := 0) h53 (by decide)
  have hround32 : binary32.round n = n := by
    simpa using binary32.round_significand (e := 0) h (by decide)
  have hrange : |(n : ℚ)| ≤ fltMax := hbound.trans hfltMax
  obtain ⟨v, hv⟩ : ∃ v : Finite64, v.1 = n := ⟨⟨n, hround64, hrange.trans hdblMax⟩, rfl⟩
  rw [← hv] at hrange hround32 ⊢
  rw [ofRat_val, toFloat, hround32, if_pos hrange, ofRat_val]

end Double

end AutopilotManager.Lib
