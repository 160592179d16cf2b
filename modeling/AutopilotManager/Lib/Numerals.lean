import AutopilotManager.Lib.Double
import Mathlib.Data.List.TakeWhile
import Mathlib.Tactic.IntervalCases

/-!
# Lib.Numerals — printing and reading numbers

`std::to_string` of integers and of `double`s (the conversion `%f`), and the readers `std::stoi` and `std::stod`
with their exceptions.  A printed integer is read back as it was (`stoi_toStringInt`); a printed `double` is
read back as the double nearest to its value rounded to six decimals (`stod_toStringDouble`).
-/

namespace AutopilotManager.Lib

/-! ### Printing numbers -/

/-- `std::to_string` of an integer. -/
def toStringInt (i : ℤ) : List Char :=
  if i < 0 then '-' :: Nat.toDigits 10 i.natAbs else Nat.toDigits 10 i.natAbs

/-- A number of millionths in fixed point, six digits after the point. -/
def fixedPoint (n : ℕ) : List Char :=
  Nat.toDigits 10 (n / 10 ^ 6) ++ '.' :: (Nat.toDigits 10 (n % 10 ^ 6)).leftpad 6 '0'

/-- The magnitude of a finite value in millionths, as `%f` rounds it. -/
def millionths (q : ℚ) : ℕ := (roundHalfEven (|q| * 10 ^ 6)).toNat

/-- `std::to_string` of a `double`, that is the conversion `%f`. -/
def toStringDouble : Double → List Char
  | .nan => "nan".toList
  | .inf s => if s then "-inf".toList else "inf".toList
  | .fin q => if q.1 < 0 then '-' :: fixedPoint (millionths q.1) else fixedPoint (millionths q.1)

/-! ### Reading numbers -/

/-- What the number readers throw. -/
inductive StdException
  | invalidArgument
  | outOfRange
  deriving DecidableEq, Repr

def isSpace (c : Char) : Bool := c ∈ [' ', '\t', '\n', '\x0b', '\x0c', '\r']

/-- The sign at the head of a numeral and the rest; `true` is minus. -/
def readSign : List Char → Bool × List Char
  | '-' :: cs => (true, cs)
  | '+' :: cs => (false, cs)
  | cs => (false, cs)

/-- `std::stoi`: an optional sign and the longest run of digits after leading white space. -/
def stoi (text : List Char) : Except StdException Int32 :=
  let (neg, cs) := readSign (text.dropWhile isSpace)
  let digits := cs.takeWhile Char.isDigit
  if digits = [] then .error .invalidArgument
  else
    let n : ℤ := Nat.ofDigitChars 10 digits 0
    let i := if neg then -n else n
    if -2 ^ 31 ≤ i ∧ i < 2 ^ 31 then .ok (Int32.ofInt i) else .error .outOfRange

def hexVal (c : Char) : ℕ :=
  if c.isDigit then c.toNat - '0'.toNat
  else if c.isLower then c.toNat - 'a'.toNat + 10
  else c.toNat - 'A'.toNat + 10

def isHexDigit (c : Char) : Bool := c.isDigit || ('a' ≤ c && c ≤ 'f') || ('A' ≤ c && c ≤ 'F')

/-- The exponent part of a numeral, `0` when there is none. -/
def readExponent (mark : Char) : List Char → ℤ
  | c :: cs =>
    if c.toLower = mark then
      let (neg, cs) := readSign cs
      let n : ℤ := Nat.ofDigitChars 10 (cs.takeWhile Char.isDigit) 0
      if neg then -n else n
    else 0
  | [] => 0

/-- A numeral in base `base` with an optional fraction and an exponent of base `scale`. -/
def readNumeral (isDig : Char → Bool) (val : Char → ℕ) (base scale : ℕ) (mark : Char) (cs : List Char) :
    Option ℚ :=
  let whole := cs.takeWhile isDig
  let rest := cs.dropWhile isDig
  let (frac, rest) := match rest with
    | '.' :: cs => (cs.takeWhile isDig, cs.dropWhile isDig)
    | cs => ([], cs)
  if whole ++ frac = [] then none
  else
    let n := (whole ++ frac).foldl (fun acc c => base * acc + val c) 0
    some (n / base ^ frac.length * (scale : ℚ) ^ readExponent mark rest)

def readDecimal : List Char → Option ℚ := readNumeral Char.isDigit (fun c => c.toNat - '0'.toNat) 10 10 'e'
def readHex : List Char → Option ℚ := readNumeral isHexDigit hexVal 16 2 'p'

/-- The finite numerals `strtod` knows; a `0x` without a hexadecimal digit is the numeral `0`. -/
def readFinite (cs : List Char) : Option ℚ :=
  match cs with
  | '0' :: x :: rest => if x.toLower = 'x' then (readHex rest).orElse fun _ => some 0 else readDecimal cs
  | _ => readDecimal cs

/-- The double of an exact numeral; overflow and inexact subnormal results are range errors (`ERANGE`).  What is
subnormal is decided by the numeral before it is rounded. -/
def inRange (q : ℚ) : Except StdException Double :=
  if q ≠ 0 ∧ |q| < 2 ^ (-1022 : ℤ) ∧ binary64.round q ≠ q then .error .outOfRange
  else match Double.ofRat q with
    | .inf _ => .error .outOfRange
    | d => .ok d

/-- `std::stod`. -/
def stod (text : List Char) : Except StdException Double :=
  let (neg, cs) := readSign (text.dropWhile isSpace)
  let head := (cs.take 3).map Char.toLower
  if head = "inf".toList then .ok (.inf neg)
  else if head = "nan".toList then .ok .nan
  else match readFinite cs with
    | none => .error .invalidArgument
    | some q => inRange (if neg then -q else q)

/-! ### What the readers leave

The position at which a reader stops, as the text behind it. -/

/-- The text behind the number `stoi` reads. -/
def stoiRest (text : List Char) : List Char := (readSign (text.dropWhile isSpace)).2.dropWhile Char.isDigit

/-- The text behind the exponent part; a mark without digits is no exponent part. -/
def exponentRest (mark : Char) : List Char → List Char
  | c :: cs =>
    let digits := (readSign cs).2
    if c.toLower = mark ∧ digits.takeWhile Char.isDigit ≠ [] then digits.dropWhile Char.isDigit else c :: cs
  | [] => []

def numeralRest (isDig : Char → Bool) (mark : Char) (cs : List Char) : List Char :=
  match cs.dropWhile isDig with
  | '.' :: cs => exponentRest mark (cs.dropWhile isDig)
  | cs => exponentRest mark cs

/-- The text behind a finite numeral; of a `0x` without a hexadecimal digit only the `0` is read. -/
def finiteRest (cs : List Char) : List Char :=
  match cs with
  | '0' :: x :: rest =>
    if x.toLower = 'x' then
      if (readHex rest).isSome then numeralRest isHexDigit 'p' rest else x :: rest
    else numeralRest Char.isDigit 'e' cs
  | _ => numeralRest Char.isDigit 'e' cs

/-- The text behind the number `stod` reads, where this is finite. -/
def stodRest (text : List Char) : List Char := finiteRest (readSign (text.dropWhile isSpace)).2

/-! ### Characters of numerals -/

theorem mem_digits_of_isDigit {c : Char} (h : c.isDigit = true) : c ∈ "0123456789".toList := by
  rw [Char.isDigit, Bool.and_eq_true, decide_eq_true_eq, decide_eq_true_eq] at h
  have h1 : 48 ≤ c.toNat := h.1
  have h2 : c.toNat ≤ 57 := h.2
  rw [← Char.ofNat_toNat c]
  interval_cases c.toNat <;> decide

/-- The characters a printed number can have. -/
def numeralChars : List Char := "0123456789-.infa".toList

theorem mem_toDigits {n : ℕ} {c : Char} (h : c ∈ Nat.toDigits 10 n) : c ∈ "0123456789".toList :=
  mem_digits_of_isDigit (Nat.isDigit_of_mem_toDigits (by norm_num) (by norm_num) h)

theorem mem_fixedPoint {n : ℕ} {c : Char} (h : c ∈ fixedPoint n) : c ∈ '.' :: "0123456789".toList := by
  rw [fixedPoint, List.mem_append, List.mem_cons, List.leftpad, List.mem_append] at h
  rcases h with h | rfl | h | h
  · exact List.mem_cons_of_mem _ (mem_toDigits h)
  · simp
  · rw [List.eq_of_mem_replicate h]; decide
  · exact List.mem_cons_of_mem _ (mem_toDigits h)

theorem mem_toStringInt {i : ℤ} {c : Char} (h : c ∈ toStringInt i) : c ∈ numeralChars := by
  have hsub : "0123456789".toList ⊆ numeralChars := by decide
  rw [toStringInt] at h
  split_ifs at h
  · rcases List.mem_cons.mp h with rfl | h
    · decide
    · exact hsub (mem_toDigits h)
  · exact hsub (mem_toDigits h)

theorem mem_toStringDouble {d : Double} {c : Char} (h : c ∈ toStringDouble d) : c ∈ numeralChars := by
  have hsub : '.' :: "0123456789".toList ⊆ numeralChars := by decide
  cases d with
  | nan =>
    have hnan : "nan".toList ⊆ numeralChars := by decide
    exact hnan h
  | inf s =>
    have hinf : "-inf".toList ⊆ numeralChars := by decide
    cases s with
    | true => exact hinf h
    | false => exact hinf (List.mem_cons_of_mem _ h)
  | fin q =>
    rw [toStringDouble] at h
    split_ifs at h
    · rcases List.mem_cons.mp h with rfl | h
      · decide
      · exact hsub (mem_fixedPoint h)
    · exact hsub (mem_fixedPoint h)

/-! ### Reading what was printed -/

/-- A text that starts with a digit has no leading space and no sign. -/
theorem readSign_of_digit {d : Char} {t : List Char} (hd : d ∈ "0123456789".toList) :
    readSign ((d :: t).dropWhile isSpace) = (false, d :: t) := by
  have hs : "0123456789".toList.all fun d => !isSpace d && d ≠ '-' && d ≠ '+' := by decide
  have hd' := List.all_eq_true.mp hs d hd
  simp only [Bool.and_eq_true, Bool.not_eq_true', decide_eq_true_eq] at hd'
  obtain ⟨⟨h1, h2⟩, h3⟩ := hd'
  rw [List.dropWhile_cons_of_neg (by simp [h1])]
  unfold readSign
  split
  · rename_i h; exact absurd (List.cons_eq_cons.mp h).1 h2
  · rename_i h; exact absurd (List.cons_eq_cons.mp h).1 h3
  · rfl

theorem readSign_minus (t : List Char) : readSign (('-' :: t).dropWhile isSpace) = (true, t) := rfl

theorem exists_cons_toDigits (n : ℕ) : ∃ d t, Nat.toDigits 10 n = d :: t ∧ d ∈ "0123456789".toList := by
  obtain ⟨d, t, h⟩ := List.exists_cons_of_ne_nil (Nat.toDigits_ne_nil (n := n) (b := 10))
  exact ⟨d, t, h, mem_toDigits (h ▸ List.mem_cons_self)⟩

theorem takeWhile_toDigits (n : ℕ) : (Nat.toDigits 10 n).takeWhile Char.isDigit = Nat.toDigits 10 n :=
  List.takeWhile_eq_self_iff.mpr fun _ h => Nat.isDigit_of_mem_toDigits (by norm_num) (by norm_num) h

/-- **A printed integer in the range of `int` is read back.** -/
theorem stoi_toStringInt {i : ℤ} (hi : -2 ^ 31 ≤ i ∧ i < 2 ^ 31) :
    stoi (toStringInt i) = .ok (Int32.ofInt i) := by
  have hne := Nat.toDigits_ne_nil (n := i.natAbs) (b := 10)
  rw [toStringInt]
  split_ifs with hneg
  · have habs : -(i.natAbs : ℤ) = i := by omega
    simp only [stoi, readSign_minus, takeWhile_toDigits, hne, if_false, Nat.ofDigitChars_ten_toDigits, if_true,
      habs, hi, and_self]
  · obtain ⟨d, t, h, hd⟩ := exists_cons_toDigits i.natAbs
    have habs : (i.natAbs : ℤ) = i := by omega
    simp only [stoi, h, readSign_of_digit hd]
    simp only [← h, takeWhile_toDigits, hne, if_false, Nat.ofDigitChars_ten_toDigits, Bool.false_eq_true,
      habs, hi, and_self, if_true]

/-- The double nearest to the value printed with six decimals. -/
def Double.sixDecimals : Double → Double
  | .fin q => .ofRat (if q.1 < 0 then -(millionths q.1 / 10 ^ 6) else millionths q.1 / 10 ^ 6)
  | x => x

/-- Both parts of a fixed-point numeral are digits. -/
theorem isDigit_fixedPoint (n : ℕ) : (∀ c ∈ Nat.toDigits 10 (n / 10 ^ 6), c.isDigit = true) ∧
    ∀ c ∈ (Nat.toDigits 10 (n % 10 ^ 6)).leftpad 6 '0', c.isDigit = true := by
  refine ⟨fun c hc => Nat.isDigit_of_mem_toDigits (by norm_num) (by norm_num) hc, fun c hc => ?_⟩
  rw [List.leftpad, List.mem_append] at hc
  rcases hc with hc | hc
  · rw [List.eq_of_mem_replicate hc]
    decide
  · exact Nat.isDigit_of_mem_toDigits (by norm_num) (by norm_num) hc

/-- The digits of a fixed-point numeral spell its number of millionths. -/
theorem readDecimal_fixedPoint (n : ℕ) : readDecimal (fixedPoint n) = some ((n : ℚ) / 10 ^ 6) := by
  set frac := (Nat.toDigits 10 (n % 10 ^ 6)).leftpad 6 '0' with hfrac
  have hlen : frac.length = 6 := by
    have : (Nat.toDigits 10 (n % 10 ^ 6)).length ≤ 6 :=
      (Nat.length_toDigits_le_iff (by norm_num) (by norm_num)).mpr (Nat.mod_lt _ (by norm_num))
    rw [hfrac, List.length_leftpad]; omega
  obtain ⟨hwhole, hdig⟩ := isDigit_fixedPoint n
  have htake : (fixedPoint n).takeWhile Char.isDigit = Nat.toDigits 10 (n / 10 ^ 6) := by
    rw [fixedPoint, List.takeWhile_append_of_pos hwhole, List.takeWhile_cons_of_neg (by decide),
      List.append_nil]
  have hdrop : (fixedPoint n).dropWhile Char.isDigit = '.' :: frac := by
    rw [fixedPoint, List.dropWhile_append_of_pos hwhole, List.dropWhile_cons_of_neg (by decide)]
  have hval : Nat.ofDigitChars 10 (Nat.toDigits 10 (n / 10 ^ 6) ++ frac) 0 = n := by
    have hpad : Nat.ofDigitChars 10 frac 0 = n % 10 ^ 6 := by
      rw [hfrac, List.leftpad, Nat.ofDigitChars_append, Nat.ofDigitChars_replicate_zero, Nat.mul_zero,
        Nat.ofDigitChars_ten_toDigits]
    rw [Nat.ofDigitChars_append, Nat.ofDigitChars_ten_toDigits, Nat.ofDigitChars_eq_ofDigitChars_zero, hlen,
      hpad]
    omega
  have hne : Nat.toDigits 10 (n / 10 ^ 6) ++ frac ≠ [] := by
    simp [Nat.toDigits_ne_nil]
  have hall : frac.takeWhile Char.isDigit = frac := List.takeWhile_eq_self_iff.mpr hdig
  have hnil : frac.dropWhile Char.isDigit = [] := List.dropWhile_eq_nil_iff.mpr hdig
  simp only [readDecimal, readNumeral, htake, hdrop, hall, hnil, hne, if_false, hlen, readExponent, zpow_zero,
    mul_one, ← Nat.ofDigitChars_eq_foldl, hval, Nat.cast_ofNat]

/-- The prefixes of special numerals do not occur in a fixed-point numeral. -/
theorem readFinite_fixedPoint (n : ℕ) : readFinite (fixedPoint n) = some ((n : ℚ) / 10 ^ 6) := by
  have hx : ('.' :: "0123456789".toList).all fun c => c.toLower ≠ 'x' := by decide
  rw [← readDecimal_fixedPoint]
  unfold readFinite
  split
  · rename_i x rest h
    have hmem : x ∈ fixedPoint n := by rw [h]; simp
    rw [if_neg (of_decide_eq_true (List.all_eq_true.mp hx x (mem_fixedPoint hmem)))]
  · rfl

theorem inRange_of_millionths {k : ℤ} (h : |(k : ℚ) / 10 ^ 6| ≤ dblMax) :
    inRange (k / 10 ^ 6) = .ok (.ofRat (k / 10 ^ 6)) := by
  have hsub : ¬ ((k : ℚ) / 10 ^ 6 ≠ 0 ∧ |(k : ℚ) / 10 ^ 6| < 2 ^ (-1022 : ℤ) ∧
      binary64.round (k / 10 ^ 6) ≠ k / 10 ^ 6) := by
    rintro ⟨h0, hlt, -⟩
    have hk : (1 : ℚ) ≤ |(k : ℚ)| := by
      have : k ≠ 0 := by rintro rfl; simp at h0
      exact_mod_cast Int.one_le_abs this
    have hlow : (1 : ℚ) / 10 ^ 6 ≤ |(k : ℚ) / 10 ^ 6| := by
      rw [abs_div, abs_of_pos (by norm_num : (0 : ℚ) < 10 ^ 6)]
      exact div_le_div_of_nonneg_right hk (by norm_num)
    have htiny : (2 : ℚ) ^ (-1022 : ℤ) < 1 / 10 ^ 6 := by decide +kernel
    exact absurd (hlow.trans_lt hlt) (not_lt.mpr htiny.le)
  obtain ⟨v, hv⟩ := Double.ofRat_eq_fin h
  rw [inRange, if_neg hsub, hv]

theorem millionths_div_le {q : ℚ} (h : |q| ≤ dblMax) : (millionths q : ℚ) / 10 ^ 6 ≤ dblMax := by
  obtain ⟨m, hint⟩ : ∃ m : ℤ, (m : ℚ) = dblMax * 10 ^ 6 :=
    ⟨_, (Rat.den_eq_one_iff _).mp (by decide +kernel)⟩
  have hle : |(|q| * 10 ^ 6)| ≤ (m : ℚ) := by
    rw [abs_mul, abs_abs, abs_of_pos (by norm_num : (0 : ℚ) < 10 ^ 6), hint]
    exact mul_le_mul_of_nonneg_right h (by norm_num)
  have hr := (abs_le.mp (abs_roundHalfEven_le hle)).2
  have h0 : 0 ≤ roundHalfEven (|q| * 10 ^ 6) :=
    (Int.floor_nonneg.mpr (by positivity)).trans (floor_le_roundHalfEven _)
  rw [div_le_iff₀ (by norm_num), ← hint]
  have hcast : (millionths q : ℤ) = roundHalfEven (|q| * 10 ^ 6) := Int.toNat_of_nonneg h0
  calc (millionths q : ℚ) = ((millionths q : ℤ) : ℚ) := by push_cast; rfl
    _ ≤ _ := by rw [hcast]; exact_mod_cast hr

/-- Six decimals of a finite double are finite. -/
theorem Double.sixDecimals_fin (q : Finite64) : ∃ q', (Double.fin q).sixDecimals = .fin q' := by
  have h0 : (0 : ℚ) ≤ millionths q.1 / 10 ^ 6 := by positivity
  rw [sixDecimals]
  split_ifs
  · exact Double.ofRat_eq_fin (by rw [abs_neg, abs_of_nonneg h0]; exact millionths_div_le q.2.2)
  · exact Double.ofRat_eq_fin (by rw [abs_of_nonneg h0]; exact millionths_div_le q.2.2)

/-- **A printed `double` is read back as the double nearest to its value in six decimals.** -/
theorem stod_toStringDouble (d : Double) : stod (toStringDouble d) = .ok d.sixDecimals := by
  cases d with
  | nan => decide
  | inf s => cases s <;> decide
  | fin q =>
    have hle := millionths_div_le q.2.2
    have h0 : (0 : ℚ) ≤ millionths q.1 / 10 ^ 6 := by positivity
    -- the text starts with a digit, so it is no name of an infinity or of a NaN
    obtain ⟨d, t, ht, hd⟩ : ∃ d t, fixedPoint (millionths q.1) = d :: t ∧ d ∈ "0123456789".toList := by
      obtain ⟨d, t, h, hd⟩ := exists_cons_toDigits (millionths q.1 / 10 ^ 6)
      exact ⟨d, _, by rw [fixedPoint, h]; rfl, hd⟩
    have hlow : "0123456789".toList.all fun d => d.toLower ≠ 'i' ∧ d.toLower ≠ 'n' := by decide
    obtain ⟨hi, hn⟩ := of_decide_eq_true (List.all_eq_true.mp hlow d hd)
    have hinf : ((d :: t).take 3).map Char.toLower ≠ "inf".toList := by
      intro h; exact hi (List.cons_eq_cons.mp h).1
    have hnan : ((d :: t).take 3).map Char.toLower ≠ "nan".toList := by
      intro h; exact hn (List.cons_eq_cons.mp h).1
    rw [toStringDouble, Double.sixDecimals]
    split_ifs with hneg
    · have hr := inRange_of_millionths (k := -(millionths q.1 : ℤ)) (by
        push_cast; rw [neg_div, abs_neg, abs_of_nonneg h0]; exact hle)
      push_cast at hr
      rw [neg_div] at hr
      simp only [stod, ht, readSign_minus, hinf, hnan, if_false, if_true]
      rw [← ht, readFinite_fixedPoint]
      exact hr
    · have hr := inRange_of_millionths (k := (millionths q.1 : ℤ)) (by
        push_cast; rw [abs_of_nonneg h0]; exact hle)
      push_cast at hr
      simp only [stod, ht, readSign_of_digit hd, hinf, hnan, if_false]
      rw [← ht, readFinite_fixedPoint]
      exact hr

/-! ### Nothing is left of what was printed -/

theorem stoiRest_toStringInt (i : ℤ) : stoiRest (toStringInt i) = [] := by
  have hdigits : (Nat.toDigits 10 i.natAbs).dropWhile Char.isDigit = [] :=
    List.dropWhile_eq_nil_iff.mpr fun _ h => Nat.isDigit_of_mem_toDigits (by norm_num) (by norm_num) h
  rw [toStringInt]
  split_ifs
  · rw [stoiRest, readSign_minus, hdigits]
  · obtain ⟨d, t, h, hd⟩ := exists_cons_toDigits i.natAbs
    rw [stoiRest, h, readSign_of_digit hd, ← h, hdigits]

theorem finiteRest_fixedPoint (n : ℕ) : finiteRest (fixedPoint n) = [] := by
  have hx : ('.' :: "0123456789".toList).all fun c => c.toLower ≠ 'x' := by decide
  have hrest : numeralRest Char.isDigit 'e' (fixedPoint n) = [] := by
    obtain ⟨hwhole, hfrac⟩ := isDigit_fixedPoint n
    rw [numeralRest, fixedPoint, List.dropWhile_append_of_pos hwhole, List.dropWhile_cons_of_neg (by decide)]
    change exponentRest 'e' (List.dropWhile Char.isDigit ((Nat.toDigits 10 (n % 10 ^ 6)).leftpad 6 '0')) = []
    rw [List.dropWhile_eq_nil_iff.mpr hfrac, exponentRest]
  unfold finiteRest
  split
  · rename_i x rest h
    have hmem : x ∈ fixedPoint n := by rw [h]; simp
    rw [if_neg (of_decide_eq_true (List.all_eq_true.mp hx x (mem_fixedPoint hmem))), hrest]
  · exact hrest

theorem stodRest_toStringDouble (q : ℚ) : stodRest (if q < 0 then '-' :: fixedPoint (millionths q) else
    fixedPoint (millionths q)) = [] := by
  split_ifs
  · rw [stodRest, readSign_minus, finiteRest_fixedPoint]
  · obtain ⟨d, t, h, hd⟩ := exists_cons_toDigits (millionths q / 10 ^ 6)
    have hcons : fixedPoint (millionths q) =
        d :: (t ++ '.' :: (Nat.toDigits 10 (millionths q % 10 ^ 6)).leftpad 6 '0') := by
      rw [fixedPoint, h]
      rfl
    rw [stodRest, hcons, readSign_of_digit hd, ← hcons, finiteRest_fixedPoint]

end AutopilotManager.Lib
