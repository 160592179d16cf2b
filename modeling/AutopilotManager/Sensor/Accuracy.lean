import AutopilotManager.Sensor.TimeSync
import Mathlib.Tactic.Linarith

/-!
# Sensor.Accuracy — how good one clock sample is

The stamps are divided as `uint64_t`, their difference may be carried modulo `2 ^ 64`, and the last division is signed.
For stamps that can occur nothing is lost but the rounding: the offset is off by at most half of the round trip and two
microseconds.
-/

namespace AutopilotManager

open Lib

namespace TimeSample

variable {i : TimeSample}

/-- A stamp in whole microseconds. -/
theorem toNat_div_thousand {x : Int64} (hpos : 0 < x) : ((x.toUInt64 / 1000).toNat : ℤ) = x.toInt / 1000 := by
  have hx := toNat_toUInt64_of_pos hpos
  have hthousand : (1000 : UInt64).toNat = 1000 := rfl
  rw [UInt64.toNat_div, hthousand]
  omega

/-- The bounds of a positive stamp in whole microseconds. -/
theorem div_thousand_bounds {x : Int64} (hpos : 0 < x) : 0 ≤ x.toInt / 1000 ∧ x.toInt / 1000 < 2 ^ 54 := by
  have hlt := x.toInt_lt
  have hpos : (0 : Int64).toInt < x.toInt := Int64.lt_iff_toInt_lt.mp hpos
  have hzero : (0 : Int64).toInt = 0 := rfl
  omega

/-- The round trip modulo `2 ^ 64`. -/
theorem toNat_rttUs (hts1 : 0 < i.ts1) : (i.rttUs.toNat : ℤ) = (i.nowUs.toNat - i.ts1.toInt / 1000) % 2 ^ 64 := by
  have hstamp := toNat_div_thousand hts1
  have hnow := i.nowUs.toNat_lt
  have hlt := (i.ts1.toUInt64 / 1000).toNat_lt
  rw [rttUs, UInt64.toNat_sub]
  omega

/-- The test of the round trip: the stamp lies less than `MAX_RTT_SAMPLE` in the past, and not in the future. -/
theorem rttUs_lt_iff (hts1 : 0 < i.ts1) : i.rttUs < maxRttSample ↔
    0 ≤ i.nowUs.toNat - i.ts1.toInt / 1000 ∧ i.nowUs.toNat - i.ts1.toInt / 1000 < 10000 := by
  have hrtt := toNat_rttUs hts1
  have hbounds := div_thousand_bounds hts1
  have hnow := i.nowUs.toNat_lt
  have hmax : maxRttSample.toNat = 10000 := rfl
  rw [UInt64.lt_iff_toNat_lt, hmax]
  omega

/-- **No wrap-around**: the offset is the truncated quotient of the exact integer. -/
theorem toInt_offsetUs (hts1 : 0 < i.ts1) (htc1 : 0 < i.tc1) (hnow : i.nowUs.toNat ≤ 2 ^ 62) :
    i.offsetUs.toInt = (i.ts1.toInt / 1000 + i.nowUs.toNat - 2 * (i.tc1.toInt / 1000)).tdiv 2 := by
  have hts1' := toNat_div_thousand hts1
  have htc1' := toNat_div_thousand htc1
  have hbounds := div_thousand_bounds hts1
  have hbounds' := div_thousand_bounds htc1
  have htwo : (2 : UInt64).toNat = 2 := rfl
  have hexact : (i.ts1.toUInt64 / 1000 + i.nowUs - i.tc1.toUInt64 / 1000 * 2).toInt64.toInt =
      i.ts1.toInt / 1000 + i.nowUs.toNat - 2 * (i.tc1.toInt / 1000) := by
    refine toInt_toInt64_of_emod ?_ (by omega) (by omega)
    rw [UInt64.toNat_sub, UInt64.toNat_add, UInt64.toNat_mul, htwo]
    omega
  have htwo' : (2 : Int64).toInt = 2 := rfl
  rw [offsetUs, Int64.toInt_div_of_ne_right _ _ (by decide), htwo', hexact]

/-- The round trip of a sample that passes the test. -/
theorem toNat_rttUs_of_lt (hts1 : 0 < i.ts1) (hrtt : i.rttUs < maxRttSample) :
    (i.rttUs.toNat : ℤ) = i.nowUs.toNat - i.ts1.toInt / 1000 := by
  have hmod := toNat_rttUs hts1
  have hbounds := (rttUs_lt_iff hts1).mp hrtt
  omega

/-- Truncation loses at most a half. -/
theorem abs_tdiv_two_sub_le (z : ℤ) : |((z.tdiv 2 : ℤ) : ℚ) - z / 2| ≤ 1 / 2 := by
  have hbounds : z - 1 ≤ 2 * z.tdiv 2 ∧ 2 * z.tdiv 2 ≤ z + 1 := by
    rcases le_or_gt 0 z with hz | hz
    · rw [Int.tdiv_eq_ediv_of_nonneg hz]
      omega
    · have hneg : z.tdiv 2 = -((-z) / 2) := by
        rw [← Int.tdiv_eq_ediv_of_nonneg (by omega), Int.neg_tdiv, neg_neg]
      omega
  have hlow : (z : ℚ) - 1 ≤ 2 * (z.tdiv 2 : ℤ) := by exact_mod_cast hbounds.1
  have hhigh : 2 * ((z.tdiv 2 : ℤ) : ℚ) ≤ z + 1 := by exact_mod_cast hbounds.2
  rw [abs_le]
  constructor <;> linarith

/-- A positive stamp lies within its microsecond. -/
theorem floor_thousand_bounds (x : ℤ) : ((x / 1000 : ℤ) : ℚ) ≤ x / 1000 ∧ (x : ℚ) / 1000 < (x / 1000 : ℤ) + 1 := by
  have hlow : (1000 * (x / 1000 : ℤ) : ℚ) ≤ x := by exact_mod_cast Int.mul_ediv_self_le (by norm_num)
  have hhigh : (x : ℚ) < 1000 * ((x / 1000 : ℤ) + 1) := by
    have hlt : x < 1000 * (x / 1000 + 1) := by omega
    exact_mod_cast hlt
  constructor <;> linarith

/-- The offset of an accepted sample is near the offset of the clocks at any instant of the round trip. -/
theorem abs_offsetUs_sub_le (hts1 : 0 < i.ts1) (htc1 : 0 < i.tc1) (hnow : i.nowUs.toNat ≤ 2 ^ 62)
    (hrtt : i.rttUs < maxRttSample) {T : ℚ} (hstart : (i.ts1.toInt : ℚ) ≤ T)
    (hend : T < (i.nowUs.toNat + 1) * 1000) :
    |(i.offsetUs.toInt : ℚ) - (T - i.tc1.toInt) / 1000| ≤ i.rttUs.toNat / 2 + 2 := by
  obtain ⟨hlow, -⟩ := floor_thousand_bounds i.ts1.toInt
  obtain ⟨hremote, hremote'⟩ := floor_thousand_bounds i.tc1.toInt
  have htrip : (i.rttUs.toNat : ℚ) = i.nowUs.toNat - (i.ts1.toInt / 1000 : ℤ) := by
    exact_mod_cast toNat_rttUs_of_lt hts1 hrtt
  have hround := abs_tdiv_two_sub_le (i.ts1.toInt / 1000 + i.nowUs.toNat - 2 * (i.tc1.toInt / 1000))
  rw [toInt_offsetUs hts1 htc1 hnow, htrip]
  push_cast at hround ⊢
  obtain ⟨hround, hround'⟩ := abs_le.mp hround
  rw [abs_le]
  constructor <;> linarith

/-- The filter uses a sample with positive stamps when its round trip passes the test. -/
theorem run_of_stamps {F : Type} [Arithmetic F] (exp : F → F) (s : TimeSync F) (hts1 : 0 < i.ts1) (htc1 : 0 < i.tc1) :
    s.run exp i =
      if 0 ≤ i.nowUs.toNat - i.ts1.toInt / 1000 ∧ i.nowUs.toNat - i.ts1.toInt / 1000 < 10000 then
        if s.syncConverged ∧ maxDeviationSample < s.deviation i then s.countDeviation else s.accept exp i
      else s := by
  unfold TimeSync.run
  rw [if_pos ⟨hts1, htc1⟩]
  exact if_congr (rttUs_lt_iff hts1) rfl rfl

/-- The estimate after a sample that is used, with the offset as an integer. -/
theorem timeOffset_accept {F : Type} [Arithmetic F] (exp : F → F) (s : TimeSync F) :
    (s.accept exp i).timeOffset =
      if s.sequence = 0 then Arithmetic.ofRat i.offsetUs.toInt
      else (s.scheduleGains exp).filterAlpha * Arithmetic.ofRat i.offsetUs.toInt +
        (Arithmetic.ofRat 1 - (s.scheduleGains exp).filterAlpha) * (s.timeOffset + s.timeSkew) := by
  have hgains : (s.scheduleGains exp).sequence = s.sequence ∧ (s.scheduleGains exp).timeOffset = s.timeOffset ∧
      (s.scheduleGains exp).timeSkew = s.timeSkew := by
    unfold TimeSync.scheduleGains
    split_ifs <;> exact ⟨rfl, rfl, rfl⟩
  obtain ⟨hsequence, hoffset, hskew⟩ := hgains
  unfold TimeSync.accept TimeSync.addSample
  rw [hsequence, hoffset, hskew]
  split_ifs <;> rfl

/-- **Accuracy of an accepted clock sample**: the round trip is tested as over the integers, the offset that the filter
adds is the truncated quotient without wrap-around, and it is off by at most half of the round trip and two
microseconds, whenever within the round trip the remote clock was read. -/
theorem sample_accurate (hts1 : 0 < i.ts1) (htc1 : 0 < i.tc1) (hnow : i.nowUs.toNat ≤ 2 ^ 62) :
    (i.rttUs < maxRttSample ↔
      0 ≤ i.nowUs.toNat - i.ts1.toInt / 1000 ∧ i.nowUs.toNat - i.ts1.toInt / 1000 < 10000) ∧
    (∀ (F : Type) [Arithmetic F] (exp : F → F) (s : TimeSync F),
      s.run exp i =
        (if 0 ≤ i.nowUs.toNat - i.ts1.toInt / 1000 ∧ i.nowUs.toNat - i.ts1.toInt / 1000 < 10000 then
          if s.syncConverged ∧ maxDeviationSample < s.deviation i then s.countDeviation else s.accept exp i
        else s) ∧
      (s.accept exp i).timeOffset =
        if s.sequence = 0 then Arithmetic.ofRat i.offsetUs.toInt
        else (s.scheduleGains exp).filterAlpha * Arithmetic.ofRat i.offsetUs.toInt +
          (Arithmetic.ofRat 1 - (s.scheduleGains exp).filterAlpha) * (s.timeOffset + s.timeSkew)) ∧
    i.offsetUs.toInt = (i.ts1.toInt / 1000 + i.nowUs.toNat - 2 * (i.tc1.toInt / 1000)).tdiv 2 ∧
    (i.rttUs < maxRttSample → ∀ T : ℚ, (i.ts1.toInt : ℚ) ≤ T → T < (i.nowUs.toNat + 1) * 1000 →
      |(i.offsetUs.toInt : ℚ) - (T - i.tc1.toInt) / 1000| ≤ i.rttUs.toNat / 2 + 2) := by
  refine ⟨rttUs_lt_iff hts1, fun F _ exp s => ⟨run_of_stamps exp s hts1 htc1, timeOffset_accept exp s⟩,
    toInt_offsetUs hts1 htc1 hnow, fun hrtt T hstart hend => ?_⟩
  exact abs_offsetUs_sub_le hts1 htc1 hnow hrtt hstart hend

/-- The remote clock is ahead by five seconds, and the round trip takes four milliseconds. -/
theorem sample_accurate_ahead :
    |((⟨1000000000, 6002000000, 1004000⟩ : TimeSample).offsetUs.toInt : ℚ) - (1002000000 - 6002000000) / 1000| ≤
      4000 / 2 + 2 := by
  have hsample := sample_accurate (i := ⟨1000000000, 6002000000, 1004000⟩) (by decide) (by decide) (by decide)
  have hts1 : (1000000000 : Int64).toInt = 1000000000 := rfl
  have htc1 : (6002000000 : Int64).toInt = 6002000000 := rfl
  have hnow : (1004000 : UInt64).toNat = 1004000 := rfl
  have hrtt : (⟨1000000000, 6002000000, 1004000⟩ : TimeSample).rttUs.toNat = 4000 := by decide
  have hbound := hsample.2.2.2 (by decide) 1002000000
  rw [hts1, htc1, hnow, hrtt] at hbound
  exact_mod_cast hbound (by norm_num) (by norm_num)

end TimeSample

end AutopilotManager
