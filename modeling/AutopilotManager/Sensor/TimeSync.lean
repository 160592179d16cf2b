import AutopilotManager.Lib.Double
import AutopilotManager.Lib.Words
import AutopilotManager.Lib.Transition

/-!
# Sensor.TimeSync — the clock offset to the flight controller

`TimeSync` over any arithmetic for its doubles: the control flow, the integers and the counters are those of the
source, and the filter is computed by the operations of the arithmetic.
-/

namespace AutopilotManager

open Lib

/-- What the filter needs of `double`: the operations, rounded constants, and the cast to `int64_t`. -/
class Arithmetic (F : Type) extends Add F, Sub F, Mul F, Div F where
  ofRat : ℚ → F
  toInt64 : F → Int64

/-- The cast to `int64_t` truncates; out of range it is undefined in C++, and the least value on x86. -/
def doubleToInt64 : Double → Int64
  | .fin q =>
    if -2 ^ 63 ≤ q.1.num.tdiv q.1.den ∧ q.1.num.tdiv q.1.den < 2 ^ 63 then .ofInt (q.1.num.tdiv q.1.den) else .minValue
  | _ => .minValue

instance : Arithmetic Double := { ofRat := Double.ofRat, toInt64 := doubleToInt64 }

/-! ### The module -/

section Constants

variable (F : Type) [Arithmetic F]

def alphaGainInitial : F := Arithmetic.ofRat (5 / 100)
def betaGainInitial : F := Arithmetic.ofRat (5 / 100)
def alphaGainFinal : F := Arithmetic.ofRat (3 / 1000)
def betaGainFinal : F := Arithmetic.ofRat (3 / 1000)

end Constants

def convergenceWindow : UInt32 := 250
def maxRttSample : UInt64 := 10 * 1000
def maxDeviationSample : UInt64 := 100 * 1000
def maxConsecutiveHighDeviation : UInt32 := 5

structure TimeSync (F : Type) [Arithmetic F] where
  sequence : UInt32 := 0
  timeOffset : F := Arithmetic.ofRat 0
  timeSkew : F := Arithmetic.ofRat 0
  filterAlpha : F := alphaGainInitial F
  filterBeta : F := betaGainInitial F
  highDeviationCount : UInt32 := 0
  highRttCount : UInt32 := 0

/-- The arguments of `TimeSync::run`. -/
structure TimeSample where
  ts1 : Int64
  tc1 : Int64
  nowUs : UInt64

namespace TimeSample

/-- The signed stamps meet unsigned constants, so all but the last division is unsigned. -/
def offsetUs (i : TimeSample) : Int64 :=
  (i.ts1.toUInt64 / 1000 + i.nowUs - i.tc1.toUInt64 / 1000 * 2).toInt64 / 2

def rttUs (i : TimeSample) : UInt64 := i.nowUs - i.ts1.toUInt64 / 1000

end TimeSample

namespace TimeSync

variable {F : Type} [Arithmetic F] (exp : F → F)

def syncConverged (s : TimeSync F) : Bool := convergenceWindow ≤ s.sequence

def resetFilter (s : TimeSync F) : TimeSync F :=
  { s with
    sequence := 0
    timeOffset := Arithmetic.ofRat 0
    timeSkew := Arithmetic.ofRat 0
    filterAlpha := alphaGainInitial F
    filterBeta := betaGainInitial F
    highDeviationCount := 0
    highRttCount := 0 }

def addSample (offsetUs : Int64) (s : TimeSync F) : TimeSync F :=
  if s.sequence = 0 then { s with timeOffset := Arithmetic.ofRat offsetUs.toInt }
  else
    let timeOffset := s.filterAlpha * Arithmetic.ofRat offsetUs.toInt +
      (Arithmetic.ofRat 1 - s.filterAlpha) * (s.timeOffset + s.timeSkew)
    { s with
      timeOffset
      timeSkew := s.filterBeta * (timeOffset - s.timeOffset) + (Arithmetic.ofRat 1 - s.filterBeta) * s.timeSkew }

def syncStamp (usec nowUs : UInt64) (s : TimeSync F) : UInt64 :=
  if s.syncConverged then usec + (Arithmetic.toInt64 s.timeOffset).toUInt64 else nowUs

def deviation (i : TimeSample) (s : TimeSync F) : UInt64 := (Arithmetic.toInt64 s.timeOffset - i.offsetUs).abs.toUInt64

/-- The sigmoid that leads from the initial to the final gains. -/
def interpolation (s : TimeSync F) : F :=
  let progress : F := Arithmetic.ofRat s.sequence.toNat / Arithmetic.ofRat convergenceWindow.toNat
  Arithmetic.ofRat 1 -
    exp (Arithmetic.ofRat (1 / 2) * (Arithmetic.ofRat 1 - Arithmetic.ofRat 1 / (Arithmetic.ofRat 1 - progress)))

def scheduleGains (s : TimeSync F) : TimeSync F :=
  if s.syncConverged then { s with filterAlpha := alphaGainFinal F, filterBeta := betaGainFinal F }
  else
    let p := s.interpolation exp
    { s with
      filterAlpha := p * alphaGainFinal F + (Arithmetic.ofRat 1 - p) * alphaGainInitial F
      filterBeta := p * betaGainFinal F + (Arithmetic.ofRat 1 - p) * betaGainInitial F }

/-- The sample is used. -/
def accept (i : TimeSample) (s : TimeSync F) : TimeSync F :=
  let s' := (s.scheduleGains exp).addSample i.offsetUs
  { s' with sequence := s'.sequence + 1, highDeviationCount := 0, highRttCount := 0 }

/-- The sample is far from a good estimate. -/
def countDeviation (s : TimeSync F) : TimeSync F :=
  let s' := { s with highDeviationCount := s.highDeviationCount + 1 }
  if maxConsecutiveHighDeviation < s'.highDeviationCount then s'.resetFilter else s'

def run (s : TimeSync F) (i : TimeSample) : TimeSync F :=
  if 0 < i.ts1 ∧ 0 < i.tc1 then
    if i.rttUs < maxRttSample then
      if s.syncConverged ∧ maxDeviationSample < s.deviation i then s.countDeviation else s.accept exp i
    else s
  else s

end TimeSync

/-! ### What becomes of a sample -/

inductive SampleOutcome
  | rejected
  | deviated
  | jumped
  | accepted
  deriving DecidableEq

/-- A stamp that is not positive, a long round trip, or a stamp from the future. -/
def TimeSample.IsRejected (i : TimeSample) : Prop :=
  i.ts1 ≤ 0 ∨ i.tc1 ≤ 0 ∨ maxRttSample ≤ i.rttUs ∨ (i.nowUs.toNat : ℤ) < i.ts1.toInt / 1000

instance (i : TimeSample) : Decidable i.IsRejected := inferInstanceAs (Decidable (_ ∨ _ ∨ _ ∨ _))

/-- The stamps are positive and the round trip is short enough. -/
def TimeSample.Acceptable (i : TimeSample) : Prop := 0 < i.ts1 ∧ 0 < i.tc1 ∧ i.rttUs < maxRttSample

instance (i : TimeSample) : Decidable i.Acceptable := inferInstanceAs (Decidable (_ ∧ _))

namespace TimeSync

variable {F : Type} [Arithmetic F] (exp : F → F) (s : TimeSync F) (i : TimeSample)

def outcome : SampleOutcome :=
  if ¬ (0 < i.ts1 ∧ 0 < i.tc1 ∧ i.rttUs < maxRttSample) then .rejected
  else if ¬ (s.syncConverged ∧ maxDeviationSample < s.deviation i) then .accepted
  else if maxConsecutiveHighDeviation < s.highDeviationCount + 1 then .jumped
  else .deviated

theorem accept_sequence : (s.accept exp i).sequence = s.sequence + 1 := by
  have hgains : (s.scheduleGains exp).sequence = s.sequence := by
    unfold scheduleGains
    split_ifs <;> rfl
  have hsample : ∀ s' : TimeSync F, (s'.addSample i.offsetUs).sequence = s'.sequence := by
    intro s'
    unfold addSample
    split_ifs <;> rfl
  rw [accept, hsample, hgains]

/-- A sample does one of four things to the filter. -/
theorem run_outcome : s.run exp i = match s.outcome i with
    | .rejected => s
    | .deviated => { s with highDeviationCount := s.highDeviationCount + 1 }
    | .jumped => {}
    | .accepted => s.accept exp i := by
  unfold run outcome
  by_cases hstamps : 0 < i.ts1 ∧ 0 < i.tc1
  · by_cases hrtt : i.rttUs < maxRttSample
    · rw [if_pos hstamps, if_pos hrtt, if_neg (not_not.mpr ⟨hstamps.1, hstamps.2, hrtt⟩)]
      by_cases hfar : s.syncConverged ∧ maxDeviationSample < s.deviation i
      · rw [if_pos hfar, if_neg (not_not.mpr hfar), countDeviation]
        split_ifs <;> rfl
      · rw [if_neg hfar, if_pos hfar]
    · rw [if_pos hstamps, if_neg hrtt, if_pos fun h => hrtt h.2.2]
  · rw [if_neg hstamps, if_pos fun h => hstamps ⟨h.1, h.2.1⟩]

variable {s i}

/-- A stamp from the future makes the round trip wrap around. -/
theorem maxRtt_le_of_future (hpos : 0 < i.ts1) (hfuture : (i.nowUs.toNat : ℤ) < i.ts1.toInt / 1000) :
    maxRttSample ≤ i.rttUs := by
  have hts1 := toNat_toUInt64_of_pos hpos
  have hlt := i.ts1.toInt_lt
  have hmax : maxRttSample.toNat = 10000 := rfl
  have hthousand : (1000 : UInt64).toNat = 1000 := rfl
  rw [UInt64.le_iff_toNat_le, hmax, TimeSample.rttUs, UInt64.toNat_sub, UInt64.toNat_div, hthousand]
  omega

theorem outcome_of_isRejected (h : i.IsRejected) : s.outcome i = .rejected := by
  refine if_pos fun hok => ?_
  obtain ⟨hts1, htc1, hrtt⟩ := hok
  rcases h with hts1' | htc1' | hrtt' | hfuture
  · exact absurd hts1 (Int64.not_lt.mpr hts1')
  · exact absurd htc1 (Int64.not_lt.mpr htc1')
  · exact absurd hrtt (UInt64.not_lt.mpr hrtt')
  · exact absurd hrtt (UInt64.not_lt.mpr (maxRtt_le_of_future hts1 hfuture))

/-- A sample that passes the test of the deviation is near the estimate. -/
theorem abs_sub_le_of_deviation (h : ¬ maxDeviationSample < s.deviation i) :
    |(Arithmetic.toInt64 s.timeOffset).toInt - i.offsetUs.toInt| ≤ maxDeviationSample.toNat := by
  have hle : (s.deviation i).toNat ≤ maxDeviationSample.toNat := by
    rw [UInt64.lt_iff_toNat_lt] at h
    omega
  exact abs_sub_le_of_wrapped (abs_toInt_le_of_abs hle) (by decide)

/-- The test of the source is that of the integers. -/
theorem deviation_iff : maxDeviationSample < s.deviation i ↔
    (maxDeviationSample.toNat : ℤ) < |(Arithmetic.toInt64 s.timeOffset).toInt - i.offsetUs.toInt| := by
  constructor
  · intro hfar
    by_contra hnear
    have hle := abs_le_of_abs_toInt (abs_wrapped_le_of_sub (not_lt.mp hnear) (by decide))
    exact absurd (UInt64.lt_iff_toNat_lt.mp hfar) (Nat.not_lt.mpr hle)
  · intro hfar
    by_contra hnear
    exact absurd hfar (not_lt.mpr (abs_sub_le_of_deviation hnear))

end TimeSync

/-! ### The count of accepted samples -/

/-- A filter with the number of samples accepted since the last reset, and in total. -/
structure TrackedSync (F : Type) [Arithmetic F] where
  sync : TimeSync F := {}
  sinceReset : ℕ := 0
  accepted : ℕ := 0

namespace TrackedSync

variable {F : Type} [Arithmetic F] (exp : F → F)

def step (t : TrackedSync F) (i : TimeSample) : TrackedSync F where
  sync := t.sync.run exp i
  sinceReset :=
    match t.sync.outcome i with
    | .accepted => t.sinceReset + 1
    | .jumped => 0
    | _ => t.sinceReset
  accepted := if t.sync.outcome i = .accepted then t.accepted + 1 else t.accepted

/-- The sequence counter counts the samples, as long as it has not wrapped around. -/
structure Inv (t : TrackedSync F) : Prop where
  since_le : t.sinceReset ≤ t.accepted
  sequence : t.accepted < 2 ^ 32 → t.sync.sequence.toNat = t.sinceReset

variable {exp} {t : TrackedSync F}

theorem inv_initial : Inv ({} : TrackedSync F) := ⟨le_rfl, fun _ => rfl⟩

theorem step_inv (ht : Inv t) (i : TimeSample) : Inv (step exp t i) := by
  have hrun := t.sync.run_outcome exp i
  have hsince := ht.since_le
  cases houtcome : t.sync.outcome i with
  | rejected | deviated =>
    rw [houtcome] at hrun
    refine ⟨by simpa [step, houtcome] using hsince, ?_⟩
    simpa [step, houtcome, hrun] using ht.sequence
  | jumped =>
    rw [houtcome] at hrun
    refine ⟨by simp [step, houtcome], ?_⟩
    simp [step, houtcome, hrun]
  | accepted =>
    rw [houtcome] at hrun
    refine ⟨by simpa [step, houtcome] using hsince, fun hfew => ?_⟩
    have hfew' : t.accepted + 1 < 2 ^ 32 := by simpa [step, houtcome] using hfew
    have hsequence := ht.sequence (by omega)
    have hone : (1 : UInt32).toNat = 1 := rfl
    dsimp only [step]
    rw [hrun, houtcome, TimeSync.accept_sequence, UInt32.toNat_add, hsequence, hone]
    exact Nat.mod_eq_of_lt (by omega)

/-- The filter after the samples. -/
def after (exp : F → F) (is : List TimeSample) : TrackedSync F := Lib.run (step exp) {} is

theorem after_append (exp : F → F) (js is : List TimeSample) :
    after exp (js ++ is) = Lib.run (step exp) (after exp js) is := run_append ..

theorem after_concat (exp : F → F) (is : List TimeSample) (i : TimeSample) :
    after exp (is ++ [i]) = step exp (after exp is) i := run_concat ..

theorem after_inv (exp : F → F) (is : List TimeSample) : Inv (after exp is) := by
  have hstep : ∀ (t : TrackedSync F) i, Inv t → Inv (step exp t i) := fun t i ht => step_inv ht i
  exact run_invariant hstep inv_initial is

theorem syncConverged_iff (ht : Inv t) (hfew : t.accepted < 2 ^ 32) :
    t.sync.syncConverged ↔ convergenceWindow.toNat ≤ t.sinceReset := by
  rw [TimeSync.syncConverged, decide_eq_true_eq, UInt32.le_iff_toNat_le, ht.sequence hfew]

end TrackedSync

namespace TimeSync

variable {F : Type} [Arithmetic F]

/-- The step leaves the estimate and its gains as they are. -/
structure KeepsEstimate (s s' : TimeSync F) : Prop where
  sequence : s'.sequence = s.sequence
  timeOffset : s'.timeOffset = s.timeOffset
  timeSkew : s'.timeSkew = s.timeSkew
  filterAlpha : s'.filterAlpha = s.filterAlpha
  filterBeta : s'.filterBeta = s.filterBeta

/-- The sample may be used, and it lies within `MAX_DEVIATION_SAMPLE` of the estimate. -/
def Agrees (s : TimeSync F) (i : TimeSample) : Prop :=
  i.Acceptable ∧ |(Arithmetic.toInt64 s.timeOffset).toInt - i.offsetUs.toInt| ≤ maxDeviationSample.toNat

instance (s : TimeSync F) (i : TimeSample) : Decidable (s.Agrees i) := inferInstanceAs (Decidable (_ ∧ _))

/-- The step adds one sample, with the final gains: the estimate moves towards the offset and its skew towards the
move. -/
structure AddsSample (s s' : TimeSync F) (offsetUs : Int64) : Prop where
  sequence : s'.sequence = s.sequence + 1
  filterAlpha : s'.filterAlpha = alphaGainFinal F
  filterBeta : s'.filterBeta = betaGainFinal F
  timeOffset : s'.timeOffset = alphaGainFinal F * Arithmetic.ofRat offsetUs.toInt +
    (Arithmetic.ofRat 1 - alphaGainFinal F) * (s.timeOffset + s.timeSkew)
  timeSkew : s'.timeSkew = betaGainFinal F * (s'.timeOffset - s.timeOffset) +
    (Arithmetic.ofRat 1 - betaGainFinal F) * s.timeSkew
  highDeviationCount : s'.highDeviationCount = 0
  highRttCount : s'.highRttCount = 0

section Converged

variable {s : TimeSync F} (hs : s.syncConverged)
include hs

/-- A sample that is accepted by a converged filter is not its first one. -/
theorem accept_addsSample (exp : F → F) (i : TimeSample) : AddsSample s (s.accept exp i) i.offsetUs := by
  have hgains : s.scheduleGains exp = { s with filterAlpha := alphaGainFinal F, filterBeta := betaGainFinal F } :=
    if_pos hs
  have hne : s.sequence ≠ 0 := by
    intro hzero
    rw [syncConverged, hzero] at hs
    exact absurd hs (by decide)
  have haccept := accept_sequence exp s i
  unfold accept at haccept ⊢
  rw [hgains] at haccept ⊢
  unfold addSample at haccept ⊢
  rw [if_neg hne] at haccept ⊢
  exact ⟨haccept, rfl, rfl, rfl, rfl, rfl, rfl⟩

/-- A converged filter accepts the samples that agree with its estimate. -/
theorem outcome_eq_accepted_iff (i : TimeSample) : s.outcome i = .accepted ↔ s.Agrees i := by
  unfold outcome Agrees TimeSample.Acceptable
  rw [← not_lt, ← deviation_iff]
  by_cases hok : 0 < i.ts1 ∧ 0 < i.tc1 ∧ i.rttUs < maxRttSample
  · rw [if_neg (not_not.mpr hok)]
    by_cases hfar : maxDeviationSample < s.deviation i
    · rw [if_neg (not_not.mpr ⟨hs, hfar⟩)]
      refine iff_of_false ?_ fun h => h.2 hfar
      split_ifs <;> simp
    · rw [if_pos fun h => hfar h.2]
      exact iff_of_true rfl ⟨hok, hfar⟩
  · rw [if_pos hok]
    exact iff_of_false (by simp) fun h => hok h.1

/-- A converged filter adds the samples that agree with its estimate; any other sample is ignored or only counted, or
resets the filter. -/
theorem run_of_syncConverged (exp : F → F) (i : TimeSample) :
    ¬ s.Agrees i ∧ KeepsEstimate s (s.run exp i) ∨ ¬ s.Agrees i ∧ s.run exp i = {} ∨
      s.Agrees i ∧ AddsSample s (s.run exp i) i.offsetUs := by
  have hrun := s.run_outcome exp i
  rw [← outcome_eq_accepted_iff hs]
  cases houtcome : s.outcome i with
  | rejected | deviated =>
    rw [houtcome] at hrun
    refine .inl ⟨by simp, ?_⟩
    rw [hrun]
    exact ⟨rfl, rfl, rfl, rfl, rfl⟩
  | jumped =>
    rw [houtcome] at hrun
    exact .inr (.inl ⟨by simp, hrun⟩)
  | accepted =>
    rw [houtcome] at hrun
    refine .inr (.inr ⟨rfl, ?_⟩)
    rw [hrun]
    exact accept_addsSample hs exp i

end Converged

/-- **The estimate is trusted only when it is good**: in every run, `sync_stamp` uses the estimate when at least
`CONVERGENCE_WINDOW` samples have been accepted since the last reset; a step from a converged state adds the sample if it
lies within `MAX_DEVIATION_SAMPLE` of the estimate, and otherwise leaves the estimate alone or resets it; and a rejected
sample changes nothing. -/
theorem estimate_trusted (exp : F → F) (is : List TimeSample) (hfew : (TrackedSync.after exp is).accepted < 2 ^ 32) :
    (∀ usec nowUs, (TrackedSync.after exp is).sync.syncStamp usec nowUs =
      if convergenceWindow.toNat ≤ (TrackedSync.after exp is).sinceReset then
        usec + (Arithmetic.toInt64 (TrackedSync.after exp is).sync.timeOffset).toUInt64
      else nowUs) ∧
    (∀ i, (TrackedSync.after exp is).sync.syncConverged →
      ¬ (TrackedSync.after exp is).sync.Agrees i ∧
          KeepsEstimate (TrackedSync.after exp is).sync ((TrackedSync.after exp is).sync.run exp i) ∨
        ¬ (TrackedSync.after exp is).sync.Agrees i ∧ (TrackedSync.after exp is).sync.run exp i = {} ∨
        (TrackedSync.after exp is).sync.Agrees i ∧
          AddsSample (TrackedSync.after exp is).sync ((TrackedSync.after exp is).sync.run exp i) i.offsetUs) ∧
    ∀ i : TimeSample, i.IsRejected → (TrackedSync.after exp is).sync.run exp i = (TrackedSync.after exp is).sync := by
  have hinv := TrackedSync.after_inv exp is
  refine ⟨fun usec nowUs => ?_, fun i hs => run_of_syncConverged hs exp i, fun i hrejected => ?_⟩
  · unfold syncStamp
    exact if_congr (TrackedSync.syncConverged_iff hinv hfew) rfl rfl
  · rw [run_outcome, outcome_of_isRejected hrejected]

end TimeSync

/-! ### A run that converges -/

namespace TimeSample

/-- A sample of two clocks that agree. -/
def agreeing : TimeSample := ⟨1000000, 1000000, 1000⟩

/-- A sample after the local clock has jumped by almost a second. -/
def jumpedAhead : TimeSample := ⟨1000000000, 1000000, 1000000⟩

/-- A sample that was sent a millisecond after it is received. -/
def fromFuture : TimeSample := ⟨2000000, 1000000, 1000⟩

end TimeSample

namespace TrackedSync

/-- The filter in `double`, with an exponential that keeps the initial gains below the convergence window. -/
def flatAfter (is : List TimeSample) : TrackedSync Double := after (fun _ => 1) is

/-- The filter after `n` samples of two clocks that agree. -/
def agreed (n : ℕ) : TimeSync Double := { sequence := .ofNat n }

theorem not_syncConverged_agreed {n : ℕ} (hn : n < 250) : ¬ (agreed n).syncConverged := by
  have hsize : UInt32.size = 4294967296 := rfl
  have hsequence : (UInt32.ofNat n).toNat = n := UInt32.toNat_ofNat_of_lt' (by omega)
  have hwindow : convergenceWindow.toNat = 250 := rfl
  rw [TimeSync.syncConverged, decide_eq_true_eq, UInt32.le_iff_toNat_le, hwindow]
  exact not_le.mpr (hsequence.trans_lt hn)

/-- An offset of zero, added with the initial gains, leaves the estimate at zero. -/
theorem accept_agreed {n : ℕ} (hn : n < 250) : (agreed n).accept (fun _ => 1) .agreeing = agreed (n + 1) := by
  have hgains : (agreed n).scheduleGains (fun _ => 1) = agreed n := by
    unfold TimeSync.scheduleGains
    rw [if_neg (not_syncConverged_agreed hn)]
    unfold agreed TimeSync.interpolation
    dsimp only
    congr 1
    · decide +kernel
    · decide +kernel
  have hestimate : alphaGainInitial Double * Arithmetic.ofRat TimeSample.agreeing.offsetUs.toInt +
      (Arithmetic.ofRat 1 - alphaGainInitial Double) * (Arithmetic.ofRat 0 + Arithmetic.ofRat 0) =
        Arithmetic.ofRat 0 := by decide +kernel
  have hskew : betaGainInitial Double * (Arithmetic.ofRat 0 - Arithmetic.ofRat 0) +
      (Arithmetic.ofRat 1 - betaGainInitial Double) * Arithmetic.ofRat 0 = Arithmetic.ofRat 0 := by decide +kernel
  have hadd : (agreed n).addSample TimeSample.agreeing.offsetUs = agreed n := by
    unfold TimeSync.addSample agreed
    split_ifs
    · rfl
    · dsimp only
      rw [hestimate, hskew]
  unfold TimeSync.accept
  rw [hgains, hadd]
  unfold agreed
  dsimp only
  rw [UInt32.ofNat_add]
  rfl

theorem flatAfter_agreeing {n : ℕ} (hn : n ≤ 250) :
    flatAfter (List.replicate n .agreeing) = { sync := agreed n, sinceReset := n, accepted := n } := by
  induction n with
  | zero => rfl
  | succ n ih =>
    have houtcome : (agreed n).outcome .agreeing = .accepted := by
      unfold TimeSync.outcome
      rw [if_neg (by decide), if_pos fun h => not_syncConverged_agreed hn h.1]
    unfold flatAfter at ih ⊢
    rw [List.replicate_succ', after_concat, ih (by omega), step, houtcome, TimeSync.run_outcome, houtcome]
    dsimp only
    rw [accept_agreed hn, if_pos rfl]

end TrackedSync

namespace TimeSync

/-- A filter that has converged on agreeing clocks adds one more such sample, counts one after a jump of the clock, and
does not change at one from the future. -/
theorem estimate_trusted_converged :
    let s := (TrackedSync.flatAfter (List.replicate 250 .agreeing)).sync
    s.syncStamp 5 7 = 5 ∧ AddsSample s (s.run (fun _ => 1) .agreeing) TimeSample.agreeing.offsetUs ∧
      KeepsEstimate s (s.run (fun _ => 1) .jumpedAhead) ∧ s.run (fun _ => 1) .fromFuture = s := by
  have hs : TrackedSync.after (fun _ => 1) (List.replicate 250 .agreeing) =
      { sync := TrackedSync.agreed 250, sinceReset := 250, accepted := 250 } := TrackedSync.flatAfter_agreeing le_rfl
  obtain ⟨hstamp, hconverged, hrejected⟩ := estimate_trusted (fun _ : Double => 1) (List.replicate 250 .agreeing)
    (by rw [hs]; decide)
  unfold TrackedSync.flatAfter
  rw [hs] at hstamp hconverged hrejected ⊢
  refine ⟨?_, ?_, ?_, hrejected .fromFuture (by decide)⟩
  · exact (hstamp 5 7).trans (by decide +kernel)
  · -- the sample agrees, so it is neither ignored nor taken for a jump
    rcases hconverged .agreeing (by decide +kernel) with hkeeps | hreset | hadds
    · exact absurd (by decide +kernel) hkeeps.1
    · exact absurd (by decide +kernel) hreset.1
    · exact hadds.2
  · -- it is the first that does not agree, so the filter is not reset yet
    rcases hconverged .jumpedAhead (by decide +kernel) with hkeeps | hreset | hadds
    · exact hkeeps.2
    · have hsequence : ((TrackedSync.agreed 250).run (fun _ => 1) .jumpedAhead).sequence = 250 := by decide +kernel
      rw [hreset.2] at hsequence
      exact absurd hsequence (by decide)
    · exact absurd hadds.1 (by decide +kernel)

end TimeSync

end AutopilotManager
