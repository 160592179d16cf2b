import AutopilotManager.Lib.Announcer
import AutopilotManager.Sensor.Downsampler

/-!
# Sensor.Health — the health of the sensors and what the pilot is told of it

`health_check` of the Sensor Manager beside the callbacks of the odometry and of the camera, each of which is one step.
The status is judged by the age of the last odometry and of the last image that has been stored, and a status text is
sent when it changes, or later, when obstacle avoidance comes on.
-/

namespace AutopilotManager

open Lib

/-- `SensorManager::HealthStatus`. -/
inductive SensorHealthStatus
  | healthy
  | unhealthyOdometry
  | unhealthyImages
  | unhealthyOdometryAndImages
  deriving DecidableEq

/-- The sum of the two flags as a status. -/
def SensorHealthStatus.ofFlags (isOdomHealthy isImageHealthy : Bool) : SensorHealthStatus :=
  match isOdomHealthy, isImageHealthy with
  | true, true => healthy
  | false, true => unhealthyOdometry
  | true, false => unhealthyImages
  | false, false => unhealthyOdometryAndImages

inductive SensorTextType
  | alert
  | info
  deriving DecidableEq

/-- A status text of the Sensor Manager. -/
structure SensorText where
  type : SensorTextType
  text : String
  deriving DecidableEq

/-- The node of the Sensor Manager: its camera, and what its health check uses.  `timeStart` and `shouldReportStatus`
are static variables of `health_check`. -/
structure SensorNode (R : Type) where
  camera : DepthCamera R
  obstacleAvoidanceEnabled : Bool := false
  timeLastOdometry : ℤ
  timeLastImage : ℤ
  healthStatus : SensorHealthStatus := .healthy
  timeStart : Option ℤ := none
  shouldReportStatus : Bool := true
  texts : List SensorText := []

/-- A callback of the node, with the time it reads. -/
inductive SensorCallback
  | odometry (now : ℤ)
  | cameraInfo (msg : CameraInfo)
  | depthImage (now : ℤ) (msg : ImageMsg) (transform : Option StampedTransform)
  | healthCheck (now : ℤ)

/-- A callback, or the call by which the Autopilot Manager hands over the flag. -/
inductive SensorInput
  | callback (c : SensorCallback)
  | setObstacleAvoidanceEnabled (enabled : Bool)

/-- `Duration::seconds`, of nanoseconds. -/
def seconds (ns : ℤ) : Double := (Double.ofRat ns).divConst (10 ^ 9)

namespace DepthCamera

variable {R : Type} (lib : DownsamplerLibrary R)

/-- The image gets as far as being stored. -/
def storesDepthImage (msg : ImageMsg) (transform : Option StampedTransform) (s : DepthCamera R) : Bool :=
  (s.setDownsampler msg).2.imageDownsampler.isSome && (s.setDownsampler msg).2.intrinsicPlausible lib &&
    transform.isSome

/-- What is stored of an image. -/
def storedImage (msg : ImageMsg) (transform : Option StampedTransform) (s : DepthCamera R) :
    Option (ExtendedDownsampledImage R) :=
  match (s.setDownsampler msg).2.imageDownsampler, transform with
  | some downsampler, some t =>
    if (s.setDownsampler msg).2.intrinsicPlausible lib then
      some
        { depthPixelArray := lib.downsample downsampler msg.data
          intrinsics := (s.setDownsampler msg).2.intrinsics
          position := toPosition t.translation
          orientation := toOrientation t.rotation
          timestampNs := .ofNat msg.stamp.nanosec.toNat }
    else none
  | _, _ => none

theorem isSome_storedImage (msg : ImageMsg) (transform : Option StampedTransform) (s : DepthCamera R) :
    (s.storedImage lib msg transform).isSome = s.storesDepthImage lib msg transform := by
  unfold storedImage storesDepthImage
  cases hdownsampler : (s.setDownsampler msg).2.imageDownsampler with
  | none => rfl
  | some d =>
    cases transform with
    | none => simp
    | some t =>
      dsimp only
      split_ifs with hintrinsics <;> simp [hintrinsics]

theorem downsampledDepth_setDownsampler (msg : ImageMsg) (s : DepthCamera R) :
    (s.setDownsampler msg).2.downsampledDepth = s.downsampledDepth := by
  rw [setDownsampler_eq]

/-- The image handed over is the last one that has been stored. -/
theorem downsampledDepth_handleIncomingDepthImage (msg : ImageMsg) (transform : Option StampedTransform)
    (s : DepthCamera R) :
    (s.handleIncomingDepthImage lib msg transform).downsampledDepth =
      (s.storedImage lib msg transform).or s.downsampledDepth := by
  have hkept := downsampledDepth_setDownsampler msg s
  unfold handleIncomingDepthImage storedImage
  dsimp only
  cases hdownsampler : (s.setDownsampler msg).2.imageDownsampler with
  | none => exact hkept
  | some d =>
    dsimp only
    by_cases hintrinsics : (s.setDownsampler msg).2.intrinsicPlausible lib
    · rw [if_neg (by simp [hintrinsics])]
      cases transform with
      | none => exact hkept
      | some t => simp [hintrinsics]
    · rw [if_pos (by simp [hintrinsics])]
      cases transform with
      | none => exact hkept
      | some t => simpa [hintrinsics] using hkept

end DepthCamera

namespace SensorNode

variable {R : Type} (lib : DownsamplerLibrary R)

/-! ### The callbacks -/

/-- The callback for the odometry. -/
def handleOdometry (now : ℤ) (s : SensorNode R) : SensorNode R := { s with timeLastOdometry := now }

def handleIncomingCameraInfo (msg : CameraInfo) (s : SensorNode R) : SensorNode R :=
  { s with camera := s.camera.handleIncomingCameraInfo lib msg }

/-- `handle_incoming_depth_image`; the time is taken where the image is stored. -/
def handleIncomingDepthImage (now : ℤ) (msg : ImageMsg) (transform : Option StampedTransform) (s : SensorNode R) :
    SensorNode R :=
  { s with
    camera := s.camera.handleIncomingDepthImage lib msg transform
    timeLastImage := if s.camera.storesDepthImage lib msg transform then now else s.timeLastImage }

def setObstacleAvoidanceEnabled (enabled : Bool) (s : SensorNode R) : SensorNode R :=
  { s with obstacleAvoidanceEnabled := enabled }

def isHealthy (s : SensorNode R) : Bool := s.healthStatus = .healthy

/-- The text for a status. -/
def statusText (isOdomHealthy isImageHealthy : Bool) : SensorText :=
  if isOdomHealthy && isImageHealthy then ⟨.info, "Safe Landing: Input healthy. Good to go!"⟩
  else
    ⟨.alert, "Sensor input unhealthy." ++ (if !isOdomHealthy then " - Odometry unhealthy." else "") ++
      (if !isImageHealthy then " - Images unhealthy." else "")⟩

/-- `health_check`. -/
def healthCheck (now : ℤ) (s : SensorNode R) : SensorNode R :=
  let timeStart := s.timeStart.getD now
  let s := { s with timeStart := some timeStart }
  if (seconds (now - timeStart)).lt 5 then s
  else
    let isOdomHealthy := (seconds (now - s.timeLastOdometry)).lt (.ofRat (5 / 2))
    let isImageHealthy := (seconds (now - s.timeLastImage)).lt (.ofRat (5 / 2))
    let newHealthStatus := SensorHealthStatus.ofFlags isOdomHealthy isImageHealthy
    let statusChanged := newHealthStatus ≠ s.healthStatus
    let s := { s with healthStatus := newHealthStatus, shouldReportStatus := s.shouldReportStatus || statusChanged }
    if !s.shouldReportStatus || !s.obstacleAvoidanceEnabled then s
    else { s with texts := statusText isOdomHealthy isImageHealthy :: s.texts, shouldReportStatus := false }

/-- The executor of the node runs one callback after the other. -/
def spin (s : SensorNode R) : SensorCallback → SensorNode R
  | .odometry now => s.handleOdometry now
  | .cameraInfo msg => s.handleIncomingCameraInfo lib msg
  | .depthImage now msg transform => s.handleIncomingDepthImage lib now msg transform
  | .healthCheck now => s.healthCheck now

def step (s : SensorNode R) : SensorInput → SensorNode R
  | .callback c => s.spin lib c
  | .setObstacleAvoidanceEnabled enabled => s.setObstacleAvoidanceEnabled enabled

/-- The constructor, at the time `now`. -/
def initial (intrinsics : R) (now : ℤ) : SensorNode R where
  camera := .initial intrinsics
  timeLastOdometry := now
  timeLastImage := now

/-! ### Ages -/

/-- Seconds below a limit are nanoseconds below it, if the limit is hit exactly. -/
theorem seconds_lt_iff {k : ℤ} {x : Finite64} (hx : 0 < x.1) (hbelow : (seconds (k - 1)).lt (.fin x))
    (hlimit : seconds k = .fin x) (hk : 0 < k) (ns : ℤ) : (seconds ns).lt (.fin x) ↔ ns < k := by
  have hmono : ∀ {m n : ℤ}, 0 ≤ m → m ≤ n → (seconds m).le (seconds n) := fun hm h =>
    Double.divConst_le_divConst (Double.zero_le_ofRat (by exact_mod_cast hm))
      (Double.ofRat_le_ofRat (by exact_mod_cast hm) (by exact_mod_cast h)) (by norm_num)
  constructor
  · intro h
    by_contra hge
    have hle : (Double.fin x).le (seconds ns) := hlimit ▸ hmono hk.le (not_lt.mp hge)
    exact Double.not_lt_of_le hle h
  · intro h
    by_cases hneg : ns < 0
    · exact Double.divConst_lt_of_neg (by exact_mod_cast hneg) (by norm_num) hx
    · exact Double.lt_trans_of_le (hmono (not_lt.mp hneg) (by omega)) hbelow

/-- The start-up time, in nanoseconds. -/
def startUp : ℤ := 5000000000

/-- The age, in nanoseconds, from which on an input is unhealthy. -/
def maxAge : ℤ := 2500000000

theorem seconds_lt_five (ns : ℤ) : (seconds ns).lt 5 = decide (ns < startUp) := by
  obtain ⟨x, hx, hpos⟩ : ∃ x : Finite64, (5 : Double) = .fin x ∧ 0 < x.1 :=
    ⟨⟨5, by decide +kernel, by decide +kernel⟩, by decide +kernel, by decide⟩
  rw [hx, Bool.eq_iff_iff, decide_eq_true_iff]
  exact seconds_lt_iff hpos (hx ▸ by decide +kernel) (hx ▸ by decide +kernel) (by decide) ns

theorem seconds_lt_twoAndAHalf (ns : ℤ) : (seconds ns).lt (.ofRat (5 / 2)) = decide (ns < maxAge) := by
  obtain ⟨x, hx, hpos⟩ : ∃ x : Finite64, Double.ofRat (5 / 2) = .fin x ∧ 0 < x.1 :=
    ⟨⟨5 / 2, by decide +kernel, by decide +kernel⟩, by decide +kernel, by norm_num⟩
  rw [hx, Bool.eq_iff_iff, decide_eq_true_iff]
  exact seconds_lt_iff hpos (hx ▸ by decide +kernel) (hx ▸ by decide +kernel) (by decide) ns

/-! ### What the checks see -/

/-- The check at `now` comes after the start-up time, which begins with the first check. -/
def isPastStartUp (now : ℤ) (s : SensorNode R) : Bool := startUp ≤ now - s.timeStart.getD now

/-- The status by the ages of the inputs. -/
def statusAt (now : ℤ) (s : SensorNode R) : SensorHealthStatus :=
  .ofFlags (now - s.timeLastOdometry < maxAge) (now - s.timeLastImage < maxAge)

/-- What a step observes: a check that comes after the start-up time, the status and whether avoidance is on. -/
def observed (s : SensorNode R) : SensorInput → List (Observation SensorHealthStatus)
  | .callback (.healthCheck now) => if s.isPastStartUp now then [⟨s.statusAt now, s.obstacleAvoidanceEnabled⟩] else []
  | _ => []

/-- What the run from `s` observes. -/
def observations (s : SensorNode R) (is : List SensorInput) : List (Observation SensorHealthStatus) :=
  emitted (step lib) observed s is

end SensorNode

/-- The text that is sent for a status. -/
def SensorHealthStatus.text : SensorHealthStatus → SensorText
  | healthy => SensorNode.statusText true true
  | unhealthyOdometry => SensorNode.statusText false true
  | unhealthyImages => SensorNode.statusText true false
  | unhealthyOdometryAndImages => SensorNode.statusText false false

theorem SensorHealthStatus.text_ofFlags (isOdomHealthy isImageHealthy : Bool) :
    (ofFlags isOdomHealthy isImageHealthy).text = SensorNode.statusText isOdomHealthy isImageHealthy := by
  cases isOdomHealthy <;> cases isImageHealthy <;> rfl

namespace SensorNode

variable {R : Type} {lib : DownsamplerLibrary R} {s : SensorNode R} {a : Announcer SensorHealthStatus}

/-- The node reports its status as the announcer does. -/
structure Reports (s : SensorNode R) (a : Announcer SensorHealthStatus) : Prop where
  status : s.healthStatus = a.status
  pending : s.shouldReportStatus = a.pending
  texts : s.texts = a.announced.map SensorHealthStatus.text

/-- A check before the end of the start-up time only remembers when that began. -/
theorem healthCheck_of_startUp {now : ℤ} (h : ¬ s.isPastStartUp now) :
    s.healthCheck now = { s with timeStart := some (s.timeStart.getD now) } := by
  have hearly : now - s.timeStart.getD now < startUp := by simpa [isPastStartUp] using h
  unfold healthCheck
  dsimp only
  rw [seconds_lt_five, if_pos (decide_eq_true hearly)]

theorem healthCheck_reports {now : ℤ} (h : s.isPastStartUp now) (hs : s.Reports a) :
    (s.healthCheck now).Reports (a.observe ⟨s.statusAt now, s.obstacleAvoidanceEnabled⟩) := by
  have hlate : ¬ now - s.timeStart.getD now < startUp := not_lt.mpr (of_decide_eq_true h)
  obtain ⟨hstatus, hpending, htexts⟩ := hs
  unfold healthCheck Announcer.observe statusAt
  dsimp only
  rw [seconds_lt_five, seconds_lt_twoAndAHalf, seconds_lt_twoAndAHalf, decide_eq_false hlate,
    if_neg Bool.false_ne_true, hstatus, hpending]
  split_ifs with hsilent hannounce hannounce
  · simp_all
  · exact ⟨rfl, rfl, htexts⟩
  · refine ⟨rfl, rfl, ?_⟩
    rw [List.map_cons, SensorHealthStatus.text_ofFlags, htexts]
  · simp_all

/-- **A step of the node** is what it observes, for the announcer. -/
theorem step_reports (hs : s.Reports a) (i : SensorInput) :
    (s.step lib i).Reports (run Announcer.observe a (s.observed i)) := by
  cases i with
  | setObstacleAvoidanceEnabled enabled => exact ⟨hs.status, hs.pending, hs.texts⟩
  | callback c =>
    cases c with
    | healthCheck now =>
      rw [step, spin, observed]
      split_ifs with hlate
      · exact healthCheck_reports hlate hs
      · rw [healthCheck_of_startUp hlate]
        exact ⟨hs.status, hs.pending, hs.texts⟩
    | _ => exact ⟨hs.status, hs.pending, hs.texts⟩

theorem run_reports (hs : s.Reports a) (is : List SensorInput) :
    (run (step lib) s is).Reports (run Announcer.observe a (observations lib s is)) := by
  have hstep : ∀ (s : SensorNode R) (a : Announcer SensorHealthStatus) i, s.Reports a →
      (s.step lib i).Reports (run Announcer.observe a (s.observed i)) := fun _ _ i hs => step_reports hs i
  exact run_simulates hstep hs is

/-! ### What a callback writes -/

/-- The image that a callback stores, with the time it takes of it. -/
def writtenImage (lib : DownsamplerLibrary R) (s : SensorNode R) :
    SensorCallback → Option (ExtendedDownsampledImage R × ℤ)
  | .depthImage now msg transform => (s.camera.storedImage lib msg transform).map fun image => (image, now)
  | _ => none

/-- The time that a callback takes of the odometry. -/
def writtenOdometry : SensorCallback → Option ℤ
  | .odometry now => some now
  | _ => none

/-- The status that a check past the start-up time stores. -/
def writtenStatus (s : SensorNode R) : SensorCallback → Option SensorHealthStatus
  | .healthCheck now => if s.isPastStartUp now then some (s.statusAt now) else none
  | _ => none

/-- The beginning of the start-up time, which the first check notes. -/
def writtenStart (s : SensorNode R) : SensorCallback → Option (Option ℤ)
  | .healthCheck now => if s.timeStart = none then some (some now) else none
  | _ => none

theorem writtenImage_eq_some {c : SensorCallback} {image : ExtendedDownsampledImage R} {t : ℤ} :
    s.writtenImage lib c = some (image, t) ↔
      ∃ msg transform, c = .depthImage t msg transform ∧ s.camera.storedImage lib msg transform = some image := by
  cases c <;> simp [writtenImage, and_comm]

theorem writtenOdometry_eq_some {c : SensorCallback} {t : ℤ} : writtenOdometry c = some t ↔ c = .odometry t := by
  cases c <;> simp [writtenOdometry]

theorem writtenStatus_eq_some {c : SensorCallback} {status : SensorHealthStatus} :
    s.writtenStatus c = some status ↔ ∃ now, c = .healthCheck now ∧ s.isPastStartUp now ∧ s.statusAt now = status := by
  cases c <;> simp [writtenStatus]

theorem statusAt_eq_healthy {now : ℤ} :
    s.statusAt now = .healthy ↔ now - s.timeLastOdometry < maxAge ∧ now - s.timeLastImage < maxAge := by
  unfold statusAt SensorHealthStatus.ofFlags
  split <;> simp_all

theorem writtenStart_eq_some {c : SensorCallback} {start : Option ℤ} :
    s.writtenStart c = some start ↔ ∃ now, c = .healthCheck now ∧ s.timeStart = none ∧ some now = start := by
  cases c <;> simp [writtenStart]

/-- A check past the start-up time comes at least so long after the first one. -/
theorem startUp_le_of_isPastStartUp {now : ℤ} (h : s.isPastStartUp now) :
    ∃ first, s.timeStart = some first ∧ startUp ≤ now - first := by
  have hle : startUp ≤ now - s.timeStart.getD now := of_decide_eq_true h
  cases hstart : s.timeStart with
  | none =>
    rw [hstart, Option.getD_none, sub_self] at hle
    exact absurd hle (by decide)
  | some first =>
    rw [hstart, Option.getD_some] at hle
    exact ⟨first, rfl, hle⟩

/-- What a callback leaves of the state before, part by part. -/
structure Writes (lib : DownsamplerLibrary R) (c : SensorCallback) (s s' : SensorNode R) : Prop where
  image : s'.camera.downsampledDepth = ((s.writtenImage lib c).map Prod.fst).or s.camera.downsampledDepth
  imageTime : s'.timeLastImage = ((s.writtenImage lib c).map Prod.snd).getD s.timeLastImage
  odometryTime : s'.timeLastOdometry = (writtenOdometry c).getD s.timeLastOdometry
  status : s'.healthStatus = (s.writtenStatus c).getD s.healthStatus
  avoidance : s'.obstacleAvoidanceEnabled = s.obstacleAvoidanceEnabled
  start : s'.timeStart = (s.writtenStart c).getD s.timeStart

theorem healthCheck_writes (now : ℤ) (s : SensorNode R) : Writes lib (.healthCheck now) s (s.healthCheck now) := by
  have hstart : some (s.timeStart.getD now) = (s.writtenStart (.healthCheck now)).getD s.timeStart := by
    unfold writtenStart
    cases s.timeStart <;> rfl
  by_cases hlate : s.isPastStartUp now
  · have hstarted : ¬ now - s.timeStart.getD now < startUp := not_lt.mpr (of_decide_eq_true hlate)
    have hstatus : s.writtenStatus (.healthCheck now) = some (s.statusAt now) := if_pos hlate
    unfold healthCheck
    dsimp only
    rw [seconds_lt_five, seconds_lt_twoAndAHalf, seconds_lt_twoAndAHalf, decide_eq_false hstarted,
      if_neg Bool.false_ne_true]
    split_ifs <;> exact ⟨rfl, rfl, rfl, by rw [hstatus]; rfl, rfl, hstart⟩
  · have hstatus : s.writtenStatus (.healthCheck now) = none := if_neg hlate
    rw [healthCheck_of_startUp hlate]
    exact ⟨rfl, rfl, rfl, by rw [hstatus]; rfl, rfl, hstart⟩

theorem spin_writes (lib : DownsamplerLibrary R) (s : SensorNode R) (c : SensorCallback) :
    Writes lib c s (s.spin lib c) := by
  cases c with
  | odometry now => exact ⟨rfl, rfl, rfl, rfl, rfl, rfl⟩
  | cameraInfo msg =>
    refine ⟨?_, rfl, rfl, rfl, rfl, rfl⟩
    show (s.camera.handleIncomingCameraInfo lib msg).downsampledDepth = s.camera.downsampledDepth
    unfold DepthCamera.handleIncomingCameraInfo
    dsimp only
    split <;> rfl
  | depthImage now msg transform =>
    refine ⟨?_, ?_, rfl, rfl, rfl, rfl⟩
    · show (s.camera.handleIncomingDepthImage lib msg transform).downsampledDepth = _
      rw [DepthCamera.downsampledDepth_handleIncomingDepthImage, writtenImage, Option.map_map]
      cases s.camera.storedImage lib msg transform <;> rfl
    · show (if s.camera.storesDepthImage lib msg transform then now else s.timeLastImage) = _
      rw [← DepthCamera.isSome_storedImage, writtenImage]
      cases s.camera.storedImage lib msg transform <;> rfl
  | healthCheck now => exact healthCheck_writes now s

/-- **What the pilot is told of the sensors**, in every run of the node.  There are no more texts than the status has
changes.  If avoidance was on at every check past the start-up time, the texts are those of the statuses the checks
have seen, without repetitions.  And after a check that finds avoidance on, the last text names the inputs that are
too old at that check, whatever has been sent before. -/
theorem status_texts (lib : DownsamplerLibrary R) (intrinsics : R) (t : ℤ) (is : List SensorInput) :
    let s := run (step lib) (initial intrinsics t) is
    let os := observations lib (initial intrinsics t) is
    s.texts.length ≤ ((os.map Observation.status).destutter' (· ≠ ·) .healthy).length ∧
      ((∀ o ∈ os, o.isOpen) →
        s.texts.reverse = ((os.map Observation.status).destutter (· ≠ ·)).map SensorHealthStatus.text) ∧
      ∀ o ∈ os.getLast?, o.isOpen → s.texts.head? = some o.status.text := by
  dsimp only
  have hinitial : (initial intrinsics t).Reports ⟨.healthy, true, []⟩ := ⟨rfl, rfl, rfl⟩
  have hreports : (run (step lib) (initial intrinsics t) is).Reports _ := run_reports hinitial is
  generalize observations lib (initial intrinsics t) is = os at hreports ⊢
  refine ⟨?_, fun hopen => ?_, fun o ho hopen => ?_⟩
  · have hlength := Announcer.length_run_le ⟨SensorHealthStatus.healthy, true, []⟩ os
    rw [hreports.texts, List.length_map]
    simp only [List.length_nil, Bool.toNat_true] at hlength
    omega
  · rw [hreports.texts, ← List.map_reverse, Announcer.announced_run_pending _ hopen]
  · obtain ⟨before, rfl⟩ := List.getLast?_eq_some_iff.mp ho
    have hsettled : Announcer.Settled ⟨SensorHealthStatus.healthy, true, []⟩ := nofun
    rw [hreports.texts, List.head?_map, run_concat,
      Announcer.head?_observe_of_isOpen (Announcer.settled_run hsettled before) hopen]
    rfl

end SensorNode

end AutopilotManager
