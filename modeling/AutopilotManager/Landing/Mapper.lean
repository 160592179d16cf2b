import AutopilotManager.Mission.Basic

/-!
# Landing.Mapper — the mapper cycle of the Landing Manager

`updateParameters`, `healthCheck` and `mapper`.  What the landing mapper finds in an image, the state of the ground
and the height above the obstacle, is part of what the cycle reads.
-/

namespace AutopilotManager

open Lib

/-- What a cycle reads of a depth image: its time, and how many points it has left. -/
structure DepthImage where
  timestampNs : Int64
  pixels : ℕ
  deriving DecidableEq

/-- The image of one cycle, and what the landing mapper answers should the image be processed. -/
structure MapperInput where
  depth : Option DepthImage
  state : LandingMapperState
  heightAboveObstacle : Double

/-- There is an image with points. -/
def MapperInput.hasPoints (m : MapperInput) : Bool := m.depth.any fun image => 0 < image.pixels

inductive HealthStatus
  | healthy
  | unhealthyNullImages
  | unhealthyOldTimestamps
  | unhealthyNullImagesAndOldTimestamps
  deriving DecidableEq

/-- The sum of the two flags as a status. -/
def HealthStatus.ofFlags (tooManyNullImages tooManyOldTimestamps : Bool) : HealthStatus :=
  match tooManyNullImages, tooManyOldTimestamps with
  | false, false => healthy
  | true, false => unhealthyNullImages
  | false, true => unhealthyOldTimestamps
  | true, true => unhealthyNullImagesAndOldTimestamps

/-- The static counters of `healthCheck`; both wrap around. -/
structure HealthHandly where
  countImageNull : Int16 := 0
  countTimestampOld : Int16 := 0
  lastTimestamp : Int64 := 0
  deriving DecidableEq

def HealthHandly.maxNullImage : Int16 := 5
def HealthHandly.maxOldTimestamp : Int16 := 50

def HealthHandly.count (depth : Option DepthImage) (health : HealthHandly) : HealthHandly :=
  match depth with
  | none => { health with countImageNull := health.countImageNull + 1 }
  | some image =>
    { countImageNull := 0
      countTimestampOld := if health.lastTimestamp ≥ image.timestampNs then health.countTimestampOld + 1 else 0
      lastTimestamp := image.timestampNs }

/-- The part of `LandingMapperParameter` that the configuration changes, with its upper bounds. -/
structure MapperParameter where
  searchAltitudeM : Double := .ofRat (15 / 2)
  windowSizeM : Double := 2
  maxSearchAltitudeM : Double := 8
  maxWindowSizeM : Double := 8
  deriving DecidableEq

/-- `LandingManager`, with the status texts it has sent, newest first. -/
structure LandingManager where
  config : LandingManagerConfiguration := {}
  parameter : MapperParameter := {}
  obstacleAvoidanceEnabled : Bool := false
  health : HealthHandly := {}
  healthStatus : HealthStatus := .healthy
  imagesProcessed : ℕ := 0
  state : LandingMapperState := .unknown
  heightAboveObstacle : Double := 0
  alerts : List String := []
  deriving DecidableEq

namespace LandingManager

/-! ### Parameters -/

/-- `setSearchAltitude_m`: the answer and the parameter, a `float`. -/
def setSearchAltitudeM (altitude : Double) (p : MapperParameter) : Bool × MapperParameter :=
  if altitude.lt 1 then (false, p)
  else if p.maxSearchAltitudeM.lt altitude then (false, p)
  else (true, { p with searchAltitudeM := altitude.toFloat })

/-- `setSearchWindow_m`. -/
def setSearchWindowM (windowSize : Double) (p : MapperParameter) : Bool × MapperParameter :=
  if windowSize.lt 1 then (false, p)
  else if p.maxWindowSizeM.lt windowSize then (false, p)
  else (true, { p with windowSizeM := windowSize.toFloat })

def updateParameters (config : LandingManagerConfiguration) (s : LandingManager) : LandingManager :=
  let p := s.parameter
  let altitude := setSearchAltitudeM config.safeLandingDistanceToGround p
  let p :=
    if config.safeLandingDistanceToGround.eq 0 || !altitude.1 then { p with searchAltitudeM := .ofRat (15 / 2) }
    else altitude.2
  let window := setSearchWindowM config.safeLandingAreaSquareSize p
  let p :=
    if config.safeLandingAreaSquareSize.eq 0 || !window.1 then { p with windowSizeM := 2 } else window.2
  { s with config := config, parameter := p }

def isEnabledInConfig (s : LandingManager) : Bool :=
  s.config.autopilotManagerEnabled ≠ 0 && s.config.safeLandingEnabled ≠ 0

/-! ### Health -/

def isHealthy (s : LandingManager) : Bool := s.healthStatus = .healthy

/-- The text of an alert. -/
def alertText (tooManyNullImages tooManyOldTimestamps : Bool) (health : HealthHandly) : String :=
  "Mapper input unhealthy" ++
    (if tooManyNullImages then " - NULL-images (" ++ toString health.countImageNull ++ ")" else "") ++
    (if tooManyOldTimestamps then " - Old timestamps (" ++ toString health.countTimestampOld ++ ")" else "")

/-- `healthCheck`: the status, with an alert when it has changed to an unhealthy one. -/
def healthCheck (depth : Option DepthImage) (s : LandingManager) : LandingManager :=
  let health := s.health.count depth
  let tooManyNullImages := decide (health.countImageNull > HealthHandly.maxNullImage)
  let tooManyOldTimestamps := decide (health.countTimestampOld > HealthHandly.maxOldTimestamp)
  let status := HealthStatus.ofFlags tooManyNullImages tooManyOldTimestamps
  let statusChanged := status ≠ s.healthStatus
  let s := { s with health := health, healthStatus := status }
  if !s.isHealthy && statusChanged then
    { s with alerts := alertText tooManyNullImages tooManyOldTimestamps health :: s.alerts }
  else s

/-! ### The cycle -/

/-- The cycle builds a map: safe landing is enabled in the configuration and in PX4. -/
def shouldBuildLandingMap (s : LandingManager) : Bool := s.isEnabledInConfig && s.obstacleAvoidanceEnabled

/-- What the cycle writes: a measurement, that the mapper is unhealthy, or that nothing is known, unless the vehicle
was close to the ground. -/
def writeState (m : MapperInput) (s : LandingManager) : LandingManager :=
  if s.isHealthy && m.hasPoints then
    { s with
      imagesProcessed := s.imagesProcessed + 1
      state := m.state
      heightAboveObstacle := m.heightAboveObstacle }
  else if !s.isHealthy then { s with state := .unhealthy }
  else if s.state ≠ .closeToGround then { s with state := .unknown }
  else s

/-- `mapper`: one cycle. -/
def mapper (config : LandingManagerConfiguration) (m : MapperInput) (s : LandingManager) : LandingManager :=
  let s := s.updateParameters config
  if s.shouldBuildLandingMap then (s.healthCheck m.depth).writeState m else s

/-- `printStats`: the statistics are printed and reset. -/
def printStats (s : LandingManager) : LandingManager := { s with imagesProcessed := 0 }

/-! ### What a cycle can do -/

/-- The cycle processes its image. -/
def processesImage (config : LandingManagerConfiguration) (m : MapperInput) (s : LandingManager) : Bool :=
  (s.updateParameters config).shouldBuildLandingMap &&
    ((s.updateParameters config).healthCheck m.depth).isHealthy && m.hasPoints

/-- The cycle writes the landing state. -/
def writesState (config : LandingManagerConfiguration) (m : MapperInput) (s : LandingManager) : Bool :=
  (s.updateParameters config).shouldBuildLandingMap &&
    (processesImage config m s || !((s.updateParameters config).healthCheck m.depth).isHealthy ||
      s.state ≠ .closeToGround)

/-- **What one cycle can do to the state and the height.** -/
inductive Cycle (config : LandingManagerConfiguration) (m : MapperInput) (s s' : LandingManager) : Prop
  | measured (processes : processesImage config m s) (state : s'.state = m.state)
      (height : s'.heightAboveObstacle = m.heightAboveObstacle)
  | blind (skips : ¬ processesImage config m s) (writes : writesState config m s)
      (state : s'.state = .unhealthy ∨ s'.state = .unknown)
      (height : s'.heightAboveObstacle = s.heightAboveObstacle)
  | kept (skips : ¬ processesImage config m s) (keeps : ¬ writesState config m s) (state : s'.state = s.state)
      (height : s'.heightAboveObstacle = s.heightAboveObstacle)

variable {config : LandingManagerConfiguration} {m : MapperInput}

theorem healthCheck_frame (depth : Option DepthImage) (s : LandingManager) :
    (s.healthCheck depth).state = s.state ∧ (s.healthCheck depth).heightAboveObstacle = s.heightAboveObstacle ∧
      (s.healthCheck depth).obstacleAvoidanceEnabled = s.obstacleAvoidanceEnabled := by
  unfold healthCheck
  dsimp only
  split_ifs <;> exact ⟨rfl, rfl, rfl⟩

theorem mapper_cases (config : LandingManagerConfiguration) (m : MapperInput) (s : LandingManager) :
    Cycle config m s (s.mapper config m) := by
  obtain ⟨hstate, hheight, -⟩ := healthCheck_frame m.depth (s.updateParameters config)
  have hstate' : ((s.updateParameters config).healthCheck m.depth).state = s.state := hstate
  have hheight' : ((s.updateParameters config).healthCheck m.depth).heightAboveObstacle = s.heightAboveObstacle :=
    hheight
  unfold mapper
  dsimp only
  by_cases hbuild : (s.updateParameters config).shouldBuildLandingMap
  · rw [if_pos hbuild]
    unfold writeState
    split_ifs with hprocess hhealthy hclose
    · exact .measured (by simp_all [processesImage]) rfl rfl
    · exact .blind (by simp_all [processesImage]) (by simp_all [writesState]) (.inl rfl) hheight'
    · exact .blind (by simp_all [processesImage]) (by simp_all [writesState]) (.inr rfl) hheight'
    · exact .kept (by simp_all [processesImage]) (by simp_all [writesState, processesImage]) hstate' hheight'
  · rw [if_neg hbuild]
    exact .kept (by simp [processesImage, hbuild]) (by simp [writesState, hbuild]) rfl rfl

theorem writesState_of_processesImage {s : LandingManager} (h : processesImage config m s) :
    writesState config m s := by
  have hbuild : (s.updateParameters config).shouldBuildLandingMap := by
    unfold processesImage at h
    rw [Bool.and_assoc, Bool.and_eq_true] at h
    exact h.1
  unfold writesState
  rw [hbuild, h]
  rfl

/-- A cycle without an image processes none. -/
theorem not_processesImage_of_none (hnone : m.depth = none) (s : LandingManager) : ¬ processesImage config m s := by
  unfold processesImage MapperInput.hasPoints
  rw [hnone]
  simp

end LandingManager

end AutopilotManager
