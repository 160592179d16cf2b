import AutopilotManager.Config.RoundTrip
import AutopilotManager.Landing.PointCloud
import AutopilotManager.Sensor.Health
import AutopilotManager.Service.Manager
import AutopilotManager.System.Obstacle

/-!
# System.Process — the process from its start

The main thread constructs the Autopilot Manager, which reads its configuration, waits for a vehicle, starts its
modules one after the other and goes on in its own loop; what comes behind the constructor in `main`, the D-Bus
interface and its main loop, is the rest of the thread.  The modules run beside it from their start on, and the images
of the Sensor Manager are what the Landing Manager and the Collision Avoidance Manager work on.
-/

namespace AutopilotManager

open Lib

/-- Where the main thread is: in the constructor of the Autopilot Manager up to `running`, then in `main`. -/
inductive MainThread
  | provisioning
  | connecting
  | discovering
  | startSensorManager
  | startCollisionAvoidanceManager
  | startLandingManager
  | startMissionManager
  | running
  | registering
  | serving
  | exited (code : ℕ)
  | aborted
  deriving DecidableEq

/-- What a step of the main thread meets outside: the connection, a vehicle in time, the name on the bus, and the end
of the GLib loop. -/
structure MainInput where
  connected : Bool := true
  discovered : Bool := true
  registered : Bool := true
  quits : Bool := false

/-- The process, with the heartbeats sent and the answers given on the bus, newest first; `none` is a message that is
not handled. -/
structure AutopilotProcess (P R : Type) where
  main : MainThread := .provisioning
  interruptReceived : Bool := false
  service : Service
  obstacleAvoidanceEnabled : Bool := false
  heartbeats : ℕ := 0
  sensor : SensorNode R
  collision : CollisionAvoidanceManager := {}
  landing : LandingManager
  mission : MissionManager P
  answers : List (Option (List Arg)) := []

/-- What the landing mapper makes of an image in one cycle: the answers of `checkLandingArea` and
`getHeightAboveObstacle` once it has been given the position, the orientation and the cloud of the image.  It keeps a
map, so it may answer differently in each cycle. -/
abbrev LandingCheck : Type :=
  Double × Double × Double → Double × Double × Double × Double → PointCloud → LandingMapperState × Double

/-- One atomic step: of the main thread, of one of the modules, or a message that comes in on the bus. -/
inductive ProcessInput (E : Type)
  | main (i : MainInput)
  | message (message : Message) (env : Surroundings)
  | sensor (c : SensorCallback)
  | computeDistance (pastEnd : Double)
  | mapper (check : LandingCheck)
  | printStats
  | mission (input : MissionInput E)

/-- With what the process is started: the path and the text of its interface, and what the constructors of the modules
find. -/
structure Launch (R : Type) where
  configPath : String
  introspection : String
  intrinsics : R
  timeSensorManager : ℤ
  parameter : MapperParameter
  boot : Boot

/-- `DBusInterface::MessageHandler`, with the service after the message and the answer. -/
def messageHandler (configPath introspection : String) (message : Message) (env : Surroundings) (s : Service) :
    Except StdException (Service × Option (List Arg)) :=
  if message.interface = "org.freedesktop.DBus.Introspectable" ∧ message.member = "Introspect" then
    .ok (s, if env.replies then some [.string introspection] else none)
  else if message.interface = "org.freedesktop.DBus.Peer" ∧ message.member = "Ping" then
    .ok (s, if env.replies then some [] else none)
  else handleRequest configPath message env s

/-! ### What the modules get of an image -/

namespace ExtendedDownsampledImage

variable {R : Type}

/-- What the Landing Manager reads of an image. -/
def depthImage (image : ExtendedDownsampledImage R) : DepthImage := ⟨image.timestampNs, image.depthPixelArray.length⟩

/-- What the Collision Avoidance Manager reads of it. -/
def downsampledImage (lib : DownsamplerLibrary R) (image : ExtendedDownsampledImage R) : DownsampledImage :=
  ⟨image.depthPixelArray, lib.rw image.intrinsics, lib.rh image.intrinsics⟩

end ExtendedDownsampledImage

namespace MainThread

/-- The Sensor Manager has been started and the process has not ended. -/
def runsSensorManager : MainThread → Bool
  | startCollisionAvoidanceManager | startLandingManager | startMissionManager | running | registering | serving => true
  | _ => false

def runsCollisionAvoidanceManager : MainThread → Bool
  | startLandingManager | startMissionManager | running | registering | serving => true
  | _ => false

def runsLandingManager : MainThread → Bool
  | startMissionManager | running | registering | serving => true
  | _ => false

def runsMissionManager : MainThread → Bool
  | running | registering | serving => true
  | _ => false

end MainThread

namespace AutopilotProcess

variable {P R E : Type} (ext : Externals P E) (lib : DownsamplerLibrary R) (launch : Launch R)

/-! ### The loop of the Autopilot Manager -/

/-- `update_obstacle_avoidance_enabled`. -/
def updateObstacleAvoidanceEnabled (s : AutopilotProcess P R) : AutopilotProcess P R :=
  let shouldBeEnabled := s.mission.obstacleAvoidanceEnabled
  if shouldBeEnabled ≠ s.obstacleAvoidanceEnabled then
    { s with
      obstacleAvoidanceEnabled := shouldBeEnabled
      landing := { s.landing with obstacleAvoidanceEnabled := shouldBeEnabled }
      sensor := s.sensor.setObstacleAvoidanceEnabled shouldBeEnabled }
  else s

/-- One iteration of `run`. -/
def runOnce (s : AutopilotProcess P R) : AutopilotProcess P R :=
  let s := s.updateObstacleAvoidanceEnabled
  if s.service.live.safeLandingEnabled ≠ 0 && (s.sensor.isHealthy && s.landing.isHealthy && s.mission.isHealthy) then
    { s with heartbeats := s.heartbeats + 1 }
  else s

/-! ### The main thread -/

/-- One step of the main thread; an exception that leaves the constructor or `main` ends the process, and so does
`exit`.  The interrupt is stored by the destructor. -/
def mainStep (i : MainInput) (s : AutopilotProcess P R) : AutopilotProcess P R :=
  match s.main with
  | .provisioning =>
    match initialProvisioning launch.configPath s.service with
    | .ok service => { s with service, main := .connecting }
    | .error _ => { s with main := .aborted }
  | .connecting => { s with main := if i.connected then .discovering else .exited 1 }
  | .discovering => { s with main := if i.discovered then .startSensorManager else .exited 1 }
  | .startSensorManager => { s with main := .startCollisionAvoidanceManager }
  | .startCollisionAvoidanceManager => { s with main := .startLandingManager }
  | .startLandingManager => { s with main := .startMissionManager }
  | .startMissionManager => { s with main := .running }
  | .running => if s.interruptReceived then { s with main := .registering } else s.runOnce
  | .registering => { s with main := if i.registered then .serving else .aborted }
  | .serving => if i.quits then { s with interruptReceived := true, main := .exited 0 } else s
  | .exited _ | .aborted => s

/-- A message on the bus is dispatched by the main loop, and by nothing else. -/
def dispatch (message : Message) (env : Surroundings) (s : AutopilotProcess P R) : AutopilotProcess P R :=
  if s.main = .serving then
    match messageHandler launch.configPath launch.introspection message env s.service with
    | .ok (service, answer) => { s with service, answers := answer :: s.answers }
    | .error _ => { s with main := .aborted }
  else s

/-! ### The modules -/

/-- What an iteration of the decision loop reads through its callbacks. -/
def tickInput (i : TickInput E) (s : AutopilotProcess P R) : TickInput E :=
  { i with
    config := missionManagerConfig s.service.live
    landingState := s.landing.state
    heightAboveObstacle := s.landing.heightAboveObstacle
    distanceFinite := s.collision.getLatestDistance
    distanceCompared := s.collision.getLatestDistance }

/-- The inputs of the Mission Manager, with what it reads through its callbacks. -/
def missionInput (s : AutopilotProcess P R) : MissionInput E → MissionInput E
  | .tick i => .tick (s.tickInput i)
  | .trajectory t => .trajectory { t with heightAboveObstacle := s.landing.heightAboveObstacle }
  | input => input

/-- The call of the timer of the Collision Avoidance Manager, with the latest image. -/
def distanceInput (pastEnd : Double) (s : AutopilotProcess P R) : DistanceInput :=
  ⟨s.sensor.camera.downsampledDepth.map fun image => image.downsampledImage lib, pastEnd⟩

/-- A cycle of the mapper, with the latest image and what the landing mapper makes of it; without an image the cycle
asks for nothing. -/
def mapperInput (check : LandingCheck) (s : AutopilotProcess P R) : MapperInput :=
  match s.sensor.camera.downsampledDepth with
  | some image =>
    let finding := check image.position image.orientation (LandingManager.pointCloud lib image)
    ⟨some image.depthImage, finding.1, finding.2⟩
  | none => ⟨none, .unknown, 0⟩

def step (s : AutopilotProcess P R) : ProcessInput E → AutopilotProcess P R
  | .main i => s.mainStep launch i
  | .message message env => s.dispatch launch message env
  | .sensor c => if s.main.runsSensorManager then { s with sensor := s.sensor.spin lib c } else s
  | .computeDistance pastEnd =>
    if s.main.runsCollisionAvoidanceManager then
      { s with
        collision := s.collision.computeDistanceToObstacle (collisionAvoidanceManagerConfig s.service.live)
          (s.distanceInput lib pastEnd) }
    else s
  | .mapper check =>
    if s.main.runsLandingManager then
      { s with landing := s.landing.mapper (landingManagerConfig s.service.live) (s.mapperInput lib check) }
    else s
  | .printStats => if s.main.runsLandingManager then { s with landing := s.landing.printStats } else s
  | .mission input =>
    if s.main.runsMissionManager then { s with mission := s.mission.step ext (s.missionInput input) } else s

/-- The start, over the files; the modules are as their constructors will make them. -/
def initial (files : Files) : AutopilotProcess P R where
  service := ⟨{}, files⟩
  sensor := .initial launch.intrinsics launch.timeSensorManager
  landing := { parameter := launch.parameter }
  mission := .initial ext launch.boot

end AutopilotProcess

namespace MainThread

/-- In the constructor of the Autopilot Manager, or the process has ended there. -/
def inConstructor : MainThread → Bool
  | registering | serving | exited 0 => false
  | _ => true

/-- The configuration has been read. -/
def isProvisioned : MainThread → Bool
  | provisioning | aborted => false
  | _ => true

/-- The modules are started one after the other, and not before the configuration has been read. -/
theorem runs_order (main : MainThread) :
    (main.runsMissionManager → main.runsLandingManager) ∧
      (main.runsLandingManager → main.runsCollisionAvoidanceManager) ∧
      (main.runsCollisionAvoidanceManager → main.runsSensorManager) ∧
      (main.runsSensorManager → main.isProvisioned) := by
  cases main <;> simp [runsMissionManager, runsLandingManager, runsCollisionAvoidanceManager, runsSensorManager,
    isProvisioned]

end MainThread

namespace AutopilotProcess

variable {P R E : Type} {ext : Externals P E} {lib : DownsamplerLibrary R} {launch : Launch R} {files : Files}
  {s : AutopilotProcess P R} {i : ProcessInput E}

/-! ### The constructor does not return -/

/-- The main thread has not left the constructor, whose last call is that of `run`: the interrupt is not stored, nothing
has been answered, and the service is what `initialProvisioning` has made of the files. -/
structure Constructing (launch : Launch R) (files : Files) (s : AutopilotProcess P R) : Prop where
  main : s.main.inConstructor
  interrupt : s.interruptReceived = false
  answers : s.answers = []
  unread : ¬ s.main.isProvisioned → s.service = ⟨{}, files⟩
  provisioned : s.main.isProvisioned → initialProvisioning launch.configPath ⟨{}, files⟩ = .ok s.service
  aborted : s.main = .aborted → ∃ e, initialProvisioning launch.configPath ⟨{}, files⟩ = .error e

theorem constructing_initial (ext : Externals P E) (launch : Launch R) (files : Files) :
    Constructing launch files (initial ext launch files) :=
  ⟨rfl, rfl, rfl, fun _ => rfl, nofun, nofun⟩

/-- What a step keeps if it leaves the main thread, the interrupt, the service and the answers. -/
theorem Constructing.of_eq {s' : AutopilotProcess P R} (hs : Constructing launch files s) (hmain : s'.main = s.main)
    (hinterrupt : s'.interruptReceived = s.interruptReceived) (hservice : s'.service = s.service)
    (hanswers : s'.answers = s.answers) : Constructing launch files s' where
  main := hmain ▸ hs.main
  interrupt := hinterrupt.trans hs.interrupt
  answers := hanswers.trans hs.answers
  unread h := hservice.trans (hs.unread (hmain ▸ h))
  provisioned h := hservice ▸ hs.provisioned (hmain ▸ h)
  aborted h := hs.aborted (hmain ▸ h)

/-- The main thread goes on within the constructor. -/
theorem Constructing.goOn (hs : Constructing launch files s) (hprovisioned : s.main.isProvisioned) {main : MainThread}
    (hmain : main.inConstructor) (hnext : main.isProvisioned) : Constructing launch files { s with main } where
  main := hmain
  interrupt := hs.interrupt
  answers := hs.answers
  unread h := absurd hnext h
  provisioned _ := hs.provisioned hprovisioned
  aborted h := absurd hnext (by rw [show main = .aborted from h]; exact Bool.false_ne_true)

theorem runOnce_frame (s : AutopilotProcess P R) :
    s.runOnce.main = s.main ∧ s.runOnce.interruptReceived = s.interruptReceived ∧ s.runOnce.service = s.service ∧
      s.runOnce.answers = s.answers := by
  unfold runOnce updateObstacleAvoidanceEnabled
  dsimp only
  split_ifs <;> exact ⟨rfl, rfl, rfl, rfl⟩

theorem constructing_mainStep (hs : Constructing launch files s) (i : MainInput) :
    Constructing launch files (s.mainStep launch i) := by
  unfold mainStep
  cases hmain : s.main with
  | provisioning =>
    have hservice : s.service = ⟨{}, files⟩ := hs.unread (by rw [hmain]; exact Bool.false_ne_true)
    dsimp only
    rw [hservice]
    cases hread : initialProvisioning launch.configPath ⟨{}, files⟩ with
    | ok service => exact ⟨rfl, hs.interrupt, hs.answers, fun h => absurd rfl h, fun _ => hread, nofun⟩
    | error e => exact ⟨rfl, hs.interrupt, hs.answers, fun _ => rfl, nofun, fun _ => ⟨e, hread⟩⟩
  | connecting => dsimp only; split_ifs <;> exact hs.goOn (hmain ▸ rfl) rfl rfl
  | discovering => dsimp only; split_ifs <;> exact hs.goOn (hmain ▸ rfl) rfl rfl
  | startSensorManager | startCollisionAvoidanceManager | startLandingManager | startMissionManager =>
    exact hs.goOn (hmain ▸ rfl) rfl rfl
  | running =>
    dsimp only
    rw [hs.interrupt, if_neg Bool.false_ne_true]
    obtain ⟨hmain', hinterrupt, hservice, hanswers⟩ := runOnce_frame s
    exact hs.of_eq hmain' hinterrupt hservice hanswers
  | registering | serving => exact absurd hs.main (by rw [hmain]; exact Bool.false_ne_true)
  | exited | aborted => exact hs

theorem mainStep_of_running (hs : Constructing launch files s) (hrunning : s.main = .running) (i : MainInput) :
    s.mainStep launch i = s.runOnce := by
  rw [mainStep, hrunning]
  dsimp only
  rw [hs.interrupt, if_neg Bool.false_ne_true]

/-- Outside its loop the main thread does nothing to the modules. -/
theorem mainStep_frame (launch : Launch R) (hrunning : s.main ≠ .running) (i : MainInput) :
    (s.mainStep launch i).heartbeats = s.heartbeats ∧
      (s.mainStep launch i).obstacleAvoidanceEnabled = s.obstacleAvoidanceEnabled ∧
      (s.mainStep launch i).sensor = s.sensor ∧ (s.mainStep launch i).collision = s.collision ∧
      (s.mainStep launch i).landing = s.landing ∧ (s.mainStep launch i).mission = s.mission := by
  unfold mainStep
  cases hmain : s.main with
  | provisioning => cases initialProvisioning launch.configPath s.service <;> exact ⟨rfl, rfl, rfl, rfl, rfl, rfl⟩
  | running => exact absurd hmain hrunning
  | serving =>
    dsimp only
    split_ifs <;> exact ⟨rfl, rfl, rfl, rfl, rfl, rfl⟩
  | _ => exact ⟨rfl, rfl, rfl, rfl, rfl, rfl⟩

theorem files_initialProvisioning {configPath : String} {service service' : Service}
    (h : initialProvisioning configPath service = .ok service') : service'.files = service.files := by
  unfold initialProvisioning at h
  split at h
  · cases h
  · rw [← Except.ok.inj h]
  · rw [← Except.ok.inj h]

theorem Constructing.files_eq (hs : Constructing launch files s) : s.service.files = files := by
  by_cases hprovisioned : s.main.isProvisioned
  · exact files_initialProvisioning (hs.provisioned hprovisioned)
  · rw [hs.unread hprovisioned]

/-- A message finds nobody. -/
theorem dispatch_eq (hs : Constructing launch files s) (message : Message) (env : Surroundings) :
    s.dispatch launch message env = s := by
  refine if_neg fun hserving => ?_
  have hmain := hs.main
  rw [hserving] at hmain
  exact Bool.false_ne_true hmain

theorem constructing_step (hs : Constructing launch files s) (i : ProcessInput E) :
    Constructing launch files (s.step ext lib launch i) := by
  unfold step
  cases i with
  | main i => exact constructing_mainStep hs i
  | message message env =>
    dsimp only
    rw [dispatch_eq hs message env]
    exact hs
  | sensor _ | computeDistance _ | mapper _ | printStats | mission _ =>
    dsimp only
    split_ifs <;> exact hs.of_eq rfl rfl rfl rfl

/-- A Collision Avoidance Manager that has been started goes on running. -/
theorem runsCollisionAvoidanceManager_step (hs : Constructing launch files s)
    (hruns : s.main.runsCollisionAvoidanceManager) (i : ProcessInput E) :
    (s.step ext lib launch i).main.runsCollisionAvoidanceManager := by
  cases i with
  | main i =>
    rw [step, mainStep]
    cases hmain : s.main with
    | running =>
      dsimp only
      rw [hs.interrupt, if_neg Bool.false_ne_true, (runOnce_frame s).1, hmain]
      rfl
    | startLandingManager | startMissionManager => rfl
    | registering | serving => exact absurd hs.main (by rw [hmain]; exact Bool.false_ne_true)
    | _ => exact absurd hruns (by rw [hmain]; exact Bool.false_ne_true)
  | message message env => rwa [step, dispatch_eq hs message env]
  | _ =>
    unfold step
    split_ifs <;> exact hruns

/-- The loop does not end. -/
theorem running_step (hs : Constructing launch files s) (hrunning : s.main = .running) (i : ProcessInput E) :
    (s.step ext lib launch i).main = .running := by
  cases i with
  | main i => rw [step, mainStep_of_running hs hrunning, (runOnce_frame s).1, hrunning]
  | message message env => rw [step, dispatch_eq hs message env, hrunning]
  | _ =>
    unfold step
    split_ifs <;> exact hrunning

theorem Constructing.running (hs : Constructing launch files s) (hruns : s.main.runsMissionManager) :
    s.main = .running := by
  have hmain := hs.main
  cases h : s.main <;> simp_all [MainThread.runsMissionManager, MainThread.inConstructor]

theorem constructing_run (ext : Externals P E) (lib : DownsamplerLibrary R) (launch : Launch R) (files : Files)
    (is : List (ProcessInput E)) :
    Constructing launch files (run (step ext lib launch) (initial ext launch files) is) := by
  have hstep : ∀ (s : AutopilotProcess P R) (i : ProcessInput E), Constructing launch files s →
      Constructing launch files (s.step ext lib launch i) := fun _ i hs => constructing_step hs i
  exact run_invariant hstep (constructing_initial ext launch files) is

/-- **The process never serves**: `main` waits for the constructor, and the constructor ends with the loop of the
Autopilot Manager.  So in every run the name is not requested on the bus and no message is dispatched; the files are
as they were, and while the modules run the configuration is the one that was read at the start. -/
theorem never_serves (ext : Externals P E) (lib : DownsamplerLibrary R) (launch : Launch R) (files : Files)
    (is : List (ProcessInput E)) (message : Message) (env : Surroundings) :
    let s := run (step ext lib launch) (initial ext launch files) is
    (s.main ≠ .registering ∧ s.main ≠ .serving ∧ s.main ≠ .exited 0) ∧
      s.answers = [] ∧ s.step ext lib launch (.message message env) = s ∧ s.service.files = files ∧
      (s.main.runsSensorManager → initialProvisioning launch.configPath ⟨{}, files⟩ = .ok s.service) := by
  dsimp only
  have hs := constructing_run ext lib launch files is
  have hmain : ∀ main : MainThread, main.inConstructor = false →
      (run (step ext lib launch) (initial ext launch files) is).main ≠ main := by
    rintro _ hoff rfl
    exact Bool.false_ne_true (hoff.symm.trans hs.main)
  refine ⟨⟨hmain _ rfl, hmain _ rfl, hmain _ rfl⟩, hs.answers, dispatch_eq hs message env, hs.files_eq, fun hruns => ?_⟩
  exact hs.provisioned ((MainThread.runs_order _).2.2.2 hruns)

/-! ### A start -/

/-- The main thread from the start to its loop. -/
def startingUp : List (ProcessInput E) := List.replicate 7 (.main {})

/-- With a connection and a vehicle the loop is reached, over the configuration that has been read. -/
theorem run_startingUp {service : Service} (hread : initialProvisioning launch.configPath ⟨{}, files⟩ = .ok service) :
    run (step ext lib launch) (initial ext launch files) startingUp =
      { initial ext launch files with main := .running, service } := by
  have hfirst : (initial ext launch files).step ext lib launch (.main {}) =
      { initial ext launch files with main := .connecting, service } := by
    show (match initialProvisioning launch.configPath ⟨{}, files⟩ with
      | .ok service => { initial ext launch files with service, main := .connecting }
      | .error _ => { initial ext launch files with main := .aborted }) = _
    rw [hread]
  rw [startingUp, List.replicate_succ, run_cons, hfirst]
  rfl

/-- The file that the service writes for a configuration, and no other. -/
def savedFile (configPath : String) (c : AutopilotManagerConfig) : Files := fun path =>
  if path = configPath then some c.fileText else none

/-- A start finds what the service has saved. -/
theorem initialProvisioning_savedFile {c : AutopilotManagerConfig} (hlegible : c.Legible)
    (hswitches : c.safeLandingEnabled = c.simpleCollisionAvoidEnabled) (configPath : String) :
    initialProvisioning configPath ⟨{}, savedFile configPath c⟩ = .ok ⟨c, savedFile configPath c⟩ := by
  have hread : AutopilotManagerConfig.initFromFile configPath (savedFile configPath c) {} = .ok (true, c) := by
    rw [AutopilotManagerConfig.initFromFile_of_some (if_pos rfl), AutopilotManagerConfig.getlines_fileText hlegible,
      AutopilotManagerConfig.readLines_fileLines hlegible, AutopilotManagerConfig.readBack_eq_self.mpr hswitches]
    rfl
  rw [initialProvisioning, hread]
  rfl

/-- A start with a camera that is not known yet. -/
def plainLaunch : Launch (UInt32 × UInt32) := ⟨"autopilot_manager.conf", "", (0, 0), 0, {}, MissionManager.zeroBoot⟩

/-- Both switches are on, and obstacles closer than two meters are avoided by holding. -/
def bothLive : AutopilotManagerConfig := { AvoidanceSystem.avoidLive with safeLandingEnabled := 1 }

theorem legible_bothLive : bothLive.Legible := by decide +kernel

end AutopilotProcess

end AutopilotManager
