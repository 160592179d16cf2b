import AutopilotManager.Lib.Transition
import AutopilotManager.Service.SetConfig

/-!
# Service.GetConfig — what a `get_config` request reports

A reply has two sources: the fields are read from the configuration file, the code is made of the live members, which
`GetConfiguration` copies into an object of its own.  The two agree as long as the file says what the live members are.
-/

namespace AutopilotManager

open Lib AutopilotManagerConfig

/-- A request with its surroundings; `readable` is whether a file at the configuration path can be opened. -/
structure ServiceInput where
  request : Message
  env : Surroundings
  readable : Bool

/-- The files as an attempt to read them finds them. -/
def visible (configPath : String) (readable : Bool) (files : Files) : Files :=
  if readable then files else Function.update files configPath none

/-- The service after `initialProvisioning`. -/
def startUp (configPath : String) (readable : Bool) (files : Files) : Except StdException Service :=
  (initialProvisioning configPath ⟨{}, visible configPath readable files⟩).map fun s => { s with files }

/-- One request: `get_config` reads the file, `set_config` writes it. -/
def serve (configPath : String) (s : Service) (i : ServiceInput) :
    Except StdException (Service × Option (List Arg)) :=
  if i.request.isMethodCall "get_config" then
    (handleRequest configPath i.request i.env { s with files := visible configPath i.readable s.files }).map
      fun r => ({ r.1 with files := s.files }, r.2)
  else handleRequest configPath i.request i.env s

/-- The step of the service.  An exception ends it. -/
def serviceStep (configPath : String) (s : Except StdException Service) (i : ServiceInput) :
    Except StdException Service :=
  s >>= fun s => (serve configPath s i).map Prod.fst

/-! ### Agreement of the two sources -/

/-- The members that a message carries are the same. -/
def SameCarried (c c' : AutopilotManagerConfig) : Prop := appended ⟨c, {}⟩ = appended ⟨c', {}⟩

/-- `InitFromFile` into a new object gives the carried members of `c`. -/
def ReadsAs (configPath : String) (files : Files) (c : AutopilotManagerConfig) : Prop :=
  ∃ found c', initFromFile configPath files {} = .ok (found, c') ∧ SameCarried c' c

/-- The file agrees with the live members. -/
def Agrees (configPath : String) : Except StdException Service → Prop
  | .ok s => ReadsAs configPath s.files s.live
  | .error _ => True

/-- What is printed for `c` when `room` characters reach the file is read as `c`: at most the last line break is cut,
the two switches that share a line are equal, and the lines are legible. -/
structure Lossless (c : AutopilotManagerConfig) (room : ℕ) : Prop where
  whole : c.fileText.length ≤ room + 1
  switches : c.safeLandingEnabled = c.simpleCollisionAvoidEnabled
  legible : c.Legible

/-- A `set_config` request that is taken in. -/
def ServiceInput.Sets (i : ServiceInput) : Prop :=
  i.request.isMethodCall "set_config" ∧ i.env.replies ∧
    (initFromMessage (some i.request) ⟨{}, i.env.padding⟩).1 = true

instance (i : ServiceInput) : Decidable i.Sets := inferInstanceAs (Decidable (_ ∧ _ ∧ _))

/-- When a request leaves the two sources in agreement.  A `get_config` finds zeros behind the switches of its object,
and opens the file or finds the live members at their defaults.  A `set_config` that replaces the file prints its
configuration without loss; one that does not replace it finds its configuration in the file. -/
def KeepsReport (configPath : String) : Except StdException Service → ServiceInput → Prop
  | .error _, _ => True
  | .ok s, i =>
    (i.request.isMethodCall "get_config" → i.env.padding = {} ∧ (i.readable ∨ SameCarried {} s.live)) ∧
    (i.Sets →
      if i.env.disk.opens ∧ i.env.disk.renames then Lossless (decodedConfig i.request) i.env.disk.room
      else ReadsAs configPath s.files (decodedConfig i.request))

variable {configPath : String} {files : Files} {s : Service} {i : ServiceInput}

theorem initFromFile_of_none (h : files configPath = none) (c : AutopilotManagerConfig) :
    initFromFile configPath files c = .ok (false, c) := by
  simp only [initFromFile, h]

theorem readsAs_of_none (h : files configPath = none) : ReadsAs configPath files {} :=
  ⟨false, {}, initFromFile_of_none h {}, rfl⟩

/-- Only the file at the configuration path matters. -/
theorem ReadsAs.of_eq {files' : Files} {c : AutopilotManagerConfig} (h : ReadsAs configPath files c)
    (heq : files' configPath = files configPath) : ReadsAs configPath files' c := by
  obtain ⟨found, c', hinit, hsame⟩ := h
  refine ⟨found, c', ?_, hsame⟩
  rw [initFromFile, heq, ← initFromFile]
  exact hinit

/-- A file printed without loss is read as the configuration. -/
theorem readsAs_of_lossless {c : AutopilotManagerConfig} {room : ℕ} (h : Lossless c room)
    (hfile : files configPath = some (c.fileText.take room)) : ReadsAs configPath files c := by
  have hbreaks : ∀ l ∈ c.fileLines, '\n' ∉ l :=
    newline_not_mem_fileLines fun w hw => (render_of_legible (h.legible w hw)).1
  refine ⟨true, c.readBack, ?_, ?_⟩
  · rw [initFromFile_of_some hfile, getlines_fileText_take hbreaks h.whole, readLines_fileLines h.legible]
    rfl
  · rw [readBack_eq_self.mpr h.switches, SameCarried]

/-! ### Start-up -/

theorem initialProvisioning_agrees (configPath : String) (files : Files) :
    Agrees configPath (initialProvisioning configPath ⟨{}, files⟩) := by
  have hread : ∀ r, initFromFile configPath files {} = r →
      Agrees configPath (initialProvisioning configPath ⟨{}, files⟩) := by
    intro r hr
    rw [initialProvisioning, hr]
    rcases r with ⟨e, _⟩ | ⟨found, c⟩
    · trivial
    · cases found with
      | true => exact ⟨true, c, hr, rfl⟩
      | false =>
        -- a file that is found is not reported missing
        cases hfile : files configPath with
        | none => exact readsAs_of_none hfile
        | some text =>
          rw [initFromFile_of_some hfile] at hr
          cases hlines : readLines fields (getlines text) {} with
          | error e => rw [hlines] at hr; cases hr
          | ok c' => rw [hlines] at hr; cases hr
  exact hread _ rfl

/-- After start-up the file agrees with the live members, unless it could not be opened and is not that of a new
object. -/
theorem startUp_agrees {readable : Bool} (hstart : readable ∨ ReadsAs configPath files {}) :
    Agrees configPath (startUp configPath readable files) := by
  cases readable with
  | true =>
    have h := initialProvisioning_agrees configPath files
    have hvisible : startUp configPath true files =
        (initialProvisioning configPath ⟨{}, files⟩).map fun s => { s with files } := rfl
    rw [hvisible]
    have hfiles : ∀ s, initialProvisioning configPath ⟨{}, files⟩ = .ok s → s.files = files := by
      intro s hs
      rw [initialProvisioning] at hs
      split at hs <;> cases hs <;> rfl
    cases hs : initialProvisioning configPath ⟨{}, files⟩ with
    | error e => trivial
    | ok s =>
      rw [hs] at h
      rw [Agrees, hfiles s hs] at h
      exact h
  | false =>
    have hnone : Function.update files configPath none configPath = none := Function.update_self ..
    have hlive : startUp configPath false files = .ok ⟨{}, files⟩ := by
      rw [startUp, visible, if_neg (by simp), initialProvisioning, initFromFile_of_none hnone]
      rfl
    rw [hlive]
    exact hstart.resolve_left (by simp)

/-! ### One request -/

theorem not_isMethodCall_get {request : Message} (h : request.isMethodCall "set_config") :
    request.isMethodCall "get_config" = false := by
  rw [Message.isMethodCall, decide_eq_true_eq] at h
  simp [Message.isMethodCall, h.2]

theorem serve_of_sets (configPath : String) (s : Service) (hsets : i.Sets) : ∃ reply, serve configPath s i =
    .ok (⟨decodedConfig i.request, ((decodedConfig i.request).writeToFile configPath i.env.disk s.files).2⟩, reply) := by
  obtain ⟨hset, hreplies, haccept⟩ := hsets
  obtain ⟨m, rest, hargs⟩ := initFromMessage_accepts_iff.mp haccept
  rw [serve, if_neg (by rw [not_isMethodCall_get hset]; simp), decodedConfig_eq hargs]
  exact ⟨_, handleRequest_setConfig hset hreplies hargs⟩

/-- Only a `set_config` request that is taken in changes the service. -/
theorem handleRequest_of_not_sets {request : Message} {env : Surroundings} {after : Service}
    {reply : Option (List Arg)} (hsets : ¬ (request.isMethodCall "set_config" ∧ env.replies ∧
      (initFromMessage (some request) ⟨{}, env.padding⟩).1 = true))
    (h : handleRequest configPath request env s = .ok (after, reply)) : after = s := by
  rw [handleRequest] at h
  split at h
  · split at h
    · split at h <;> cases h
      rfl
    · cases h
      rfl
  · split at h
    next hset =>
      split at h
      next hreplies =>
        split at h
        next o haccept => exact absurd ⟨hset, hreplies, by rw [haccept]⟩ hsets
        next => cases h; rfl
      next => cases h; rfl
    next => cases h; rfl

theorem serve_of_not_sets (hsets : ¬ i.Sets) {after : Service} {reply : Option (List Arg)}
    (h : serve configPath s i = .ok (after, reply)) : after = s := by
  rw [serve] at h
  split at h
  · cases hget : handleRequest configPath i.request i.env
        { s with files := visible configPath i.readable s.files } with
    | error e => rw [hget] at h; cases h
    | ok r =>
      have hr := handleRequest_of_not_sets hsets hget
      rw [hget] at h
      cases h
      rw [hr]
  · exact handleRequest_of_not_sets hsets h

/-- What `get_config` reads. -/
theorem readsAs_visible (hreads : ReadsAs configPath s.files s.live)
    (hopens : i.readable ∨ SameCarried {} s.live) :
    ReadsAs configPath (visible configPath i.readable s.files) s.live := by
  by_cases hreadable : i.readable
  · rw [visible, if_pos hreadable]
    exact hreads
  · rw [visible, if_neg hreadable]
    exact ⟨false, {}, initFromFile_of_none (Function.update_self ..) {}, hopens.resolve_left hreadable⟩

theorem handleRequest_getConfig {request : Message} {env : Surroundings} (hget : request.isMethodCall "get_config")
    (hreplies : env.replies) (hpadding : env.padding = {}) (hreads : ReadsAs configPath s.files s.live) :
    handleRequest configPath request env s =
      .ok (s, some (appended ⟨s.live, {}⟩ ++ [.uint32 (responseCode s.live).code])) := by
  obtain ⟨found, c, hinit, hsame⟩ := hreads
  rw [handleRequest, if_pos hget, if_pos hreplies, hinit, hpadding, ← hsame]
  rfl

theorem serve_getConfig (hget : i.request.isMethodCall "get_config") (hreplies : i.env.replies)
    (hpadding : i.env.padding = {}) (hopens : i.readable ∨ SameCarried {} s.live)
    (hreads : ReadsAs configPath s.files s.live) :
    serve configPath s i = .ok (s, some (appended ⟨s.live, {}⟩ ++ [.uint32 (responseCode s.live).code])) := by
  rw [serve, if_pos hget, handleRequest_getConfig hget hreplies hpadding (readsAs_visible hreads hopens)]
  rfl

/-! ### Every run -/

theorem serviceStep_ok : serviceStep configPath (.ok s) i = (serve configPath s i).map Prod.fst := rfl

theorem serviceStep_agrees {st : Except StdException Service} (hagrees : Agrees configPath st)
    (hkeeps : KeepsReport configPath st i) : Agrees configPath (serviceStep configPath st i) := by
  cases st with
  | error e => trivial
  | ok s =>
    by_cases hsets : i.Sets
    · obtain ⟨reply, hserve⟩ := serve_of_sets configPath s hsets
      have hfile := writeToFile_configPath (decodedConfig i.request) configPath i.env.disk s.files
      have hdisk := hkeeps.2 hsets
      rw [serviceStep_ok, hserve]
      split_ifs at hdisk hfile
      · exact readsAs_of_lossless hdisk hfile
      · exact hdisk.of_eq hfile
    · rw [serviceStep_ok]
      cases hserve : serve configPath s i with
      | error e => trivial
      | ok r =>
        rw [Except.map, serve_of_not_sets hsets hserve]
        exact hagrees

/-- **`get_config` reports the live configuration** in every run whose requests keep the two sources in agreement:
the fields are those of the live members, and so is the code. -/
theorem get_config_reports_live {readable : Bool} {is : List ServiceInput}
    (hstart : readable ∨ ReadsAs configPath files {})
    (hmeets : Meets (serviceStep configPath) (KeepsReport configPath) (startUp configPath readable files) (is ++ [i]))
    (hs : run (serviceStep configPath) (startUp configPath readable files) is = .ok s)
    (hget : i.request.isMethodCall "get_config") (hreplies : i.env.replies) :
    serve configPath s i = .ok (s, some (appended ⟨s.live, {}⟩ ++ [.uint32 (responseCode s.live).code])) := by
  obtain ⟨hrun, hkeeps⟩ := meets_concat.mp hmeets
  have hagrees := Meets.invariant (fun _ _ h hok => serviceStep_agrees h hok) (startUp_agrees hstart) hrun
  rw [hs] at hkeeps hagrees
  obtain ⟨hpadding, hopens⟩ := hkeeps.1 hget
  exact serve_getConfig hget hreplies hpadding hopens hagrees

/-! ### Two runs -/

/-- `bothOnRequest` with a file system that takes its text whole. -/
def setWritten : ServiceInput := ⟨bothOnRequest, ⟨true, {}, .fitting (decodedConfig bothOnRequest)⟩, true⟩

/-- `bothOnRequest` when the temporary file cannot be opened. -/
def setNotWritten : ServiceInput := ⟨bothOnRequest, ⟨true, {}, ⟨false, 0, false⟩⟩, true⟩

def getLive : ServiceInput := ⟨⟨interfaceName, "get_config", []⟩, ⟨true, {}, ⟨true, 0, true⟩⟩, true⟩

theorem decodedConfig_bothOnRequest : decodedConfig bothOnRequest = bothOnMessage.config :=
  decodedConfig_eq (List.append_nil _).symm

theorem lossless_bothOnRequest :
    Lossless (decodedConfig bothOnRequest) (Disk.fitting (decodedConfig bothOnRequest)).room := by
  refine ⟨fitting_room _, ?_, ?_⟩
  · rw [decodedConfig_bothOnRequest]
    rfl
  · rw [decodedConfig_bothOnRequest]
    decide +kernel

/-- After a written request its configuration is reported. -/
theorem get_config_reports_live_bothOn : ∃ s, s.live = decodedConfig bothOnRequest ∧
    serve "am.conf" s getLive = .ok (s, some (appended ⟨s.live, {}⟩ ++ [.uint32 (responseCode s.live).code])) := by
  have hsets : setWritten.Sets := ⟨bothOnRequest_isSetConfig, rfl, bothOnRequest_accepted _⟩
  obtain ⟨reply, hserve⟩ := serve_of_sets "am.conf" ⟨{}, fun _ => none⟩ hsets
  have hrun : run (serviceStep "am.conf") (startUp "am.conf" true fun _ => none) [setWritten] =
      .ok ⟨decodedConfig bothOnRequest, _⟩ := congrArg (Except.map Prod.fst) hserve
  have hmeets : Meets (serviceStep "am.conf") (KeepsReport "am.conf") (startUp "am.conf" true fun _ => none)
      ([setWritten] ++ [getLive]) := by
    refine meets_concat.mpr ⟨⟨⟨fun hget => absurd hget (by decide), fun _ => ?_⟩, trivial⟩, ?_⟩
    · rw [if_pos ⟨rfl, rfl⟩]
      exact lossless_bothOnRequest
    · rw [hrun]
      exact ⟨fun _ => ⟨rfl, .inl rfl⟩, fun h => absurd h.1 (by decide)⟩
  exact ⟨_, rfl, get_config_reports_live (.inl rfl) hmeets hrun (by decide) rfl⟩

/-- A request whose configuration could not be written is live, but not reported. -/
theorem get_config_reports_stale_file :
    ¬ ∀ (files : Files) (is : List ServiceInput) (i : ServiceInput) (s after : Service) (reply : List Arg),
      run (serviceStep "am.conf") (startUp "am.conf" true files) is = .ok s → i.request.isMethodCall "get_config" →
      serve "am.conf" s i = .ok (after, some reply) →
      reply = appended ⟨s.live, {}⟩ ++ [.uint32 (responseCode s.live).code] := by
  intro hreports
  have hsets : setNotWritten.Sets := ⟨bothOnRequest_isSetConfig, rfl, bothOnRequest_accepted _⟩
  obtain ⟨reply, hserve⟩ := serve_of_sets "am.conf" ⟨{}, fun _ => none⟩ hsets
  have hrun : run (serviceStep "am.conf") (startUp "am.conf" true fun _ => none) [setNotWritten] =
      .ok ⟨decodedConfig bothOnRequest, fun _ => none⟩ := congrArg (Except.map Prod.fst) hserve
  have hsame := hreports _ _ getLive _ _ _ hrun (by decide) rfl
  rw [decodedConfig_bothOnRequest] at hsame
  have hfirst : some (Arg.uint32 0) = some (Arg.uint32 1) := congrArg List.head? hsame
  exact absurd hfirst (by decide)

end AutopilotManager
