import AutopilotManager.Config.Persisted
import AutopilotManager.Service.Manager

/-!
# Service.SetConfig — what a `set_config` request changes

A request carries 26 of the 36 members.  The object it is decoded into starts from the defaults and is then copied
whole into the live members and the file, so the other ten members keep their values only where these are the
defaults.
-/

namespace AutopilotManager

open Lib AutopilotManagerConfig

/-! ### Arguments by name -/

/-- The place of an argument in the request. -/
def slotIndex (name : String) : Option ℕ := (slots.map Slot.name).idxOf? name

/-- The argument of the request with the name of a member. -/
def argNamed (request : Message) (name : String) : Option Arg :=
  (slotIndex name).bind fun i => request.args[i]?

namespace Arg

def value : Arg → Option Value
  | uint32 v => some (.number v.toNat)
  | string v => some (.text v)
  | double v => some (.real v)
  | other => none

/-- The value a member gets from the argument: a switch gets the low byte. -/
def cell : Arg → Option Cell
  | uint32 v => some (.flag v.toUInt8)
  | string v => some (.text v)
  | double v => some (.real v)
  | other => none

/-- The argument fits the member: a word for a switch is a byte. -/
def Fits : Arg → Prop
  | uint32 v => v.toNat < 256
  | _ => True

/-- The file keeps the argument: a text without line break, a double with six decimals. -/
def Printable : Arg → Prop
  | string v => '\n' ∉ v.toList
  | double v => v.sixDecimals = v
  | _ => True

theorem value_eq_iff {a : Arg} {x : Cell} (h : a.cell = some x) : some x.value = a.value ↔ a.Fits := by
  cases a with
  | uint32 v =>
    obtain rfl : Cell.flag v.toUInt8 = x := Option.some.inj h
    simp only [Cell.value, value, Fits, Option.some.injEq, Value.number.injEq, UInt32.toNat_toUInt8]
    omega
  | other => exact absurd h (by simp [cell])
  | _ =>
    obtain rfl := Option.some.inj h
    simp [Cell.value, value, Fits]

theorem printable_iff {a : Arg} {x : Cell} (h : a.cell = some x) : x.Printable ↔ a.Printable := by
  cases a with
  | other => exact absurd h (by simp [cell])
  | _ =>
    obtain rfl := Option.some.inj h
    exact Iff.rfl

end Arg

/-! ### The decoded object by name -/

/-- The places of the members in the request, in the order of the members. -/
def slotIndices : List (Option ℕ) :=
  [some 0, some 1, some 2, some 3, some 4, some 5, some 6, some 7, some 8, some 9, some 10, some 11, some
    12, some 13, some 14, some 15, none, none, none, some 16, some 17, some 18, some 19, some 20, none,
    some 21, some 22, none, none, none, none, none, none, some 23, some 24, some 25]

theorem slotIndex_members : members.map (fun m => slotIndex m.name) = slotIndices := by decide +kernel

theorem slotIndex_of_getElem? {i : ℕ} {m : Member} (h : members[i]? = some m) :
    slotIndices[i]? = some (slotIndex m.name) := by
  rw [← slotIndex_members, List.getElem?_map, h]
  rfl

/-- What the decoded object has in a member: the argument in the member's place, else the default. -/
def FromSlot (m : ConfigMessage) (mem : Member) : Option ℕ → Prop
  | some i => ∃ a, m.args[i]? = some a ∧ a.cell = some (mem.get m.config)
  | none => mem.get m.config = mem.get {}

theorem fromSlot_members (m : ConfigMessage) : (members.zip slotIndices).Forall fun p => FromSlot m p.1 p.2 := by
  simp only [members, slotIndices, List.zip_cons_cons, List.zip_nil_left, List.Forall, FromSlot, ConfigMessage.args,
    ConfigMessage.config, List.getElem?_cons_zero, List.getElem?_cons_succ, Option.some.injEq, exists_eq_left',
    Arg.cell, and_self]

theorem fromSlot (m : ConfigMessage) {mem : Member} (hmem : mem ∈ members) :
    FromSlot m mem (slotIndex mem.name) := by
  have hall := List.forall_iff_forall_mem.mp (fromSlot_members m)
  rw [← slotIndex_members, ← List.map_prod_left_eq_zip] at hall
  exact hall _ (List.mem_map_of_mem (f := fun x => (x, slotIndex x.name)) hmem)

/-- A member either has an argument of its name and gets its value, or keeps the default. -/
theorem decoded_member {m : ConfigMessage} {request : Message} {rest : List Arg} (hargs : request.args = m.args ++ rest)
    {mem : Member} (hmem : mem ∈ members) :
    (∃ a, argNamed request mem.name = some a ∧ a.cell = some (mem.get m.config)) ∨
      argNamed request mem.name = none ∧ mem.get m.config = mem.get {} := by
  have h := fromSlot m hmem
  rw [argNamed, hargs]
  cases hi : slotIndex mem.name with
  | none =>
    rw [hi] at h
    exact Or.inr ⟨rfl, h⟩
  | some i =>
    rw [hi] at h
    obtain ⟨a, ha, hcell⟩ := h
    refine Or.inl ⟨a, ?_, hcell⟩
    obtain ⟨hlt, -⟩ := List.getElem?_eq_some_iff.mp ha
    rw [Option.bind_some, List.getElem?_append_left hlt, ha]

/-! ### The frame -/

/-- The value a member should have after the request: the argument of its name, or what it was. -/
def expected (request : Message) (live : AutopilotManagerConfig) (m : Member) : Option Value :=
  match argNamed request m.name with
  | some a => a.value
  | none => some (m.get live).value

/-- **The frame of `set_config`**: carried members have the value of the request, the others are as before, in the
live members and in the configuration file. -/
structure SetConfigFrame (configPath : String) (request : Message) (before after : Service) : Prop where
  live : ∀ m ∈ members, some (m.get after.live).value = expected request before.live m
  file : ∃ text, after.files configPath = some text ∧
    ∀ m ∈ members, persisted text m = expected request before.live m

/-- When the live members keep the frame: words for switches are bytes, and the members that are not carried have
their defaults. -/
def KeepsLive (request : Message) (live : AutopilotManagerConfig) : Prop :=
  ∀ m ∈ members, match argNamed request m.name with
    | some a => a.Fits
    | none => m.get live = m.get {}

/-- The configuration `InitFromMessage` decodes from a request. -/
def decodedConfig (request : Message) : AutopilotManagerConfig :=
  (initFromMessage (some request) ⟨{}, {}⟩).2.config

/-- When a file that is written and renamed keeps the frame: the text is cut at most by its last line break, the two
switches that share a line are equal, and the arguments are printable. -/
structure KeepsFile (request : Message) (room : ℕ) : Prop where
  whole : (decodedConfig request).fileText.length ≤ room + 1
  switches : argNamed request "safe_landing_enabled" = argNamed request "simple_collision_avoid_enabled"
  printable : ∀ m ∈ members, match argNamed request m.name with
    | some a => a.Printable
    | none => True

/-- The file has the values the members should have. -/
def FileHas (file : Option (List Char)) (request : Message) (live : AutopilotManagerConfig) : Prop :=
  ∃ text, file = some text ∧ ∀ m ∈ members, persisted text m = expected request live m

theorem keepsLive_iff {m : ConfigMessage} {request : Message} {rest : List Arg} (hargs : request.args = m.args ++ rest)
    (live : AutopilotManagerConfig) :
    (∀ mem ∈ members, some (mem.get m.config).value = expected request live mem) ↔ KeepsLive request live := by
  refine forall_congr' fun mem => forall_congr' fun hmem => ?_
  rcases decoded_member hargs hmem with ⟨a, ha, hcell⟩ | ⟨hnone, hdefault⟩
  · simp only [expected, ha]
    exact Arg.value_eq_iff hcell
  · simp only [expected, hnone, hdefault]
    constructor
    · intro h
      exact (Cell.value_injective (kind_get hmem _ _) (Option.some.inj h)).symm
    · intro h
      rw [h]

theorem decodedConfig_eq {m : ConfigMessage} {request : Message} {rest : List Arg}
    (hargs : request.args = m.args ++ rest) : decodedConfig request = m.config := by
  rw [decodedConfig, initFromMessage, hargs, getArgs_args]

theorem argNamed_switches {m : ConfigMessage} {request : Message} {rest : List Arg}
    (hargs : request.args = m.args ++ rest) :
    argNamed request "safe_landing_enabled" = some (.uint32 m.safeLandingEnabled) ∧
      argNamed request "simple_collision_avoid_enabled" = some (.uint32 m.simpleCollisionAvoidEnabled) := by
  have hsafe : some (some 16) = some (slotIndex "safe_landing_enabled") :=
    slotIndex_of_getElem? (i := 19) (m := ⟨"safe_landing_enabled", fun c => .flag c.safeLandingEnabled⟩) rfl
  have hcoll : some (some 23) = some (slotIndex "simple_collision_avoid_enabled") :=
    slotIndex_of_getElem? (i := 33)
      (m := ⟨"simple_collision_avoid_enabled", fun c => .flag c.simpleCollisionAvoidEnabled⟩) rfl
  rw [argNamed, argNamed, hargs, ← Option.some.inj hsafe, ← Option.some.inj hcoll]
  exact ⟨rfl, rfl⟩

theorem switches_iff {m : ConfigMessage} {request : Message} {rest : List Arg} (hargs : request.args = m.args ++ rest)
    {live : AutopilotManagerConfig} (hlive : KeepsLive request live) :
    m.config.safeLandingEnabled = m.config.simpleCollisionAvoidEnabled ↔
      argNamed request "safe_landing_enabled" = argNamed request "simple_collision_avoid_enabled" := by
  obtain ⟨hsafe, hcoll⟩ := argNamed_switches hargs
  have hs : m.safeLandingEnabled.toNat < 256 := by
    have h := hlive ⟨"safe_landing_enabled", fun c => .flag c.safeLandingEnabled⟩ (List.mem_of_getElem? (i := 19) rfl)
    simpa only [hsafe, Arg.Fits] using h
  have hc : m.simpleCollisionAvoidEnabled.toNat < 256 := by
    have h := hlive ⟨"simple_collision_avoid_enabled", fun c => .flag c.simpleCollisionAvoidEnabled⟩
      (List.mem_of_getElem? (i := 33) rfl)
    simpa only [hcoll, Arg.Fits] using h
  rw [hsafe, hcoll, Option.some.injEq, Arg.uint32.injEq]
  simp only [ConfigMessage.config, ← UInt8.toNat_inj, ← UInt32.toNat_inj, UInt32.toNat_toUInt8]
  omega

/-- The defaults are printable. -/
theorem printable_default : ∀ m ∈ members, (m.get {}).Printable := by
  have hplain : members.all fun m => (m.get {}).plain := by decide +kernel
  intro m hm
  exact (Cell.storable_of_plain (List.all_eq_true.mp hplain m hm)).printable

theorem keepsFile_iff {m : ConfigMessage} {request : Message} {rest : List Arg} (hargs : request.args = m.args ++ rest)
    {live : AutopilotManagerConfig} (hlive : KeepsLive request live) (room : ℕ) :
    (∀ mem ∈ members, persisted (m.config.fileText.take room) mem = expected request live mem) ↔
      KeepsFile request room := by
  have hexpected : ∀ mem ∈ members, expected request live mem = some (mem.get m.config).value :=
    fun mem hmem => ((keepsLive_iff hargs live).mpr hlive mem hmem).symm
  have hprint : (∀ mem ∈ members, (mem.get m.config).Printable) ↔ ∀ mem ∈ members,
      match argNamed request mem.name with
      | some a => a.Printable
      | none => True := by
    refine forall_congr' fun mem => forall_congr' fun hmem => ?_
    rcases decoded_member hargs hmem with ⟨a, ha, hcell⟩ | ⟨hnone, hdefault⟩
    · simp only [ha]
      exact Arg.printable_iff hcell
    · simp only [hnone, hdefault, iff_true]
      exact printable_default mem hmem
  have hfile := persisted_fileText_iff m.config room
  rw [switches_iff hargs hlive, hprint] at hfile
  constructor
  · intro h
    obtain ⟨h1, h2, h3⟩ := hfile.mp fun mem hmem => (h mem hmem).trans (hexpected mem hmem)
    exact ⟨by rwa [decodedConfig_eq hargs], h2, h3⟩
  · rintro ⟨h1, h2, h3⟩ mem hmem
    rw [decodedConfig_eq hargs] at h1
    exact (hfile.mpr ⟨h1, h2, h3⟩ mem hmem).trans (hexpected mem hmem).symm

/-- **`set_config` keeps the frame** if and only if the live members that are not carried have their defaults and the
words for switches are bytes, and moreover: when the file is replaced, its text is whole, the two switches that
share a line are equal and the arguments are printable; when it is not, it has the values already. -/
theorem set_config_frame_iff {configPath : String} {request : Message} {env : Surroundings} {before after : Service}
    {reply : Option (List Arg)} (hset : request.isMethodCall "set_config") (hreply : env.replies)
    (haccept : (initFromMessage (some request) ⟨{}, env.padding⟩).1 = true)
    (hrun : handleRequest configPath request env before = .ok (after, reply)) :
    SetConfigFrame configPath request before after ↔ KeepsLive request before.live ∧
      if env.disk.opens ∧ env.disk.renames then KeepsFile request env.disk.room
      else FileHas (before.files configPath) request before.live := by
  obtain ⟨m, rest, hargs⟩ := initFromMessage_accepts_iff.mp haccept
  rw [handleRequest_setConfig hset hreply hargs] at hrun
  obtain ⟨hafter, -⟩ := Prod.mk.inj (Except.ok.inj hrun)
  have hmembers : after.live = m.config := by rw [← hafter]
  -- the result of the write is not looked at, so the file is new, cut or old
  have hfile : after.files configPath = if env.disk.opens ∧ env.disk.renames then
      some (m.config.fileText.take env.disk.room) else before.files configPath := by
    rw [← hafter]
    exact writeToFile_configPath m.config configPath env.disk before.files
  constructor
  · rintro ⟨hlive, text, htext, hpersisted⟩
    rw [hmembers] at hlive
    have hkeeps := (keepsLive_iff hargs before.live).mp hlive
    refine ⟨hkeeps, ?_⟩
    rw [hfile] at htext
    split_ifs at htext ⊢
    · obtain rfl := Option.some.inj htext
      exact (keepsFile_iff hargs hkeeps _).mp hpersisted
    · exact ⟨text, htext, hpersisted⟩
  · rintro ⟨hkeeps, hdisk⟩
    refine ⟨?_, ?_⟩
    · rw [hmembers]
      exact (keepsLive_iff hargs before.live).mpr hkeeps
    · rw [hfile]
      split_ifs at hdisk ⊢
      · exact ⟨_, rfl, (keepsFile_iff hargs hkeeps _).mpr hdisk⟩
      · exact hdisk

/-! ### Two requests -/

/-- A request that switches safe landing and collision avoidance on and leaves the rest at the defaults. -/
def bothOnMessage : ConfigMessage where
  autopilotManagerEnabled := 1
  decisionMakerInputType := "SAFE_LANDING"
  scriptToCall := ""
  apiCall := ""
  localPositionOffsetX := 0
  localPositionOffsetY := 0
  localPositionOffsetZ := 0
  localPositionWaypointX := 0
  localPositionWaypointY := 0
  localPositionWaypointZ := 0
  globalPositionOffsetLat := 0
  globalPositionOffsetLon := 0
  globalPositionOffsetAltAmsl := 0
  globalPositionWaypointLat := 0
  globalPositionWaypointLon := 0
  globalPositionWaypointAltAmsl := 0
  safeLandingEnabled := 1
  safeLandingAreaSquareSize := .ofRat (5 / 2)
  safeLandingDistanceToGround := 10
  safeLandingOnNoSafeLand := "HOLD"
  safeLandingTryLandingAfterAction := 0
  landingSiteSearchMaxDistance := 0
  landingSiteSearchMinHeight := 0
  simpleCollisionAvoidEnabled := 1
  simpleCollisionAvoidDistanceThreshold := 0
  simpleCollisionAvoidActionOnConditionTrue := ""

def bothOnRequest : Message := ⟨interfaceName, "set_config", bothOnMessage.args⟩

instance : DecidablePred Arg.Fits
  | .uint32 v => inferInstanceAs (Decidable (v.toNat < 256))
  | .string _ => .isTrue trivial
  | .double _ => .isTrue trivial
  | .other => .isTrue trivial

/-- A test for `Printable`. -/
def Arg.plain : Arg → Bool
  | .string v => decide ('\n' ∉ v.toList)
  | .double v => decide v.IsMillionths
  | _ => true

theorem Arg.printable_of_plain {a : Arg} (h : a.plain) : a.Printable := by
  cases a with
  | string v =>
    have hv : '\n' ∉ v.toList := of_decide_eq_true h
    exact hv
  | double v => exact Double.sixDecimals_of_isMillionths (of_decide_eq_true h)
  | _ => trivial

theorem fitting_room (c : AutopilotManagerConfig) : c.fileText.length ≤ (Disk.fitting c).room + 1 :=
  Nat.le_add_right _ 1

theorem mem_of_argNamed {request : Message} {name : String} {a : Arg} (h : argNamed request name = some a) :
    a ∈ request.args := by
  obtain ⟨i, -, hi⟩ := Option.bind_eq_some_iff.mp h
  exact List.mem_of_getElem? hi

theorem keepsLive_default {request : Message} (h : ∀ a ∈ request.args, a.Fits) : KeepsLive request {} := by
  intro m _
  cases ha : argNamed request m.name with
  | none => rfl
  | some a => exact h a (mem_of_argNamed ha)

theorem bothOnRequest_accepted (padding : Padding) :
    (initFromMessage (some bothOnRequest) ⟨{}, padding⟩).1 = true :=
  initFromMessage_accepts_iff.mpr ⟨bothOnMessage, [], (List.append_nil _).symm⟩

theorem bothOnRequest_isSetConfig : bothOnRequest.isMethodCall "set_config" := by decide

theorem bothOnRequest_run (disk : Disk) (before : Service) : ∃ reply,
    handleRequest "am.conf" bothOnRequest ⟨true, {}, disk⟩ before =
      .ok (⟨bothOnMessage.config, (bothOnMessage.config.writeToFile "am.conf" disk before.files).2⟩, reply) :=
  ⟨_, handleRequest_setConfig bothOnRequest_isSetConfig rfl (List.append_nil _).symm⟩

/-- From the default members the frame is kept. -/
theorem set_config_frame_bothOn : ∃ after reply,
    handleRequest "am.conf" bothOnRequest ⟨true, {}, .fitting (decodedConfig bothOnRequest)⟩ ⟨{}, fun _ => none⟩ =
      .ok (after, reply) ∧
      SetConfigFrame "am.conf" bothOnRequest ⟨{}, fun _ => none⟩ after := by
  obtain ⟨reply, hrun⟩ := bothOnRequest_run (.fitting (decodedConfig bothOnRequest)) ⟨{}, fun _ => none⟩
  refine ⟨_, reply, hrun, ?_⟩
  refine (set_config_frame_iff bothOnRequest_isSetConfig rfl (bothOnRequest_accepted _) hrun).mpr ⟨?_, ?_⟩
  · exact keepsLive_default (by decide +kernel)
  · have hplain : bothOnRequest.args.all Arg.plain := by decide +kernel
    have hprint : ∀ a ∈ bothOnRequest.args, a.Printable := fun a ha =>
      Arg.printable_of_plain (List.all_eq_true.mp hplain a ha)
    obtain ⟨hsafe, hcoll⟩ := argNamed_switches (m := bothOnMessage)
      (List.append_nil bothOnRequest.args).symm
    rw [if_pos ⟨rfl, rfl⟩]
    show KeepsFile bothOnRequest (Disk.fitting (decodedConfig bothOnRequest)).room
    refine ⟨fitting_room _, by rw [hsafe, hcoll]; rfl, ?_⟩
    intro m _
    cases ha : argNamed bothOnRequest m.name with
    | none => trivial
    | some a => exact hprint a (mem_of_argNamed ha)

/-- A live camera yaw is set back to its default, and so it is written to the file. -/
theorem set_config_resets_cameraYaw : ∃ after reply,
    handleRequest "am.conf" bothOnRequest ⟨true, {}, .fitting (decodedConfig bothOnRequest)⟩
        ⟨{ cameraYaw := 1 }, fun _ => none⟩ =
      .ok (after, reply) ∧
      ¬ SetConfigFrame "am.conf" bothOnRequest ⟨{ cameraYaw := 1 }, fun _ => none⟩ after := by
  obtain ⟨reply, hrun⟩ := bothOnRequest_run (.fitting (decodedConfig bothOnRequest)) ⟨{ cameraYaw := 1 }, fun _ => none⟩
  refine ⟨_, reply, hrun, ?_⟩
  intro h
  have hyaw := h.live ⟨"camera_yaw", fun c => .real c.cameraYaw⟩ (List.mem_of_getElem? (i := 18) rfl)
  have hnone : argNamed bothOnRequest "camera_yaw" = none := by
    have hindex : some none = some (slotIndex "camera_yaw") :=
      slotIndex_of_getElem? (i := 18) (m := ⟨"camera_yaw", fun c => .real c.cameraYaw⟩) rfl
    rw [argNamed, ← Option.some.inj hindex]
    rfl
  simp only [expected, hnone] at hyaw
  have hreset : (0 : Double) = 1 := Value.real.inj (Option.some.inj hyaw)
  exact absurd hreset (by decide +kernel)

end AutopilotManager
