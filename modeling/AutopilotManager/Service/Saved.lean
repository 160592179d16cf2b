import AutopilotManager.Service.GetConfig

/-!
# Service.Saved — what an acknowledged request leaves in the file

`HandleRequest` answers a decoded `set_config` request with the code of the configuration, whatever becomes of the
file.  The answer and the file fit together exactly when the text is written whole and renamed, or the file held that
text before.
-/

namespace AutopilotManager

open Lib AutopilotManagerConfig

/-- There is a reply, and the code at its end is not `FAILED`. -/
def Acknowledges (reply : Option (List Arg)) : Prop :=
  ∃ args, reply = some args ∧ args.getLast? ≠ some (.uint32 ResponseCode.failed.code)

/-- An acknowledged configuration is in the file, and the file is whole: as before, or the new text. -/
structure Saved (configPath : String) (request : Message) (before after : Service) (reply : Option (List Arg)) :
    Prop where
  acknowledged : Acknowledges reply → after.files configPath = some (decodedConfig request).fileText
  whole : after.files configPath = before.files configPath ∨
    after.files configPath = some (decodedConfig request).fileText

/-- The request is decoded and there is memory for its reply. -/
def Decoded (request : Message) (env : Surroundings) : Prop :=
  env.replies ∧ (initFromMessage (some request) ⟨{}, env.padding⟩).1 = true

/-- The temporary file opens, takes the whole text and is renamed; or it is not renamed, and the file holds the text
already. -/
def WritesWhole (configPath : String) (request : Message) (disk : Disk) (files : Files) : Prop :=
  if disk.opens ∧ disk.renames then (decodedConfig request).fileText.length ≤ disk.room
  else files configPath = some (decodedConfig request).fileText

variable {configPath : String} {request : Message} {env : Surroundings} {before after : Service}
  {reply : Option (List Arg)}

/-- The code of a decoded configuration is never `FAILED`. -/
theorem responseCode_ne_failed (c : AutopilotManagerConfig) : responseCode c ≠ .failed := by
  unfold responseCode
  split_ifs <;> exact fun h => ResponseCode.noConfusion h

theorem ResponseCode.code_injective {a b : ResponseCode} (h : a.code = b.code) : a = b := by
  cases a <;> cases b <;> first | rfl | exact absurd h (by decide)

/-- A decoded request is acknowledged, and its text is written. -/
theorem handleRequest_of_decoded (hset : request.isMethodCall "set_config") (hdecoded : Decoded request env)
    (hrun : handleRequest configPath request env before = .ok (after, reply)) :
    Acknowledges reply ∧ after.files configPath =
      if env.disk.opens ∧ env.disk.renames then some ((decodedConfig request).fileText.take env.disk.room)
      else before.files configPath := by
  obtain ⟨m, rest, hargs⟩ := initFromMessage_accepts_iff.mp hdecoded.2
  rw [handleRequest_setConfig hset hdecoded.1 hargs] at hrun
  obtain ⟨hafter, hreply⟩ := Prod.mk.inj (Except.ok.inj hrun)
  refine ⟨⟨_, hreply.symm, fun hlast => ?_⟩, ?_⟩
  · rw [List.getLast?_append_cons] at hlast
    have hcode : (responseCode m.config).code = ResponseCode.failed.code := Arg.uint32.inj (Option.some.inj hlast)
    exact responseCode_ne_failed m.config (ResponseCode.code_injective hcode)
  · rw [← hafter, decodedConfig_eq hargs]
    exact writeToFile_configPath m.config configPath env.disk before.files

/-- A request that is not decoded is not acknowledged, and nothing is written. -/
theorem handleRequest_of_not_decoded (hset : request.isMethodCall "set_config") (hdecoded : ¬ Decoded request env)
    (hrun : handleRequest configPath request env before = .ok (after, reply)) :
    ¬ Acknowledges reply ∧ after = before := by
  refine ⟨?_, handleRequest_of_not_sets (fun h => hdecoded h.2) hrun⟩
  rintro ⟨args, rfl, hlast⟩
  rw [handleRequest, not_isMethodCall_get hset, if_neg Bool.false_ne_true, if_pos hset] at hrun
  by_cases hreplies : env.replies
  · rw [if_pos hreplies] at hrun
    split at hrun
    next o haccept => exact hdecoded ⟨hreplies, by rw [haccept]⟩
    next o hrefuse =>
      obtain ⟨-, hreply⟩ := Prod.mk.inj (Except.ok.inj hrun)
      rw [← Option.some.inj hreply, List.getLast?_append_cons] at hlast
      exact hlast rfl
  · rw [if_neg hreplies] at hrun
    cases hrun

/-- **When an acknowledged configuration is saved**: the answer and the file fit together exactly when the request is
not decoded or the write leaves the whole text. -/
theorem acknowledged_saved_iff (hset : request.isMethodCall "set_config")
    (hrun : handleRequest configPath request env before = .ok (after, reply)) :
    Saved configPath request before after reply ↔
      (Decoded request env → WritesWhole configPath request env.disk before.files) := by
  by_cases hdecoded : Decoded request env
  · obtain ⟨hack, hfile⟩ := handleRequest_of_decoded hset hdecoded hrun
    have hwhole : after.files configPath = some (decodedConfig request).fileText ↔
        WritesWhole configPath request env.disk before.files := by
      rw [hfile, WritesWhole]
      split_ifs
      · rw [Option.some.injEq, List.take_eq_self_iff]
      · exact Iff.rfl
    exact ⟨fun h _ => hwhole.mp (h.acknowledged hack), fun h => ⟨fun _ => hwhole.mpr (h hdecoded),
      .inr (hwhole.mpr (h hdecoded))⟩⟩
  · obtain ⟨hack, hsame⟩ := handleRequest_of_not_decoded hset hdecoded hrun
    exact ⟨fun _ h => absurd h hdecoded, fun _ => ⟨fun h => absurd h hack, .inl (by rw [hsame])⟩⟩

/-- On a disk with room enough the request of two switches is saved. -/
theorem acknowledged_saved_bothOn : ∃ after reply,
    handleRequest "am.conf" bothOnRequest ⟨true, {}, .fitting (decodedConfig bothOnRequest)⟩ ⟨{}, fun _ => none⟩ =
      .ok (after, reply) ∧
      Saved "am.conf" bothOnRequest ⟨{}, fun _ => none⟩ after reply := by
  obtain ⟨reply, hrun⟩ := bothOnRequest_run (.fitting (decodedConfig bothOnRequest)) ⟨{}, fun _ => none⟩
  refine ⟨_, reply, hrun, (acknowledged_saved_iff bothOnRequest_isSetConfig hrun).mpr fun _ => ?_⟩
  rw [WritesWhole, if_pos ⟨rfl, rfl⟩]
  exact Nat.le_refl _

/-- The disk is full after eight characters: the request is acknowledged, and eight characters are in the file. -/
theorem acknowledged_on_full_disk : ∃ after reply,
    handleRequest "am.conf" bothOnRequest ⟨true, {}, ⟨true, 8, true⟩⟩ ⟨{}, fun _ => some ['o', 'l', 'd']⟩ =
      .ok (after, reply) ∧ Acknowledges reply ∧ after.files "am.conf" = some "[Autopil".toList ∧
      ¬ Saved "am.conf" bothOnRequest ⟨{}, fun _ => some ['o', 'l', 'd']⟩ after reply := by
  obtain ⟨reply, hrun⟩ := bothOnRequest_run ⟨true, 8, true⟩ ⟨{}, fun _ => some ['o', 'l', 'd']⟩
  obtain ⟨hack, hfile⟩ := handleRequest_of_decoded bothOnRequest_isSetConfig ⟨rfl, bothOnRequest_accepted _⟩ hrun
  rw [if_pos ⟨rfl, rfl⟩] at hfile
  obtain ⟨rest, htext⟩ : ∃ rest, (decodedConfig bothOnRequest).fileText = header ++ '\n' :: rest :=
    ⟨_, by rw [fileText, fileLines, putlines_cons]⟩
  have hlength : header.length = 24 := by decide
  rw [htext, List.take_append_of_le_length (by rw [hlength]; decide)] at hfile
  have hcut : header.take 8 = "[Autopil".toList := by decide
  refine ⟨_, reply, hrun, hack, hfile.trans (congrArg some hcut), fun h => ?_⟩
  have hwhole := congrArg List.length (Option.some.inj (hfile.symm.trans (h.acknowledged hack)))
  rw [htext, List.length_take, List.length_append, List.length_cons, hlength] at hwhole
  omega

end AutopilotManager
