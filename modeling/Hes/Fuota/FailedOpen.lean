import Hes.Fuota.Reroute
import Hes.Fuota.SyncTime

set_option autoImplicit false

namespace Hes.Fuota

open Prog Text Mqtt Transition SyncTime

def firmwareOf (fuota : Fuota) (name : Bytes) : Bytes :=
  fuota.inputs.currentPath ++ fuotaFolder ++ fuota.client.gatewayId ++ ascii "/" ++ name

/-- The ways in which `open_requested_firmware` can fail. -/
inductive OpenFailure (fuota : Fuota) (name : Bytes) : Prop where
  | emptyName (empty : name = [])
  | missing (some : name ≠ []) (missing : fuota.inputs.files (firmwareOf fuota name) = none)
  | refused (some : name ≠ []) (content : Bytes)
      (file : fuota.inputs.files (firmwareOf fuota name) = .some content)
      (refused : fuota.inputs.fopen fuota.counters.fopens = false)

/-- What is left behind a failed opening is of the requests before. -/
structure LeftOver (before after : Fuota) : Prop where
  path : after.client.firmwarePath = before.client.firmwarePath
  file : after.firmware.foutaReadFd = before.firmware.foutaReadFd \/ after.firmware.foutaReadFd = none
  told : exists statuses, after.log = before.log ++ statuses /\
    ∀ event ∈ statuses, exists requestId status errorCode, event = .updated requestId status errorCode

theorem updateStatus_leaves (status errorCode : Nat) (fuota : Fuota) :
    LeftOver fuota (updateStatus status errorCode fuota).2 := by
  simp only [updateStatus, ondemandFuotaUpdateStatus, observe, update, bind]
  split
  next => exact ⟨rfl, Or.inl rfl, [], by simp, by simp⟩
  next => exact ⟨rfl, Or.inl rfl, [_], rfl, by simp⟩

theorem openRequestedFirmware_fails (name : Bytes) (fuota : Fuota) (fails : OpenFailure fuota name) :
    exists after, openRequestedFirmware name fuota = (some none, after) /\ LeftOver fuota after := by
  let folder := fuota.inputs.currentPath ++ fuotaFolder ++ fuota.client.gatewayId
  let pathed : Fuota := { fuota with
    firmware := { fuota.firmware with dcuFolder := folder, firmwarePath := firmwareOf fuota name } }
  have looked (some : name ≠ []) : openRequestedFirmware name fuota =
      (if (fuota.inputs.files (firmwareOf fuota name)).isNone then updateStatus 0 1 >>= fun _ => pure none
        else openFirmware (firmwareOf fuota name) name) pathed := by
    rw [openRequestedFirmware, if_neg some]
    rfl
  cases fails with
  | emptyName empty =>
    have left := updateStatus_leaves 2 1 fuota
    rw [openRequestedFirmware, if_pos empty]
    exact ⟨_, rfl, left⟩
  | missing some missing =>
    have left := updateStatus_leaves 0 1 pathed
    rw [looked some, missing]
    exact ⟨_, rfl, left.path, left.file, left.told⟩
  | refused some content file refused =>
    let closed : Fuota := { pathed with
      counters := { fuota.counters with fopens := fuota.counters.fopens + 1 }
      firmware := { pathed.firmware with foutaReadFd := none } }
    have tried : openFirmware (firmwareOf fuota name) name pathed =
        (updateStatus 1 1 >>= fun _ => pure none) closed := by
      rw [openFirmware, ran_bind (show fopen _ pathed = (.some none, { pathed with
        counters := { fuota.counters with fopens := fuota.counters.fopens + 1 } }) by
          simp [fopen, pathed, refused])]
      rfl
    have left := updateStatus_leaves 1 1 closed
    rw [looked some, file, Option.isNone_some, if_neg (by simp), tried]
    exact ⟨_, rfl, left.path, Or.inr (left.file.elim id id), left.told⟩

/-- The request that a step begins with, or goes on with in OPEN_FILE: the state in front of
`open_requested_firmware`, and the name it is called with. -/
inductive Starts (fuota : Fuota) : Action -> Fuota -> Bytes -> Prop where
  /-- `process_fuota_queue` takes up the front of the queue. -/
  | queue (opening : Fuota) (taken : opening.machine.ondemandFuotaState = .openFile)
      (ran : processFuotaQueue fuota = cansendFuotaNextCommand opening) :
      Starts fuota .queue opening opening.firmware.firmwareFile
  /-- A reply ends an earlier request, and the next command is taken up. -/
  | completed (data : Bytes) (opening : Fuota) (taken : opening.machine.ondemandFuotaState = .openFile)
      (before : fuota.machine.ondemandFuotaState ≠ .rollbackToNormalCommMode)
      (ran : replyIn fuota.machine.ondemandFuotaState data fuota = (some (), opening)) :
      Starts fuota (.reply data) opening opening.firmware.firmwareFile
  | rolledBack (data : Bytes) (opening : Fuota) (taken : opening.machine.ondemandFuotaState = .openFile)
      (before : fuota.machine.ondemandFuotaState = .rollbackToNormalCommMode)
      (ran : replyRollback fuota = (some false, opening)) :
      Starts fuota (.reply data) opening opening.firmware.firmwareFile
  /-- A pending request is resumed when the gateway connects again. -/
  | resumed (path name : Bytes) (opening : Fuota) (taken : opening.machine.ondemandFuotaState = .openFile)
      (ran : resumeRfFuotaPendingStateProcess path name fuota = cansendFuotaNextCommand opening) :
      Starts fuota (.resume path name) opening opening.firmware.firmwareFile
  /-- A command was taken up by a poll timeout, and a reply finds the machine in OPEN_FILE. -/
  | answered (data : Bytes) (taken : fuota.machine.ondemandFuotaState = .openFile) :
      Starts fuota (.reply data) fuota (if fuota.machine.resumeFuotaFlag then fuota.machine.resumeFileName
        else fuota.firmware.firmwareFile)

/-- What is done for a request whose file is there. -/
def WorksFor : Event -> Prop
  | .assigned state => state = .gatewayPathSilence
  | .sent sent => isSilence sent.built.command = true
  | .imageSent _ _ | .opened _ => True
  | _ => False

/-- However the run goes on, up to the next request nothing is done for this one. -/
def SessionStops (opening reached : Fuota) : Prop :=
  forall actions last, run step reached actions = some last ->
    (forall path name, .resume path name ∉ actions) ->
    (forall command, Event.dequeued command ∉ last.log.drop opening.log.length) ->
    last.machine.ondemandFuotaState ≠ .gatewayPathSilence /\
      ∀ event ∈ last.log.drop opening.log.length, ¬ WorksFor event

/-- The machine is to silence the gateway, and has the file and the path of an earlier request. -/
structure GoesOn (before after : Fuota) : Prop where
  state : after.machine.ondemandFuotaState = .gatewayPathSilence
  path : after.client.firmwarePath = before.client.firmwarePath
  file : after.firmware.foutaReadFd = before.firmware.foutaReadFd \/ after.firmware.foutaReadFd = none
  logged : exists events, after.log = before.log ++ events /\
    .assigned .gatewayPathSilence ∈ events /\ forall command, Event.dequeued command ∉ events

theorem LeftOver.goesOn {before after : Fuota} (left : LeftOver before after) :
    GoesOn before (setState .gatewayPathSilence after).2 := by
  obtain ⟨statuses, logged, told⟩ := left.told
  refine ⟨rfl, left.path, left.file, statuses ++ [.assigned .gatewayPathSilence], ?_, by simp, ?_⟩
  next => rw [← List.append_assoc, ← logged]; rfl
  next =>
    intro command inside
    rcases List.mem_append.mp inside with early | late
    next =>
      obtain ⟨_, _, _, other⟩ := told _ early
      exact absurd other nofun
    next => simp at late

theorem sendOpenFile_goesOn (fuota : Fuota) (fails : OpenFailure fuota fuota.firmware.firmwareFile) :
    GoesOn fuota (sendOpenFile fuota).2 := by
  obtain ⟨after, tried, left⟩ := openRequestedFirmware_fails _ fuota fails
  rw [sendOpenFile, ran_bind (show observe _ fuota = (some _, fuota) from rfl), ran_bind tried]
  exact left.goesOn

theorem openFile_goesOn (opening : Fuota) (taken : opening.machine.ondemandFuotaState = .openFile)
    (fails : OpenFailure opening opening.firmware.firmwareFile) :
    GoesOn opening (cansendFuotaNextCommand opening).2 := by
  rw [cansendFuotaNextCommand,
    ran_bind (show getState opening = (some .openFile, opening) from
      congrArg (fun state => (some state, opening)) taken)]
  exact sendOpenFile_goesOn opening fails

theorem prepareGatewaySilenceCmd_keeps (fuota : Fuota) : exists after,
    prepareGatewaySilenceCmd fuota = (some (), after) /\
      after.machine.ondemandFuotaState = fuota.machine.ondemandFuotaState /\
      after.client.firmwarePath = fuota.client.firmwarePath /\
      after.firmware = fuota.firmware /\
      (after.log = fuota.log \/ exists sent, after.log = fuota.log ++ [.sent sent]) := by
  rw [prepareGatewaySilenceCmd, ran_bind (show observe _ fuota = (some _, fuota) from rfl)]
  cases silenceCommand fuota.machine.fuotaGatewaySilenceState with
  | none => exact ⟨fuota, rfl, rfl, rfl, rfl, Or.inl rfl⟩
  | some command =>
    let framed : Fuota := (framePmeshOtaCmdHeader meshCommissionPacketType command fuota).2
    obtain ⟨_, after, sent, ran, stays, logged, _⟩ := buildAndStoreFuotaCmd_sends framed
    dsimp only
    rw [ran_bind (show framePmeshOtaCmdHeader _ _ fuota = (some (), framed) from rfl), ran_bind ran]
    exact ⟨after, rfl, stays.state, stays.path, stays.firmware, Or.inr ⟨sent, logged⟩⟩

theorem openResumedFirmware_fails (fuota : Fuota)
    (fails : OpenFailure fuota (if fuota.machine.resumeFuotaFlag then fuota.machine.resumeFileName
      else fuota.firmware.firmwareFile)) :
    exists after, openResumedFirmware fuota = (some (), after) /\ LeftOver fuota after := by
  rw [openResumedFirmware, ran_bind (show observe id fuota = (some fuota, fuota) from rfl)]
  by_cases resumed : fuota.machine.resumeFuotaFlag
  next =>
    rw [if_pos resumed] at fails
    obtain ⟨after, tried, left⟩ := openRequestedFirmware_fails _ fuota fails
    rw [if_pos resumed, ran_bind tried]
    exact ⟨after, rfl, left⟩
  next =>
    rw [if_neg resumed] at fails
    obtain ⟨after, tried, left⟩ := openRequestedFirmware_fails _ fuota fails
    rw [if_neg resumed, ran_bind tried]
    exact ⟨after, rfl, left⟩

/-- A reply in OPEN_FILE is answered with the first silence command at once. -/
theorem replyOpenFile_goesOn (fuota : Fuota) (data : Bytes)
    (taken : fuota.machine.ondemandFuotaState = .openFile)
    (fails : OpenFailure fuota (if fuota.machine.resumeFuotaFlag then fuota.machine.resumeFileName
      else fuota.firmware.firmwareFile)) :
    GoesOn fuota (clientProcessRfFuotaData data fuota).2 := by
  obtain ⟨after, tried, left⟩ := openResumedFirmware_fails fuota fails
  let entered : Fuota := (setState .gatewayPathSilence after).2
  let ready : Fuota := { entered with
    machine := { entered.machine with fuotaGatewaySilenceState := atFuotaEnable } }
  have replied : replyOpenFile fuota = (some (), ready) := by
    rw [replyOpenFile, ran_bind tried]
    rfl
  obtain ⟨last, sent, state, path, firmware, logged⟩ := prepareGatewaySilenceCmd_keeps ready
  have ran : clientProcessRfFuotaData data fuota = (some (), last) := by
    rw [clientProcessRfFuotaData,
      ran_bind (show getState fuota = (some .openFile, fuota) from
        congrArg (fun state => (some state, fuota)) taken),
      if_neg (by decide), ran_bind (show replyIn .openFile data fuota = (some (), ready) from replied)]
    exact sent
  have before := left.goesOn
  obtain ⟨events, earlier, silenced, none⟩ := before.logged
  rw [ran]
  refine ⟨state, path.trans before.path, ?_, ?_⟩
  next => rw [firmware]; exact before.file
  next =>
    rcases logged with same | ⟨frame, more⟩
    next => exact ⟨events, same.trans earlier, silenced, none⟩
    next =>
      refine ⟨events ++ [.sent frame], ?_, by simp [silenced], by simp [none]⟩
      rw [more, ← List.append_assoc, ← earlier]

theorem starts_goesOn (fuota opening : Fuota) (action : Action) (name : Bytes)
    (starts : Starts fuota action opening name) (fails : OpenFailure opening name) :
    GoesOn opening (perform action fuota).2 := by
  cases starts with
  | queue _ taken ran =>
    rw [perform, ran]
    exact openFile_goesOn _ taken fails
  | completed data _ taken before ran =>
    rw [perform, clientProcessRfFuotaData,
      ran_bind (show getState fuota = (some fuota.machine.ondemandFuotaState, fuota) from rfl),
      if_neg before, ran_bind ran]
    exact openFile_goesOn _ taken fails
  | rolledBack data _ taken before ran =>
    rw [perform, clientProcessRfFuotaData,
      ran_bind (show getState fuota = (some fuota.machine.ondemandFuotaState, fuota) from rfl),
      if_pos before, ran_bind ran]
    exact openFile_goesOn _ taken fails
  | resumed path name _ taken ran =>
    rw [perform, ran]
    exact openFile_goesOn _ taken fails
  | answered data taken => exact replyOpenFile_goesOn _ data taken fails

theorem goesOn_unstopped {opening reached : Fuota} (goes : GoesOn opening reached) :
    ¬ SessionStops opening reached := by
  intro stops
  obtain ⟨events, logged, _, none⟩ := goes.logged
  have here := stops [] reached rfl (by simp) (by rwa [logged, List.drop_left])
  exact here.1 goes.state

section Requests

variable (fuota : Fuota)

theorem starts_queue (command : Bytes) (rest : List Bytes) (queued : remaining fuota = command :: rest)
    (complete : wellFormed (split colon command) = true) : exists opening,
    Starts fuota .queue opening (part (split colon command) 6) /\ opening.inputs = fuota.inputs /\
      opening.counters = fuota.counters /\ opening.client.gatewayId = fuota.client.gatewayId /\
      opening.log = fuota.log ++ [.dequeued command] ++ [.assigned .openFile] := by
  obtain ⟨machine, _, outcome⟩ := processFuotaQueue_ran fuota
  rw [queued] at outcome
  rcases outcome with ⟨malformed, _⟩ | ⟨_, requestId, hopCount, _, ran⟩
  next => exact absurd (malformed.symm.trans complete) nofun
  next =>
    refine ⟨takenUp fuota machine command rest requestId hopCount, ?_, rfl, rfl, rfl, rfl⟩
    exact Starts.queue (takenUp fuota machine command rest requestId hopCount) rfl ran

/-- A request is resumed with its file open, and the name of the request before it. -/
theorem starts_resumed (path name : Bytes) (some : name ≠ []) (content : Bytes)
    (file : fuota.inputs.files (path ++ ascii "/" ++ name) = .some content)
    (opens : fuota.inputs.fopen fuota.counters.fopens = true) : exists opening,
    Starts fuota (.resume path name) opening fuota.firmware.firmwareFile := by
  let pending : Fuota := { fuota with machine := { fuota.machine with
    resumeFwpath := path, resumeFileName := name, resumeFuotaFlag := true } }
  let opening : Fuota := { pending with
    counters := { fuota.counters with fopens := fuota.counters.fopens + 1 }
    firmware := { fuota.firmware with
      foutaReadFd := .some { content := content }, totalFirmwaresize := content.length % 2 ^ 32 }
    machine := { pending.machine with ondemandFuotaState := .openFile }
    log := fuota.log ++ [.opened (path ++ ascii "/" ++ name)] ++ [.assigned .openFile] }
  refine ⟨opening, Starts.resumed path name opening rfl ?_⟩
  have found : ¬ (decide (name = []) || (fuota.inputs.files (path ++ ascii "/" ++ name)).isNone) = true := by
    rw [file]
    simp [some]
  have opened : fopen (path ++ ascii "/" ++ name) pending = (.some (.some content), { pending with
      counters := { fuota.counters with fopens := fuota.counters.fopens + 1 } }) := by
    simp only [fopen, pending, opens, if_true, file]
  rw [resumeRfFuotaPendingStateProcess, ran_bind (show observe id fuota = (.some fuota, fuota) from rfl),
    ran_bind (show setMachine _ fuota = (.some (), pending) from rfl), if_neg found, ran_bind opened]
  rfl

/-- A request that is over is followed by the front of the queue. -/
theorem completion_takes (command : Bytes) (rest : List Bytes)
    (queued : fuota.client.rfMeterFuota = command :: rest)
    (whole : ¬ (split colon command).length < 7) (requestId : Int)
    (number : stoi (part (split colon command) 0) = .ok requestId) : exists opening,
    handleFuotaCompletion fuota = (some (), opening) /\
      opening.machine.ondemandFuotaState = .openFile /\
      opening.firmware.firmwareFile = part (split colon command) 6 := by
  have dequeued : dequeueFuota fuota = (some (some command), { fuota with
      client := { fuota.client with rfMeterFuota := rest } }) := by simp [dequeueFuota, queued]
  rw [handleFuotaCompletion, ran_bind dequeued]
  simp only [continueWith, parseAndUpdateFuotaRequest, whole, number, orStop, bind, setMachine,
    setClient, setFirmware, note, setState, update, pure]
  exact ⟨_, rfl, rfl, rfl⟩

end Requests

/-- The session goes on wherever the opening fails, at every start of a request. -/
theorem failedOpen_goesOn (fuota : Fuota) :
    (forall action opening name, Starts fuota action opening name -> OpenFailure opening name ->
      ¬ SessionStops opening (perform action fuota).2 /\
        (perform action fuota).2.client.firmwarePath = opening.client.firmwarePath) /\
      (forall command rest, remaining fuota = command :: rest ->
        wellFormed (split colon command) = true ->
          exists opening, Starts fuota .queue opening (part (split colon command) 6)) /\
      (forall path name content, name ≠ [] ->
        fuota.inputs.files (path ++ ascii "/" ++ name) = some content ->
        fuota.inputs.fopen fuota.counters.fopens = true ->
          exists opening, Starts fuota (.resume path name) opening fuota.firmware.firmwareFile) /\
      (forall command rest requestId, fuota.client.rfMeterFuota = command :: rest ->
        ¬ (split colon command).length < 7 -> stoi (part (split colon command) 0) = .ok requestId ->
          exists opening, handleFuotaCompletion fuota = (some (), opening) /\
            opening.machine.ondemandFuotaState = .openFile) := by
  refine ⟨fun action opening name starts fails => ?_, fun command rest queued complete => ?_,
    fun path name content some file opens => starts_resumed fuota path name some content file opens,
    fun command rest requestId queued whole number => ?_⟩
  next =>
    have goes := starts_goesOn fuota opening action name starts fails
    exact ⟨goesOn_unstopped goes, goes.path⟩
  next =>
    obtain ⟨opening, starts, _⟩ := starts_queue fuota command rest queued complete
    exact ⟨opening, starts⟩
  next =>
    obtain ⟨opening, ran, taken, _⟩ := completion_takes fuota command rest queued whole requestId number
    exact ⟨opening, ran, taken⟩

/-- One firmware file is there, and a request for it and one for another file were made. -/
def oneFirmware : Fuota where
  inputs := {
    files := fun path =>
      if path = ascii "/d/FUOTA/RF/3CC1F60112345678/a" then some (List.replicate 256 7) else none
    fuel := 60
    currentPath := ascii "/d" }
  client := { gatewayId := ascii "3CC1F60112345678" }

def firstRequest : List Action :=
  [.enqueue (ascii "1:x:0:x:x:/p:a"), .queue, .enqueue (ascii "2:x:0:x:x:/p:b")]

/-- The replies of a gateway without nodes up to the image transfer. -/
def willingReplies : List Action :=
  List.replicate 4 (.reply [0x2D, 0x00, 0x04, 0x9B, 0x00]) ++
    List.replicate 3 (.reply [0x2D, 0x00, 0x0A, 0x01, 0x00, 0x00])

/-- The first request, and the second up to its image frames. -/
def secondRequest : Fuota := ((run step oneFirmware firstRequest).getD oneFirmware)

theorem secondRequest_queued : remaining secondRequest = [ascii "2:x:0:x:x:/p:b"] := by decide +kernel

theorem secondRequest_fails : exists opening name,
    Starts secondRequest .queue opening name /\ OpenFailure opening name := by
  obtain ⟨opening, starts, inputs, _, gateway, _⟩ :=
    starts_queue secondRequest (ascii "2:x:0:x:x:/p:b") [] secondRequest_queued (by decide +kernel)
  refine ⟨opening, _, starts, OpenFailure.missing (by decide +kernel) ?_⟩
  rw [firmwareOf, inputs, gateway]
  decide +kernel

theorem failedOpen_goesOn_secondRequest : exists opening,
    ¬ SessionStops opening (perform .queue secondRequest).2 := by
  obtain ⟨opening, name, starts, fails⟩ := secondRequest_fails
  exact ⟨opening, ((failedOpen_goesOn secondRequest).1 .queue opening name starts fails).1⟩

/-- The image of the first request is uploaded for the second, whose file is missing. -/
theorem missingFirmware_uploads :
    (exists opening name, Starts secondRequest .queue opening name /\ OpenFailure opening name /\
      ¬ SessionStops opening (perform .queue secondRequest).2) /\
    exists last, run step secondRequest (.queue :: willingReplies) = some last /\
      (last.log.any fun event => match event with
        | .imageSent requestId frame => requestId = 2 && frame.payload = List.replicate 103 7
        | _ => false) = true := by
  constructor
  next =>
    obtain ⟨opening, name, starts, fails⟩ := secondRequest_fails
    exact ⟨opening, name, starts, fails, goesOn_unstopped (starts_goesOn _ _ _ _ starts fails)⟩
  next => exact ⟨_, rfl, by decide +kernel⟩

end Hes.Fuota
