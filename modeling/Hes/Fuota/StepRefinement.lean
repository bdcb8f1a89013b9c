import Hes.Fuota.UploadRefinement

set_option autoImplicit false

namespace Hes.Fuota

open Prog Text Mqtt Relation

section Causes

variable (before : Fuota)

def stepped : Bool := before.machine.fuotaGatewayUnsilenceState < atEnableFlashexit

/-- The reply is the last one in vain. -/
def GivesUp (data : Bytes) (limit : Nat) : Prop :=
  accepts before.machine.ondemandFuotaState data = false /\ limit ≤ before.machine.cntx.retryCount

/-- The reply may end the request. -/
def Completes (data : Bytes) : Prop :=
  match before.machine.ondemandFuotaState with
  | .sectorRead | .fwimageOfSectorCount | .fwImageEndofPageTransfer | .activateNewFwimage
  | .sendActivateCmd => GivesUp before data 3
  | .newFwimageCrcCalculate => GivesUp before data 2
  -- an accepted reply starts the upload, which may be given up
  | .eraseFlash => accepts .eraseFlash data \/ GivesUp before data 3
  | .readAndCompareFwVersion => accepts .readAndCompareFwVersion data \/ GivesUp before data 3
  | _ => False

/-- A silence command is refused. -/
def Refused (data : Bytes) : Prop :=
  before.machine.ondemandFuotaState.silencing /\
    accepts before.machine.ondemandFuotaState data = false

/-- The reply may make the machine look for the nodes to be unsilenced. -/
def Unsilences (data : Bytes) : Prop :=
  Completes before data \/ Refused before data \/
    match before.machine.ondemandFuotaState with
    | .sectorRead => accepts .sectorRead data
    | .networkUnsilence | .targetNodeUnsilence => True
    | _ => False

/-- The reply may be followed by a frame for the target. -/
def Targets (data : Bytes) : Prop :=
  match before.machine.ondemandFuotaState with
  | .openFile | .gatewayPathUnsilence | .rollbackToNormalCommMode | .idle | .unset => False
  | .gatewayPathSilence => accepts .gatewayPathSilence data /\ stepDone data
  | .readAndCompareFwVersion => accepts .readAndCompareFwVersion data = false \/ Stuck before
  | .networkUnsilence =>
    if accepts .networkUnsilence data then ¬ (stepDone data /\ stepped before)
    else byteAt data 2 ≠ meshCommissionPacketType
  | _ => True

/-- The reply acknowledges the frame in the buffer. -/
def Acknowledges (data : Bytes) : Prop :=
  accepts before.machine.ondemandFuotaState data /\
    match before.machine.ondemandFuotaState with
    | .targetNodeSilence | .networkSilence => True
    | .gatewayPathSilence | .networkUnsilence | .targetNodeUnsilence | .gatewayPathUnsilence =>
      stepDone data
    | _ => False

/-- The gateway is unsilenced, or does not answer as it should. -/
def Finishes (data : Bytes) : Prop :=
  match before.machine.ondemandFuotaState with
  | .gatewayPathUnsilence =>
    if accepts .gatewayPathUnsilence data then ¬ (stepDone data /\ stepped before)
    else byteAt data 2 ≠ meshCommissionPacketType
  | .rollbackToNormalCommMode => True
  | _ => False

/-- The checksum is computed once more. -/
def Sums (data : Bytes) : Prop :=
  match before.machine.ondemandFuotaState with
  | .fwImageEndofPageTransfer => accepts .fwImageEndofPageTransfer data
  | .newFwimageCrcCalculate => accepts .newFwimageCrcCalculate data = false
  | _ => False

/-- The upload behind an accepted reply, up to its loop. -/
def uploadStart (data : Bytes) : Fuota := (startUpload (replyEraseFlash data before).2).2

def Uploads (data : Bytes) : Prop :=
  before.machine.ondemandFuotaState = .eraseFlash /\ accepts .eraseFlash data

/-- The firmware versions are compared: a hop count of 0 becomes 1. -/
def Compares (data : Bytes) : Prop :=
  before.machine.ondemandFuotaState = .readAndCompareFwVersion /\
    accepts .readAndCompareFwVersion data

/-- What a reply may be the cause of, and what is known of the machine then. -/
def ReplyCauses (data : Bytes) (cause : Cause) (now : Core) : Prop :=
  match cause with
  | .targeted => Targets before data /\ (now.hopCount = before.client.hopCount \/
      Compares before data /\
        now.hopCount = if before.client.hopCount = 0 then 1 else before.client.hopCount)
  | .acknowledged => Acknowledges before data /\ exists log, now = { core before with log := log }
  | .recorded =>
    Acknowledges before data /\ (before.machine.ondemandFuotaState = .gatewayPathUnsilence ->
      now = (core before).note (.acknowledged before.client.gatewayId before.radio.built.command))
  | .completed => Completes before data
  | .exhausted => Refused before data /\ before.machine.cntxActive
  | .terminated => Refused before data /\ before.machine.cntxActive = false
  | .pending name => before.machine.ondemandFuotaState = .openFile /\ before.machine.resumeFuotaFlag /\
      name = before.machine.resumeFileName
  | .finished => Finishes before data
  | .skipped => Unsilences before data
  | .cut => before.machine.ondemandFuotaState = .fwImageTransfer \/
      before.machine.ondemandFuotaState = .lastUpdateFwimageOfSectorcount
  | .uploading => Uploads before data /\ now.built = before.radio.built
  | .uploaded => Uploads before data /\ exists ended, now = core ended /\
      loop uploadTurn before.inputs.fuel () (uploadStart before data) = (some true, ended)
  | .summed => Sums before data /\ exists route summed, now = { core summed with route := route } /\
      calculateCrcForTargetNode (replyIn before.machine.ondemandFuotaState data before).2 =
        (some (), summed)
  | .compared => Compares before data
  | .failed | .emptied | .started | .resumed _ | .queued => False

/-- The last poll timeout of a command that is still awaited. -/
def PollFails : Prop :=
  before.client.timeoutState = .timerFuotaResponse /\ before.machine.waitingForResponse /\
    before.machine.cntx.maxRetries ≤ before.machine.cntx.retryCount /\
      before.machine.cntx.alternateMaxcnt ≤ before.machine.cntx.alternateRetry

def Causes (action : Action) (cause : Cause) (now : Core) : Prop :=
  match action with
  | .reply data => ReplyCauses before data cause now
  | .queue => cause = .emptied \/ cause = .started
  | .pollTimeout => cause = .failed /\ PollFails before
  | .resume path name => cause = .resumed (path ++ ascii "/" ++ name)
  | .enqueue _ | .cancel _ => cause = .queued
  | .packet => False

end Causes

variable {permitted : Cause -> Core -> Prop}

section Sending

variable {hopCount : Int}

theorem verifying_second {command : Bytes} (verifying : Verifying command) : byteAt command 1 = 0x06 := by
  have second := congrArg (fun bytes => byteAt bytes 1) verifying
  cases command with
  | nil => simp [byteAt, verifyImage] at second
  | cons first rest =>
    cases rest with
    | nil => simp [byteAt, verifyImage] at second
    | cons _ _ => simpa [byteAt, verifyImage] using second

theorem sequence_plain {command : Bytes} (sequence : SequenceCommand command) :
    command ≠ activateRead /\ ¬ Verifying command := by
  obtain ⟨step, known⟩ := sequence
  have one : command ∈ [fuotaEnable, fuotaUpdatemode, flashWrite, flashExit, fuotaDisableCmd,
      fuotaModeentryDisableCmd] := by
    unfold silenceCommand unsilenceCommand at known
    split at known <;> grind
  simp only [List.mem_cons, List.not_mem_nil, or_false] at one
  rcases one with rfl | rfl | rfl | rfl | rfl | rfl <;>
    exact ⟨by decide, by unfold Verifying; decide⟩

theorem fwInfo_plain (firmware : Firmware) :
    fwInfo firmware ≠ activateRead /\ ¬ Verifying (fwInfo firmware) := by
  have second : byteAt (fwInfo firmware) 1 = 0x0B := by
    simp only [fwInfo]
    rw [byteAt_overwrite, if_neg (by simp), byteAt_overwrite, if_neg (by simp)]
    rfl
  constructor
  next =>
    intro same
    rw [same] at second
    exact absurd second (by decide)
  next =>
    intro verifying
    rw [verifying_second verifying] at second
    exact absurd second (by decide)

theorem verifyCommand_other (crc : UInt16) : verifyCommand crc ≠ activateRead := by
  have second : byteAt (verifyCommand crc) 1 = 0x06 := by
    simp only [verifyCommand]
    rw [byteAt_overwrite, if_neg (by simp), byteAt_overwrite, if_neg (by simp)]
    rfl
  intro same
  rw [same] at second
  exact absurd second (by decide)

theorem within_sendToTarget (aim : forall now : Core, now.hopCount = hopCount -> permitted .targeted now)
    (packetType : UInt8) (command : Bytes) (plain : command ≠ activateRead /\ ¬ Verifying command) :
    Respects (Within permitted (Aimed hopCount)) (sendToTarget packetType command) := by
  apply within_bind aimed_stable (within_frameForTarget_aside aim _ _ plain.1 plain.2)
  intro _
  exact Steady.within (steady_bind steady_buildAndStoreFuotaCmd fun _ => steady_pure _)

theorem steady_prepareGatewaySilenceCmd : Respects (Steady permitted) prepareGatewaySilenceCmd := by
  apply steady_bind (steady_observe _)
  intro step
  split
  next command known =>
    apply steady_bind (steady_framePmeshOtaCmdHeader _ command (silenceCommand_sequence known))
    intro _
    exact steady_bind steady_buildAndStoreFuotaCmd fun _ => steady_pure ()
  next => exact steady_pure ()

theorem within_prepareTargetnodeSilenceCmd
    (aim : forall now : Core, now.hopCount = hopCount -> permitted .targeted now) :
    Respects (Within permitted (Aimed hopCount)) prepareTargetnodeSilenceCmd := by
  apply within_bind aimed_stable (Steady.within (steady_observe _))
  intro step
  split
  next command known =>
    exact within_sendToTarget aim _ command (sequence_plain (silenceCommand_sequence known))
  next => exact Steady.within (steady_pure ())

theorem within_prepareToUnsilenceTheTargetNode
    (aim : forall now : Core, now.hopCount = hopCount -> permitted .targeted now) :
    Respects (Within permitted (Aimed hopCount)) prepareToUnsilenceTheTargetNode := by
  apply within_bind aimed_stable (Steady.within (steady_observe _))
  intro step
  split
  next command known =>
    exact within_sendToTarget aim _ command (sequence_plain (unsilenceCommand_sequence known))
  next => exact Steady.within (steady_pure ())

theorem within_prepareFwimageOfSectorCountCmd
    (aim : forall now : Core, now.hopCount = hopCount -> permitted .targeted now) :
    Respects (Within permitted (Aimed hopCount)) prepareFwimageOfSectorCountCmd := by
  apply within_bind aimed_stable (Steady.within (steady_observe _))
  exact fun firmware => within_sendToTarget aim _ _ (fwInfo_plain firmware)

/-- The activation is only built where the machine is to activate. -/
theorem steady_prepareAndGetTheFirmwareActivateCommand (fuota : Fuota)
    (aim : forall now : Core, now.hopCount = fuota.client.hopCount -> permitted .targeted now)
    (state : fuota.machine.ondemandFuotaState = .activateNewFwimage) :
    Steady permitted fuota (prepareAndGetTheFirmwareActivateCommand fuota).2 := by
  apply moved_bind steady_trans
    (steady_framePmeshFuotaCmdHeaderForTargetNode fuotaDataQuery activateRead fuota aim
      (fun _ => state) (fun verifying => absurd verifying (by unfold Verifying; decide)))
  intro _ after _ _
  exact (steady_bind steady_buildAndStoreFuotaCmd fun _ => steady_pure _) after

/-- Nothing but the checksum and its table changes. -/
def Summing (before after : Fuota) : Prop :=
  core after = { core before with crc := after.crc, tableBuilt := after.statics.crcTab16Init }

theorem summing_refl (fuota : Fuota) : Summing fuota fuota := rfl

theorem summing_trans (first second third : Fuota) (before : Summing first second)
    (behind : Summing second third) : Summing first third := by
  rw [Summing, behind, before]

theorem summing_unseen {before after : Fuota} (same : core after = core before) :
    Summing before after := by
  rw [Summing, same, show after.crc = before.crc from congrArg Core.crc same,
    show after.statics.crcTab16Init = before.statics.crcTab16Init from congrArg Core.tableBuilt same]
  rfl

theorem summing_setCrc (change : Crc -> Crc) : Respects Summing (setCrc change) := fun _ => rfl

theorem summing_ensureCrcTable : Respects Summing ensureCrcTable := by
  intro fuota
  simp only [ensureCrcTable, update]
  split <;> rfl

theorem summing_crcTurn (remaining : Nat) : Respects Summing (crcTurn remaining) := by
  unfold crcTurn
  split
  next =>
    apply respects_bind summing_trans (respects_observe summing_refl _)
    intro sectorValue
    apply respects_bind summing_trans fun fuota => summing_unseen (unseen_fread _ fuota)
    intro chunk
    split
    next => exact respects_pure summing_refl _
    next =>
      apply respects_bind summing_trans (summing_setCrc _)
      exact fun _ => respects_pure summing_refl _
  next => exact respects_pure summing_refl _

theorem summing_calculateCrcForTargetNode : Respects Summing calculateCrcForTargetNode := by
  apply respects_bind summing_trans summing_ensureCrcTable
  intro _
  apply respects_bind summing_trans (respects_observe summing_refl _)
  intro fuota
  split
  next => exact summing_setCrc _
  next =>
    split
    next => exact respects_pure summing_refl _
    next =>
      apply respects_bind summing_trans fun fuota => summing_unseen (unseen_fseek 0 fuota)
      intro _
      apply respects_bind summing_trans
        (respects_loop summing_refl summing_trans crcTurn summing_crcTurn _ _)
      intro whole
      split
      next => exact summing_setCrc _
      next => exact respects_pure summing_refl _

theorem steady_prepareAndCalculateAndVerifyCrcValue (fuota : Fuota)
    (aim : forall now : Core, now.hopCount = fuota.client.hopCount -> permitted .targeted now)
    (sums : forall route summed, calculateCrcForTargetNode fuota = (some (), summed) ->
      permitted .summed { core summed with route := route })
    (state : fuota.machine.ondemandFuotaState = .newFwimageCrcCalculate) :
    Steady permitted fuota (prepareAndCalculateAndVerifyCrcValue fuota).2 := by
  have changed := summing_calculateCrcForTargetNode fuota
  have summed : Steady permitted fuota (calculateCrcForTargetNode fuota).2 :=
    steady_move (Move.summed (core fuota) _ _) changed rfl rfl rfl
  apply moved_bind steady_trans summed
  intro _ after ran moved
  rw [ran_bind (show observe _ after = (some after.crc.value, after) from rfl)]
  apply moved_bind steady_trans
  next =>
    apply steady_framePmeshFuotaCmdHeaderForTargetNode fuotaDataQuery _ after
    next => exact fun now same => aim now (same.trans moved.hopCount)
    next => exact fun same => absurd same (verifyCommand_other _)
    next => exact fun _ => ⟨moved.state.trans state, fun route => sums route after ran, rfl⟩
  next =>
    intro _ last _ _
    exact (steady_bind steady_buildAndStoreFuotaCmd fun _ => steady_pure _) last

end Sending

section Reaching

variable {before : Fuota}

theorem goes_prepareGetSectorReadForTargetNode
    (aim : forall now : Core, now.hopCount = before.client.hopCount -> permitted .targeted now) :
    Goes permitted before .sectorRead prepareGetSectorReadForTargetNode .sectorRead :=
  goes_within (within_sendToTarget aim _ _ ⟨by decide, by unfold Verifying; decide⟩)

theorem path_prepareSilenceTheEntireNetworkForFuota
    (aim : forall now : Core, now.hopCount = before.client.hopCount -> permitted .targeted now)
    (inside : before.machine.ondemandFuotaState = .networkSilence) :
    Path permitted before (prepareSilenceTheEntireNetworkForFuota before).2 := by
  apply steady_path_bind before (unseen_undernodes.steady before)
  intro meters asked _ kept
  apply steady_path_bind asked (steady_same rfl)
  intro _ routed _ routedKept
  apply steady_path_bind routed (steady_same rfl)
  intro _ typed _ typedKept
  rw [ran_bind (show observe _ typed = (some typed.radio.ondemandMacAddr, typed) from rfl)]
  have here : typed.machine.ondemandFuotaState = .networkSilence :=
    typedKept.state.trans (routedKept.state.trans (kept.state.trans inside))
  have hopCount : typed.client.hopCount = before.client.hopCount :=
    typedKept.hopCount.trans (routedKept.hopCount.trans kept.hopCount)
  apply steady_path_bind typed (steady_enableNetwork _ typed here)
  intro enabled last _ moved
  split
  next =>
    apply goes_moves .networkSilence .sectorRead _ (moved.state.trans here)
    apply goes_bind (goes_setState .sectorRead (show Leads _ .networkSilence .sectorRead from trivial))
    intro _
    apply goes_prepareGetSectorReadForTargetNode
    intro now same
    exact aim now (same.trans (moved.hopCount.trans hopCount))
  next => exact path_refl last

theorem path_sendNetworkSilence
    (aim : forall now : Core, now.hopCount = before.client.hopCount -> permitted .targeted now)
    (inside : before.machine.ondemandFuotaState = .networkSilence) :
    Path permitted before (sendNetworkSilence before).2 := by
  apply steady_path_bind before (unseen_nodelistEmpty.steady before)
  intro empty after _ kept
  cases empty with
  | false =>
    exact path_prepareSilenceTheEntireNetworkForFuota
      (fun now same => aim now (same.trans kept.hopCount)) (kept.state.trans inside)
  | true =>
    apply goes_moves .networkSilence .sectorRead _ (kept.state.trans inside)
    apply goes_bind (goes_steady steady_targetTheGateway)
    intro _
    apply goes_bind (goes_setState .sectorRead (show Leads _ .networkSilence .sectorRead from trivial))
    intro _
    exact goes_prepareGetSectorReadForTargetNode fun now same => aim now (same.trans kept.hopCount)

end Reaching

section Opening

variable {before : Fuota}

theorem updateStatus_firmware (requestStatus errorCode : Nat) (fuota : Fuota) :
    (updateStatus requestStatus errorCode fuota).2.firmware = fuota.firmware := by
  simp only [updateStatus, ondemandFuotaUpdateStatus, bind, observe, update]
  split <;> rfl

/-- A file that is not opened is unreadable, and what is opened is its content. -/
theorem fopen_ran (path : Bytes) (fuota : Fuota) : exists content after,
    fopen path fuota = (some content, after) /\ core after = core fuota /\
      after.firmware = fuota.firmware /\ after.inputs = fuota.inputs /\
        match content with
        | some bytes => fuota.inputs.files path = some bytes
        | none => fuota.inputs.files path = none \/ exists index, fuota.inputs.fopen index = false := by
  refine ⟨_, _, rfl, rfl, rfl, rfl, ?_⟩
  by_cases opens : fuota.inputs.fopen fuota.counters.fopens
  next =>
    simp only [opens, if_true]
    split
    next known => exact known
    next known => exact Or.inl known
  next =>
    simp only [opens]
    exact Or.inr ⟨fuota.counters.fopens, by simpa using opens⟩

/-- What comes of opening a file: the gateway is asked, or nothing but messages. -/
def Opening (permitted : Cause -> Core -> Prop) (name : Bytes) (fuota after : Fuota) : Prop :=
  Reached permitted fuota .gatewayPathSilence after \/
    Steady permitted fuota after /\ (core after).Unreadable name /\
      after.firmware.firmwareFile = fuota.firmware.firmwareFile

theorem Reached.behind {fuota opened after : Fuota} {first state : FuotaState}
    (reached : Reached permitted fuota first opened) (later : Reached permitted opened state after) :
    Reached permitted fuota state after :=
  ⟨reached.moves.trans later.moves, later.state, later.hopCount.trans reached.hopCount,
    later.queue.trans reached.queue⟩

/-- What is done before an opening and moves nothing belongs to it. -/
theorem opening_behind {name : Bytes} {fuota placed : Fuota} {A : Type} {prog : Prog Fuota A}
    (first : Steady permitted fuota placed)
    (same : placed.firmware.firmwareFile = fuota.firmware.firmwareFile)
    (triple : Triple (Path permitted placed) (· = placed) prog
      fun _ after => Opening permitted name placed after) :
    Triple (Path permitted fuota) (· = placed) prog
      fun _ after => Opening permitted name fuota after := by
  intro start here
  have outcome := triple start here
  cases ran : prog start with
  | mk result after =>
    rw [ran] at outcome
    cases result with
    | none => exact first.moves.trans outcome
    | some _ =>
      rcases outcome with reached | ⟨moved, bad, file⟩
      · left
        exact ⟨first.moves.trans reached.moves, reached.state, reached.hopCount.trans first.hopCount,
          reached.queue.trans first.queue⟩
      · exact Or.inr ⟨steady_trans _ _ _ first moved, bad, file.trans same⟩

theorem openFirmware_opening (name : Bytes) (fuota : Fuota)
    (inside : fuota.machine.ondemandFuotaState = .openFile)
    (named : name = fuota.firmware.firmwareFile \/ forall now, permitted (.pending name) now) :
    Triple (Path permitted fuota) (· = fuota) (openFirmware ((core fuota).firmwareAt name) name)
      fun _ after => Opening permitted name fuota after := by
  obtain ⟨content, counted, ran, same, firmware, inputs, known⟩ :=
    fopen_ran ((core fuota).firmwareAt name) fuota
  have place : (core fuota).firmwareAt name = (core counted).firmwareAt name := by rw [same]
  have start : Reached permitted fuota .openFile counted := (reached_start inside).steady (steady_same same)
  apply triple_ran ran
  rw [← inputs] at known
  cases content with
  | none =>
    let emptied : Fuota := { counted with firmware := { counted.firmware with foutaReadFd := none } }
    have closed : Steady permitted fuota emptied := by
      apply steady_trans fuota counted emptied (steady_same same)
      exact steady_move (Move.closed (core counted) _ (Or.inl start.state) known) rfl rfl rfl rfl
    have moved := steady_trans _ _ _ closed (steady_updateStatus 1 1 emptied)
    apply triple_ran (show keepNone counted = (some (), emptied) from rfl)
    apply triple_ran (show updateStatus 1 1 emptied = (some (), (updateStatus 1 1 emptied).2) from rfl)
    apply triple_pure
    intro after here
    rw [here]
    refine Or.inr ⟨moved, Or.inr ?_, ?_⟩
    next =>
      have quiet : Steady permitted emptied (updateStatus 1 1 emptied).2 :=
        steady_updateStatus 1 1 emptied
      have fixed := moves_fixed quiet.moves
      have at_ : (core (updateStatus 1 1 emptied).2).firmwareAt name = (core fuota).firmwareAt name := by
        rw [place, Core.firmwareAt, fixed.1, fixed.2.1]
        rfl
      rw [at_, fixed.1]
      exact known
    next =>
      have file : counted.firmware.firmwareFile = fuota.firmware.firmwareFile :=
        congrArg Firmware.firmwareFile firmware
      rw [updateStatus_firmware]
      exact file
  | some content =>
    let opened : Fuota := { counted with
      firmware := { counted.firmware with
        foutaReadFd := some { content := content }
        totalFirmwaresize := content.length % 2 ^ 32 }
      client := { counted.client with
        firmwarePath := (core counted).firmwareAt name, firmwareFilename := name }
      machine := { counted.machine with ondemandFuotaState := .gatewayPathSilence }
      log := counted.log ++ [.opened ((core counted).firmwareAt name)] ++
        [.assigned .gatewayPathSilence] }
    rw [place] at known
    rw [place]
    have moved : Reached permitted counted .gatewayPathSilence opened := by
      refine ⟨path_move (Move.opened (core counted) name content start.state ?_ known) rfl, rfl, rfl, rfl⟩
      rw [← show counted.firmware.firmwareFile = fuota.firmware.firmwareFile from
        congrArg Core.firmwareFile same] at named
      exact named.imp id fun ok => ok _
    have before : Reached permitted fuota .gatewayPathSilence opened := start.behind moved
    apply triple_ran (show keepOpen content counted = (some (), _) from rfl)
    apply triple_ran (show setClient _ _ = (some (), _) from rfl)
    apply triple_ran (show note _ _ = (some (), _) from rfl)
    apply triple_ran (show setState _ _ = (some (), opened) from rfl)
    apply triple_bind fun _ => Reached permitted fuota .gatewayPathSilence
    next =>
      apply (goes_steady steady_prepareGatewaySilenceCmd).weaken
      next =>
        intro state here
        rw [here]
        exact before
      next => exact fun _ _ later => later
    next => exact fun _ => triple_pure _ fun _ later => Or.inl later

theorem openRequestedFirmware_opening (name : Bytes) (fuota : Fuota)
    (inside : fuota.machine.ondemandFuotaState = .openFile)
    (named : name = fuota.firmware.firmwareFile \/ forall now, permitted (.pending name) now) :
    Triple (Path permitted fuota) (· = fuota) (openRequestedFirmware name)
      fun _ after => Opening permitted name fuota after := by
  unfold openRequestedFirmware
  split
  next empty =>
    apply triple_ran (show updateStatus 2 1 fuota = (some (), (updateStatus 2 1 fuota).2) from rfl)
    apply triple_pure
    intro after here
    rw [here]
    exact Or.inr ⟨steady_updateStatus 2 1 fuota, Or.inl empty,
      congrArg Firmware.firmwareFile (updateStatus_firmware 2 1 fuota)⟩
  next =>
    let folder := fuota.inputs.currentPath ++ fuotaFolder ++ fuota.client.gatewayId
    let placed : Fuota := { fuota with
      firmware := { fuota.firmware with
        dcuFolder := folder, firmwarePath := folder ++ ascii "/" ++ name } }
    apply triple_ran (show observe id fuota = (some fuota, fuota) from rfl)
    apply triple_ran (show setFirmware _ fuota = (some (), placed) from rfl)
    split
    next missing =>
      apply triple_ran (show updateStatus 0 1 placed = (some (), (updateStatus 0 1 placed).2) from rfl)
      apply triple_pure
      intro after here
      rw [here]
      have moved : Steady permitted fuota (updateStatus 0 1 placed).2 :=
        steady_trans fuota placed _ (steady_same rfl) (steady_updateStatus 0 1 placed)
      refine Or.inr ⟨moved, Or.inr (Or.inl ?_), ?_⟩
      next =>
        have fixed := moves_fixed moved.moves
        rw [Core.firmwareAt, fixed.1, fixed.2.1]
        exact Option.isNone_iff_eq_none.mp missing
      next =>
        rw [updateStatus_firmware]
    next => exact opening_behind (steady_same rfl) rfl (openFirmware_opening name placed inside named)

theorem opening_silenced (name : Bytes) (fuota : Fuota)
    (inside : fuota.machine.ondemandFuotaState = .openFile)
    (named : name = fuota.firmware.firmwareFile \/ forall now, permitted (.pending name) now) :
    Triple (Path permitted fuota) (Opening permitted name fuota) (setState .gatewayPathSilence)
      fun _ => Reached permitted fuota .gatewayPathSilence := by
  intro after opening
  rcases opening with reached | ⟨moved, bad, file⟩
  · exact reached.assigned .gatewayPathSilence rfl
  · have state : (core after).state = .openFile := moved.state.trans inside
    have unopened : Move permitted (core after) ((core after).assign .gatewayPathSilence) := by
      apply Move.unopened (core after) name state _ bad
      rw [← file] at named
      exact named.imp id fun ok => ok _
    exact ⟨moved.moves.trans (ReflTransGen.single unopened), rfl, moved.hopCount, moved.queue⟩

theorem sendOpenFile_reached (fuota : Fuota) (inside : fuota.machine.ondemandFuotaState = .openFile) :
    Triple (Path permitted fuota) (· = fuota) sendOpenFile
      fun _ => Reached permitted fuota .gatewayPathSilence := by
  apply triple_ran (show observe _ fuota = (some fuota.firmware.firmwareFile, fuota) from rfl)
  apply triple_bind _ (openRequestedFirmware_opening fuota.firmware.firmwareFile fuota inside (Or.inl rfl))
  exact fun _ => opening_silenced fuota.firmware.firmwareFile fuota inside (Or.inl rfl)

theorem path_of_triple {A : Type} {prog : Prog Fuota A} {post : A -> Fuota -> Prop} {fuota : Fuota}
    (triple : Triple (Path permitted fuota) (· = fuota) prog post)
    (moves : forall value after, post value after -> Path permitted fuota after) :
    Path permitted fuota (prog fuota).2 := by
  have outcome := triple fuota rfl
  cases ran : prog fuota with
  | mk result after =>
    rw [ran] at outcome
    cases result with
    | none => exact outcome
    | some value => exact moves value after outcome

end Opening

section Commands

/-- What a command of the state may need to be permitted. -/
def Sendable (permitted : Cause -> Core -> Prop) (fuota : Fuota) : Prop :=
  let aim := forall now : Core, now.hopCount = fuota.client.hopCount -> permitted .targeted now
  match fuota.machine.ondemandFuotaState with
  | .openFile | .gatewayPathSilence | .gatewayPathUnsilence | .rollbackToNormalCommMode
  | .lastUpdateFwimageOfSectorcount | .idle | .unset => True
  | .networkUnsilence => forall now, permitted .skipped now
  | .newFwimageCrcCalculate => aim /\
      forall route summed, calculateCrcForTargetNode fuota = (some (), summed) ->
        permitted .summed { core summed with route := route }
  | .fwImageTransfer => aim /\ (forall now, permitted .completed now) /\
      (forall now, permitted .skipped now) /\
      (forall now : Core, now.built = fuota.radio.built -> permitted .uploading now) /\
      forall ended, loop uploadTurn (startUpload fuota).2.inputs.fuel () (startUpload fuota).2 =
        (some true, ended) -> permitted .uploaded (core ended)
  | _ => aim

theorem path_cansendFuotaNextCommand (fuota : Fuota) (sendable : Sendable permitted fuota) :
    Path permitted fuota (cansendFuotaNextCommand fuota).2 := by
  rw [cansendFuotaNextCommand,
    ran_bind (show getState fuota = (some fuota.machine.ondemandFuotaState, fuota) from rfl)]
  unfold Sendable at sendable
  have plain (packetType : UInt8) (command : Bytes) (other : command ≠ activateRead)
      (quiet : ¬ Verifying command)
      (aim : forall now : Core, now.hopCount = fuota.client.hopCount -> permitted .targeted now) :
      Path permitted fuota (sendToTarget packetType command fuota).2 :=
    (within_sendToTarget aim packetType command ⟨other, quiet⟩ fuota rfl).moves
  cases state : fuota.machine.ondemandFuotaState <;> rw [state] at sendable <;> dsimp only at sendable ⊢
  case openFile => exact path_of_triple (sendOpenFile_reached fuota state) fun _ _ reached => reached.moves
  case gatewayPathSilence => exact (steady_prepareGatewaySilenceCmd fuota).moves
  case targetNodeSilence => exact (within_prepareTargetnodeSilenceCmd sendable fuota rfl).moves
  case networkSilence => exact path_sendNetworkSilence sendable state
  case sectorRead => exact plain _ _ (by decide) (by unfold Verifying; decide) sendable
  case fwimageOfSectorCount => exact (within_prepareFwimageOfSectorCountCmd sendable fuota rfl).moves
  case eraseFlash => exact plain _ _ (by decide) (by unfold Verifying; decide) sendable
  case fwImageTransfer =>
    obtain ⟨aim, ok, skip, starts, ends⟩ := sendable
    exact path_fuotaUploadingProcess ok skip fuota aim starts ends state
  case lastUpdateFwimageOfSectorcount => exact path_refl fuota
  case fwImageEndofPageTransfer =>
    exact (within_prepareAndGetTheEndofImageTransfer sendable fuota rfl).moves
  case newFwimageCrcCalculate =>
    exact (steady_prepareAndCalculateAndVerifyCrcValue fuota sendable.1 sendable.2 state).moves
  case activateNewFwimage =>
    exact (steady_prepareAndGetTheFirmwareActivateCommand fuota sendable state).moves
  case sendActivateCmd => exact plain _ _ (by decide) (by unfold Verifying; decide) sendable
  case readAndCompareFwVersion => exact plain _ _ (by decide) (by unfold Verifying; decide) sendable
  case networkUnsilence =>
    apply path_of_triple ((sendNetworkUnsilence_unsilencing sendable).weaken _ fun _ _ later => later)
    next => exact fun _ _ later => later.elim Reached.moves Reached.moves
    next =>
      intro start here
      rw [here]
      exact reached_start state
  case targetNodeUnsilence => exact (within_prepareToUnsilenceTheTargetNode sendable fuota rfl).moves
  case gatewayPathUnsilence => exact (steady_prepareToUnsilenceTheGatewayNode fuota).moves
  case rollbackToNormalCommMode =>
    apply path_setState
    rw [state]
    exact rfl
  case idle => exact path_refl fuota
  case unset => exact path_refl fuota

end Commands

section Timeouts

theorem decideTimeoutAction_ran (fuota : Fuota) : exists result after,
    decideTimeoutAction fuota = (some result, after) /\ core after = core fuota /\
      (result = .terminate -> fuota.machine.cntxActive = false) /\
        (result = .nextFromQueue -> fuota.machine.cntxActive = true) := by
  rw [decideTimeoutAction, ran_bind (show observe _ fuota = (some fuota.machine, fuota) from rfl)]
  by_cases active : fuota.machine.cntxActive
  next =>
    simp only [active]
    split
    next same => simp at same
    next =>
      split
      next => exact ⟨.retrySameRoute, _, rfl, rfl, by simp, by simp⟩
      next =>
        split
        next => exact ⟨.retryAlternateRoute, _, rfl, rfl, by simp, by simp⟩
        next => exact ⟨.nextFromQueue, _, rfl, rfl, by simp, by simp⟩
  next =>
    simp only [active]
    exact ⟨.terminate, _, rfl, rfl, by simp, by simp⟩

theorem nextCommandOr_ran (cause : Cause) (next : FuotaState) (fuota : Fuota)
    (ok : permitted cause (core fuota)) (takes : Takes cause fuota.machine.ondemandFuotaState)
    (jumps : fuota.client.rfMeterFuota = [] ->
      Jumps cause fuota.machine.ondemandFuotaState next fuota.client.rfMeterFuota) :
    exists after, nextCommandOr next fuota = (some (), after) /\ Path permitted fuota after /\
      (after.machine.ondemandFuotaState = .openFile \/ after.machine.ondemandFuotaState = next) := by
  cases queue : fuota.client.rfMeterFuota with
  | nil =>
    have empty : dequeueFuota fuota = (some none, fuota) := by simp [dequeueFuota, queue]
    refine ⟨(setState next fuota).2, ?_, path_jump cause next fuota ok (jumps queue), Or.inr rfl⟩
    rw [nextCommandOr, ran_bind empty]
    rfl
  | cons command rest =>
    have front : dequeueFuota fuota = (some (some command), { fuota with
        client := { fuota.client with rfMeterFuota := rest } }) := by simp [dequeueFuota, queue]
    refine ⟨(takeCommand command { fuota with
      client := { fuota.client with rfMeterFuota := rest } }).2, ?_, ?_, Or.inl rfl⟩
    next =>
      rw [nextCommandOr, ran_bind front]
      rfl
    next =>
      apply path_move (Move.took (core fuota) cause command rest ok takes queue)
      simp [takeCommand, bind, setMachine, note, setState, update, core, Core.note, Core.assign]

end Timeouts

section Replies

variable {fuota : Fuota} {data : Bytes}

/-- What the command behind a reply needs to be permitted, as far as the state says. -/
def Ready (permitted : Cause -> Core -> Prop) (fuota : Fuota) (data : Bytes) (after : Fuota) : Prop :=
  let aim := forall now : Core, now.hopCount = after.client.hopCount -> permitted .targeted now
  match after.machine.ondemandFuotaState with
  | .openFile | .gatewayPathSilence | .gatewayPathUnsilence | .rollbackToNormalCommMode
  | .lastUpdateFwimageOfSectorcount | .idle | .unset => True
  | .networkUnsilence => forall now, permitted .skipped now
  | .newFwimageCrcCalculate => aim /\ Sums fuota data
  | .fwImageTransfer => aim /\ Uploads fuota data /\ after.radio.built = fuota.radio.built
  | _ => aim

def Replies (permitted : Cause -> Core -> Prop) (fuota : Fuota) (data : Bytes) (prog : Prog Fuota Unit) :
    Prop :=
  Triple (Path permitted fuota) (· = fuota) prog
    fun _ after => Path permitted fuota after /\ Ready permitted fuota data after

/-- The causes of a reply are all permitted. -/
def Permits (permitted : Cause -> Core -> Prop) (fuota : Fuota) (data : Bytes) : Prop :=
  forall cause now, ReplyCauses fuota data cause now -> permitted cause now

theorem Permits.aim (permits : Permits permitted fuota data) (targets : Targets fuota data) (now : Core)
    (same : now.hopCount = fuota.client.hopCount) : permitted .targeted now :=
  permits .targeted now ⟨targets, Or.inl same⟩

/-- The states whose command needs nothing but that a frame for the target is permitted. -/
def FuotaState.plain (state : FuotaState) : Prop :=
  state ≠ .networkUnsilence /\ state ≠ .newFwimageCrcCalculate /\ state ≠ .fwImageTransfer

instance (state : FuotaState) : Decidable state.plain := inferInstanceAs (Decidable (_ /\ _))

theorem ready_aimed {after : Fuota} {next : FuotaState} (permits : Permits permitted fuota data)
    (targets : Targets fuota data) (reached : Reached permitted fuota next after)
    (plain : next.plain) : Ready permitted fuota data after := by
  have aim : forall now : Core, now.hopCount = after.client.hopCount -> permitted .targeted now :=
    fun now same => permits.aim targets now (same.trans reached.hopCount)
  unfold Ready
  rw [reached.state]
  cases next <;> first | exact trivial | exact aim | exact absurd plain (by decide)

theorem ready_resting {after : Fuota} {next : FuotaState}
    (inside : after.machine.ondemandFuotaState = next)
    (resting : match next with
      | .openFile | .gatewayPathSilence | .gatewayPathUnsilence | .rollbackToNormalCommMode
      | .lastUpdateFwimageOfSectorcount | .idle | .unset => True
      | _ => False) : Ready permitted fuota data after := by
  unfold Ready
  rw [inside]
  cases next <;> first | exact resting.elim | exact trivial

theorem ready_unsilencing {after : Fuota} (permits : Permits permitted fuota data)
    (unsilences : Unsilences fuota data)
    (inside : after.machine.ondemandFuotaState = .networkUnsilence) :
    Ready permitted fuota data after := by
  unfold Ready
  rw [inside]
  exact fun now => permits .skipped now unsilences

theorem Goes.from {A : Type} {prog : Prog Fuota A} {state next : FuotaState} {after : Fuota}
    (goes : Goes permitted fuota state prog next) (reached : Reached permitted fuota state after) :
    Triple (Path permitted fuota) (· = after) prog fun _ => Reached permitted fuota next := by
  apply goes.weaken
  next =>
    intro start here
    rw [here]
    exact reached
  next => exact fun _ _ later => later

/-- A program between two states, with the command that may follow it. -/
theorem Goes.ready {prog : Prog Fuota Unit} {state next : FuotaState} {after : Fuota}
    (goes : Goes permitted fuota state prog next) (reached : Reached permitted fuota state after)
    (ready : forall last, Reached permitted fuota next last -> Ready permitted fuota data last) :
    Triple (Path permitted fuota) (· = after) prog
      fun _ last => Path permitted fuota last /\ Ready permitted fuota data last := by
  apply (goes.from reached).weaken
  next => exact fun _ here => here
  next => exact fun _ last later => ⟨later.moves, ready last later⟩

theorem logged_updateStatus (requestStatus errorCode : Nat) (fuota : Fuota) :
    exists log, core (updateStatus requestStatus errorCode fuota).2 = { core fuota with log := log } := by
  simp only [updateStatus, ondemandFuotaUpdateStatus, bind, observe, update]
  split
  next => exact ⟨_, rfl⟩
  next =>
    refine ⟨fuota.log ++ [.updated fuota.client.requestId
      (if requestStatus = 17 && errorCode = 1 then 21 else requestStatus) errorCode], ?_⟩
    simp only [core, apply_ite Machine.ondemandFuotaState, Machine.terminal, ite_self]

theorem steady_acknowledgeGateway (fuota : Fuota) (ok : permitted .acknowledged (core fuota))
    (gateway : fuota.machine.ondemandFuotaState = .gatewayPathSilence \/
      fuota.machine.ondemandFuotaState = .gatewayPathUnsilence) :
    Steady permitted fuota (acknowledgeGateway fuota).2 := by
  have replier : (core fuota).replier = fuota.client.gatewayId := by
    rw [Core.replier, if_pos]
    next => rfl
    next => rcases gateway with silence | unsilence <;> simp [core, *]
  apply steady_move (Move.acknowledged (core fuota) ok) _ rfl rfl rfl
  rw [replier]
  rfl

theorem steady_acknowledgeTarget (fuota : Fuota) (ok : permitted .acknowledged (core fuota))
    (target : fuota.machine.ondemandFuotaState = .targetNodeSilence \/
      fuota.machine.ondemandFuotaState = .networkSilence \/
      fuota.machine.ondemandFuotaState = .networkUnsilence \/
      fuota.machine.ondemandFuotaState = .targetNodeUnsilence) :
    Steady permitted fuota (acknowledgeTarget fuota).2 := by
  have replier : (core fuota).replier = bytesToHexString fuota.radio.currentFuotaTargetMac := by
    rw [Core.replier, if_neg]
    next => rfl
    next => rcases target with state | state | state | state <;> simp [core, state]
  apply steady_move (Move.acknowledged (core fuota) ok) _ rfl rfl rfl
  rw [replier]
  rfl

theorem commandResponseTimeoutAtFuota_ready (state : FuotaState) (after : Fuota)
    (permits : Permits permitted fuota data) (inside : fuota.machine.ondemandFuotaState = state)
    (silencing : state.silencing = true) (refused : accepts state data = false)
    (reached : Reached permitted fuota state after)
    (active : after.machine.cntxActive = fuota.machine.cntxActive) :
    Triple (Path permitted fuota) (· = after) commandResponseTimeoutAtFuota
      fun _ last => Path permitted fuota last /\ Ready permitted fuota data last := by
  have vain : Refused fuota data := by
    rw [Refused, inside]
    exact ⟨silencing, refused⟩
  have stays (last : Fuota) (here : Reached permitted fuota state last) :
      Ready permitted fuota data last := by
    by_cases gateway : state = .gatewayPathSilence
    next => exact ready_resting (here.state.trans gateway) trivial
    next =>
      apply ready_aimed permits _ here
      next => cases state <;> simp_all [FuotaState.silencing, FuotaState.plain]
      next =>
        unfold Targets
        rw [inside]
        cases state <;> simp_all [FuotaState.silencing]
  obtain ⟨result, decided, ran, same, terminates, exhausts⟩ := decideTimeoutAction_ran after
  have here := reached.steady (steady_same same)
  apply triple_ran ran
  cases result with
  | retrySameRoute =>
    have goes : Goes permitted fuota state (buildAndStoreFuotaCmd >>= fun _ => pure ()) state :=
      goes_steady (steady_bind steady_buildAndStoreFuotaCmd fun _ => steady_pure ())
    exact goes.ready here stays
  | retryAlternateRoute =>
    apply Goes.ready _ here stays
    apply goes_steady
    apply steady_bind (steady_observe _)
    intro command
    apply steady_bind (steady_prepareAlternateRouteRetry _ _)
    exact fun _ => steady_bind steady_buildAndStoreFuotaCmd fun _ => steady_pure ()
  | nextFromQueue =>
    let stopped : Fuota := { decided with machine := { decided.machine with cntxActive := false } }
    have still : Reached permitted fuota state stopped := here.steady (steady_same rfl)
    apply triple_ran (show stopRetryContext decided = (some (), stopped) from rfl)
    obtain ⟨last, took, moved, states⟩ := @nextCommandOr_ran permitted .exhausted
      .networkUnsilence stopped
      (permits .exhausted (core stopped) ⟨vain, active.symm.trans (exhausts rfl)⟩)
      (by rw [still.state]; exact silencing)
      (by
        intro empty
        rw [still.state]
        exact ⟨empty, silencing, rfl⟩)
    apply triple_result took
    refine ⟨still.moves.trans moved, ?_⟩
    rcases states with opens | unsilences
    · exact ready_resting opens trivial
    · exact ready_unsilencing permits (Or.inr (Or.inl vain)) unsilences
  | terminate =>
    let stopped : Fuota := { decided with machine := { decided.machine with cntxActive := false } }
    have still : Reached permitted fuota state stopped := here.steady (steady_same rfl)
    apply triple_ran (show stopRetryContext decided = (some (), stopped) from rfl)
    apply triple_result (show setState _ stopped = (some (), _) from rfl)
    refine ⟨still.moves.trans ?_, ready_resting rfl trivial⟩
    apply path_jump .terminated .rollbackToNormalCommMode stopped
      (permits .terminated (core stopped) ⟨vain, active.symm.trans (terminates rfl)⟩)
    rw [still.state]
    exact ⟨silencing, rfl⟩

theorem silenceFailed_replies (state : FuotaState) (change : RetryContext -> RetryContext)
    (permits : Permits permitted fuota data) (inside : fuota.machine.ondemandFuotaState = state)
    (silencing : state.silencing = true) (refused : accepts state data = false) :
    Replies permitted fuota data (silenceFailed state change) := by
  have start : Reached permitted fuota state fuota := reached_start inside
  have assigned := start.assigned state (by cases state <;> exact rfl)
  apply triple_ran (show setState state fuota = (some (), (setState state fuota).2) from rfl)
  apply triple_ran (show setMachine _ _ = (some (), _) from rfl)
  exact commandResponseTimeoutAtFuota_ready state _ permits inside silencing refused
    (assigned.steady (steady_same rfl)) rfl

theorem steady_recordGateway (status : Nat) (fuota : Fuota) (ok : permitted .recorded (core fuota))
    (done : (core fuota).state = .gatewayPathSilence /\ status = 1 \/
      (core fuota).state = .gatewayPathUnsilence /\ status = 0) :
    Steady permitted fuota (insertUpdateUnsilencedMeter fuota.client.gatewayId status 0 fuota).2 :=
  steady_move (Move.recorded (core fuota) status ok done) rfl rfl rfl rfl

theorem opening_unseen {name : Bytes} {middle after : Fuota} (opening : Opening permitted name fuota middle)
    (same : core after = core middle) : Opening permitted name fuota after := by
  rcases opening with reached | ⟨moved, bad, file⟩
  · exact Or.inl (reached.steady (steady_same same))
  · right
    refine ⟨steady_trans _ _ _ moved (steady_same same), ?_, ?_⟩
    next =>
      rw [same]
      exact bad
    next => exact (congrArg Core.firmwareFile same).trans file

theorem replyOpenFile_replies (permits : Permits permitted fuota data)
    (inside : fuota.machine.ondemandFuotaState = .openFile) :
    Replies permitted fuota data replyOpenFile := by
  have behind (name : Bytes)
      (named : name = fuota.firmware.firmwareFile \/ forall now, permitted (.pending name) now) :
      Triple (Path permitted fuota) (Opening permitted name fuota) (do
        setState .gatewayPathSilence
        setMachine fun machine => { machine with fuotaGatewaySilenceState := atFuotaEnable })
        fun _ after => Path permitted fuota after /\ Ready permitted fuota data after := by
    apply triple_bind _ (opening_silenced name fuota inside named)
    intro _
    apply triple_update
    intro after reached
    exact ⟨(reached.steady (steady_same rfl)).moves, ready_resting reached.state trivial⟩
  by_cases flag : fuota.machine.resumeFuotaFlag
  next =>
    have named : fuota.machine.resumeFileName = fuota.firmware.firmwareFile \/
        forall now, permitted (.pending fuota.machine.resumeFileName) now :=
      Or.inr fun now => permits _ now ⟨inside, flag, rfl⟩
    have opened : Triple (Path permitted fuota) (· = fuota) openResumedFirmware
        fun _ => Opening permitted fuota.machine.resumeFileName fuota := by
      apply triple_ran (show observe id fuota = (some fuota, fuota) from rfl)
      rw [if_pos flag]
      apply triple_bind _ (openRequestedFirmware_opening _ fuota inside named)
      intro result
      cases result with
      | none => exact triple_pure () fun _ opening => opening
      | some path => exact triple_update _ fun _ opening => opening_unseen opening rfl
    exact triple_bind _ opened fun _ => behind _ named
  next =>
    have opened : Triple (Path permitted fuota) (· = fuota) openResumedFirmware
        fun _ => Opening permitted fuota.firmware.firmwareFile fuota := by
      apply triple_ran (show observe id fuota = (some fuota, fuota) from rfl)
      rw [if_neg flag]
      apply triple_bind _ (openRequestedFirmware_opening _ fuota inside (Or.inl rfl))
      exact fun _ => triple_pure () fun _ opening => opening
    exact triple_bind _ opened fun _ => behind _ (Or.inl rfl)

theorem replyGatewayPathSilence_replies (permits : Permits permitted fuota data)
    (inside : fuota.machine.ondemandFuotaState = .gatewayPathSilence) :
    Replies permitted fuota data (replyGatewayPathSilence data) := by
  unfold replyGatewayPathSilence
  split
  next accepted =>
    have start : Reached permitted fuota .gatewayPathSilence (updateStatus 6 1 fuota).2 :=
      (reached_start inside).steady (steady_updateStatus 6 1 fuota)
    apply triple_ran (show updateStatus 6 1 fuota = (some (), (updateStatus 6 1 fuota).2) from rfl)
    split
    next done =>
      have acknowledges : Acknowledges fuota data := by
        rw [Acknowledges, inside]
        exact ⟨accepted, done⟩
      obtain ⟨log, logged⟩ := logged_updateStatus 6 1 fuota
      have noted := @steady_acknowledgeGateway permitted (updateStatus 6 1 fuota).2
        (permits .acknowledged _ ⟨acknowledges, log, logged⟩) (Or.inl start.state)
      apply triple_ran (show acknowledgeGateway (updateStatus 6 1 fuota).2 = (some (), _) from rfl)
      have reached := start.steady noted
      have aimed (last : Fuota) (next : FuotaState) (later : Reached permitted fuota next last)
          (kind : next = .targetNodeSilence \/ next = .networkSilence) :
          Ready permitted fuota data last := by
        have targets : Targets fuota data := by
          rw [Targets, inside]
          exact ⟨accepted, done⟩
        rcases kind with rfl | rfl <;> exact ready_aimed permits targets later (by decide)
      apply triple_ran (show observe id (acknowledgeGateway (updateStatus 6 1 fuota).2).2 =
        (some _, (acknowledgeGateway (updateStatus 6 1 fuota).2).2) from rfl)
      dsimp only [id]
      generalize (acknowledgeGateway (updateStatus 6 1 fuota).2).2 = after at reached
      split
      next =>
        exact Goes.ready (goes_steady (Unseen.steady fun _ => rfl)) reached fun last later =>
          ready_resting later.state trivial
      next =>
        have recorded := @steady_recordGateway permitted 1 after
          (permits .recorded _ ⟨acknowledges, fun other => by simp [inside] at other⟩)
          (Or.inl ⟨reached.state, rfl⟩)
        have hops : (core fuota).hops = decide (after.radio.routerPath.hopCount > 0) := by
          rw [Core.hops, ← (moves_fixed reached.moves).2.2]
          rfl
        apply triple_ran (show insertUpdateUnsilencedMeter after.client.gatewayId 1 0 after =
          (some (), (insertUpdateUnsilencedMeter after.client.gatewayId 1 0 after).2) from rfl)
        split
        next some_ =>
          apply Goes.ready (goes_bind (goes_setState .targetNodeSilence _) fun _ =>
            goes_steady (Unseen.steady fun _ => rfl)) (reached.steady recorded)
            fun last later => aimed last _ later (Or.inl rfl)
          rw [Leads, hops]
          simpa using some_
        next none_ =>
          apply Goes.ready (goes_bind (goes_setState .networkSilence _) fun _ =>
            goes_steady (Unseen.steady fun _ => rfl)) (reached.steady recorded)
            fun last later => aimed last _ later (Or.inr rfl)
          rw [Leads, hops]
          simpa using none_
    next =>
      exact Goes.ready (goes_setState .gatewayPathSilence (show Leads _ .gatewayPathSilence _ from rfl))
        start fun last reached => ready_resting reached.state trivial
  next refused =>
    exact silenceFailed_replies .gatewayPathSilence _ permits inside rfl (by simpa using refused)

/-- Moves from a state that was reached, with the command that may follow them. -/
def Onward (permitted : Cause -> Core -> Prop) (fuota : Fuota) (data : Bytes) (state : FuotaState)
    (prog : Prog Fuota Unit) : Prop :=
  Triple (Path permitted fuota) (Reached permitted fuota state) prog
    fun _ last => Path permitted fuota last /\ Ready permitted fuota data last

theorem Goes.onward {prog : Prog Fuota Unit} {state next : FuotaState}
    (goes : Goes permitted fuota state prog next)
    (ready : forall last, Reached permitted fuota next last -> Ready permitted fuota data last) :
    Onward permitted fuota data state prog :=
  goes.weaken (fun _ known => known) fun _ last later => ⟨later.moves, ready last later⟩

theorem onward_bind {A : Type} {first : Prog Fuota A} {next : A -> Prog Fuota Unit}
    {state middle : FuotaState} (goes : Goes permitted fuota state first middle)
    (later : forall value, Onward permitted fuota data middle (next value)) :
    Onward permitted fuota data state (first >>= next) := triple_bind _ goes later

theorem replies_of {prog : Prog Fuota Unit} {state : FuotaState}
    (inside : fuota.machine.ondemandFuotaState = state)
    (onward : Onward permitted fuota data state prog) : Replies permitted fuota data prog := by
  apply onward.weaken
  next =>
    intro start here
    rw [here]
    exact reached_start inside
  next => exact fun _ _ later => later

theorem retryOr_replies (state : FuotaState) (limit : Nat) (retrying given : Prog Fuota Unit)
    (permits : Permits permitted fuota data) (inside : fuota.machine.ondemandFuotaState = state)
    (completes : limit ≤ fuota.machine.cntx.retryCount -> Completes fuota data)
    (retries : Onward permitted fuota data state retrying) (gives : Respects (Steady permitted) given)
    (stays : forall after, Path permitted fuota after -> after.machine.ondemandFuotaState = state ->
      after.client.hopCount = fuota.client.hopCount -> Ready permitted fuota data after) :
    Replies permitted fuota data (retryOr limit retrying given) := by
  apply triple_ran (show observe _ fuota = (some fuota.machine.cntx.retryCount, fuota) from rfl)
  split
  next => exact replies_of inside (onward_bind (goes_steady (Unseen.steady fun _ => rfl)) fun _ => retries)
  next spent =>
    have ends := completes (by omega)
    apply replies_of inside
    apply onward_bind (goes_steady gives)
    intro _
    apply onward_bind (goes_steady (Unseen.steady fun _ => rfl))
    intro _
    apply (handleFuotaCompletion_completed (fun now => permits .completed now ends)
      (fun now => permits .skipped now (Or.inl ends)) state).weaken
    next => exact fun _ known => known
    next =>
      rintro _ after ⟨moves, unsilences | gateway | opens | ⟨_, same, hopCount⟩⟩
      · exact ⟨moves, ready_unsilencing permits (Or.inl ends) unsilences⟩
      · exact ⟨moves, ready_resting gateway trivial⟩
      · exact ⟨moves, ready_resting opens trivial⟩
      · exact ⟨moves, stays after moves same hopCount⟩

theorem unseen_succeed : Unseen succeed := fun _ => rfl

theorem refused_replies (state next : FuotaState) (given : Prog Fuota Unit)
    (permits : Permits permitted fuota data) (inside : fuota.machine.ondemandFuotaState = state)
    (completes : 3 ≤ fuota.machine.cntx.retryCount -> Completes fuota data)
    (targets : Targets fuota data) (gives : Respects (Steady permitted) given)
    (retrying : Prog Fuota Unit) (retries : Goes permitted fuota state retrying next)
    (plain : state.plain) (plainNext : next.plain) : Replies permitted fuota data (retryOr 3 retrying given) := by
  apply retryOr_replies state 3 retrying given permits inside completes _ gives
  next =>
    intro after moves same hopCount
    have aim : forall now : Core, now.hopCount = after.client.hopCount -> permitted .targeted now :=
      fun now equal => permits.aim targets now (equal.trans hopCount)
    unfold Ready
    rw [same]
    cases state <;> first | exact trivial | exact aim | exact absurd plain (by decide)
  next => exact retries.onward fun last reached => ready_aimed permits targets reached plainNext

end Replies

end Hes.Fuota
