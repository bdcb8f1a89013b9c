import Hes.Fuota.Finality

set_option autoImplicit false

namespace Hes.Fuota

open Prog Text Mqtt Transition
open SyncTime (unsilencing commandWritten)

section Working

theorem working_bind {A B : Type} {first : Prog Fuota A} {next : A -> Prog Fuota B}
    (before : Respects Working first) (behind : forall value, Respects Working (next value)) :
    Respects Working (first >>= next) := respects_bind working_frame.trans before behind

theorem working_pure {A : Type} (value : A) : Respects Working (pure value : Prog Fuota A) :=
  respects_pure working_frame.refl value

theorem working_observe {A : Type} (view : Fuota -> A) : Respects Working (observe view) :=
  respects_observe working_frame.refl view

theorem working_update (change : Fuota -> Fuota) (logged : forall fuota, (change fuota).log = fuota.log)
    (own : forall fuota, (change fuota).client.requestId = fuota.client.requestId)
    (state : forall fuota, (change fuota).machine.ondemandFuotaState = fuota.machine.ondemandFuotaState) :
    Respects Working (update change) := fun fuota =>
  ⟨⟨own fuota, logs_same (logged fuota)⟩, fun uploading => state fuota ▸ uploading⟩

theorem working_told (status : Nat) (unclosed : status ≠ 17 /\ status ≠ 21) :
    Respects Working (updateStatus status 1) :=
  toldOpen_respects working_frame works_visits.toProceeds status unclosed

theorem working_setState (state : FuotaState) (other : state ≠ .fwImageTransfer) :
    Respects Working (setState state) :=
  assigned_respects working_frame works_visits.toProceeds state other

theorem working_note (event : Event) (resting : serves event = none)
    (other : event ≠ .assigned .fwImageTransfer) : Respects Working (note event) :=
  note_respects working_frame.toSendFrame event fun requestId => ⟨Resting.own resting requestId, other⟩

theorem working_sendToTarget (packetType : UInt8) (command : Bytes) :
    Respects Working (sendToTarget packetType command) :=
  sendToTarget_respects working_frame.toSendFrame works_visits.toSends packetType command

theorem working_succeed : Respects Working succeed :=
  working_update _ (fun _ => rfl) (fun _ => rfl) fun _ => rfl

theorem working_proceed (next : FuotaState) (other : next ≠ .fwImageTransfer) :
    Respects Working (proceed next) := by
  intro fuota
  have accepted := working_note (.accepted fuota.machine.ondemandFuotaState) rfl (by simp) fuota
  have assigned := working_setState next other
    (note (.accepted fuota.machine.ondemandFuotaState) fuota).2
  have both := working_frame.trans _ _ _ accepted assigned
  simpa [proceed, note, setState, update] using both

theorem working_acknowledge (node : Bytes) : Respects Working (acknowledge node) :=
  working_bind (working_observe _) fun _ => working_note _ rfl (by simp)

theorem working_silenceFailed (state : FuotaState) (other : state ≠ .fwImageTransfer)
    (change : RetryContext -> RetryContext) : Respects Working (silenceFailed state change) :=
  silenceFailed_respects working_frame works_visits.toProceeds state other change

theorem working_fread (count : Nat) : Respects Working (fread count) := by
  intro fuota
  unfold fread
  split
  next => exact working_frame.refl fuota
  next => exact ⟨⟨rfl, logs_same rfl⟩, id⟩

theorem working_crcTurn (remaining : Nat) : Respects Working (crcTurn remaining) := by
  unfold crcTurn
  split
  next =>
    apply working_bind (working_observe _)
    intro sectorValue
    apply working_bind (working_fread _)
    intro chunk
    split
    next => exact working_pure _
    next =>
      apply working_bind (setCrc_respects working_frame.toSendFrame _)
      exact fun _ => working_pure _
  next => exact working_pure _

theorem working_calculateCrcForTargetNode : Respects Working calculateCrcForTargetNode := by
  have counted (change : Crc -> Crc) : Respects Working (setCrc change) :=
    setCrc_respects working_frame.toSendFrame change
  have tabled : Respects Working ensureCrcTable := by
    intro fuota
    simp only [ensureCrcTable, update]
    split
    next => exact working_frame.refl fuota
    next => exact ⟨⟨rfl, logs_same rfl⟩, id⟩
  apply working_bind tabled
  intro _
  apply working_bind (working_observe _)
  intro fuota
  split
  next => exact counted _
  next =>
    split
    next => exact working_pure ()
    next =>
      apply working_bind (setFirmware_respects working_frame.toSendFrame _)
      intro _
      apply working_bind (respects_loop working_frame.refl working_frame.trans crcTurn working_crcTurn _ _)
      intro read
      split
      next => exact counted _
      next => exact working_pure ()

theorem cansendFuotaNextCommand_working (fuota : Fuota)
    (state : fuota.machine.ondemandFuotaState ≠ .fwImageTransfer) :
    Working fuota (cansendFuotaNextCommand fuota).2 := by
  rw [cansendFuotaNextCommand,
    ran_bind (show getState fuota = (some fuota.machine.ondemandFuotaState, fuota) from rfl)]
  cases here : fuota.machine.ondemandFuotaState with
  | openFile => exact sendOpenFile_respects working_frame works_visits.toProceeds fuota
  | gatewayPathSilence => exact prepareGatewaySilenceCmd_respects working_frame works_visits.toProceeds fuota
  | targetNodeSilence =>
    refine working_bind (working_observe _) (fun step => ?_) fuota
    split
    next => exact working_sendToTarget _ _
    next => exact working_pure ()
  | networkSilence => exact sendNetworkSilence_respects working_frame works_visits fuota
  | fwimageOfSectorCount => exact working_bind (working_observe _) (fun _ => working_sendToTarget _ _) fuota
  | fwImageTransfer => exact absurd here state
  | newFwimageCrcCalculate =>
    apply working_bind working_calculateCrcForTargetNode
    exact fun _ => working_bind (working_observe _) fun _ => working_sendToTarget _ _
  | networkUnsilence => exact sendNetworkUnsilence_respects working_frame works_visits fuota
  | targetNodeUnsilence =>
    refine working_bind (working_observe _) (fun step => ?_) fuota
    split
    next => exact working_sendToTarget _ _
    next => exact working_pure ()
  | gatewayPathUnsilence => exact prepareToUnsilenceTheGatewayNode_respects working_frame works_visits fuota
  | rollbackToNormalCommMode => exact working_setState _ (by decide) fuota
  | sectorRead | eraseFlash | fwImageEndofPageTransfer | activateNewFwimage | sendActivateCmd
  | readAndCompareFwVersion => exact working_sendToTarget _ _ fuota
  | lastUpdateFwimageOfSectorcount | idle | unset => exact working_pure () fuota

end Working

section Ends

/-- What giving up a request leaves behind. -/
structure Closed (before after : Fuota) : Prop where
  unmoved : Unmoved before after
  client : after.client = before.client
  settled : Settled after.log
  past : forall requestId, Over after.log requestId ->
    Over before.log requestId \/ requestId = before.client.requestId

theorem updateStatus_client (requestStatus errorCode : Nat) (fuota : Fuota) :
    (updateStatus requestStatus errorCode fuota).2.client = fuota.client := by
  simp only [updateStatus, ondemandFuotaUpdateStatus, observe, update, bind]
  split <;> rfl

theorem updateStatus_closed (requestStatus errorCode : Nat) (fuota : Fuota) (live : Live fuota) :
    Closed fuota (updateStatus requestStatus errorCode fuota).2 where
  unmoved := updateStatus_unmoved requestStatus errorCode fuota
  client := updateStatus_client requestStatus errorCode fuota
  settled := told_settled requestStatus errorCode fuota live
  past := by
    intro requestId past
    simp only [updateStatus, ondemandFuotaUpdateStatus, observe, update, bind] at past
    split at past
    next => exact Or.inl past
    next =>
      obtain before | ⟨event, inside, closed⟩ := (over_append _ _ _).mp past
      next => exact Or.inl before
      next =>
        rw [List.mem_singleton] at inside
        subst inside
        exact Or.inr (Option.some.inj (closes_serves closed)).symm

/-- What a handler does where a reply is refused for the last time. -/
def giveUp (given : Prog Fuota Unit) : Prog Fuota Unit := do
  given
  setMachine fun machine => { machine with
    waitingForResponse := false
    cntx := { machine.cntx with retryCount := 0 } }
  handleFuotaCompletion

theorem retryOr_leaves (limit : Nat) (retrying given : Prog Fuota Unit) (fuota : Fuota)
    (live : Live fuota) (state : fuota.machine.ondemandFuotaState ≠ .fwImageTransfer)
    (retries : Respects Working retrying)
    (ended : limit ≤ fuota.machine.cntx.retryCount -> Leaves (giveUp given) fuota) :
    Leaves (retryOr limit retrying given) fuota := by
  unfold Leaves
  rw [retryOr, ran_bind (show observe _ fuota = (some fuota.machine.cntx.retryCount, fuota) from rfl)]
  by_cases again : fuota.machine.cntx.retryCount < limit
  next =>
    rw [if_pos again]
    have working : Respects Working (setMachine (fun machine => { machine with
        waitingForResponse := true
        cntx := { machine.cntx with retryCount := machine.cntx.retryCount + 1 } }) >>=
          fun _ => retrying) :=
      working_bind (setMachine_respects working_frame _ fun _ => rfl) fun _ => retries
    exact (working fuota).leaves live state
  next =>
    rw [if_neg again]
    exact ended (by omega)

theorem giveUp_live (fuota : Fuota) (live : Live fuota)
    (state : fuota.machine.ondemandFuotaState ≠ .fwImageTransfer)
    (next : forall requestId, nextRequest fuota.client.rfMeterFuota = some requestId ->
      ¬ Over fuota.log requestId) : Leaves (giveUp (return ())) fuota := by
  let rested : Fuota := { fuota with machine := { fuota.machine with
    waitingForResponse := false, cntx := { fuota.machine.cntx with retryCount := 0 } } }
  exact completed_live rested { live with } state next

theorem giveUp_over (given : Prog Fuota Unit) (fuota : Fuota)
    (closed : exists after, given fuota = (some (), after) /\ Closed fuota after)
    (ended : (fuota.client.rfMeterFuota = [] -> Quiet fuota) /\
      (∀ command ∈ fuota.client.rfMeterFuota.head?, 7 ≤ (split colon command).length) /\
        nextRequest fuota.client.rfMeterFuota ≠ some fuota.client.requestId)
    (next : forall requestId, nextRequest fuota.client.rfMeterFuota = some requestId ->
      ¬ Over fuota.log requestId) : Leaves (giveUp given) fuota := by
  obtain ⟨after, ran, closing⟩ := closed
  obtain ⟨quiet, parsed, other⟩ := ended
  unfold Leaves
  rw [giveUp, ran_bind ran]
  apply completed_over
  next => exact closing.settled
  next =>
    intro queue
    have before := quiet (closing.client ▸ queue)
    constructor
    next => exact closing.unmoved.route.trans before.route
    next => exact closing.unmoved.inputs ▸ before.routes
    next => exact closing.unmoved.hopCount ▸ before.hopCount
  next => exact fun command front => parsed command (closing.client ▸ front)
  next =>
    intro requestId taken past
    have front : nextRequest fuota.client.rfMeterFuota = some requestId := closing.client ▸ taken
    obtain before | same := closing.past requestId past
    next => exact next requestId front before
    next => exact other (same ▸ front)

end Ends

section Replies

variable {fuota : Fuota} {data : Bytes}

theorem working_insertUpdateUnsilencedMeter (meterMac : Bytes) (status : Nat) (hopCount : UInt8) :
    Respects Working (insertUpdateUnsilencedMeter meterMac status hopCount) :=
  insertUpdateUnsilencedMeter_respects working_frame works_visits meterMac status hopCount

theorem working_setMachine (change : Machine -> Machine)
    (same : forall machine, (change machine).ondemandFuotaState = machine.ondemandFuotaState) :
    Respects Working (setMachine change) := setMachine_respects working_frame change same

theorem working_nextCommandOr (state : FuotaState) (other : state ≠ .fwImageTransfer) :
    Respects Working (nextCommandOr state) :=
  nextCommandOr_respects working_frame works_visits.toProceeds state other

theorem working_acknowledgeGateway : Respects Working acknowledgeGateway :=
  working_bind (working_observe _) fun _ => working_acknowledge _

theorem working_acknowledgeTarget : Respects Working acknowledgeTarget :=
  working_bind (working_observe _) fun _ => working_acknowledge _

theorem replyGatewayPathSilence_working : Respects Working (replyGatewayPathSilence data) := by
  unfold replyGatewayPathSilence
  split
  next =>
    apply working_bind (working_told 6 (by decide))
    intro _
    split
    next =>
      apply working_bind working_acknowledgeGateway
      intro _
      apply working_bind (working_observe _)
      intro fuota
      split
      next => exact working_setMachine _ fun _ => rfl
      next =>
        apply working_bind (working_insertUpdateUnsilencedMeter _ _ _)
        intro _
        dsimp only
        split
        next =>
          apply working_bind (working_setState _ (by decide))
          exact fun _ => working_setMachine _ fun _ => rfl
        next =>
          apply working_bind (working_setState _ (by decide))
          exact fun _ => working_setMachine _ fun _ => rfl
    next => exact working_setState _ (by decide)
  next => exact working_silenceFailed _ (by decide) _

theorem replyTargetNodeSilence_working : Respects Working (replyTargetNodeSilence data) := by
  unfold replyTargetNodeSilence
  split
  next =>
    apply working_bind working_acknowledgeTarget
    intro _
    apply working_bind (working_observe _)
    intro step
    split
    next => exact working_setMachine _ fun _ => rfl
    next =>
      apply working_bind (working_setState _ (by decide))
      exact fun _ => working_setMachine _ fun _ => rfl
  next => exact working_silenceFailed _ (by decide) _

theorem replyNetworkSilence_working : Respects Working (replyNetworkSilence data) := by
  unfold replyNetworkSilence
  split
  next =>
    apply working_bind working_acknowledgeTarget
    intro _
    apply working_bind (working_observe _)
    intro step
    split
    next => exact working_setMachine _ fun _ => rfl
    next => exact working_setState _ (by decide)
  next => exact working_silenceFailed _ (by decide) _

theorem stage_leaves {accepted : Bool} {limit : Nat} {good retrying given : Prog Fuota Unit}
    (live : Live fuota) (other : fuota.machine.ondemandFuotaState ≠ .fwImageTransfer)
    (passes : Respects Working good) (retries : Respects Working retrying)
    (ended : accepted = false -> limit ≤ fuota.machine.cntx.retryCount -> Leaves (giveUp given) fuota) :
    Leaves (if accepted = true then good else retryOr limit retrying given) fuota := by
  cases accepted with
  | true => exact (passes fuota).leaves live other
  | false => exact retryOr_leaves limit retrying given fuota live other retries (ended rfl)

theorem replySectorRead_leaves (live : Live fuota)
    (state : fuota.machine.ondemandFuotaState = .sectorRead) (served : Served fuota data) :
    Leaves (replySectorRead data) fuota := by
  have other : fuota.machine.ondemandFuotaState ≠ .fwImageTransfer := by rw [state]; decide
  apply stage_leaves live other
  next =>
    apply working_bind (working_note _ rfl (by simp))
    intro _
    apply working_bind (setFirmware_respects working_frame.toSendFrame _)
    intro _
    apply working_bind (working_told 7 (by decide))
    intro _
    apply working_bind working_succeed
    intro _
    apply working_bind (dynamicFuotaCalculate_respects working_frame works_visits.toProceeds)
    intro calculated
    split
    next => exact working_setState _ (by decide)
    next =>
      apply working_bind (working_observe _)
      intro firmware
      split
      next =>
        apply working_bind (working_told 2 (by decide))
        exact fun _ => working_setState _ (by decide)
      next => exact working_pure ()
  next =>
    refine working_bind (working_setMachine _ fun _ => rfl) ?_
    exact fun _ => working_setState _ (by decide)
  next =>
    intro refused often
    exact giveUp_live fuota live other
      (served.continued (Or.inl (by simp [givesUp, state, refused, often])))

theorem replyFwimageOfSectorCount_leaves (live : Live fuota)
    (state : fuota.machine.ondemandFuotaState = .fwimageOfSectorCount) (served : Served fuota data) :
    Leaves (replyFwimageOfSectorCount data) fuota := by
  have other : fuota.machine.ondemandFuotaState ≠ .fwImageTransfer := by rw [state]; decide
  apply stage_leaves live other
  next =>
    apply working_bind (working_told 9 (by decide))
    intro _
    apply working_bind working_succeed
    intro _
    refine working_bind (working_setMachine _ fun _ => rfl) ?_
    exact fun _ => working_proceed _ (by decide)
  next => exact working_setState _ (by decide)
  next =>
    intro refused often
    exact giveUp_live fuota live other
      (served.continued (Or.inl (by simp [givesUp, state, refused, often])))

theorem replyFwImageEndofPageTransfer_leaves (live : Live fuota)
    (state : fuota.machine.ondemandFuotaState = .fwImageEndofPageTransfer)
    (served : Served fuota data) : Leaves (replyFwImageEndofPageTransfer data) fuota := by
  have other : fuota.machine.ondemandFuotaState ≠ .fwImageTransfer := by rw [state]; decide
  apply stage_leaves live other
  next =>
    apply working_bind (working_told 13 (by decide))
    intro _
    apply working_bind working_succeed
    exact fun _ => working_proceed _ (by decide)
  next => exact working_setState _ (by decide)
  next =>
    intro refused often
    exact giveUp_live fuota live other
      (served.continued (Or.inl (by simp [givesUp, state, refused, often])))

theorem replyNewFwimageCrcCalculate_leaves (live : Live fuota)
    (state : fuota.machine.ondemandFuotaState = .newFwimageCrcCalculate)
    (served : Served fuota data) : Leaves (replyNewFwimageCrcCalculate data) fuota := by
  have other : fuota.machine.ondemandFuotaState ≠ .fwImageTransfer := by rw [state]; decide
  apply stage_leaves live other
  next =>
    apply working_bind (working_told 14 (by decide))
    intro _
    apply working_bind (setCrc_respects working_frame.toSendFrame _)
    intro _
    refine working_bind (working_setMachine _ fun _ => rfl) ?_
    intro _
    apply working_bind (setCrc_respects working_frame.toSendFrame _)
    exact fun _ => working_proceed _ (by decide)
  next => exact working_setState _ (by decide)
  next =>
    intro refused often
    have gives : givesUp fuota data = true := by simp [givesUp, state, refused, often]
    obtain ⟨⟨inputs, requestId, hopCount, stays, route⟩, client, settled, past⟩ :=
      updateStatus_closed 14 0 fuota live
    exact giveUp_over _ fuota ⟨_, rfl, ⟨⟨inputs, requestId, hopCount, stays, route⟩, client, settled, past⟩⟩
      (served.ended gives (by simp [state, endsFinal])) (served.continued (Or.inl gives))

theorem replyActivateNewFwimage_leaves (live : Live fuota)
    (state : fuota.machine.ondemandFuotaState = .activateNewFwimage) (served : Served fuota data) :
    Leaves (replyActivateNewFwimage data) fuota := by
  have other : fuota.machine.ondemandFuotaState ≠ .fwImageTransfer := by rw [state]; decide
  apply stage_leaves live other
  next =>
    apply working_bind (working_told 15 (by decide))
    intro _
    apply working_bind working_succeed
    exact fun _ => working_proceed _ (by decide)
  next =>
    apply working_bind (working_told 16 (by decide))
    exact fun _ => working_setState _ (by decide)
  next =>
    intro refused often
    have gives : givesUp fuota data = true := by simp [givesUp, state, refused, often]
    exact giveUp_over _ fuota ⟨_, rfl, updateStatus_closed 16 0 fuota live⟩
      (served.ended gives (by simp [state, endsFinal])) (served.continued (Or.inl gives))

theorem replySendActivateCmd_leaves (live : Live fuota)
    (state : fuota.machine.ondemandFuotaState = .sendActivateCmd) (served : Served fuota data) :
    Leaves (replySendActivateCmd data) fuota := by
  have other : fuota.machine.ondemandFuotaState ≠ .fwImageTransfer := by rw [state]; decide
  have refused : accepts .sendActivateCmd data = false := served.activated state
  unfold replySendActivateCmd
  rw [if_neg (by simp [refused])]
  apply retryOr_leaves _ _ _ fuota live other (working_setState _ (by decide))
  intro often
  have gives : givesUp fuota data = true := by simp [givesUp, state, refused, often]
  exact giveUp_over _ fuota ⟨_, rfl, updateStatus_closed 17 0 fuota live⟩
    (served.ended gives (by simp [state, endsFinal])) (served.continued (Or.inl gives))

theorem replyReadAndCompareFwVersion_leaves (live : Live fuota)
    (state : fuota.machine.ondemandFuotaState = .readAndCompareFwVersion) (served : Served fuota data) :
    Leaves (replyReadAndCompareFwVersion data) fuota := by
  have other : fuota.machine.ondemandFuotaState ≠ .fwImageTransfer := by rw [state]; decide
  unfold replyReadAndCompareFwVersion
  by_cases accepted : accepts .readAndCompareFwVersion data = true
  next =>
    rw [if_pos accepted]
    let noted : Fuota := (note (.accepted .readAndCompareFwVersion) fuota).2
    let told : Fuota := (updateStatus 18 1 noted).2
    have client : told.client = fuota.client := updateStatus_client 18 1 noted
    have working : Working fuota told := working_frame.trans fuota noted told
      (working_note (.accepted .readAndCompareFwVersion) rfl (by simp) fuota)
      (working_told 18 (by decide) noted)
    have past := unclosed_over (logs_mono (fun _ serves => serves.unclosed) working.serving.2)
    unfold Leaves
    rw [ran_bind (show note _ fuota = (some (), noted) from rfl),
      ran_bind (show updateStatus 18 1 noted = (some (), told) from rfl),
      ran_bind (show succeed told = (some (), _) from rfl),
      ran_bind (show comparisionOfFirmware _ = (some (), _) from rfl)]
    apply completed_live
    next => exact { working.serving.live live with }
    next => exact fun uploading => other (working.state uploading)
    next =>
      intro requestId taken
      have front : nextRequest fuota.client.rfMeterFuota = some requestId := client ▸ taken
      exact mt (past requestId).mp (served.continued (Or.inr ⟨state, accepted⟩) requestId front)
  next =>
    rw [if_neg accepted]
    apply retryOr_leaves _ _ _ fuota live other (working_setState _ (by decide))
    intro often
    have gives : givesUp fuota data = true := by simp [givesUp, state, accepted, often]
    exact giveUp_over _ fuota ⟨_, rfl, updateStatus_closed 18 0 fuota live⟩
      (served.ended gives (by simp [state, endsFinal])) (served.continued (Or.inl gives))

theorem replyEraseFlash_refused (live : Live fuota)
    (state : fuota.machine.ondemandFuotaState = .eraseFlash) (served : Served fuota data)
    (refused : accepts .eraseFlash data = false) : Leaves (replyEraseFlash data) fuota := by
  have other : fuota.machine.ondemandFuotaState ≠ .fwImageTransfer := by rw [state]; decide
  unfold replyEraseFlash
  rw [if_neg (by simp [refused])]
  apply retryOr_leaves _ _ _ fuota live other (working_setState _ (by decide))
  intro often
  exact giveUp_live fuota live other
    (served.continued (Or.inl (by simp [givesUp, state, refused, often])))

/-- The upload is over, whatever has arrived. -/
theorem replyFwImageTransfer_leaves (live : Live fuota) : Leaves replyFwImageTransfer fuota := by
  have working : Working fuota (replyFwImageTransfer fuota).2 :=
    working_bind (working_told 11 (by decide)) (fun _ => working_setState _ (by decide)) fuota
  exact leaves_of_maySend ((working.serving.live live).maySend
    (show FuotaState.fwImageEndofPageTransfer ≠ .fwImageTransfer by decide))

theorem replyLastUpdate_working : Respects Working (replyLastUpdate data) := by
  apply working_bind (working_told 12 (by decide))
  intro _
  split
  next =>
    apply working_bind working_succeed
    exact fun _ => working_setState _ (by decide)
  next => exact working_setState _ (by decide)

theorem working_countUnsilenceStep {finished : Prog Fuota Unit} (finishes : Respects Working finished) :
    Respects Working (countUnsilenceStep finished) := by
  apply working_bind (working_observe _)
  intro step
  split
  next => exact working_setMachine _ fun _ => rfl
  next => exact finishes

theorem working_finishUnsilence (next : FuotaState) (other : next ≠ .fwImageTransfer) :
    Respects Working (finishUnsilence next) := by
  apply working_bind (working_observe _)
  intro hopCount
  dsimp only
  split
  next =>
    apply working_bind (working_setState _ other)
    exact fun _ => working_setMachine _ fun _ => rfl
  next =>
    apply working_bind (working_setState _ (by decide))
    exact fun _ => working_setMachine _ fun _ => rfl

theorem replyNetworkUnsilence_leaves (live : Live fuota)
    (state : fuota.machine.ondemandFuotaState = .networkUnsilence) (served : Served fuota data) :
    Leaves (replyNetworkUnsilence data) fuota := by
  have other : fuota.machine.ondemandFuotaState ≠ .fwImageTransfer := by rw [state]; decide
  unfold replyNetworkUnsilence
  split
  next =>
    refine Working.leaves (working_bind (working_told 20 (by decide)) ?_ fuota) live other
    intro _
    split
    next =>
      apply working_bind working_acknowledgeTarget
      exact fun _ => working_countUnsilenceStep (working_finishUnsilence _ (by decide))
    next => exact working_setState _ (by decide)
  next refused =>
    split
    next mesh =>
      have quiet := served.refused state (by simpa using refused) mesh
      have closed := updateStatus_closed 20 0 fuota live
      apply leaves_of_maySend
      refine ⟨closed.settled, Or.inr (Or.inl (closed.unmoved.unsilencing { quiet with state := ?_ }))⟩
      rw [state]
      rfl
    next => exact (working_setState _ (by decide) fuota).leaves live other

theorem replyTargetNodeUnsilence_working : Respects Working (replyTargetNodeUnsilence data) := by
  unfold replyTargetNodeUnsilence
  split
  next =>
    split
    next =>
      apply working_bind working_acknowledgeTarget
      exact fun _ => working_countUnsilenceStep (working_finishUnsilence _ (by decide))
    next => exact working_setState _ (by decide)
  next => exact working_setState _ (by decide)

theorem replyGatewayPathUnsilence_working : Respects Working (replyGatewayPathUnsilence data) := by
  unfold replyGatewayPathUnsilence
  split
  next =>
    split
    next =>
      apply working_bind working_acknowledgeGateway
      intro _
      apply working_countUnsilenceStep
      apply working_bind (working_observe _)
      intro gatewayId
      apply working_bind (working_insertUpdateUnsilencedMeter _ _ _)
      exact fun _ => working_nextCommandOr _ (by decide)
    next => exact working_nextCommandOr _ (by decide)
  next =>
    split
    next => exact working_pure ()
    next => exact working_nextCommandOr _ (by decide)

theorem replyRollback_working : Respects Working replyRollback := by
  apply working_bind (dequeueFuota_respects working_frame)
  intro front
  split
  next =>
    apply working_bind (takeCommand_respects working_frame works_visits.toProceeds _)
    exact fun _ => working_pure false
  next =>
    apply working_bind
    next => exact working_update _ (fun _ => rfl) (fun _ => rfl) fun _ => rfl
    next => exact fun _ => working_pure true

end Replies

section Resting

variable {fuota : Fuota} {data : Bytes}

theorem Quietly.maySend {after : Fuota} (quietly : Quietly QuietlyUnsilencing fuota after)
    (settled : Settled fuota.log) : MaySend after :=
  ⟨resting_settled quietly.2 settled, Or.inr (Or.inl quietly.1)⟩

theorem keeps_setState (state : FuotaState) (known : unsilencing state = true) :
    Respects (Keeps QuietlyUnsilencing) (setState state) :=
  fun _ held => ⟨{ held with state := known }, logs_event (.assigned state) rfl rfl⟩

theorem keeps_acknowledgeTarget : Respects (Keeps QuietlyUnsilencing) acknowledgeTarget :=
  fun _ held => ⟨{ held with }, logs_event (.acknowledged _ _) rfl rfl⟩

theorem keeps_countUnsilenceStep {finished : Prog Fuota Unit}
    (finishes : Respects (Keeps QuietlyUnsilencing) finished) :
    Respects (Keeps QuietlyUnsilencing) (countUnsilenceStep finished) := by
  apply keeps_bind (keeps_observe _)
  intro step
  split
  next => exact fun _ held => ⟨{ held with }, logs_same rfl⟩
  next => exact finishes

theorem keeps_finishUnsilence (next : FuotaState) (known : unsilencing next = true) :
    Respects (Keeps QuietlyUnsilencing) (finishUnsilence next) := by
  apply keeps_bind (keeps_observe _)
  intro hopCount
  dsimp only
  split
  next =>
    apply keeps_bind (keeps_setState next known)
    exact fun _ _ held => ⟨{ held with }, logs_same rfl⟩
  next =>
    apply keeps_bind (keeps_setState .networkUnsilence rfl)
    exact fun _ _ held => ⟨{ held with }, logs_same rfl⟩

theorem updateStatus_guarded (requestStatus errorCode : Nat) (known : guarded fuota = true) :
    updateStatus requestStatus errorCode fuota = (some (), fuota) := by
  have last : (fuota.statics.lastStatusMap fuota.client.requestId).map Prod.snd = some 0 := by
    simpa [guarded] using known
  simp only [updateStatus, ondemandFuotaUpdateStatus, bind, observe, update, last, if_true]

theorem networkUnsilence_rests (unsilencing : QuietlyUnsilencing fuota)
    (known : accepts .networkUnsilence data = true \/ byteAt data 2 = meshCommissionPacketType ->
      guarded fuota = true) : Quietly QuietlyUnsilencing fuota (replyNetworkUnsilence data fuota).2 := by
  unfold replyNetworkUnsilence
  split
  next accepted =>
    rw [ran_bind (updateStatus_guarded 20 1 (known (Or.inl accepted)))]
    split
    next =>
      refine keeps_bind keeps_acknowledgeTarget ?_ fuota unsilencing
      exact fun _ => keeps_countUnsilenceStep (keeps_finishUnsilence _ rfl)
    next => exact keeps_setState _ rfl fuota unsilencing
  next =>
    split
    next mesh =>
      rw [updateStatus_guarded 20 0 (known (Or.inr mesh))]
      exact ⟨unsilencing, logs_refl fuota⟩
    next => exact keeps_setState _ rfl fuota unsilencing

theorem targetNodeUnsilence_rests (unsilencing : QuietlyUnsilencing fuota) :
    Quietly QuietlyUnsilencing fuota (replyTargetNodeUnsilence data fuota).2 := by
  unfold replyTargetNodeUnsilence
  split
  next =>
    split
    next =>
      refine keeps_bind keeps_acknowledgeTarget ?_ fuota unsilencing
      exact fun _ => keeps_countUnsilenceStep (keeps_finishUnsilence _ rfl)
    next => exact keeps_setState _ rfl fuota unsilencing
  next => exact keeps_setState _ rfl fuota unsilencing

/-- The machine has rolled back, and has served no request on the way. -/
def RolledBack (before after : Fuota) : Prop :=
  after.machine.ondemandFuotaState = .rollbackToNormalCommMode /\ Logs Resting before after

theorem RolledBack.maySend {after : Fuota} (rolled : RolledBack fuota after) (settled : Settled fuota.log) :
    MaySend after :=
  ⟨resting_settled rolled.2 settled, Or.inr (Or.inr (by simp [rolledBack, rolled.1]))⟩

theorem nextCommandOr_rolledBack (queue : fuota.client.rfMeterFuota = []) :
    RolledBack fuota (nextCommandOr .rollbackToNormalCommMode fuota).2 := by
  have front : dequeueFuota fuota = (some none, fuota) := by simp [dequeueFuota, queue]
  rw [nextCommandOr, ran_bind front]
  exact ⟨rfl, logs_event (.assigned .rollbackToNormalCommMode) rfl rfl⟩

theorem gatewayPathUnsilence_maySend (unsilencing : QuietlyUnsilencing fuota) (settled : Settled fuota.log)
    (emptied : finishes fuota data = true -> fuota.client.rfMeterFuota = []) :
    MaySend (replyGatewayPathUnsilence data fuota).2 := by
  unfold replyGatewayPathUnsilence
  by_cases accepted : accepts .gatewayPathUnsilence data = true
  next =>
    rw [if_pos accepted]
    by_cases done : stepDone data = true
    next =>
      rw [if_pos done]
      let noted : Fuota := (acknowledgeGateway fuota).2
      have resting : Settled noted.log :=
        settled_events [.acknowledged _ _] rfl (by simp [Resting, serves]) settled
      rw [ran_bind (show acknowledgeGateway fuota = (some (), noted) from rfl), countUnsilenceStep,
        ran_bind (show observe _ noted = (some noted.machine.fuotaGatewayUnsilenceState, noted) from rfl)]
      by_cases stepped : noted.machine.fuotaGatewayUnsilenceState < atEnableFlashexit
      next =>
        rw [if_pos stepped]
        exact ⟨resting, Or.inr (Or.inl { unsilencing with })⟩
      next =>
        rw [if_neg stepped]
        let recorded : Fuota := (insertUpdateUnsilencedMeter fuota.client.gatewayId 0 0 noted).2
        have past : ¬ fuota.machine.fuotaGatewayUnsilenceState < atEnableFlashexit := stepped
        have queue : recorded.client.rfMeterFuota = [] :=
          emptied (by simp [finishes, accepted, done, past])
        exact (nextCommandOr_rolledBack queue).maySend
          (settled_events [.recorded _ _] rfl (by simp [Resting, serves]) resting)
    next =>
      rw [if_neg done]
      exact (nextCommandOr_rolledBack (emptied (by simp [finishes, accepted, done]))).maySend settled
  next =>
    rw [if_neg accepted]
    by_cases mesh : byteAt data 2 = meshCommissionPacketType
    next =>
      rw [if_pos mesh]
      exact ⟨settled, Or.inr (Or.inl unsilencing)⟩
    next =>
      rw [if_neg mesh]
      exact (nextCommandOr_rolledBack (emptied (by simp [finishes, accepted, mesh]))).maySend settled

theorem silenceFailed_rolledBack (state : FuotaState) (change : RetryContext -> RetryContext)
    (inactive : fuota.machine.cntxActive = false) :
    RolledBack fuota (silenceFailed state change fuota).2 := by
  constructor
  next =>
    simp [silenceFailed, commandResponseTimeoutAtFuota, decideTimeoutAction, stopRetryContext, bind, pure,
      observe, update, setState, setMachine, inactive]
  next =>
    refine ⟨[.assigned state, .assigned .rollbackToNormalCommMode], ?_, by simp [Resting, serves]⟩
    simp [silenceFailed, commandResponseTimeoutAtFuota, decideTimeoutAction, stopRetryContext, bind, pure,
      observe, update, setState, setMachine, inactive]

/-- The next command may be sent: nothing that is over is served. -/
theorem cansendFuotaNextCommand_settled (maySend : MaySend fuota) :
    Settled (cansendFuotaNextCommand fuota).2.log := by
  obtain ⟨settled, ⟨unclosed, state⟩ | unsilencing | rolled⟩ := maySend
  next => exact ((cansendFuotaNextCommand_working fuota state).serving.live ⟨settled, unclosed⟩).settled
  next =>
    have quietly : Quietly QuietlyUnsilencing fuota (cansendFuotaNextCommand fuota).2 := by
      rw [cansendFuotaNextCommand,
        ran_bind (show getState fuota = (some fuota.machine.ondemandFuotaState, fuota) from rfl)]
      have known := unsilencing.state
      cases state : fuota.machine.ondemandFuotaState with
      | networkUnsilence => exact sendNetworkUnsilence_keeps fuota unsilencing
      | targetNodeUnsilence => exact prepareToUnsilenceTheTargetNode_keeps fuota unsilencing
      | gatewayPathUnsilence => exact prepareToUnsilenceTheGatewayNode_keeps fuota unsilencing
      | _ => simp [state, SyncTime.unsilencing] at known
    exact resting_settled quietly.2 settled
  next =>
    rw [cansendFuotaNextCommand,
      ran_bind (show getState fuota = (some fuota.machine.ondemandFuotaState, fuota) from rfl)]
    cases state : fuota.machine.ondemandFuotaState with
    | rollbackToNormalCommMode =>
      exact settled_events [.assigned .rollbackToNormalCommMode] rfl (by simp [Resting, serves]) settled
    | idle | unset => exact settled
    | _ => simp [state, rolledBack] at rolled

end Resting

section Uploads

theorem transferring_bind {A B : Type} {first : Prog Fuota A} {next : A -> Prog Fuota B}
    (before : Respects Transferring first) (behind : forall value, Respects Transferring (next value)) :
    Respects Transferring (first >>= next) := respects_bind transferring_frame.trans before behind

theorem transferring_pure {A : Type} (value : A) : Respects Transferring (pure value : Prog Fuota A) :=
  respects_pure transferring_frame.refl value

theorem transferring_observe {A : Type} (view : Fuota -> A) : Respects Transferring (observe view) :=
  respects_observe transferring_frame.refl view

theorem transferring_setUpload (change : Upload -> Upload) : Respects Transferring (setUpload change) :=
  setUpload_respects transferring_frame change

theorem transferring_told (status : Nat) (unclosed : status ≠ 17 /\ status ≠ 21) :
    Respects Transferring (updateStatus status 1) :=
  updateStatus_respects transferring_frame status 1 fun requestId => by
    simpa [unclosed.1] using serves_sends.updated requestId status unclosed.2

theorem transferring_fread (count : Nat) : Respects Transferring (fread count) := by
  intro fuota
  unfold fread
  split
  next => exact transferring_frame.refl fuota
  next => exact ⟨⟨rfl, rfl, rfl, rfl, rfl⟩, logs_same rfl⟩

theorem transferring_updateFuotaResponseBuff : Respects Transferring updateFuotaResponseBuff := by
  apply transferring_bind (transferring_observe _)
  intro txBuffer
  apply transferring_bind (transferring_setUpload _)
  exact fun _ => transferring_pure _

theorem transferring_lastSectorAttempts (attempts : Nat) :
    Respects Transferring (lastSectorAttempts attempts) := by
  induction attempts with
  | zero => exact transferring_pure none
  | succ attempts ih =>
    apply transferring_bind (writeFrame_respects transferring_frame serves_sends)
    intro written
    split
    next =>
      apply transferring_bind (nextArrival_respects transferring_frame)
      intro arrival
      cases arrival with
      | data bytes =>
        dsimp only
        split
        next => exact ih
        next =>
          apply transferring_bind transferring_updateFuotaResponseBuff
          exact fun _ => transferring_pure _
      | timedOut => exact ih
      | failed => exact ih
    next => exact ih

theorem transferring_jumpToLastSector (forward : Nat) : Respects Transferring (jumpToLastSector forward) := by
  have asked : Respects Transferring rffuotaReadLastsectorPageAndSubpageStatus := by
    apply transferring_bind (transferring_told 12 (by decide))
    intro _
    apply transferring_bind (framePmeshFuotaCmdHeaderForTargetNode_respects transferring_frame _ _)
    exact fun _ => transferring_lastSectorAttempts 3
  have fixed : Respects Transferring fixPageSubpageAndSeek := by
    apply transferring_bind (transferring_observe _)
    intro sectorValue
    apply transferring_bind (transferring_setUpload _)
    intro _
    apply transferring_bind (transferring_observe _)
    intro upload
    apply transferring_bind (setFirmware_respects transferring_frame _)
    intro _
    apply transferring_bind (transferring_setUpload _)
    exact fun _ => transferring_setUpload _
  apply transferring_bind asked
  intro found
  split
  next => exact transferring_pure _
  next =>
    apply transferring_bind (transferring_setUpload _)
    intro _
    apply transferring_bind fixed
    intro _
    apply transferring_bind (transferring_setUpload _)
    exact fun _ => transferring_pure _

theorem transferring_retryHandling : Respects Transferring retryHandling := by
  have restored (result : PostRead) : Respects Transferring (restoreExpected >>= fun _ => pure result) :=
    transferring_bind (transferring_setUpload _) fun _ => transferring_pure result
  apply transferring_bind (transferring_observe _)
  intro upload
  dsimp only
  split
  next =>
    apply transferring_bind (transferring_setUpload _)
    intro _
    split
    next => exact restored _
    next =>
      apply transferring_bind (transferring_setUpload _)
      intro _
      apply transferring_bind (prepareAlternateSamerouteRetry_respects transferring_frame serves_sends _ _)
      exact fun _ => transferring_pure _
  next =>
    apply transferring_bind (transferring_setUpload _)
    intro _
    split
    next => exact restored _
    next => exact transferring_pure _

theorem transferring_judge (length : Nat) : Respects Transferring (judge (some length)) := by
  have posted : Respects Transferring (handleFuotaPostRead (some length)) := by
    apply transferring_bind (transferring_observe _)
    intro upload
    split
    next =>
      apply transferring_bind (setCntx_respects transferring_frame _)
      intro _
      apply transferring_bind (transferring_setUpload _)
      exact fun _ => transferring_pure _
    next =>
      dsimp only
      split
      next => exact transferring_jumpToLastSector 1
      next =>
        split
        next => exact transferring_jumpToLastSector 0
        next => exact transferring_retryHandling
  apply transferring_bind (transferring_setUpload _)
  intro _
  apply transferring_bind posted
  intro result
  cases result <;> exact transferring_pure _

theorem exchangeTurn_transferring (frame : ImageFrame) (fuota : Fuota) (read : replyLost fuota = false) :
    Transferring fuota (exchangeTurn frame fuota).2 := by
  have counted : Respects Transferring (countRetry >>= fun _ => pure (Turn.again ())) :=
    transferring_bind (transferring_setUpload _) fun _ => transferring_pure (Turn.again () : Turn Unit Exchange)
  rw [exchangeTurn, ran_bind (show observe id fuota = (some fuota, fuota) from rfl)]
  by_cases few : fuota.upload.fuotaImagetfRetryCount < maxFuotaRetries
  next =>
    let tried : Fuota := (nextWrite fuota).2
    let noted : Fuota := (note (.imageSent fuota.client.requestId frame) tried).2
    have sent : Transferring fuota noted :=
      transferring_frame.event fuota noted (.imageSent fuota.client.requestId frame)
        ⟨rfl, rfl, rfl, rfl, rfl⟩ ⟨rfl, fun _ known => (Option.some.inj known).symm⟩ rfl
    have further : Respects Transferring (pure (.done .writeFailed) : Prog Fuota (Turn Unit Exchange)) :=
      transferring_pure _
    rw [if_pos few, ran_bind (show nextWrite fuota =
      (some (fuota.inputs.write fuota.counters.writes), tried) from rfl),
      ran_bind (show note _ tried = (some (), noted) from rfl)]
    apply transferring_frame.trans fuota noted _ sent
    by_cases written : fuota.inputs.write fuota.counters.writes = true
    next =>
      let heard : Fuota := (nextArrival noted).2
      have waited : Transferring noted heard := nextArrival_respects transferring_frame noted
      rw [if_pos written, ran_bind (show nextArrival noted =
        (some (fuota.inputs.arrival fuota.counters.arrivals), heard) from rfl)]
      apply transferring_frame.trans noted heard _ waited
      cases arrival : fuota.inputs.arrival fuota.counters.arrivals with
      | timedOut => exact counted heard
      | failed => simp [replyLost, few, written, arrival] at read
      | data bytes =>
        refine transferring_bind (transferring_setUpload _) ?_ heard
        intro _
        split
        next => exact counted
        next => exact transferring_judge _
    next =>
      rw [if_neg written]
      exact further noted
  next =>
    rw [if_neg few]
    exact transferring_frame.refl fuota

theorem completion_settled (fuota : Fuota) (settled : Settled fuota.log) (quiet : Quiet fuota) :
    Settled (handleFuotaCompletion fuota).2.log := by
  cases queue : fuota.client.rfMeterFuota with
  | nil =>
    have front : dequeueFuota fuota = (some none, fuota) := by simp [dequeueFuota, queue]
    obtain ⟨_, logged⟩ := sendNetworkUnsilence_keeps (setState .networkUnsilence fuota).2
      { quiet with state := rfl }
    rw [handleFuotaCompletion, ran_bind front]
    exact resting_settled logged
      (settled_events [.assigned .networkUnsilence] rfl (by simp [Resting, serves]) settled)
  | cons command rest =>
    let shorter : Fuota := { fuota with client := { fuota.client with rfMeterFuota := rest } }
    have front : dequeueFuota fuota = (some (some command), shorter) := by
      simp [dequeueFuota, queue, shorter]
    have continued : Respects (Logs Resting) (continueWith command) :=
      logs_continueWith (fun _ => rfl) (fun _ => rfl) command
    rw [handleFuotaCompletion, ran_bind front]
    exact resting_settled (continued shorter) settled

theorem Unmoved.quiet {before after : Fuota} (unmoved : Unmoved before after) (quiet : Quiet before) :
    Quiet after where
  route := unmoved.route.trans quiet.route
  routes := unmoved.inputs ▸ quiet.routes
  hopCount := unmoved.hopCount ▸ quiet.hopCount

/-- A turn of the upload: it goes on, or comes to its end, or is given up. -/
def Going (before : Fuota) (outcome : Option (Turn Unit Bool) × Fuota) : Prop :=
  match outcome.1 with
  | some (.again ()) | some (.done true) => Transferring before outcome.2
  | some (.done false) | none => Settled outcome.2.log

theorem given_going {first : Prog Fuota Unit} {before fuota : Fuota}
    (settled : Settled (first fuota).2.log) :
    Going before ((first >>= fun _ => pure (.done false)) fuota) := by
  cases ran : first fuota with
  | mk outcome after =>
    rw [ran] at settled
    cases outcome with
    | none => rwa [waited_bind ran]
    | some value => rwa [ran_bind ran]

theorem afterExchange_going (frame : ImageFrame) (exchange : Exchange) (before fuota : Fuota)
    (live : Live before) (quiet : Quiet before) (uploading : Transferring before fuota) :
    Going before (afterExchange frame exchange fuota) := by
  have now : Live fuota := uploading.serving.live live
  have still : Quiet fuota := uploading.unmoved.quiet quiet
  have advancing : Respects Transferring (advance frame.lastSubpage >>= fun _ =>
      pure (.again () : Turn Unit Bool)) := transferring_bind (transferring_setUpload _) fun _ => transferring_pure _
  have advanced (begun : Fuota) (moved : Transferring before begun) :
      Going before ((advance frame.lastSubpage >>= fun _ => pure (.again ())) begun) :=
    transferring_frame.trans before begun _ moved (advancing begun)
  cases exchange with
  | acknowledged =>
    exact advanced _ (transferring_frame.trans before fuota _ uploading
      (note_respects transferring_frame (.imageAcknowledged frame) (fun id => Resting.own rfl id) fuota))
  | jumped => exact advanced fuota uploading
  | exhausted =>
    let alternates := fuota.machine.cntx.alternateRetry
    let switched : Fuota := (setUpload (fun upload => { upload with
      usingAlternatePath := true, fuotaimagetfAlternateCount := alternates }) fuota).2
    rw [afterExchange, ran_bind (show observe _ fuota = (some alternates, fuota) from rfl),
      ran_bind (show setUpload _ fuota = (some (), switched) from rfl)]
    split
    next => exact given_going (completion_settled switched now.settled { still with })
    next => exact advanced switched (transferring_frame.trans before fuota _ uploading (transferring_setUpload _ fuota))
  | aborted =>
    let told : Fuota := (updateStatus 11 0 fuota).2
    have closed : Closed fuota told := updateStatus_closed 11 0 fuota now
    rw [afterExchange, ran_bind (show updateStatus 11 0 fuota = (some (), told) from rfl)]
    exact given_going (completion_settled told closed.settled (closed.unmoved.quiet still))
  | writeFailed => exact given_going (updateStatus_closed 1 0 fuota now).settled

theorem beginSubpage_transferring : Respects Transferring beginSubpage := by
  apply transferring_bind (transferring_observe _)
  intro fuota
  dsimp only
  split
  next =>
    apply transferring_bind (transferring_observe _)
    intro position
    apply transferring_bind (transferring_fread _)
    intro payload
    split
    next => exact transferring_pure none
    next =>
      apply transferring_bind (transferring_setUpload _)
      intro _
      apply transferring_bind (transferring_observe _)
      intro upload
      apply transferring_bind (transferring_told 11 (by decide))
      exact fun _ => transferring_pure _
  next => exact transferring_pure none

theorem fread_returns (count : Nat) (fuota : Fuota) :
    exists payload read, fread count fuota = (some payload, read) := by
  unfold fread
  split <;> exact ⟨_, _, rfl⟩

/-- A turn of the upload is the exchange for its subpage, or the end. -/
theorem uploadTurn_begins (fuota : Fuota) :
    match beginSubpage fuota with
    | (some (some frame), begun) => uploadTurn () fuota =
        (loop (fun _ => exchangeTurn frame) begun.inputs.fuel () >>= afterExchange frame) begun
    | (some none, begun) => uploadTurn () fuota = (some (.done true), begun)
    | (none, _) => False := by
  rw [beginSubpage, uploadTurn, ran_bind (show observe id fuota = (some fuota, fuota) from rfl),
    ran_bind (show observe id fuota = (some fuota, fuota) from rfl)]
  by_cases inside : fuota.upload.pageCount <
      maxPageCount fuota.firmware.totalFirmwaresize fuota.firmware.sectorValue
  next =>
    rw [if_pos inside, if_pos inside]
    simp only [filePosition]
    generalize decide (fuota.upload.subpageCount.toNat =
      maxSubPageCount fuota.firmware.sectorValue fuota.upload.fuotaCmdHeaderLen - 1) = last
    rw [ran_bind (show observe _ fuota = (some _, fuota) from rfl),
      ran_bind (show observe _ fuota = (some _, fuota) from rfl)]
    obtain ⟨payload, read, ran⟩ := fread_returns _ fuota
    rw [ran_bind ran, ran_bind ran]
    by_cases empty : payload = []
    next =>
      rw [if_pos empty, if_pos empty]
      rfl
    next =>
      obtain ⟨built, framed⟩ : exists built, buildSubpage payload last read = (some (), built) := ⟨_, rfl⟩
      obtain ⟨told, updated, same⟩ : exists told, updateStatus 11 1 built = (some (), told) /\
          told.inputs = built.inputs := ⟨_, rfl, (updateStatus_unmoved 11 1 built).inputs⟩
      rw [if_neg empty, if_neg empty, sendSubpage, ran_bind framed, ran_bind framed,
        ran_bind (show observe _ built = (some built.upload, built) from rfl),
        ran_bind (show observe id built = (some built, built) from rfl), ran_bind updated,
        ran_bind updated]
      simp only [pure, same]
  next =>
    rw [if_neg inside, if_neg inside]
    rfl

theorem uploadTurn_going (before fuota : Fuota) (live : Live before) (quiet : Quiet before)
    (uploading : Transferring before fuota)
    (read : ∀ exchange ∈ attempts fuota, replyLost exchange = false) :
    Going before (uploadTurn () fuota) := by
  have begins := uploadTurn_begins fuota
  have moved := beginSubpage_transferring fuota
  unfold attempts at read
  cases ran : beginSubpage fuota with
  | mk outcome begun =>
    rw [ran] at begins moved read
    have started : Transferring before begun := transferring_frame.trans before fuota begun uploading moved
    match outcome with
    | none => exact begins.elim
    | some none =>
      rw [begins]
      exact started
    | some (some frame) =>
      have exchanged : Transferring begun
          (loop (fun _ => exchangeTurn frame) begun.inputs.fuel () begun).2 := by
        apply moved_loop transferring_frame.refl transferring_frame.trans
        intro turn inside
        exact exchangeTurn_transferring frame turn.2 (read turn.2 (List.mem_map_of_mem inside))
      rw [begins]
      cases done : loop (fun _ => exchangeTurn frame) begun.inputs.fuel () begun with
      | mk result after =>
        rw [done] at exchanged
        have last : Transferring before after := transferring_frame.trans before begun after started exchanged
        cases result with
        | none =>
          rw [waited_bind done]
          exact (last.serving.live live).settled
        | some exchange =>
          rw [ran_bind done]
          exact afterExchange_going frame exchange before after live quiet last

theorem upload_going (fuel : Nat) (before fuota : Fuota) (live : Live before) (quiet : Quiet before)
    (uploading : Transferring before fuota)
    (read : ∀ turn ∈ entered uploadTurn fuel () fuota, ∀ exchange ∈ attempts turn.2,
      replyLost exchange = false) :
    match loop uploadTurn fuel () fuota with
    | (some true, after) => Transferring before after
    | (_, after) => Settled after.log := by
  induction fuel generalizing fuota with
  | zero => exact (uploading.serving.live live).settled
  | succ fuel ih =>
    have going := uploadTurn_going before fuota live quiet uploading
      (read ((), fuota) (by simp [entered]))
    rw [loop]
    cases ran : uploadTurn () fuota with
    | mk outcome after =>
      rw [ran] at going
      cases outcome with
      | none =>
        rw [waited_bind ran]
        exact going
      | some turn =>
        rw [ran_bind ran]
        cases turn with
        | again vars =>
          apply ih after going
          intro turn inside
          exact read turn (by simp [entered, ran, inside])
        | done more => cases more <;> exact going

theorem startUpload_transferring : Respects Transferring startUpload := by
  apply transferring_bind (transferring_setUpload _)
  intro _
  apply transferring_bind transferring_updateFuotaResponseBuff
  intro fuotaRespHeaderLen
  have copied : Respects Transferring updateFuotaImageTransferTxBuff := by
    apply transferring_bind (transferring_observe _)
    intro txBuffer
    apply transferring_bind (transferring_setUpload _)
    exact fun _ => transferring_pure _
  apply transferring_bind copied
  intro fuotaCmdHeaderLen
  apply transferring_bind (transferring_setUpload _)
  intro _
  apply transferring_bind (setFirmware_respects transferring_frame _)
  intro _
  apply transferring_bind (transferring_observe _)
  exact fun built => note_respects transferring_frame _ fun requestId => Resting.own rfl requestId

theorem endUpload_working : Respects Working endUpload := by
  apply working_bind (working_note _ rfl (by simp))
  intro _
  apply working_bind (working_observe _)
  intro state
  split
  next => exact working_setState _ (by decide)
  next => exact working_pure ()

/-- The upload of a request that is not over, where the replies to its frames can be read. -/
theorem fuotaUploadingProcess_settled (fuota : Fuota) (live : Live fuota) (quiet : Quiet fuota)
    (read : ∀ exchange ∈ exchanges (startUpload fuota).2, replyLost exchange = false) :
    Settled (fuotaUploadingProcess fuota).2.log := by
  have started : Transferring fuota (startUpload fuota).2 := startUpload_transferring fuota
  obtain ⟨begun, ran⟩ : exists begun, startUpload fuota = (some (), begun) := ⟨_, rfl⟩
  rw [ran] at started read
  have going := upload_going begun.inputs.fuel fuota begun live quiet started
    (fun turn inside exchange tried => read exchange (List.mem_flatMap.mpr ⟨turn, inside, tried⟩))
  rw [fuotaUploadingProcess, ran_bind ran,
    ran_bind (show observe _ begun = (some begun.inputs.fuel, begun) from rfl)]
  cases looped : loop uploadTurn begun.inputs.fuel () begun with
  | mk outcome after =>
    rw [looped] at going
    match outcome with
    | none =>
      rw [waited_bind looped]
      exact going
    | some false =>
      rw [ran_bind looped]
      exact going
    | some true =>
      have ending : Respects Working (endUpload >>= fun _ => prepareAndGetTheEndofImageTransfer) :=
        working_bind endUpload_working fun _ => working_sendToTarget _ _
      have now : Live after := Serving.live (Transferring.serving going) live
      rw [ran_bind looped]
      exact ((ending after).serving.live now).settled

end Uploads

section Steps

variable {fuota : Fuota} {data : Bytes}

theorem leaves_sent {prog : Prog Fuota Unit} (leaves : Leaves prog fuota) :
    Settled ((prog >>= fun _ => cansendFuotaNextCommand) fuota).2.log := by
  unfold Leaves at leaves
  cases ran : prog fuota with
  | mk outcome after =>
    rw [ran] at leaves
    cases outcome with
    | none =>
      rw [waited_bind ran]
      exact leaves
    | some _ =>
      rw [ran_bind ran]
      exact cansendFuotaNextCommand_settled leaves

theorem eraseFlash_sent (live : Live fuota) (state : fuota.machine.ondemandFuotaState = .eraseFlash)
    (accepted : accepts .eraseFlash data = true) (served : Served fuota data) :
    Settled ((replyEraseFlash data >>= fun _ => cansendFuotaNextCommand) fuota).2.log := by
  obtain ⟨routes, hopCount, read⟩ := served.uploaded state accepted
  obtain ⟨told, updated, closed⟩ : exists told, updateStatus 10 1 fuota = (some (), told) /\
      Closed fuota told := ⟨_, rfl, updateStatus_closed 10 1 fuota live⟩
  have working : Working fuota told := by
    have moved := working_told 10 (by decide) fuota
    rwa [updated] at moved
  let erased : Fuota := { told with machine := { told.machine with
    cntx := { told.machine.cntx with retryCount := 0, alternateRetry := 0 }
    useAlternateFuotaRoute := false } }
  have ran : replyEraseFlash data fuota = (some (), (proceed .fwImageTransfer erased).2) := by
    rw [replyEraseFlash, if_pos accepted, ran_bind updated]
    rfl
  have now : Live told := working.serving.live live
  have proceeded : Serving told (proceed .fwImageTransfer erased).2 :=
    ⟨rfl, [.accepted told.machine.ondemandFuotaState, .assigned .fwImageTransfer], rfl, by
      intro event inside
      apply Resting.own
      simp only [List.mem_cons, List.not_mem_nil, or_false] at inside
      rcases inside with same | same <;> rw [same] <;> rfl⟩
  rw [ran] at read
  rw [ran_bind ran]
  exact fuotaUploadingProcess_settled _ (proceeded.live now)
    ⟨rfl, closed.unmoved.inputs ▸ routes, closed.unmoved.hopCount ▸ hopCount⟩ read

theorem served_leaves (live : Live fuota) (served : Served fuota data)
    (erased : fuota.machine.ondemandFuotaState = .eraseFlash -> accepts .eraseFlash data = false) :
    Leaves (replyIn fuota.machine.ondemandFuotaState data) fuota := by
  cases state : fuota.machine.ondemandFuotaState with
  | openFile =>
    exact (replyOpenFile_respects working_frame works_visits.toProceeds fuota).leaves live (by simp [state])
  | gatewayPathSilence => exact (replyGatewayPathSilence_working fuota).leaves live (by simp [state])
  | targetNodeSilence => exact (replyTargetNodeSilence_working fuota).leaves live (by simp [state])
  | networkSilence => exact (replyNetworkSilence_working fuota).leaves live (by simp [state])
  | sectorRead => exact replySectorRead_leaves live state served
  | fwimageOfSectorCount => exact replyFwimageOfSectorCount_leaves live state served
  | eraseFlash => exact replyEraseFlash_refused live state served (erased state)
  | fwImageTransfer => exact replyFwImageTransfer_leaves live
  | lastUpdateFwimageOfSectorcount => exact (replyLastUpdate_working fuota).leaves live (by simp [state])
  | fwImageEndofPageTransfer => exact replyFwImageEndofPageTransfer_leaves live state served
  | newFwimageCrcCalculate => exact replyNewFwimageCrcCalculate_leaves live state served
  | activateNewFwimage => exact replyActivateNewFwimage_leaves live state served
  | sendActivateCmd => exact replySendActivateCmd_leaves live state served
  | readAndCompareFwVersion => exact replyReadAndCompareFwVersion_leaves live state served
  | networkUnsilence => exact replyNetworkUnsilence_leaves live state served
  | targetNodeUnsilence => exact (replyTargetNodeUnsilence_working fuota).leaves live (by simp [state])
  | gatewayPathUnsilence => exact (replyGatewayPathUnsilence_working fuota).leaves live (by simp [state])
  | rollbackToNormalCommMode | idle | unset => exact (working_pure () fuota).leaves live (by simp [state])

theorem rests_leaves (settled : Settled fuota.log) (rests : Rests fuota data)
    (rolled : fuota.machine.ondemandFuotaState ≠ .rollbackToNormalCommMode) :
    Leaves (replyIn fuota.machine.ondemandFuotaState data) fuota := by
  unfold Rests at rests
  apply leaves_of_maySend
  cases state : fuota.machine.ondemandFuotaState with
  | gatewayPathSilence =>
    simp only [state] at rests
    change MaySend (replyGatewayPathSilence data fuota).2
    rw [replyGatewayPathSilence, if_neg (by simp [rests.1])]
    exact (silenceFailed_rolledBack _ _ rests.2).maySend settled
  | targetNodeSilence =>
    simp only [state] at rests
    change MaySend (replyTargetNodeSilence data fuota).2
    rw [replyTargetNodeSilence, if_neg (by simp [rests.1])]
    exact (silenceFailed_rolledBack _ _ rests.2).maySend settled
  | networkSilence =>
    simp only [state] at rests
    change MaySend (replyNetworkSilence data fuota).2
    rw [replyNetworkSilence, if_neg (by simp [rests.1])]
    exact (silenceFailed_rolledBack _ _ rests.2).maySend settled
  | networkUnsilence =>
    simp only [state] at rests
    exact (networkUnsilence_rests { rests.1 with state := by rw [state]; rfl } rests.2).maySend settled
  | targetNodeUnsilence =>
    simp only [state] at rests
    exact (targetNodeUnsilence_rests { rests with state := by rw [state]; rfl }).maySend settled
  | gatewayPathUnsilence =>
    simp only [state] at rests
    exact gatewayPathUnsilence_maySend { rests.1 with state := by rw [state]; rfl } settled rests.2
  | rollbackToNormalCommMode => exact absurd state rolled
  | idle | unset =>
    have silent : rolledBack fuota.machine.ondemandFuotaState = true := by rw [state]; rfl
    exact ⟨settled, Or.inr (Or.inr silent)⟩
  | _ => simp [state] at rests

theorem reply_settled (settled : Settled fuota.log)
    (allowed : if Over fuota.log fuota.client.requestId then Rests fuota data else Served fuota data) :
    Settled (clientProcessRfFuotaData data fuota).2.log := by
  rw [clientProcessRfFuotaData,
    ran_bind (show getState fuota = (some fuota.machine.ondemandFuotaState, fuota) from rfl)]
  by_cases rolled : fuota.machine.ondemandFuotaState = .rollbackToNormalCommMode
  next =>
    rw [if_pos rolled]
    by_cases past : Over fuota.log fuota.client.requestId
    next =>
      rw [if_pos past, Rests, rolled] at allowed
      have front : dequeueFuota fuota = (some none, fuota) := by simp [dequeueFuota, allowed]
      have ended : exists after, replyRollback fuota = (some true, after) /\ after.log = fuota.log := by
        rw [replyRollback, ran_bind front]
        exact ⟨_, rfl, rfl⟩
      obtain ⟨after, ran, same⟩ := ended
      rw [ran_bind ran]
      change Settled after.log
      rwa [same]
    next =>
      have live : Live fuota := ⟨settled, past⟩
      have working : Respects Working replyRollback := replyRollback_working
      have other : fuota.machine.ondemandFuotaState ≠ .fwImageTransfer := by rw [rolled]; decide
      have moved := working fuota
      cases ran : replyRollback fuota with
      | mk outcome after =>
        rw [ran] at moved
        have now : Live after := moved.serving.live live
        have next : after.machine.ondemandFuotaState ≠ .fwImageTransfer :=
          fun uploading => other (moved.state uploading)
        cases outcome with
        | none =>
          rw [waited_bind ran]
          exact now.settled
        | some ended =>
          rw [ran_bind ran]
          cases ended with
          | true => exact now.settled
          | false => exact cansendFuotaNextCommand_settled (now.maySend next)
  next =>
    rw [if_neg rolled]
    by_cases past : Over fuota.log fuota.client.requestId
    next =>
      rw [if_pos past] at allowed
      exact leaves_sent (rests_leaves settled allowed rolled)
    next =>
      rw [if_neg past] at allowed
      have live : Live fuota := ⟨settled, past⟩
      by_cases erased : fuota.machine.ondemandFuotaState = .eraseFlash /\ accepts .eraseFlash data = true
      next =>
        rw [erased.1]
        exact eraseFlash_sent live erased.1 erased.2 allowed
      next => exact leaves_sent (served_leaves live allowed fun state => by simpa [state] using erased)

end Steps

end Hes.Fuota
