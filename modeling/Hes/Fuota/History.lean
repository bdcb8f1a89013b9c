import Hes.Fuota.Machine

set_option autoImplicit false

namespace Hes.Fuota

open Prog Text Mqtt

/-- The history is continued with events of some kinds. -/
def Logs (kinds : Event -> Prop) (before after : Fuota) : Prop :=
  exists events, after.log = before.log ++ events /\ ∀ event ∈ events, kinds event

section Histories

variable {kinds : Event -> Prop}

theorem logs_same {before after : Fuota} (same : after.log = before.log) : Logs kinds before after :=
  ⟨[], by simpa using same, by simp⟩

theorem logs_refl (fuota : Fuota) : Logs kinds fuota fuota := logs_same rfl

theorem logs_event {before after : Fuota} (event : Event) (known : kinds event)
    (logged : after.log = before.log ++ [event]) : Logs kinds before after :=
  ⟨[event], logged, by simpa using known⟩

theorem logs_trans (first second third : Fuota) (before : Logs kinds first second)
    (behind : Logs kinds second third) : Logs kinds first third := by
  obtain ⟨earlier, logged, known⟩ := before
  obtain ⟨later, continued, also⟩ := behind
  refine ⟨earlier ++ later, by rw [continued, logged, List.append_assoc], ?_⟩
  intro event inside
  cases List.mem_append.mp inside with
  | inl inside => exact known event inside
  | inr inside => exact also event inside

end Histories

/-- What every step may log: neither an acceptance nor an acknowledgement. -/
structure Plain (kinds : Event -> Prop) : Prop where
  sent : forall sent, kinds (.sent sent)
  updated : forall requestId status errorCode, kinds (.updated requestId status errorCode)
  assigned : forall state, kinds (.assigned state)
  dequeued : forall command, kinds (.dequeued command)
  opened : forall path, kinds (.opened path)

/-- What the sequences for the leaves log besides. -/
structure Ordinary (kinds : Event -> Prop) : Prop extends Plain kinds where
  acknowledged : forall node command, kinds (.acknowledged node command)
  recorded : forall node status, kinds (.recorded node status)

/-- What stays where the machine neither goes on nor takes up another request. -/
structure Unmoved (before after : Fuota) : Prop where
  inputs : after.inputs = before.inputs
  requestId : after.client.requestId = before.client.requestId
  hopCount : after.client.hopCount = before.client.hopCount
  state : after.machine.ondemandFuotaState = before.machine.ondemandFuotaState
  route : after.machine.useAlternateFuotaRoute = before.machine.useAlternateFuotaRoute

/-- What sending the commands of a request does to the machine; the events it may log depend on the
request. -/
structure SendFrame (rel : Fuota -> Fuota -> Prop) (kinds : Int -> Event -> Prop) : Prop where
  refl : forall fuota, rel fuota fuota
  trans : forall first second third, rel first second -> rel second third -> rel first third
  silent : forall before after, Unmoved before after -> after.log = before.log -> rel before after
  event : forall before after event, Unmoved before after -> kinds before.client.requestId event ->
    after.log = before.log ++ [event] -> rel before after

/-- The moves of the machine that the functions for one request are made of. -/
structure Frame (rel : Fuota -> Fuota -> Prop) (kinds : Int -> Event -> Prop) : Prop
    extends SendFrame rel kinds where
  machine : forall fuota machine, machine.ondemandFuotaState = fuota.machine.ondemandFuotaState ->
    rel fuota { fuota with machine := machine }
  assign : forall fuota state, kinds fuota.client.requestId (.assigned state) ->
    rel fuota (setState state fuota).2

theorem logs_frame (kinds : Event -> Prop) : Frame (Logs kinds) fun _ => kinds where
  refl := logs_refl
  trans := logs_trans
  silent _ _ _ same := logs_same same
  event _ _ event _ known logged := logs_event event known logged
  machine _ _ _ := logs_same rfl
  assign _ state known := logs_event (.assigned state) known rfl

/-- What is logged where commands are sent: no status is a final one. -/
structure Sends (kinds : Int -> Event -> Prop) : Prop where
  sent : forall requestId sent, sent.requestId = requestId -> kinds requestId (.sent sent)
  updated : forall requestId status, status ≠ 21 -> kinds requestId (.updated requestId status 1)

/-- What is logged besides on the way to the next command; the upload is started elsewhere. -/
structure Proceeds (kinds : Int -> Event -> Prop) : Prop extends Sends kinds where
  assigned : forall requestId state, state ≠ .fwImageTransfer -> kinds requestId (.assigned state)
  dequeued : forall requestId command, kinds requestId (.dequeued command)
  opened : forall requestId path, kinds requestId (.opened path)

/-- What is logged besides while the leaves are silenced and unsilenced. -/
structure Visits (kinds : Int -> Event -> Prop) : Prop extends Proceeds kinds where
  acknowledged : forall requestId node command, kinds requestId (.acknowledged node command)
  recorded : forall requestId node status, kinds requestId (.recorded node status)

theorem Plain.proceeds {kinds : Event -> Prop} (plain : Plain kinds) : Proceeds fun _ => kinds where
  sent _ sent _ := plain.sent sent
  updated requestId status _ := plain.updated requestId status 1
  assigned _ state _ := plain.assigned state
  dequeued _ := plain.dequeued
  opened _ := plain.opened

theorem Ordinary.visits {kinds : Event -> Prop} (ordinary : Ordinary kinds) : Visits fun _ => kinds where
  toProceeds := ordinary.toPlain.proceeds
  acknowledged _ := ordinary.acknowledged
  recorded _ := ordinary.recorded

theorem updateStatus_unmoved (requestStatus errorCode : Nat) (fuota : Fuota) :
    Unmoved fuota (updateStatus requestStatus errorCode fuota).2 := by
  simp only [updateStatus, ondemandFuotaUpdateStatus, observe, update, bind]
  split
  next => exact ⟨rfl, rfl, rfl, rfl, rfl⟩
  next => split <;> split <;> exact ⟨rfl, rfl, rfl, rfl, rfl⟩

variable {rel : Fuota -> Fuota -> Prop} {kinds : Int -> Event -> Prop}

section Loops

variable (refl : forall fuota, rel fuota fuota)
  (trans : forall first second third, rel first second -> rel second third -> rel first third)

include refl trans

theorem forEach_respects (body : MeterVitalInfo -> Prog Fuota Unit)
    (moves : forall leaf, Respects rel (body leaf)) (leaves : List MeterVitalInfo) :
    Respects rel (forEach body leaves) := by
  induction leaves with
  | nil => exact respects_pure refl ()
  | cons leaf rest ih => exact respects_bind trans (moves leaf) fun _ => ih

variable (writes : Respects rel writeFrame) (reads : Respects rel nextArrival)

include writes

theorem resend_respects (vars : SocketVars) : Respects rel (resend vars) := by
  apply respects_bind trans writes
  intro written
  split
  next => exact respects_pure refl _
  next => exact respects_pure refl _

include reads

theorem socketTurn_respects (vars : SocketVars) : Respects rel (socketTurn vars) := by
  unfold socketTurn
  split
  next =>
    unfold handleFrame
    dsimp only
    split
    next => exact resend_respects refl trans writes _
    next =>
      split
      next => exact respects_bind trans (respects_observe refl _) fun _ => respects_pure refl _
      next => exact respects_pure refl _
  next =>
    split
    next =>
      apply respects_bind trans reads
      intro arrival
      cases arrival with
      | failed => exact respects_pure refl _
      | timedOut => exact resend_respects refl trans writes _
      | data bytes =>
        dsimp only
        split
        next => exact respects_pure refl _
        next => exact respects_pure refl _
    next => exact respects_pure refl _

theorem waitForSocketResponse_respects : Respects rel waitForSocketResponse := by
  apply respects_bind trans (respects_observe refl _)
  exact fun _ => respects_loop refl trans socketTurn (socketTurn_respects refl trans writes reads) _ _

end Loops

section Sending

variable (frame : SendFrame rel kinds)

include frame

theorem change_respects (change : Fuota -> Fuota) (same : forall fuota, Unmoved fuota (change fuota))
    (logged : forall fuota, (change fuota).log = fuota.log) : Respects rel (update change) :=
  fun fuota => frame.silent fuota _ (same fuota) (logged fuota)

theorem setRadio_respects (change : Radio -> Radio) : Respects rel (setRadio change) :=
  change_respects frame _ (fun _ => ⟨rfl, rfl, rfl, rfl, rfl⟩) fun _ => rfl

theorem setFirmware_respects (change : Firmware -> Firmware) : Respects rel (setFirmware change) :=
  change_respects frame _ (fun _ => ⟨rfl, rfl, rfl, rfl, rfl⟩) fun _ => rfl

theorem setUpload_respects (change : Upload -> Upload) : Respects rel (setUpload change) :=
  change_respects frame _ (fun _ => ⟨rfl, rfl, rfl, rfl, rfl⟩) fun _ => rfl

theorem setCrc_respects (change : Crc -> Crc) : Respects rel (setCrc change) :=
  change_respects frame _ (fun _ => ⟨rfl, rfl, rfl, rfl, rfl⟩) fun _ => rfl

theorem setCntx_respects (change : RetryContext -> RetryContext) : Respects rel (setCntx change) :=
  change_respects frame _ (fun _ => ⟨rfl, rfl, rfl, rfl, rfl⟩) fun _ => rfl

theorem setClient_respects (change : FuotaClient -> FuotaClient)
    (same : forall client, (change client).requestId = client.requestId /\
      (change client).hopCount = client.hopCount) : Respects rel (setClient change) :=
  change_respects frame _ (fun _ => ⟨rfl, (same _).1, (same _).2, rfl, rfl⟩) fun _ => rfl

theorem note_respects (event : Event) (known : forall requestId, kinds requestId event) :
    Respects rel (note event) := fun fuota =>
  frame.event fuota _ event ⟨rfl, rfl, rfl, rfl, rfl⟩ (known _) rfl


theorem nextWrite_respects : Respects rel nextWrite := fun fuota =>
  frame.silent fuota _ ⟨rfl, rfl, rfl, rfl, rfl⟩ rfl

theorem nextArrival_respects : Respects rel nextArrival := fun fuota =>
  frame.silent fuota _ ⟨rfl, rfl, rfl, rfl, rfl⟩ rfl

theorem fopen_respects (path : Bytes) : Respects rel (fopen path) := fun fuota =>
  frame.silent fuota _ ⟨rfl, rfl, rfl, rfl, rfl⟩ rfl

theorem updateStatus_respects (requestStatus errorCode : Nat)
    (told : forall requestId, kinds requestId
      (.updated requestId (if requestStatus = 17 && errorCode = 1 then 21 else requestStatus) errorCode)) :
    Respects rel (updateStatus requestStatus errorCode) := by
  intro fuota
  have unmoved := updateStatus_unmoved requestStatus errorCode fuota
  simp only [updateStatus, ondemandFuotaUpdateStatus, observe, update, bind] at unmoved ⊢
  split
  next => exact frame.refl fuota
  next open_ =>
    rw [if_neg open_] at unmoved
    exact frame.event fuota _ _ unmoved (told _) rfl

theorem framePmeshOtaCmdHeader_respects (packetType : UInt8) (command : Bytes) :
    Respects rel (framePmeshOtaCmdHeader packetType command) := by
  apply respects_bind frame.trans (respects_observe frame.refl _)
  intro _
  apply respects_bind frame.trans (respects_observe frame.refl _)
  exact fun _ => setRadio_respects frame _

theorem framePmeshFuotaCmdHeaderForTargetNode_respects (packetType : UInt8) (command : Bytes) :
    Respects rel (framePmeshFuotaCmdHeaderForTargetNode packetType command) := by
  apply respects_bind frame.trans (respects_observe frame.refl _)
  intro _
  apply respects_bind frame.trans (respects_observe frame.refl _)
  exact fun _ => setRadio_respects frame _

theorem buildNetworkCommand_respects : Respects rel buildNetworkCommand := by
  apply respects_bind frame.trans (respects_observe frame.refl _)
  intro machine
  split
  next =>
    apply respects_bind frame.trans (respects_observe frame.refl _)
    intro _
    apply respects_bind frame.trans (respects_observe frame.refl _)
    exact fun _ => setRadio_respects frame _
  next => exact respects_pure frame.refl ()

theorem getAlternateSourceRoute_respects : Respects rel getAlternateSourceRoute := by
  intro fuota
  unfold getAlternateSourceRoute
  dsimp only
  split <;> exact frame.silent fuota _ ⟨rfl, rfl, rfl, rfl, rfl⟩ rfl

theorem useAlternate_respects (chosen : Radio -> Option AlternatePathInfo) :
    Respects rel (useAlternate chosen) := by
  apply respects_bind frame.trans (respects_observe frame.refl _)
  intro radio
  split
  next => exact respects_bind frame.trans (setRadio_respects frame _) fun _ => respects_pure frame.refl true
  next => exact respects_pure frame.refl false

theorem buildAlternateRoute_respects (targetMac : Bytes) :
    Respects rel (buildAlternateRoute targetMac) := by
  apply respects_bind frame.trans (getAlternateSourceRoute_respects frame)
  intro found
  split
  next => exact useAlternate_respects frame _
  next => exact respects_pure frame.refl false

theorem updateClientTxBufferWithRoute_respects (payload : Option Bytes) (payloadLen : Nat) :
    Respects rel (updateClientTxBufferWithRoute payload payloadLen) := by
  apply respects_bind frame.trans (respects_observe frame.refl _)
  exact fun _ => setRadio_respects frame _

section Commands

variable (sends : Sends kinds)

include sends

theorem writeFrame_respects : Respects rel writeFrame := by
  apply respects_bind frame.trans (nextWrite_respects frame)
  intro written
  apply respects_bind frame.trans
  next =>
    exact fun fuota => frame.event fuota _ _ ⟨rfl, rfl, rfl, rfl, rfl⟩ (sends.sent _ _ rfl) rfl
  next => exact fun _ => respects_pure frame.refl written

theorem buildAndStoreFuotaCmd_respects : Respects rel buildAndStoreFuotaCmd := by
  apply respects_bind frame.trans (buildNetworkCommand_respects frame)
  intro _
  apply respects_bind frame.trans (writeFrame_respects frame sends)
  intro written
  split
  next =>
    exact fun fuota => frame.silent fuota _ ⟨rfl, rfl, rfl, rfl, rfl⟩ rfl
  next => exact respects_pure frame.refl false

theorem sendToTarget_respects (packetType : UInt8) (command : Bytes) :
    Respects rel (sendToTarget packetType command) := by
  apply respects_bind frame.trans (framePmeshFuotaCmdHeaderForTargetNode_respects frame _ _)
  intro _
  apply respects_bind frame.trans (buildAndStoreFuotaCmd_respects frame sends)
  exact fun _ => respects_pure frame.refl ()

theorem prepareAlternateRouteRetry_respects (payload : Option Bytes) (payloadLen : Nat) :
    Respects rel (prepareAlternateRouteRetry payload payloadLen) := by
  apply respects_bind frame.trans (setCntx_respects frame _)
  intro _
  apply respects_bind frame.trans
    (updateStatus_respects frame 18 1 fun requestId => sends.updated requestId 18 (by decide))
  intro _
  apply respects_bind frame.trans (respects_observe frame.refl _)
  intro buffer
  dsimp only
  split
  next => exact respects_pure frame.refl ()
  next =>
    apply respects_bind frame.trans (buildAlternateRoute_respects frame _)
    intro found
    split
    next =>
      apply respects_bind frame.trans (updateClientTxBufferWithRoute_respects frame _ _)
      exact fun _ => setRadio_respects frame _
    next => exact setCntx_respects frame _

theorem buildAlternaterouteImageTransfer_respects (routerCount : UInt8) :
    Respects rel (buildAlternaterouteImageTransfer routerCount) := by
  apply respects_bind frame.trans
    (updateStatus_respects frame 22 1 fun requestId => sends.updated requestId 22 (by decide))
  intro _
  apply respects_bind frame.trans (getAlternateSourceRoute_respects frame)
  intro found
  split
  next => exact useAlternate_respects frame _
  next => exact respects_pure frame.refl false

theorem prepareAlternateSamerouteRetry_respects (payload : Option Bytes) (payloadLen : Nat) :
    Respects rel (prepareAlternateSamerouteRetry payload payloadLen) := by
  unfold prepareAlternateSamerouteRetry
  split
  next => exact respects_pure frame.refl ()
  next =>
    apply respects_bind frame.trans (setCntx_respects frame _)
    intro _
    apply respects_bind frame.trans
      (updateStatus_respects frame 22 1 fun requestId => sends.updated requestId 22 (by decide))
    intro _
    apply respects_bind frame.trans (respects_observe frame.refl _)
    intro buffer
    dsimp only
    split
    next => exact respects_pure frame.refl ()
    next =>
      apply respects_bind frame.trans (buildAlternaterouteImageTransfer_respects frame sends _)
      intro found
      split
      next => exact updateClientTxBufferWithRoute_respects frame _ _
      next => exact setCntx_respects frame _

end Commands

end Sending

section Proceeding

variable (frame : Frame rel kinds)

include frame

theorem setMachine_respects (change : Machine -> Machine)
    (same : forall machine, (change machine).ondemandFuotaState = machine.ondemandFuotaState) :
    Respects rel (setMachine change) := fun fuota => frame.machine fuota _ (same _)

theorem setState_respects (state : FuotaState)
    (known : forall requestId, kinds requestId (.assigned state)) : Respects rel (setState state) :=
  fun fuota => frame.assign fuota state (known _)

theorem dequeueFuota_respects : Respects rel dequeueFuota := by
  intro fuota
  unfold dequeueFuota
  split
  next => exact frame.refl fuota
  next => exact frame.silent fuota _ ⟨rfl, rfl, rfl, rfl, rfl⟩ rfl

theorem stopRetryContext_respects : Respects rel stopRetryContext :=
  setMachine_respects frame _ fun _ => rfl

theorem decideTimeoutAction_respects : Respects rel decideTimeoutAction := by
  apply respects_bind frame.trans (respects_observe frame.refl _)
  intro machine
  have counted (change : RetryContext -> RetryContext) (result : TimeoutResult) :
      Respects rel (setCntx change >>= fun _ => pure result) :=
    respects_bind frame.trans (setCntx_respects frame.toSendFrame _) fun _ => respects_pure frame.refl _
  split
  next => exact respects_pure frame.refl _
  next =>
    split
    next => exact counted _ _
    next =>
      split
      next => exact counted _ _
      next => exact respects_pure frame.refl _

section Opening

variable (proceeds : Proceeds kinds)

include proceeds

theorem assigned_respects (state : FuotaState) (other : state ≠ .fwImageTransfer) :
    Respects rel (setState state) :=
  setState_respects frame state fun requestId => proceeds.assigned requestId state other

theorem toldOpen_respects (status : Nat) (open_ : status ≠ 17 /\ status ≠ 21) :
    Respects rel (updateStatus status 1) :=
  updateStatus_respects frame.toSendFrame status 1 fun requestId => by
    simpa [open_.1] using proceeds.updated requestId status open_.2

theorem takeCommand_respects (command : Bytes) : Respects rel (takeCommand command) := by
  refine respects_bind frame.trans (setMachine_respects frame _ fun _ => rfl) ?_
  intro _
  apply respects_bind frame.trans
    (note_respects frame.toSendFrame _ fun requestId => proceeds.dequeued requestId command)
  exact fun _ => assigned_respects frame proceeds _ (by decide)

theorem nextCommandOr_respects (state : FuotaState) (other : state ≠ .fwImageTransfer) :
    Respects rel (nextCommandOr state) := by
  apply respects_bind frame.trans (dequeueFuota_respects frame)
  intro front
  split
  next => exact takeCommand_respects frame proceeds _
  next => exact assigned_respects frame proceeds state other

theorem commandResponseTimeoutAtFuota_respects : Respects rel commandResponseTimeoutAtFuota := by
  have sending : Respects rel (buildAndStoreFuotaCmd >>= fun _ => pure ()) :=
    respects_bind frame.trans (buildAndStoreFuotaCmd_respects frame.toSendFrame proceeds.toSends)
      fun _ => respects_pure frame.refl ()
  apply respects_bind frame.trans (decideTimeoutAction_respects frame)
  intro action
  cases action with
  | retrySameRoute => exact sending
  | retryAlternateRoute =>
    apply respects_bind frame.trans (respects_observe frame.refl _)
    intro command
    apply respects_bind frame.trans
      (prepareAlternateRouteRetry_respects frame.toSendFrame proceeds.toSends _ _)
    exact fun _ => sending
  | nextFromQueue =>
    apply respects_bind frame.trans (stopRetryContext_respects frame)
    exact fun _ => nextCommandOr_respects frame proceeds .networkUnsilence (by decide)
  | terminate =>
    apply respects_bind frame.trans (stopRetryContext_respects frame)
    exact fun _ => assigned_respects frame proceeds _ (by decide)

theorem silenceFailed_respects (state : FuotaState) (other : state ≠ .fwImageTransfer)
    (change : RetryContext -> RetryContext) : Respects rel (silenceFailed state change) := by
  apply respects_bind frame.trans (assigned_respects frame proceeds state other)
  intro _
  refine respects_bind frame.trans (setMachine_respects frame _ fun _ => rfl) ?_
  exact fun _ => commandResponseTimeoutAtFuota_respects frame proceeds

theorem dynamicFuotaCalculate_respects : Respects rel dynamicFuotaCalculate := by
  apply respects_bind frame.trans (respects_observe frame.refl _)
  intro folder
  split
  next => exact respects_pure frame.refl false
  next =>
    apply respects_bind frame.trans (toldOpen_respects frame proceeds 8 (by decide))
    intro _
    apply respects_bind frame.trans (respects_observe frame.refl _)
    intro fuota
    apply respects_bind frame.trans (setFirmware_respects frame.toSendFrame _)
    intro _
    split
    next => exact respects_pure frame.refl false
    next =>
      apply respects_bind frame.trans (fopen_respects frame.toSendFrame _)
      intro content
      split
      next =>
        apply respects_bind frame.trans (setFirmware_respects frame.toSendFrame _)
        intro _
        apply respects_bind frame.trans
          (note_respects frame.toSendFrame _ fun requestId => proceeds.opened requestId _)
        intro _
        split
        next => exact respects_waiting frame.refl
        next => exact respects_pure frame.refl true
      next =>
        apply respects_bind frame.trans (setFirmware_respects frame.toSendFrame _)
        exact fun _ => respects_pure frame.refl false

theorem prepareGatewaySilenceCmd_respects : Respects rel prepareGatewaySilenceCmd := by
  apply respects_bind frame.trans (respects_observe frame.refl _)
  intro state
  split
  next =>
    apply respects_bind frame.trans (framePmeshOtaCmdHeader_respects frame.toSendFrame _ _)
    intro _
    apply respects_bind frame.trans (buildAndStoreFuotaCmd_respects frame.toSendFrame proceeds.toSends)
    exact fun _ => respects_pure frame.refl ()
  next => exact respects_pure frame.refl ()

theorem openFirmware_respects (path name : Bytes) : Respects rel (openFirmware path name) := by
  apply respects_bind frame.trans (fopen_respects frame.toSendFrame _)
  intro content
  split
  next =>
    apply respects_bind frame.trans (setFirmware_respects frame.toSendFrame _)
    intro _
    refine respects_bind frame.trans (setClient_respects frame.toSendFrame _ fun _ => ⟨rfl, rfl⟩) ?_
    intro _
    apply respects_bind frame.trans
      (note_respects frame.toSendFrame _ fun requestId => proceeds.opened requestId path)
    intro _
    apply respects_bind frame.trans (assigned_respects frame proceeds _ (by decide))
    intro _
    apply respects_bind frame.trans (prepareGatewaySilenceCmd_respects frame proceeds)
    exact fun _ => respects_pure frame.refl _
  next =>
    apply respects_bind frame.trans (setFirmware_respects frame.toSendFrame _)
    intro _
    apply respects_bind frame.trans (toldOpen_respects frame proceeds 1 (by decide))
    exact fun _ => respects_pure frame.refl none

theorem openRequestedFirmware_respects (name : Bytes) :
    Respects rel (openRequestedFirmware name) := by
  have refused (status : Nat) (open_ : status ≠ 17 /\ status ≠ 21) :
      Respects rel (updateStatus status 1 >>= fun _ => pure (none : Option Bytes)) :=
    respects_bind frame.trans (toldOpen_respects frame proceeds status open_)
      fun _ => respects_pure frame.refl none
  unfold openRequestedFirmware
  split
  next => exact refused 2 (by decide)
  next =>
    apply respects_bind frame.trans (respects_observe frame.refl _)
    intro fuota
    apply respects_bind frame.trans (setFirmware_respects frame.toSendFrame _)
    intro _
    split
    next => exact refused 0 (by decide)
    next => exact openFirmware_respects frame proceeds _ _

theorem openResumedFirmware_respects : Respects rel openResumedFirmware := by
  apply respects_bind frame.trans (respects_observe frame.refl _)
  intro fuota
  split
  next =>
    apply respects_bind frame.trans (openRequestedFirmware_respects frame proceeds _)
    intro path
    split
    next => exact setMachine_respects frame _ fun _ => rfl
    next => exact respects_pure frame.refl ()
  next =>
    apply respects_bind frame.trans (openRequestedFirmware_respects frame proceeds _)
    exact fun _ => respects_pure frame.refl ()

theorem replyOpenFile_respects : Respects rel replyOpenFile := by
  apply respects_bind frame.trans (openResumedFirmware_respects frame proceeds)
  intro _
  apply respects_bind frame.trans (assigned_respects frame proceeds _ (by decide))
  exact fun _ => setMachine_respects frame _ fun _ => rfl

theorem sendOpenFile_respects : Respects rel sendOpenFile := by
  apply respects_bind frame.trans (respects_observe frame.refl _)
  intro name
  apply respects_bind frame.trans (openRequestedFirmware_respects frame proceeds _)
  exact fun _ => assigned_respects frame proceeds _ (by decide)

end Opening

section Leaves

theorem setGatewayRouteInfo_respects (meters : List MeterVitalInfo) :
    Respects rel (setGatewayRouteInfo meters) := setRadio_respects frame.toSendFrame _

theorem addressLeaf_respects (leaf : MeterVitalInfo) : Respects rel (addressLeaf leaf) := by
  apply respects_bind frame.trans (setRadio_respects frame.toSendFrame _)
  intro _
  apply respects_bind frame.trans (respects_observe frame.refl _)
  intro routes
  split
  next => exact respects_pure frame.refl false
  next =>
    apply respects_bind frame.trans (setRadio_respects frame.toSendFrame _)
    exact fun _ => respects_pure frame.refl true

theorem nodelistEmpty_respects : Respects rel nodelistEmpty := fun fuota =>
  frame.silent fuota _ ⟨rfl, rfl, rfl, rfl, rfl⟩ rfl

theorem undernodes_respects : Respects rel undernodes := by
  apply respects_bind frame.trans
  next => exact fun fuota => frame.silent fuota _ ⟨rfl, rfl, rfl, rfl, rfl⟩ rfl
  next =>
    intro found
    split
    next => exact respects_pure frame.refl _
    next => exact respects_waiting frame.refl

theorem orStop_respects {A : Type} (result : Result A) : Respects rel (orStop result) := by
  unfold orStop
  split
  next => exact respects_pure frame.refl _
  next => exact respects_waiting frame.refl

theorem visitLeaves_respects (body : MeterVitalInfo -> Prog Fuota Unit)
    (moves : forall leaf, Respects rel (body leaf)) (meters : List MeterVitalInfo) (ondemandMac : Bytes) :
    Respects rel (visitLeaves body meters ondemandMac) := by
  apply respects_bind frame.trans (setGatewayRouteInfo_respects frame _)
  exact fun _ => forEach_respects frame.refl frame.trans body moves _

variable (visits : Visits kinds)

include visits

theorem executeStep_respects (attempts : Nat) : Respects rel (executeStep attempts) := by
  have waits : Respects rel waitForSocketResponse :=
    waitForSocketResponse_respects frame.refl frame.trans
      (writeFrame_respects frame.toSendFrame visits.toSends) (nextArrival_respects frame.toSendFrame)
  induction attempts with
  | zero => exact respects_pure frame.refl false
  | succ attempts ih =>
    apply respects_bind frame.trans (buildAndStoreFuotaCmd_respects frame.toSendFrame visits.toSends)
    intro written
    split
    next =>
      apply respects_bind frame.trans waits
      intro answered
      split
      next =>
        apply respects_bind frame.trans (respects_observe frame.refl _)
        intro radio
        apply respects_bind frame.trans
          (note_respects frame.toSendFrame _ fun requestId => visits.acknowledged requestId _ _)
        exact fun _ => respects_pure frame.refl true
      next => exact ih
    next => exact ih

theorem executeFuotasequence_respects (states : List Nat) :
    Respects rel (executeFuotasequence states) := by
  induction states with
  | nil => exact respects_pure frame.refl true
  | cons state rest ih =>
    refine respects_bind frame.trans (setMachine_respects frame _ fun _ => rfl) ?_
    intro _
    apply respects_bind frame.trans (executeStep_respects frame visits 3)
    intro answered
    split
    next => exact ih
    next => exact respects_pure frame.refl false

theorem sendFuotaEnableToLeaf_respects (leaf : MeterVitalInfo) :
    Respects rel (sendFuotaEnableToLeaf leaf) := by
  apply respects_bind frame.trans (addressLeaf_respects frame leaf)
  intro found
  split
  next =>
    refine respects_bind frame.trans (setMachine_respects frame _ fun _ => rfl) ?_
    intro _
    apply respects_bind frame.trans (executeFuotasequence_respects frame visits _)
    intro success
    refine respects_bind frame.trans (setMachine_respects frame _ fun _ => rfl) ?_
    exact fun _ => respects_pure frame.refl success
  next => exact respects_pure frame.refl false

theorem sendFuotaDisableToLeafNodes_respects (leaf : MeterVitalInfo) :
    Respects rel (sendFuotaDisableToLeafNodes leaf) := by
  apply respects_bind frame.trans (addressLeaf_respects frame leaf)
  intro found
  split
  next =>
    refine respects_bind frame.trans (setMachine_respects frame _ fun _ => rfl) ?_
    intro _
    apply respects_bind frame.trans (executeFuotasequence_respects frame visits _)
    intro success
    refine respects_bind frame.trans (setMachine_respects frame _ fun _ => rfl) ?_
    exact fun _ => respects_pure frame.refl success
  next => exact respects_pure frame.refl false

theorem insertUpdateUnsilencedMeter_respects (meterMac : Bytes) (status : Nat) (hopCount : UInt8) :
    Respects rel (insertUpdateUnsilencedMeter meterMac status hopCount) := fun fuota =>
  frame.event fuota _ _ ⟨rfl, rfl, rfl, rfl, rfl⟩ (visits.recorded _ _ _) rfl

theorem enableLeaf_respects (leaf : MeterVitalInfo) : Respects rel (enableLeaf leaf) := by
  apply respects_bind frame.trans (sendFuotaEnableToLeaf_respects frame visits leaf)
  intro success
  split
  next => exact insertUpdateUnsilencedMeter_respects frame visits _ _ _
  next => exact insertUpdateUnsilencedMeter_respects frame visits _ _ _

theorem disableLeaf_respects (leaf : MeterVitalInfo) : Respects rel (disableLeaf leaf) := by
  apply respects_bind frame.trans (sendFuotaDisableToLeafNodes_respects frame visits leaf)
  intro success
  split
  next => exact insertUpdateUnsilencedMeter_respects frame visits _ _ _
  next => exact insertUpdateUnsilencedMeter_respects frame visits _ _ _

theorem enableNetwork_respects (ondemandMac : Bytes) : Respects rel (enableNetwork ondemandMac) := by
  apply respects_bind frame.trans (undernodes_respects frame)
  intro meters
  split
  next => exact respects_pure frame.refl false
  next =>
    apply respects_bind frame.trans
      (visitLeaves_respects frame enableLeaf (enableLeaf_respects frame visits) _ _)
    exact fun _ => respects_pure frame.refl true

theorem processRffuotaDisableSequence_respects (ondemandMac : Bytes) :
    Respects rel (processRffuotaDisableSequence ondemandMac) := by
  apply respects_bind frame.trans (undernodes_respects frame)
  intro meters
  split
  next => exact respects_pure frame.refl ()
  next =>
    apply respects_bind frame.trans
      (visitLeaves_respects frame disableLeaf (disableLeaf_respects frame visits) _ _)
    exact fun _ => assigned_respects frame visits.toProceeds _ (by decide)

theorem prepareToUnsilenceTheGatewayNode_respects :
    Respects rel prepareToUnsilenceTheGatewayNode := by
  apply respects_bind frame.trans (respects_observe frame.refl _)
  intro state
  split
  next =>
    apply respects_bind frame.trans (framePmeshOtaCmdHeader_respects frame.toSendFrame _ _)
    intro _
    apply respects_bind frame.trans (buildAndStoreFuotaCmd_respects frame.toSendFrame visits.toSends)
    exact fun _ => respects_pure frame.refl ()
  next => exact respects_pure frame.refl ()

theorem sendNetworkUnsilence_respects : Respects rel sendNetworkUnsilence := by
  apply respects_bind frame.trans (nodelistEmpty_respects frame)
  intro empty
  split
  next =>
    apply respects_bind frame.trans (setRadio_respects frame.toSendFrame _)
    intro _
    apply respects_bind frame.trans (assigned_respects frame visits.toProceeds _ (by decide))
    exact fun _ => prepareToUnsilenceTheGatewayNode_respects frame visits
  next =>
    apply respects_bind frame.trans (undernodes_respects frame)
    intro meters
    apply respects_bind frame.trans (setRadio_respects frame.toSendFrame _)
    intro _
    apply respects_bind frame.trans (setRadio_respects frame.toSendFrame _)
    intro _
    apply respects_bind frame.trans (respects_observe frame.refl _)
    exact fun _ => processRffuotaDisableSequence_respects frame visits _

theorem sendNetworkSilence_respects : Respects rel sendNetworkSilence := by
  have reading : Respects rel (setState .sectorRead >>= fun _ => prepareGetSectorReadForTargetNode) := by
    apply respects_bind frame.trans (assigned_respects frame visits.toProceeds _ (by decide))
    exact fun _ => sendToTarget_respects frame.toSendFrame visits.toSends _ _
  apply respects_bind frame.trans (nodelistEmpty_respects frame)
  intro empty
  split
  next =>
    apply respects_bind frame.trans (setRadio_respects frame.toSendFrame _)
    exact fun _ => reading
  next =>
    apply respects_bind frame.trans (undernodes_respects frame)
    intro meters
    apply respects_bind frame.trans (setRadio_respects frame.toSendFrame _)
    intro _
    apply respects_bind frame.trans (setRadio_respects frame.toSendFrame _)
    intro _
    apply respects_bind frame.trans (respects_observe frame.refl _)
    intro ondemandMac
    apply respects_bind frame.trans (enableNetwork_respects frame visits _)
    intro enabled
    split
    next => exact reading
    next => exact respects_pure frame.refl ()

theorem handleFuotaCompletion_respects
    (continues : forall command, Respects rel (continueWith command)) :
    Respects rel handleFuotaCompletion := by
  apply respects_bind frame.trans (dequeueFuota_respects frame)
  intro front
  split
  next => exact continues _
  next =>
    apply respects_bind frame.trans (assigned_respects frame visits.toProceeds _ (by decide))
    exact fun _ => sendNetworkUnsilence_respects frame visits

end Leaves

theorem retryOr_respects (limit : Nat) (retrying given : Prog Fuota Unit)
    (retries : Respects rel retrying) (gives : Respects rel given)
    (completes : Respects rel handleFuotaCompletion) : Respects rel (retryOr limit retrying given) := by
  apply respects_bind frame.trans (respects_observe frame.refl _)
  intro retryCount
  split
  next =>
    refine respects_bind frame.trans (setMachine_respects frame _ fun _ => rfl) ?_
    exact fun _ => retries
  next =>
    apply respects_bind frame.trans gives
    intro _
    refine respects_bind frame.trans (setMachine_respects frame _ fun _ => rfl) ?_
    exact fun _ => completes

end Proceeding

section Histories

variable {kinds : Event -> Prop}

theorem logs_bind {A B : Type} {first : Prog Fuota A} {next : A -> Prog Fuota B}
    (before : Respects (Logs kinds) first) (behind : forall value, Respects (Logs kinds) (next value)) :
    Respects (Logs kinds) (first >>= next) := respects_bind logs_trans before behind

theorem logs_pure {A : Type} (value : A) : Respects (Logs kinds) (pure value : Prog Fuota A) :=
  respects_pure logs_refl value

theorem logs_observe {A : Type} (view : Fuota -> A) : Respects (Logs kinds) (observe view) :=
  respects_observe logs_refl view

theorem logs_update (change : Fuota -> Fuota) (same : forall fuota, (change fuota).log = fuota.log) :
    Respects (Logs kinds) (update change) := fun fuota => logs_same (same fuota)

theorem logs_setMachine (change : Machine -> Machine) : Respects (Logs kinds) (setMachine change) :=
  logs_update _ fun _ => rfl

theorem logs_setClient (change : FuotaClient -> FuotaClient) :
    Respects (Logs kinds) (setClient change) := logs_update _ fun _ => rfl

theorem logs_setFirmware (change : Firmware -> Firmware) :
    Respects (Logs kinds) (setFirmware change) := logs_update _ fun _ => rfl

theorem logs_setState (state : FuotaState) (known : kinds (.assigned state)) :
    Respects (Logs kinds) (setState state) :=
  setState_respects (logs_frame kinds) state fun _ => known

theorem logs_updateStatus (told : forall requestId status errorCode,
    kinds (.updated requestId status errorCode)) (requestStatus errorCode : Nat) :
    Respects (Logs kinds) (updateStatus requestStatus errorCode) :=
  updateStatus_respects (logs_frame kinds).toSendFrame _ _ fun _ => told _ _ _

theorem logs_continueWith (dequeued : forall command, kinds (.dequeued command))
    (assigned : forall state, kinds (.assigned state)) (command : Bytes) :
    Respects (Logs kinds) (continueWith command) := by
  apply logs_bind (logs_setMachine _)
  intro _
  apply logs_bind
  next =>
    unfold parseAndUpdateFuotaRequest
    dsimp only
    split
    next => exact logs_pure false
    next =>
      apply logs_bind (orStop_respects (logs_frame kinds) _)
      intro requestId
      apply logs_bind (logs_setClient _)
      intro _
      exact logs_bind (logs_setFirmware _) fun _ => logs_pure true
  next =>
    intro parsed
    split
    next =>
      apply logs_bind (note_respects (logs_frame kinds).toSendFrame _ fun _ => dequeued command)
      intro _
      apply logs_bind (logs_setMachine _)
      exact fun _ => logs_setState _ (assigned _)
    next => exact logs_pure ()

variable (ordinary : Ordinary kinds)

include ordinary

theorem logs_handleFuotaCompletion : Respects (Logs kinds) handleFuotaCompletion :=
  handleFuotaCompletion_respects (logs_frame kinds) ordinary.visits
    (logs_continueWith ordinary.dequeued ordinary.assigned)

theorem logs_retryOr (limit : Nat) (retrying given : Prog Fuota Unit)
    (retries : Respects (Logs kinds) retrying) (gives : Respects (Logs kinds) given) :
    Respects (Logs kinds) (retryOr limit retrying given) :=
  retryOr_respects (logs_frame kinds) limit retrying given retries gives
    (logs_handleFuotaCompletion ordinary)

end Histories

end Hes.Fuota
