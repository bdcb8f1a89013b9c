import Hes.OdmWrite

set_option autoImplicit false

namespace Hes.Client

open Prog Mqtt OdmProfiles

/-- How `Process_ODM_request` is left: by which `return` or `break` of the source. -/
inductive Exit where
  | sendFailed
  | answered
  | reported (status : RequestStatus)
  deriving DecidableEq, Repr

structure OdmVars where
  buf : Bytes
  pageIndex : UInt8 := 1
  pollRetry : Nat := 1
  once : Bool := true
  invalidResp : Bool := false
  dlmsChecksumErrorRetry : Nat := 1
  deriving DecidableEq, Repr

def resendPacket (buf : Bytes) : Prog Client Bool := do
  let code <- writeToClient buf
  return code = .success

def recalculateDlmsChecksum (buf : Bytes) : Bytes :=
  if buf.length < 18 then buf
  else
    let hopCount := (byteAt buf 12).toNat
    let dlmsStart := if hopCount ≤ 1 then 17 else 17 + (hopCount - 1) * 4
    if byteAt buf dlmsStart ≠ 0x2B then buf
    else buf.set (buf.length - 1) (calculateChecksum buf dlmsStart (buf.length - 1 - dlmsStart))

/-- The page index is written and the checksum, behind it, counted up. -/
def countPage (buf : Bytes) (pageIndex : UInt8) : Bytes :=
  let hopCount := (byteAt buf 12).toNat
  let offset := if hopCount = 0 then 19 else (19 + (hopCount - 1) * 4) % 256
  let checksum := byteAt buf (buf.length - 1) + 1
  (buf.set offset pageIndex).set (buf.length - 1) checksum

/-- A command with a range becomes the short command of the next page. -/
def shortenCommand (buf : Bytes) (removed : Nat) (command : Bytes) : Bytes :=
  let start := buf.length - removed
  (buf.take start ++ command).set 1 (UInt8.ofNat (start + 8 - 1))

def nextPageCommand (buf : Bytes) (downloadDataType pageIndex : UInt8) : Bytes :=
  match downloadDataType with
  | 2 =>
    if pageIndex = 1 then shortenCommand buf 13 [0x2B, 0x07, 0x01, 0x0E, 0x02, 0x00, 0x00, 0x43]
    else countPage buf pageIndex
  | 3 =>
    if pageIndex = 1 then shortenCommand buf 18 [0x2B, 0x07, 0x01, 0x0E, 0x03, 0x00, 0x00, 0x44]
    else countPage buf pageIndex
  | 4 =>
    if pageIndex = 1 then shortenCommand buf 18 [0x2B, 0x07, 0x01, 0x0E, 0x04, 0x00, 0x00, 0x45]
    else countPage buf pageIndex
  | _ => countPage buf pageIndex

/-- The variables of the next turn, none when the packet cannot be sent. -/
def handleNextPage (downloadDataType : UInt8) (vars : OdmVars) : Prog Client (Option OdmVars) := do
  let buf := nextPageCommand vars.buf downloadDataType vars.pageIndex
  if <- resendPacket buf then return some { vars with buf := buf, pageIndex := vars.pageIndex + 1 }
  else return none

def setRetry (retry : Nat) : Prog Client Unit :=
  setControl fun control => { control with retry := retry }

def getRetry : Prog Client Nat := observe fun client => client.control.retry

def clearSrcAddr : Prog Client Unit :=
  setControl fun control => { control with srcAddrCheckBuffer := [0, 0, 0, 0] }

def dlmsEnable : Bytes := [0x2B, 0x07, 0x00, 0x00, 0x00, 0x02, 0x01, 0x35]

/-- `while (retry < 3)`: none once the DLMS connection is there again. -/
def reconnect (requestId : Int) : Nat -> Prog Client (Option Exit)
  | 0 => do
    updateDlmsOnDemandRequestStatus requestId .dlmsFailed 0
    return some (.reported .dlmsFailed)
  | turns + 1 => do
    let retry <- getRetry
    if retry < 3 then
      setRetry (retry + 1)
      let header <- observe fun client => client.control.pmeshHeader
      if (<- writeToClient header) ≠ .success then return some .sendFailed
      else if (<- receiveDataAndValidateResponse) = .dlmsSuccess then
        setRetry 1
        return none
      else reconnect requestId turns
    else
      updateDlmsOnDemandRequestStatus requestId .dlmsFailed 0
      return some (.reported .dlmsFailed)

-- nothing sets the retry counter below 1 in between, so three turns exhaust it
def handleConnectionFailed (requestId : Int) : Prog Client (Option Exit) := do
  setControl fun control => { control with pmeshHeader := control.pmeshHeader ++ dlmsEnable }
  reconnect requestId 3

def validateResponseFrame (buf received : Bytes) : Bool :=
  if byteAt buf 20 = 0x0E then
    byteAt received 22 = byteAt buf 21 &&
      (byteAt buf 21 ≠ 0x08 || byteAt received 23 = byteAt buf 22)
  else if byteAt buf 20 = 0x0F then
    byteAt received 23 = byteAt buf 22 || byteAt received 22 = byteAt buf 21
  else true

def handleSuccess (downloadDataType : UInt8) (buf : Bytes) : Prog Client Bool := do
  let received <- observe fun client => client.control.clientRxBuffer
  if byteAt buf 2 ≠ 0x0E && !validateResponseFrame buf received then return false
  else
    updateOdmDb downloadDataType
    setOdm fun odm => { odm with dbParameter := {} }
    return true

def reportAndBreak (requestId : Int) (status : RequestStatus) :
    Prog Client (Turn OdmVars Exit) := do
  updateDlmsOnDemandRequestStatus requestId status 0
  return .done (.reported status)

/-- The source address to check against is forgotten with the request. -/
def reportClearAndBreak (requestId : Int) (status : RequestStatus) :
    Prog Client (Turn OdmVars Exit) := do
  updateDlmsOnDemandRequestStatus requestId status 0
  clearSrcAddr
  return .done (.reported status)

def retriesExhausted (requestId : Int) : Prog Client (Turn OdmVars Exit) := do
  updateDlmsOnDemandRequestStatus requestId .failedRfTimeout 0
  setRetry 1
  return .done (.reported .failedRfTimeout)

def resendOrReturn (vars : OdmVars) : Prog Client (Turn OdmVars Exit) := do
  if <- resendPacket vars.buf then return .again vars else return .done .sendFailed

def timeoutTurn (requestId : Int) (vars : OdmVars) : Prog Client (Turn OdmVars Exit) := do
  let retry <- getRetry
  if retry = 3 then retriesExhausted requestId
  else
    if vars.once then updateDlmsOnDemandRequestStatus requestId .retryInProgress 0
    setRetry (retry + 1)
    resendOrReturn { vars with once := false }

def connectionFailedTurn (requestId : Int) (vars : OdmVars) : Prog Client (Turn OdmVars Exit) := do
  let retry <- getRetry
  if retry = 3 then retriesExhausted requestId
  else
    match <- handleConnectionFailed requestId with
    | none => return .again vars
    | some exit => return .done exit

def dlmsErrorCode (control : Control) : Nat :=
  (byteAt control.clientRxBuffer (control.bufferRxLength - 3)).toNat * 256 +
    (byteAt control.clientRxBuffer (control.bufferRxLength - 2)).toNat

def pollTimeoutTurn (requestId : Int) (downloadDataType : UInt8) (vars : OdmVars) :
    Prog Client (Turn OdmVars Exit) := do
  if downloadDataType = 13 then
    updateInsertPingRequest 13 .failedNoGwResponse
    return .done (.reported .failedNoGwResponse)
  else if vars.pollRetry < 3 then
    resendOrReturn { vars with pollRetry := vars.pollRetry + 1 }
  else
    if !vars.invalidResp then setStatus .disconnected
    reportClearAndBreak requestId .failedNoGwResponse

def nextPageTurn (downloadDataType : UInt8) (vars : OdmVars) : Prog Client (Turn OdmVars Exit) := do
  setControl fun control => { control with txPageIndex := control.txPageIndex + 1, retry := 1 }
  match <- handleNextPage downloadDataType { vars with pollRetry := 1 } with
  | some next => return .again next
  | none => return .done .sendFailed

def checksumErrorTurn (requestId : Int) (vars : OdmVars) : Prog Client (Turn OdmVars Exit) := do
  let next := { vars with buf := recalculateDlmsChecksum vars.buf
                          dlmsChecksumErrorRetry := vars.dlmsChecksumErrorRetry + 1 }
  if (<- writeToClient next.buf) ≠ .success then
    reportClearAndBreak requestId .failedPmeshError
  else if next.dlmsChecksumErrorRetry > 3 then reportAndBreak requestId .dlmsFailed
  else return .again next

/-- One turn of the receive loop, by the code of the reply. -/
def odmTurn (requestId : Int) (downloadDataType : UInt8) (vars : OdmVars) :
    Prog Client (Turn OdmVars Exit) := do
  match <- receiveDataAndValidateResponse with
  | .success =>
    setRetry 1
    if <- handleSuccess downloadDataType vars.buf then return .done .answered
    else return .again vars
  | .dlmsSuccess => resendOrReturn vars
  | .pmeshError =>
    if downloadDataType = 13 then
      updateInsertPingRequest 13 .failedPmeshError
      return .done (.reported .failedPmeshError)
    else reportAndBreak requestId .failedPmeshError
  | .timeoutReceived => timeoutTurn requestId vars
  | .dlmsConnectionFailed => connectionFailedTurn requestId vars
  | .failedPmeshError => reportClearAndBreak requestId .failedPmeshError
  | .dlmsError =>
    let code <- observe fun client => dlmsErrorCode client.control
    updateDlmsOnDemandRequestStatus requestId .success code
    clearSrcAddr
    return .done (.reported .success)
  | .pollTimeout => pollTimeoutTurn requestId downloadDataType vars
  | .succesNextPage => nextPageTurn downloadDataType vars
  | .invalidResponse | .commandInProgress => return .again { vars with invalidResp := true }
  | .dlmsChecksumError => checksumErrorTurn requestId vars
  | .failure | .enabled | .failedResponse | .nextPagePresent | .pushDataReceived =>
    return .again vars

/-- From here on the frames that are accepted belong to a new request. -/
def beginServing (length : Nat) (downloadDataType : UInt8) : Prog Client Unit :=
  update fun client =>
    let serial := client.odm.serving.serial + 1
    { client with
      profiles := { client.profiles with serving := .request serial }
      odm := { client.odm with serving :=
        { serial := serial, length := length, downloadDataType := downloadDataType
          before := client.profiles.values, tailBefore := client.profiles.tailOrigin } } }

def endServing : Prog Client Unit :=
  update fun client => { client with profiles := { client.profiles with serving := .outside } }

def keepPayloadTail (buf : Bytes) (profiles : OdmProfiles) : OdmProfiles :=
  { profiles with ppWritePayloadTail := bigEndian (slice buf (buf.length - 5) 4)
                  tailOrigin := profiles.serving }

def exchange (fuel : Nat) (buf : Bytes) (requestId : Int) (downloadDataType : UInt8) :
    Prog Client Exit := do
  setControl fun control => { control with txPageIndex := 0 }
  if (<- writeToClient buf) ≠ .success then return .sendFailed
  else
    if buf.length ≥ 5 && downloadDataType > 0x0F then
      onProfiles fun profiles => ((), keepPayloadTail buf profiles)
    loop (odmTurn requestId downloadDataType) fuel { buf := buf }

/-- `Process_ODM_request`, waiting when it has not ended after `fuel` replies. -/
def processOdmRequest (fuel : Nat) (buf : Bytes) (requestId : Int) (downloadDataType : UInt8) :
    Prog Client Exit := do
  beginServing buf.length downloadDataType
  let exit <- exchange fuel buf requestId downloadDataType
  endServing
  return exit

/-- A ping of a node is repeated, each time under the next ping count. -/
def pingNode (fuel : Nat) (request : OdmRequest) : Nat -> Prog Client Unit
  | 0 => setOdm fun odm => { odm with pingCount := 0 }
  | count + 1 => do
    let _ <- processOdmRequest fuel request.packet request.requestId request.downloadType
    setOdm fun odm => { odm with pingCount := odm.pingCount + 1 }
    pingNode fuel request count

def setParameters (request : OdmRequest) : Prog Client Unit := setOdm fun odm =>
  { odm with pingCount := 0
             dbParameter := { reqId := request.requestId, gatewayId := request.gatewayId,
                              meterMacAddress := request.meterMacAddress,
                              meterSerialNo := request.meterSerialNo } }

/-- The request of a command, from its parameters to the end of its exchange. -/
def serveRequest (fuel : Nat) (request : OdmRequest) : Prog Client Exit := do
  setParameters request
  if request.downloadType = 13 then
    pingNode fuel request request.repeats
    return .answered
  else
    setControl fun control => { control with pmeshHeader := request.pmeshHeader }
    processOdmRequest fuel request.packet request.requestId request.downloadType

def told (requestId : Int) (status : RequestStatus) (errorCode : Nat) (client : Client) : Client :=
  { client with odm := { client.odm with updates := client.odm.updates ++
    [{ requestId := requestId, status := status, errorCode := errorCode }] } }

/-- What the exchange of a request keeps until it is left, and what each way to leave it gives. -/
structure OdmContract (requestId : Int) (downloadDataType : UInt8) (wait inv : Client -> Prop)
    (left : Exit -> Client -> Prop) : Prop where
  moves : ReceiveFrame fun before after => inv before -> inv after
  waits : forall client, inv client -> wait client
  retried : forall client, inv client -> inv (told requestId .retryInProgress 0 client)
  sendFailed : forall client, inv client -> SendFailed client -> left .sendFailed client
  reported : forall status errorCode client, status.terminal = true -> inv client ->
    left (.reported status) (told requestId status errorCode client)
  cleared : forall status client control, left (.reported status) client ->
    left (.reported status) { client with control := control }
  written : Triple wait inv (updateOdmDb downloadDataType) fun _ => left .answered
  answered : forall client dbParameter, left .answered client ->
    left .answered { client with odm := { client.odm with dbParameter := dbParameter } }
  pinged : downloadDataType = 13 -> forall status,
    Triple wait inv (updateInsertPingRequest 13 status) fun _ => left (.reported status)

section Contract

variable {requestId : Int} {downloadDataType : UInt8} {wait inv : Client -> Prop}
  {left : Exit -> Client -> Prop}

/-- A turn leaves the invariant to the next one, or is the last. -/
abbrev OdmTurned (inv : Client -> Prop) (left : Exit -> Client -> Prop) :
    Turn OdmVars Exit -> Client -> Prop :=
  afterTurn (fun _ => inv) left

theorem control_keeps (contract : OdmContract requestId downloadDataType wait inv left)
    (change : Control -> Control) : Triple wait inv (setControl change) fun _ => inv :=
  (setControl_respects contract.moves.toFrame change).invariant contract.waits

theorem received_keeps (contract : OdmContract requestId downloadDataType wait inv left) :
    Triple wait inv receiveDataAndValidateResponse fun _ => inv :=
  (receiveDataAndValidateResponse_respects contract.moves).invariant contract.waits

theorem write_left (contract : OdmContract requestId downloadDataType wait inv left)
    (buf : Bytes) : Triple wait inv (writeToClient buf)
      fun code client => inv client /\ (code ≠ .success -> left .sendFailed client) :=
  (((writeWith_respects contract.moves.toSendFrame _ buf).invariant contract.waits).and
    (write_failed buf inv)).weaken (fun _ known => known) fun _ client known =>
      ⟨known.1, fun failed => contract.sendFailed client known.1 (known.2 failed)⟩

theorem resend_left (contract : OdmContract requestId downloadDataType wait inv left)
    (buf : Bytes) : Triple wait inv (resendPacket buf)
      fun resent client => inv client /\ (resent = false -> left .sendFailed client) :=
  triple_bind _ (write_left contract buf) fun code => triple_pure _ fun _ known =>
    ⟨known.1, fun failed => known.2 (by simpa using failed)⟩

/-- A status in front of a change of the control and the end of the request. -/
theorem reportClear_left (contract : OdmContract requestId downloadDataType wait inv left)
    (status : RequestStatus) (terminal : status.terminal = true) (errorCode : Nat)
    (change : Control -> Control) :
    Triple wait inv
      (updateDlmsOnDemandRequestStatus requestId status errorCode >>= fun _ =>
        setControl change >>= fun _ => pure (Turn.done (Exit.reported status)))
      (OdmTurned inv left) := by
  refine triple_bind (fun _ => left (.reported status)) (triple_update _ fun client known => ?_)
    fun _ => ?_
  next => exact contract.reported status errorCode client terminal known
  next =>
    refine triple_bind (fun _ => left (.reported status)) (fun client known => ?_)
      fun _ => triple_pure _ fun _ known => known
    exact contract.cleared status client _ known

theorem report_left (contract : OdmContract requestId downloadDataType wait inv left)
    (status : RequestStatus) (terminal : status.terminal = true) :
    Triple wait inv (reportAndBreak requestId status) (OdmTurned inv left) :=
  triple_bind (fun _ => left (.reported status))
    (triple_update _ fun client known => contract.reported status 0 client terminal known)
    fun _ => triple_pure _ fun _ known => known

theorem pinged_left (contract : OdmContract requestId downloadDataType wait inv left)
    (type : downloadDataType = 13) (status : RequestStatus) :
    Triple wait inv
      (updateInsertPingRequest 13 status >>= fun _ => pure (Turn.done (Exit.reported status)))
      (OdmTurned inv left) :=
  triple_bind _ (contract.pinged type status) fun _ => triple_pure _ fun _ known => known

theorem resendOrReturn_left (contract : OdmContract requestId downloadDataType wait inv left)
    (vars : OdmVars) : Triple wait inv (resendOrReturn vars) (OdmTurned inv left) := by
  refine triple_bind _ (resend_left contract vars.buf) fun resent => ?_
  cases resent with
  | true => exact triple_pure _ fun _ known => known.1
  | false => exact triple_pure _ fun _ known => known.2 rfl

theorem timeoutTurn_left (contract : OdmContract requestId downloadDataType wait inv left)
    (vars : OdmVars) : Triple wait inv (timeoutTurn requestId vars) (OdmTurned inv left) := by
  have again (retry : Nat) : Triple wait inv
      (setRetry (retry + 1) >>= fun _ => resendOrReturn { vars with once := false })
      (OdmTurned inv left) :=
    triple_bind _ (control_keeps contract _) fun _ => resendOrReturn_left contract _
  refine triple_bind (fun _ => inv) (triple_observe _ fun _ known => known) fun retry => ?_
  split
  next => exact reportClear_left contract _ rfl _ _
  next =>
    split
    next =>
      exact triple_bind _ (triple_update _ fun client known => contract.retried client known)
        fun _ => again retry
    next => exact again retry

/-- The reconnection either keeps the request in process or ends it. -/
def Reconnected (inv : Client -> Prop) (left : Exit -> Client -> Prop) :
    Option Exit -> Client -> Prop
  | none => inv
  | some exit => left exit

theorem reconnect_left (contract : OdmContract requestId downloadDataType wait inv left)
    (turns : Nat) : Triple wait inv (reconnect requestId turns) (Reconnected inv left) := by
  have exhausted : Triple wait inv
      (updateDlmsOnDemandRequestStatus requestId .dlmsFailed 0 >>= fun _ =>
        pure (some (Exit.reported .dlmsFailed))) (Reconnected inv left) :=
    triple_bind (fun _ => left (.reported .dlmsFailed))
      (triple_update _ fun client known => contract.reported .dlmsFailed 0 client rfl known)
      fun _ => triple_pure _ fun _ known => known
  induction turns with
  | zero => exact exhausted
  | succ turns ih =>
    refine triple_bind (fun _ => inv) (triple_observe _ fun _ known => known) fun retry => ?_
    split
    next =>
      refine triple_bind _ (control_keeps contract _) fun _ => ?_
      refine triple_bind (fun _ => inv) (triple_observe _ fun _ known => known) fun header => ?_
      refine triple_bind _ (write_left contract header) fun code => ?_
      split
      next failed => exact triple_pure _ fun _ known => known.2 failed
      next =>
        refine triple_bind _ ((received_keeps contract).weaken (fun _ known => known.1)
          fun _ _ known => known) fun reply => ?_
        split
        next =>
          exact triple_bind _ (control_keeps contract _) fun _ => triple_pure _ fun _ known => known
        next => exact ih
    next => exact exhausted

theorem connectionFailedTurn_left
    (contract : OdmContract requestId downloadDataType wait inv left) (vars : OdmVars) :
    Triple wait inv (connectionFailedTurn requestId vars) (OdmTurned inv left) := by
  refine triple_bind (fun _ => inv) (triple_observe _ fun _ known => known) fun retry => ?_
  split
  next => exact reportClear_left contract _ rfl _ _
  next =>
    refine triple_bind (Reconnected inv left) ?_ fun exit => ?_
    next =>
      exact triple_bind _ (control_keeps contract _) fun _ => reconnect_left contract 3
    next => cases exit <;> exact triple_pure _ fun _ known => known

theorem pollTimeoutTurn_left (contract : OdmContract requestId downloadDataType wait inv left)
    (vars : OdmVars) :
    Triple wait inv (pollTimeoutTurn requestId downloadDataType vars) (OdmTurned inv left) := by
  unfold pollTimeoutTurn
  split
  next ping => exact pinged_left contract ping _
  next =>
    split
    next => exact resendOrReturn_left contract _
    next =>
      split
      next =>
        exact triple_bind _
          ((disconnect_respects contract.moves.toSendFrame).invariant contract.waits)
          fun _ => reportClear_left contract _ rfl _ _
      next => exact reportClear_left contract _ rfl _ _

theorem nextPageTurn_left (contract : OdmContract requestId downloadDataType wait inv left)
    (vars : OdmVars) :
    Triple wait inv (nextPageTurn downloadDataType vars) (OdmTurned inv left) := by
  refine triple_bind _ (control_keeps contract _) fun _ => ?_
  refine triple_bind (fun next client => inv client /\ (next = none -> left .sendFailed client)) ?_
    fun next => ?_
  next =>
    refine triple_bind _ (resend_left contract _) fun resent => ?_
    cases resent with
    | true => exact triple_pure _ fun _ known => ⟨known.1, by simp⟩
    | false => exact triple_pure _ fun _ known => ⟨known.1, fun _ => known.2 rfl⟩
  next =>
    cases next with
    | some vars => exact triple_pure _ fun _ known => known.1
    | none => exact triple_pure _ fun _ known => known.2 rfl

theorem checksumErrorTurn_left (contract : OdmContract requestId downloadDataType wait inv left)
    (vars : OdmVars) : Triple wait inv (checksumErrorTurn requestId vars) (OdmTurned inv left) := by
  refine triple_bind (fun _ => inv) ((write_left contract _).weaken (fun _ known => known)
    fun _ _ known => known.1) fun code => ?_
  split
  next => exact reportClear_left contract _ rfl _ _
  next =>
    split
    next => exact report_left contract _ rfl
    next => exact triple_pure _ fun _ known => known

/-- The request is answered, or its response is not the one that was asked for. -/
def Succeeded (inv : Client -> Prop) (left : Exit -> Client -> Prop) : Bool -> Client -> Prop
  | true => left .answered
  | false => inv

theorem handleSuccess_left (contract : OdmContract requestId downloadDataType wait inv left)
    (buf : Bytes) :
    Triple wait inv (handleSuccess downloadDataType buf) (Succeeded inv left) := by
  refine triple_bind (fun _ => inv) (triple_observe _ fun _ known => known) fun received => ?_
  split
  next => exact triple_pure _ fun _ known => known
  next =>
    refine triple_bind _ contract.written fun _ => ?_
    exact triple_bind (fun _ => left .answered)
      (triple_update _ fun client known => contract.answered client {} known)
      fun _ => triple_pure _ fun _ known => known

theorem odmTurn_left (contract : OdmContract requestId downloadDataType wait inv left)
    (vars : OdmVars) :
    Triple wait inv (odmTurn requestId downloadDataType vars) (OdmTurned inv left) := by
  refine triple_bind _ (received_keeps contract) fun code => ?_
  cases code with
  | success =>
    refine triple_bind _ (control_keeps contract _) fun _ => ?_
    refine triple_bind _ (handleSuccess_left contract vars.buf) fun handled => ?_
    cases handled <;> exact triple_pure _ fun _ known => known
  | dlmsSuccess => exact resendOrReturn_left contract vars
  | pmeshError =>
    dsimp only
    split
    next ping => exact pinged_left contract ping _
    next => exact report_left contract _ rfl
  | timeoutReceived => exact timeoutTurn_left contract vars
  | dlmsConnectionFailed => exact connectionFailedTurn_left contract vars
  | failedPmeshError => exact reportClear_left contract _ rfl _ _
  | dlmsError =>
    exact triple_bind (fun _ => inv) (triple_observe _ fun _ known => known)
      fun errorCode => reportClear_left contract _ rfl _ _
  | pollTimeout => exact pollTimeoutTurn_left contract vars
  | succesNextPage => exact nextPageTurn_left contract vars
  | dlmsChecksumError => exact checksumErrorTurn_left contract vars
  | invalidResponse | commandInProgress | failure | enabled | failedResponse | nextPagePresent
  | pushDataReceived => exact triple_pure _ fun _ known => known

/-- The exchange from its first packet on: `start` holds until the payload tail is kept. -/
theorem exchange_left (contract : OdmContract requestId downloadDataType wait inv left)
    (start : Client -> Prop) (opening : Frame fun before after => start before -> start after)
    (waits : forall client, start client -> wait client)
    (unsent : forall client, start client -> SendFailed client -> left .sendFailed client)
    (buf : Bytes)
    (kept : forall client, start client -> buf.length ≥ 5 -> downloadDataType > 0x0F ->
      inv { client with profiles := keepPayloadTail buf client.profiles })
    (untouched : forall client, start client -> ¬ (buf.length ≥ 5 /\ downloadDataType > 0x0F) ->
      inv client) (fuel : Nat) :
    Triple wait start (exchange fuel buf requestId downloadDataType) left := by
  have turns := triple_loop (odmTurn requestId downloadDataType) (fun _ => inv)
    (fun _ => contract.waits) (odmTurn_left contract) fuel { buf := buf }
  refine triple_bind _ ((setControl_respects opening _).invariant waits) fun _ => ?_
  refine triple_bind _ (((writeWith_respects opening.toSendFrame _ buf).invariant waits).and
    (write_failed buf start)) fun code => ?_
  split
  next failed => exact triple_pure _ fun client known => unsent client known.1 (known.2 failed)
  next =>
    split
    next tail =>
      simp only [Bool.and_eq_true, decide_eq_true_eq] at tail
      refine triple_bind (fun _ => inv) (fun client known => ?_) fun _ => turns
      exact kept client known.1 tail.1 tail.2
    next noTail =>
      simp only [Bool.and_eq_true, decide_eq_true_eq] at noTail
      exact turns.weaken (fun client known => untouched client known.1 noTail) fun _ _ known => known

end Contract

end Hes.Client
