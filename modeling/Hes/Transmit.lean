import Hes.OdmRequest

set_option autoImplicit false

namespace Hes.Client

open Prog

/-- How a transmit loop is left: by a `return`, or by a `break` or its condition. -/
inductive Leave where
  | returned (code : Code)
  | broken (gotAnyResponse : Bool)
  deriving DecidableEq, Repr

structure VectorVars where
  retry : Nat := 0
  needToWrite : Bool := true
  gotAnyResponse : Bool := false
  deriving DecidableEq, Repr

/-- The codes the vector loop hands to its caller. -/
def expectedCode : Code -> Bool
  | .success | .enabled | .nextPagePresent | .dlmsConnectionFailed | .dlmsError | .dlmsSuccess =>
    true
  | _ => false

def writeAgain (vars : VectorVars) : Turn VectorVars Leave :=
  .again { vars with retry := vars.retry + 1, needToWrite := true }

/-- By the code of the received chunk; `INVALID_SRC_ADDR` is `INVALID_RESPONSE`. -/
def vectorResponse (vars : VectorVars) (code : Code) : Prog Client (Turn VectorVars Leave) := do
  if expectedCode code then return .done (.returned code)
  else
    match code with
    | .invalidResponse =>
      setControl fun control => { control with needToValidateSrcAddr := true }
      return .again vars
    | .commandInProgress | .pushDataReceived => return .again vars
    | _ => return writeAgain vars

/-- No data: the loop ends when the gateway is gone or replaced. -/
def gatewayGone : Prog Client Bool := do
  let status <- observe fun client => client.gateway.status
  if status = .disconnected then return true else duplicateGateway

def vectorReceive (vars : VectorVars) : Prog Client (Turn VectorVars Leave) := do
  let (rxLen, buffer) <- receiveData 512
  if rxLen > 0 then
    let code <- clientReceivedData buffer rxLen.toNat
    vectorResponse { vars with gotAnyResponse := true } code
  else if <- gatewayGone then return .done (.broken vars.gotAnyResponse)
  else return writeAgain vars

def vectorTurn (buff : Bytes) (maxRetries : Nat) (vars : VectorVars) :
    Prog Client (Turn VectorVars Leave) := do
  if vars.retry < maxRetries then
    if vars.needToWrite then
      if (<- writeToClientVector buff) ≠ .success then return .done (.broken vars.gotAnyResponse)
      else vectorReceive { vars with needToWrite := false }
    else vectorReceive vars
  else return .done (.broken vars.gotAnyResponse)

/-- `transmit_command_and_validate_response` of a vector. -/
def transmitVector (fuel : Nat) (buff : Bytes) (maxRetries : Nat) : Prog Client Code := do
  match <- loop (vectorTurn buff maxRetries) fuel {} with
  | .returned code => return code
  | .broken gotAnyResponse =>
    if maxRetries > 0 && !gotAnyResponse then setStatus .disconnected
    return .failure

structure RawVars where
  buf : Bytes
  length : Nat
  txBuffer : Bytes := []
  dlmsQueryBuf : Bytes := []
  needToWrite : Bool := true
  needToWriteDlmsPkt : Bool := false
  gotAnyResponse : Bool := false
  retry : Nat := 0
  retryTimeout : Nat := 0
  triedAlternatePath : Nat := 0
  ret : Code := .failure
  deriving DecidableEq, Repr

/-- Behind the path of a command; a `uint8_t` in the source. -/
def pathBytes (hopCount : Nat) : Nat := (if hopCount = 0 then 4 else hopCount * 4) % 256

def sameRequest (txBuffer rxBuffer : Bytes) (txStart rxStart : Nat) : Bool :=
  byteAt txBuffer txStart = byteAt rxBuffer rxStart &&
    byteAt txBuffer (txStart + 1) = byteAt rxBuffer (rxStart + 1) &&
    byteAt txBuffer (txStart + 2) = byteAt rxBuffer (rxStart + 2)

/-- Page index, frame id and command id of the reply against those of the request. -/
def validateResponseBuffer (txBuffer rxBuffer : Bytes) : Code :=
  let base := pathBytes (byteAt txBuffer 12).toNat
  let type := byteAt rxBuffer 2
  if type = 0x08 then
    if slice rxBuffer 20 4 = [0x00, 0x00, 0x00, 0x02] || byteAt rxBuffer 17 = 0x2C then .success
    else if sameRequest txBuffer rxBuffer (13 + base + 2) 20 then .success
    else .invalidResponse
  else if type = 0x04 then
    if byteAt rxBuffer 15 ≠ byteAt txBuffer (13 + base + 1) then .invalidResponse
    else if byteAt rxBuffer 16 ≠ 0x00 then .failedResponse
    else .success
  else if type = 0x07 then
    if sameRequest txBuffer rxBuffer (13 + base + 2) ((12 + base) % 256 + 3) then .success
    else .invalidResponse
  else .success

def copyOver (buffer bytes : Bytes) : Bytes := bytes ++ buffer.drop bytes.length

/-- The command or the reconnection packet goes out; none when it cannot be sent. -/
def rawWrite (hopCount : Nat) (vars : RawVars) : Prog Client (Option RawVars) := do
  if !vars.needToWrite then return some vars
  else if vars.needToWriteDlmsPkt then
    if (<- writeToClient vars.dlmsQueryBuf) ≠ .success then return none
    else
      return some { vars with txBuffer := copyOver vars.txBuffer vars.dlmsQueryBuf
                              needToWrite := false }
  else
    setControl fun control =>
      { control with txPageIndex := byteAt vars.buf (13 + pathBytes hopCount + 2) }
    if (<- writeToClient (slice vars.buf 0 vars.length)) ≠ .success then return none
    else
      return some { vars with txBuffer := copyOver vars.txBuffer (slice vars.buf 0 vars.length)
                              needToWrite := false }

/-- The mesh acknowledged stage 9D, so the command of stage 9B is next. -/
def nextStage (hopCount : Nat) (vars : RawVars) : RawVars :=
  let offset := pathBytes hopCount
  { vars with
    buf := ((vars.buf.set (13 + offset) 0x03).set (14 + offset) 0x9B).set (15 + offset) 0x00
    length := 12 + offset + 3, needToWrite := true, retry := 0, retryTimeout := 0 }

def nextPage (hopCount : Nat) (pageIndexCount : UInt8) (vars : RawVars) : RawVars :=
  let offset := pathBytes hopCount
  let paged := vars.buf.set (12 + offset + 3) pageIndexCount
  { vars with
    buf := paged.set (12 + offset + 8) (byteAt paged (12 + offset + 8) + 1)
    needToWrite := true, retry := 0, retryTimeout := 0 }

def reconnectPacket (hopCount : Nat) (buf : Bytes) : Bytes :=
  slice buf 0 ((12 + 1 + if hopCount = 0 then 4 else hopCount * 4) % 256) ++ dlmsEnable

def connectionFailed (hopCount : Nat) (buffer : Bytes) (vars : RawVars) : RawVars :=
  let dlms := { vars with dlmsQueryBuf := reconnectPacket hopCount vars.buf
                          needToWriteDlmsPkt := true, needToWrite := true }
  if byteAt buffer 24 ≠ 0x01 && byteAt buffer 24 ≠ 0x03 then
    { dlms with retry := 0, retryTimeout := 0 }
  else { dlms with retry := vars.retry + 1 }

/-- A path of any text fails: it is compared with the size of a vector that is still empty. -/
def takeAlternatePath (hopCount : Nat) (path : Bytes) (newHopCount : UInt8) (vars : RawVars) :
    Option RawVars :=
  if (path.length + 1) / 2 > 0 then none
  else
    let dlmsBuf := slice vars.buf (12 + hopCount * 4 + 1) 8
    let start := 13 + newHopCount.toNat * 4
    let moved := vars.buf.take start ++ dlmsBuf ++ vars.buf.drop (start + 8)
    some { vars with
      buf := (moved.set 12 newHopCount).set 1 (UInt8.ofNat (start + 8 - 1))
      length := start + 8, triedAlternatePath := vars.triedAlternatePath + 1
      retry := 0, retryTimeout := 0 }

def meshTimeout (hopCount : Nat) (alternatePath : Option (Bytes × UInt8)) (vars : RawVars) :
    Turn RawVars Leave :=
  let switched :=
    if vars.retryTimeout ≥ 2 && vars.triedAlternatePath < 2 && byteAt vars.buf 2 = 0x07 then
      if hopCount = 0 then none
      else
        match alternatePath with
        | some (path, newHopCount) => takeAlternatePath hopCount path newHopCount vars
        | none => none
    else some vars
  match switched with
  | none => .done (.returned .failure)
  | some next =>
    if next.triedAlternatePath > 2 || next.retry ≥ 2 then .done (.returned .failure)
    else .again next

/-- The switch over the result of a chunk; `again` goes on behind the switch. -/
def rawSwitch (hopCount : Nat) (buffer : Bytes) (vars : RawVars) :
    Prog Client (Turn RawVars Leave) := do
  match vars.ret with
  | .success | .enabled =>
    if byteAt buffer 2 = 0x04 && byteAt buffer 15 = 0x9D && byteAt buffer 16 = 0x01 then
      return .again (nextStage hopCount vars)
    else
      setControl fun control => { control with pageIndexCount := 0 }
      return .done (.returned vars.ret)
  | .dlmsError => return .done (.returned .failure)
  | .succesNextPage =>
    setControl fun control => { control with pageIndexCount := control.pageIndexCount + 1 }
    let pageIndexCount <- observe fun client => client.control.pageIndexCount
    return .again (nextPage hopCount pageIndexCount vars)
  | .dlmsConnectionFailed => return .again (connectionFailed hopCount buffer vars)
  | .dlmsSuccess => return .again { vars with needToWriteDlmsPkt := false, needToWrite := true }
  | .invalidResponse | .commandInProgress =>
    setControl fun control => { control with needToValidateSrcAddr := true }
    return .again vars
  | .timeoutReceived =>
    let alternatePath <- observe fun client =>
      client.inputs.alternatePath client.counters.received
    return meshTimeout hopCount alternatePath vars
  | .dlmsChecksumError | .failedResponse | .failure | .failedPmeshError | .pmeshError
  | .nextPagePresent | .pushDataReceived | .pollTimeout => return .again vars

/-- Behind the switch; the result of an earlier chunk still counts when nothing was received. -/
def rawCount (vars : RawVars) : Turn RawVars Leave :=
  let counted :=
    if vars.ret = .timeoutReceived || vars.ret = .failedResponse then
      { vars with needToWrite := true, retry := vars.retry + 1
                  retryTimeout := vars.retryTimeout + 1 }
    else vars
  if counted.retry > 2 || counted.retryTimeout > 2 then .done (.broken counted.gotAnyResponse)
  else .again counted

def rawReceive (hopCount : Nat) (vars : RawVars) : Prog Client (Turn RawVars Leave) := do
  let (rxLen, buffer) <- receiveData 512
  if rxLen > 0 then
    let code <-
      if validateResponseBuffer vars.txBuffer buffer = .success then
        clientReceivedData buffer rxLen.toNat
      else pure .failure
    match <- rawSwitch hopCount buffer { vars with gotAnyResponse := true, ret := code } with
    | .done leave => return .done leave
    | .again next => return rawCount next
  else if <- gatewayGone then return .done (.broken vars.gotAnyResponse)
  else return rawCount { vars with needToWrite := true, retry := vars.retry + 1 }

def rawTurn (hopCount maxRetries : Nat) (vars : RawVars) : Prog Client (Turn RawVars Leave) := do
  if vars.retry > maxRetries then return .done (.broken vars.gotAnyResponse)
  else
    match <- rawWrite hopCount vars with
    | none => return .done (.broken vars.gotAnyResponse)
    | some next => rawReceive hopCount next

/-- `transmit_command_and_validate_response` of a buffer: `length` bytes of it are sent at first. -/
def transmitRaw (fuel : Nat) (buf : Bytes) (length maxRetries : Nat) : Prog Client Code := do
  setControl fun control => { control with pageIndexCount := 0 }
  match <- loop (rawTurn (byteAt buf 12).toNat maxRetries) fuel { buf := buf, length := length } with
  | .returned code => return code
  | .broken gotAnyResponse =>
    if maxRetries > 0 && !gotAnyResponse then
      setStatus .disconnected
      setControl fun control => { control with needToValidateSrcAddr := false }
    return .failure

/-- The status the poll timeout leaves; the other states start pulls, or retry a transfer. -/
def pollTimeoutHandler : Prog Client Unit := do
  let timeoutState <- observe fun client => client.control.timeoutState
  if timeoutState = .timerPgwidRx then setStatus .disconnected

section Frames

variable {rel : Client -> Client -> Prop}

theorem gatewayGone_respects (frame : SendFrame rel) : Respects rel gatewayGone := by
  refine respects_bind frame.trans (respects_observe frame.refl _) fun status => ?_
  split
  next => exact respects_pure frame.refl _
  next => exact duplicateGateway_respects frame

theorem vectorResponse_respects (frame : Frame rel) (vars : VectorVars) (code : Code) :
    Respects rel (vectorResponse vars code) := by
  unfold vectorResponse
  split
  next => exact respects_pure frame.refl _
  next =>
    split
    next =>
      exact respects_bind frame.trans (setControl_respects frame _)
        fun _ => respects_pure frame.refl _
    all_goals exact respects_pure frame.refl _

theorem vectorReceive_respects (frame : ReceiveFrame rel) (vars : VectorVars) :
    Respects rel (vectorReceive vars) := by
  refine respects_bind frame.trans (receiveData_respects frame.toSendFrame 512) fun received => ?_
  split
  split
  next =>
    exact respects_bind frame.trans (clientReceivedData_respects frame _ _)
      fun code => vectorResponse_respects frame.toFrame _ code
  next =>
    refine respects_bind frame.trans (gatewayGone_respects frame.toSendFrame) fun gone => ?_
    split <;> exact respects_pure frame.refl _

theorem vectorTurn_respects (frame : ReceiveFrame rel)
    (buff : Bytes) (maxRetries : Nat) (vars : VectorVars) :
    Respects rel (vectorTurn buff maxRetries vars) := by
  unfold vectorTurn
  split
  next =>
    split
    next =>
      refine respects_bind frame.trans (writeWith_respects frame.toSendFrame _ buff) fun code => ?_
      split
      next => exact respects_pure frame.refl _
      next => exact vectorReceive_respects frame _
    next => exact vectorReceive_respects frame _
  next => exact respects_pure frame.refl _

theorem transmitVector_respects (frame : ReceiveFrame rel)
    (fuel : Nat) (buff : Bytes) (maxRetries : Nat) :
    Respects rel (transmitVector fuel buff maxRetries) := by
  refine respects_bind frame.trans (respects_loop frame.refl frame.trans _
    (vectorTurn_respects frame buff maxRetries) fuel {}) fun leave => ?_
  cases leave with
  | returned code => exact respects_pure frame.refl code
  | broken gotAnyResponse =>
    dsimp only
    split
    next =>
      exact respects_bind frame.trans (disconnect_respects frame.toSendFrame)
        fun _ => respects_pure frame.refl _
    next => exact respects_pure frame.refl _

theorem rawWrite_respects (frame : Frame rel) (hopCount : Nat) (vars : RawVars) :
    Respects rel (rawWrite hopCount vars) := by
  unfold rawWrite
  split
  next => exact respects_pure frame.refl _
  next =>
    split
    next =>
      refine respects_bind frame.trans (writeWith_respects frame.toSendFrame _ _) fun code => ?_
      split <;> exact respects_pure frame.refl _
    next =>
      refine respects_bind frame.trans (setControl_respects frame _) fun _ => ?_
      refine respects_bind frame.trans (writeWith_respects frame.toSendFrame _ _) fun code => ?_
      split <;> exact respects_pure frame.refl _

theorem rawSwitch_respects (frame : Frame rel) (hopCount : Nat) (buffer : Bytes)
    (vars : RawVars) : Respects rel (rawSwitch hopCount buffer vars) := by
  have ended (turn : Turn RawVars Leave) :
      Respects rel (pure turn : Prog Client (Turn RawVars Leave)) := respects_pure frame.refl turn
  have changed (change : Control -> Control) (turn : Turn RawVars Leave) :
      Respects rel (setControl change >>= fun _ => pure turn) :=
    respects_bind frame.trans (setControl_respects frame change) fun _ => ended turn
  unfold rawSwitch
  split
  iterate 2
    next =>
      split
      next => exact ended _
      next => exact changed _ _
  next => exact ended _
  next =>
    refine respects_bind frame.trans (setControl_respects frame _) fun _ => ?_
    exact respects_bind frame.trans (respects_observe frame.refl _) fun _ => ended _
  next => exact ended _
  next => exact ended _
  next => exact changed _ _
  next => exact changed _ _
  next => exact respects_bind frame.trans (respects_observe frame.refl _) fun _ => ended _
  all_goals exact ended _

theorem rawReceive_respects (frame : ReceiveFrame rel)
    (hopCount : Nat) (vars : RawVars) : Respects rel (rawReceive hopCount vars) := by
  have switched (buffer : Bytes) (next : RawVars) : Respects rel
      (rawSwitch hopCount buffer next >>= fun turn => match turn with
        | .done leave => pure (.done leave)
        | .again counted => pure (rawCount counted)) := by
    refine respects_bind frame.trans (rawSwitch_respects frame.toFrame hopCount buffer next) fun turn => ?_
    cases turn <;> exact respects_pure frame.refl _
  refine respects_bind frame.trans (receiveData_respects frame.toSendFrame 512) fun received => ?_
  split
  split
  next =>
    split
    next =>
      exact respects_bind frame.trans (clientReceivedData_respects frame _ _)
        fun code => switched _ _
    next => exact respects_bind frame.trans (respects_pure frame.refl _) fun code => switched _ _
  next =>
    refine respects_bind frame.trans (gatewayGone_respects frame.toSendFrame) fun gone => ?_
    split <;> exact respects_pure frame.refl _

theorem rawTurn_respects (frame : ReceiveFrame rel)
    (hopCount maxRetries : Nat) (vars : RawVars) :
    Respects rel (rawTurn hopCount maxRetries vars) := by
  unfold rawTurn
  split
  next => exact respects_pure frame.refl _
  next =>
    refine respects_bind frame.trans (rawWrite_respects frame.toFrame hopCount vars) fun next => ?_
    cases next with
    | none => exact respects_pure frame.refl _
    | some vars => exact rawReceive_respects frame hopCount vars

theorem transmitRaw_respects (frame : ReceiveFrame rel)
    (fuel : Nat) (buf : Bytes) (length maxRetries : Nat) :
    Respects rel (transmitRaw fuel buf length maxRetries) := by
  refine respects_bind frame.trans (setControl_respects frame.toFrame _) fun _ => ?_
  refine respects_bind frame.trans (respects_loop frame.refl frame.trans _
    (rawTurn_respects frame _ maxRetries) fuel _) fun leave => ?_
  cases leave with
  | returned code => exact respects_pure frame.refl code
  | broken gotAnyResponse =>
    dsimp only
    split
    next =>
      refine respects_bind frame.trans (disconnect_respects frame.toSendFrame) fun _ => ?_
      exact respects_bind frame.trans (setControl_respects frame.toFrame _)
        fun _ => respects_pure frame.refl _
    next => exact respects_pure frame.refl _

theorem pollTimeoutHandler_respects (frame : Frame rel) : Respects rel pollTimeoutHandler := by
  refine respects_bind frame.trans (respects_observe frame.refl _) fun timeoutState => ?_
  split
  next => exact disconnect_respects frame.toSendFrame
  next => exact respects_pure frame.refl _

end Frames

end Hes.Client
