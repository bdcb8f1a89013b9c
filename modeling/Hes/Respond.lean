import Hes.Client

set_option autoImplicit false

namespace Hes

open Prog

/-- A pointer into the receive buffer, with the length that is passed along. -/
structure Packet where
  buffer : Bytes
  offset : Nat
  length : Nat
  deriving DecidableEq, Repr

namespace Packet

def byte (packet : Packet) (index : Nat) : UInt8 := byteAt packet.buffer (packet.offset + index)

/-- `buff[length - back]`, in front of the frame when it is that short. -/
def fromEnd (packet : Packet) (back : Nat) : UInt8 :=
  byteAt packet.buffer (packet.offset + packet.length - back)

/-- The bytes from the pointer on, to the end of what was received. -/
def bytes (packet : Packet) : Bytes := packet.buffer.drop packet.offset

def frame (packet : Packet) : Bytes := slice packet.bytes 0 packet.length

end Packet

namespace Client

def validateSourceAddress (packet : Packet) (control : Control) : Bool :=
  (packet.byte 2 = 0x03 || packet.byte 2 = 0x07 || packet.byte 2 = 0x0D) ||
    slice packet.bytes 11 4 = control.srcAddrCheckBuffer

def isValidPacket (packet : Packet) (control : Control) : Bool × Control :=
  let framed := packet.byte 0 = 0x2E && (packet.byte 1).toNat + 1 = packet.length
  if framed && packet.byte 17 = 0x2C then (true, control)
  else if framed then
    if control.needToValidateSrcAddr then
      (validateSourceAddress packet control, { control with needToValidateSrcAddr := false })
    else (false, control)
  else if control.fuotaRollback then
    (true, { control with currentState := .idle, timeoutState := .timerNone,
                          fuotaRollback := false })
  else (false, control)

/-- A valid packet, unless its source address is still to be checked and is wrong. -/
def checkSourceAddress (packet : Packet) (control : Control) : Code × Control :=
  if control.needToValidateSrcAddr then
    (if validateSourceAddress packet control then .success else .invalidResponse,
      { control with needToValidateSrcAddr := false })
  else (.success, control)

def processPacketType (packet : Packet) (control : Control) : Code × Control :=
  let type := packet.byte 2
  let query := type = 0x07 || type = 0x03
  let dlmsStatus := type = 0x08 && packet.fromEnd 3 = 0x01 && packet.fromEnd 4 = 0x0E
  let connection := type = 0x08 && packet.byte 23 = 0x02 && packet.byte 21 = 0x00
  if query && packet.fromEnd 1 = 0x06 then (.timeoutReceived, control)
  else if dlmsStatus && packet.fromEnd 2 = 0x29 then (.dlmsChecksumError, control)
  else if dlmsStatus && packet.fromEnd 2 = 0x25 then (.dlmsConnectionFailed, control)
  else if connection && (packet.byte 24 = 0x00 || packet.byte 24 = 0x02) then
    (.dlmsSuccess, control)
  else if connection && (packet.byte 24 = 0x01 || packet.byte 24 = 0x03) then
    (.dlmsConnectionFailed, control)
  else if type = 0x08 && packet.byte 24 = 0x0E then (.dlmsError, control)
  else if query && packet.fromEnd 1 = 0x07 then (.commandInProgress, control)
  else if query || type = 0x0D then (.pmeshError, control)
  else if packet.byte 0 = 0x2E && (packet.byte 1).toNat + 1 = packet.length &&
      (type = 0x08 || type = 0x0E) then checkSourceAddress packet control
  else if type = 0x04 && packet.byte 0 = 0x2E then checkSourceAddress packet control
  else (.failure, control)

def proprietaryMacAddress : Bytes := [0x3C, 0xC1, 0xF6, 0x01]

/-- The checksum holds and the packet comes from the node. -/
def forNode (packet : Packet) (node : NodeInfo) : Bool :=
  let dlmsLength := bigEndian (slice packet.bytes 18 2)
  packet.byte (packet.byte 1).toNat = calculateChecksum packet.bytes 17 dlmsLength &&
    proprietaryMacAddress ++ slice packet.bytes 11 4 = node.nodeMacAddress

/-- The five `process_*_data` of a pull: parse into one buffer of the node, then the page status. -/
def processProfileData {T : Type}
    (parse : Bytes -> UInt8 -> Dlms.PacketBuffer T -> Bool × Dlms.PacketBuffer T)
    (read : NodeProfileData -> Dlms.PacketBuffer T)
    (write : Dlms.PacketBuffer T -> NodeProfileData -> NodeProfileData)
    (packet : Packet) (now : Int) (pull : PullState) : Code × PullState :=
  if forNode packet pull.node then
    let (parsed, buffer) := parse packet.frame (packet.byte 25) (read pull.node.profileData)
    let stored (buffer : Dlms.PacketBuffer T) : PullState :=
      { pull with merged := true, node := { pull.node with
          profileData := write buffer pull.node.profileData } }
    if parsed then
      let received := { buffer with lastPacketTime := now
                                    totalPacketsReceived := buffer.totalPacketsReceived + 1 }
      (if packet.byte 24 = 0 then .success
       else if packet.byte 24 = 1 then .nextPagePresent
       else .failure, stored received)
    else (.failure, stored buffer)
  else (.failure, pull)

def processNameplateData := processProfileData Dlms.parseDLMSRecords
  NodeProfileData.namePlateProfile fun buffer data => { data with namePlateProfile := buffer }

def processDailyLoadData := processProfileData Dlms.parseDLMSRecords
  NodeProfileData.dailyLoadProfile fun buffer data => { data with dailyLoadProfile := buffer }

def processBlockLoadData := processProfileData Dlms.parseBlockLoadDLMSRecords
  NodeProfileData.blockLoadProfile fun buffer data => { data with blockLoadProfile := buffer }

def processBillingHistoryData := processProfileData Dlms.parseDLMSRecords
  NodeProfileData.billingHistory fun buffer data => { data with billingHistory := buffer }

def processIpProfileData := processProfileData Dlms.parseDLMSRecords
  NodeProfileData.instantaneousProfile fun buffer data =>
    { data with instantaneousProfile := buffer }

/-- A mesh packet that ends in the in-progress code. -/
def inProgress (packet : Packet) (type : UInt8) : Option Code :=
  if packet.byte 2 = type && packet.byte (packet.byte 1).toNat = 0x07 then
    some .commandInProgress
  else none

def commissionResponse (packet : Packet) (command : UInt8) : Option Code :=
  if packet.byte 2 = 0x04 && packet.byte 15 = command && packet.byte 16 = 0x00 then
    some .success
  else inProgress packet 0x03

def fuotaStatusResponse (packet : Packet) : Option Code :=
  let status := packet.byte 2 = 0x04 && packet.byte 15 = 0x9B && packet.byte 16 = 0x00
  if status && packet.byte 17 = 0x00 then some .success
  else if status && packet.byte 17 = 0x01 then some .enabled
  else inProgress packet 0x03

def dlmsConnectResponse (packet : Packet) : Option Code :=
  if packet.byte 17 = 0x2D && packet.byte 2 = 0x08 then
    if packet.byte 24 = 0x00 || packet.byte 24 = 0x02 then some .success
    else if packet.byte 24 = 0x01 then some .dlmsConnectionFailed
    else none
  else inProgress packet 0x07

abbrev Process := Packet -> Int -> PullState -> Code × PullState

/-- The four profiles read as instant data: no code where the switch is left. -/
def instantProfile (command : UInt8) (process : Process) (packet : Packet) (now : Int)
    (pull : PullState) : Option Code × PullState :=
  if !pull.currentNode then (some .failure, pull)
  else if packet.byte 0 = 0x2E && packet.byte 17 = 0x2D && packet.byte 2 = 0x08 then
    if packet.byte 21 = 0x0E && packet.byte 22 = command then
      if packet.byte 25 = 0x00 && packet.byte 26 = 0x0E && packet.byte 27 = 0x01 &&
          packet.byte 28 = 0x28 then (some .dlmsError, pull)
      else
        let (code, after) := process packet now pull
        (some code, after)
    else if packet.byte 24 = 0x0E && packet.byte 25 = 0x01 && packet.byte 26 = 0x25 then
      (some .dlmsConnectionFailed, pull)
    else (none, pull)
  else (inProgress packet 0x07, pull)

def instantaneousProfile (packet : Packet) (now : Int) (pull : PullState) :
    Option Code × PullState :=
  if !pull.currentNode then (some .failure, pull)
  else if packet.byte 0 = 0x2E && packet.byte 17 = 0x2D && packet.byte 2 = 0x08 &&
      packet.byte 21 = 0x0C && packet.byte 22 = 0x01 then
    let (code, after) := processIpProfileData packet now pull
    (some code, after)
  else (inProgress packet 0x07, pull)

/-- The switch over the current state of a pull. -/
def pullResponse (state : CurrentState) (packet : Packet) (now : Int) (pull : PullState) :
    Option Code × PullState :=
  match state with
  | .fuotaStatus => (fuotaStatusResponse packet, pull)
  | .fuotaDisable => (commissionResponse packet 0x9B, pull)
  | .flashSave => (commissionResponse packet 0x02, pull)
  | .softReset => (commissionResponse packet 0x01, pull)
  | .nameplate => instantProfile 0x00 processNameplateData packet now pull
  | .dlmsConnect => (dlmsConnectResponse packet, pull)
  | .internalFv =>
    if !pull.currentNode then (some .failure, pull)
    else if packet.byte 2 = 0x04 && packet.byte 16 = 0x00 then (some .success, pull)
    else (inProgress packet 0x03, pull)
  | .dailyLoad => instantProfile 0x03 processDailyLoadData packet now pull
  | .blockLoad => instantProfile 0x04 processBlockLoadData packet now pull
  | .billingHistory => instantProfile 0x02 processBillingHistoryData packet now pull
  | .instantaneousProfile => instantaneousProfile packet now pull
  | .init | .idle => (none, pull)

/-- The profile parser of a command, none for a command that is not known. -/
def parseProfile (command : UInt8) (dlmsData : Bytes) (dlmsLen : Nat) (profiles : OdmProfiles) :
    Option OdmProfiles :=
  match command with
  | 0x00 => some (OdmProfiles.parseNameplateProfile dlmsData dlmsLen profiles)
  | 0x01 => some (OdmProfiles.parseInstantaneousProfile dlmsData dlmsLen profiles)
  | 0x02 => some (OdmProfiles.parseBillingHistoryProfile dlmsData dlmsLen profiles)
  | 0x03 => some (OdmProfiles.parseDailyLoadProfile dlmsData dlmsLen profiles)
  | 0x04 => some (OdmProfiles.parseBlockLoadProfile dlmsData dlmsLen profiles)
  | 0x08 => some (OdmProfiles.parseEventsProfile dlmsData dlmsLen profiles)
  | _ => none

def pageCode (packet : Packet) : Code :=
  if packet.byte 24 = 0 then .success else .succesNextPage

def meshDataResponse (packet : Packet) (profiles : OdmProfiles) : Code × OdmProfiles :=
  let payload := slice packet.bytes 17 (packet.length - 17)
  let dlmsOffset := payload.findIdx fun byte => byte = 0x2D
  let dlmsData := packet.bytes.drop (17 + dlmsOffset)
  let dlmsLen := bigEndian (slice dlmsData 1 2)
  -- the payload has to end with the checksum: the source tests `>` and `≠` around it
  if dlmsOffset ≥ payload.length || dlmsLen + 1 ≠ payload.length - dlmsOffset then
    (.invalidResponse, profiles)
  else if calculateChecksum dlmsData 0 dlmsLen ≠ byteAt dlmsData dlmsLen then
    (.invalidResponse, profiles)
  else if byteAt dlmsData 4 = 0x0E then
    if byteAt dlmsData 8 = 0x00 then (.invalidResponse, profiles)
    else
      match parseProfile (byteAt dlmsData 5) dlmsData dlmsLen profiles with
      | some parsed => (pageCode packet, parsed)
      | none => (.invalidResponse, profiles)
  else if packet.byte 21 = 0x0F then OdmProfiles.handleSingleObisRead packet.bytes profiles
  else if packet.byte 21 = 0x0A && packet.byte 22 ∈ [0x01, 0x02, 0x03, 0x04] then
    (pageCode packet, profiles)
  else (.invalidResponse, profiles)

def silenceResponse (packet : Packet) : Code :=
  if packet.byte 18 = 0x01 && packet.byte 17 = 0x9D then .success
  else if packet.byte 18 = 0x00 && packet.byte 17 = 0x9D then .success
  else if packet.byte 17 = 0x9B && packet.byte 18 = 0x00 then .success
  else if packet.byte 18 = 0x01 then .failedResponse
  else .failure

/-- What is left of the packets that the pull switch does not answer. -/
def odmResponse (txPageIndex : UInt8) (packet : Packet) (profiles : OdmProfiles) :
    Code × OdmProfiles :=
  if packet.byte 2 = 0x0E then (.success, profiles)
  else if packet.length < 17 then (.invalidResponse, profiles)
  else if txPageIndex ≠ packet.byte 20 then (.invalidResponse, profiles)
  else if packet.byte 2 = 0x08 then meshDataResponse packet profiles
  else if packet.byte 2 = 0x04 then (silenceResponse packet, profiles)
  else (.failure, profiles)

/-- The pull switch, entered in the target state `PULL` only. -/
def pullSwitch (packet : Packet) : Prog Client (Option Code) := fun client =>
  if client.control.targetState = .pull then
    let (code, pull) := pullResponse client.control.currentState packet
      (client.inputs.now client.counters.received) client.pull
    (some code, { client with pull := pull })
  else (some none, client)

-- the push packets go to the push profiles, which none of the other replies touches
def clientProcessData (packet : Packet) : Prog Client Code := do
  if packet.length > 17 && packet.byte 0 = 0x2E && packet.byte 17 = 0x2C then
    return .pushDataReceived
  else
    let code <- onControl (processPacketType packet)
    if code ≠ .success then return code
    else
      match <- pullSwitch packet with
      | some code => return code
      | none =>
        let txPageIndex <- observe fun client => client.control.txPageIndex
        onProfiles (odmResponse txPageIndex packet)

def validateReceivedData (packet : Packet) : Prog Client Code := do
  if <- onControl (isValidPacket packet) then clientProcessData packet
  else return .invalidResponse

/-- The frame is noted with what was asked for when it was met. -/
def noteFrame (packet : Packet) (last : Bool) (code : Code) : Prog Client Unit :=
  update fun client =>
    let cycle :=
      match client.inputs.recv (client.counters.received - 1) with
      | .data _ cycle => cycle
      | .timedOut | .failed => none
    { client with pull := { client.pull with notes := client.pull.notes ++
        [{ last := last, asked := client.pull.asked, cycle := cycle, page := packet.byte 20,
           frame := packet.frame, merged := client.pull.merged, code := code }] } }

def beginFrame : Prog Client Unit := setPull fun pull => { pull with merged := false }

def processFrame (packet : Packet) (last : Bool) : Prog Client Code := do
  beginFrame
  let code <- validateReceivedData packet
  noteFrame packet last code
  return code

/-- The frames of a chunk, each as long as its second byte says; the last code is kept. -/
def receivedFrames (buffer : Bytes) (length : Nat) : Nat -> Nat -> Code -> Prog Client Code
  | 0, _, code => pure code
  | frames + 1, offset, code =>
    if offset < length then do
      let len := (byteAt buffer (offset + 1)).toNat + 1
      let next <- processFrame { buffer := buffer, offset := offset, length := len }
        (frames = 0 || offset + len ≥ length)
      receivedFrames buffer length frames (offset + len) next
    else pure code

/-- The registration that follows is the registry's; its first transmissions come after it. -/
def initCommunication (buffer : Bytes) (length : Nat) (control : Control) : Code × Control :=
  if buffer.take 8 = Text.ascii "PGWID:3C" && length = 32 then
    (.success, { control with currentState := .idle, timeoutState := .timerNone })
  else (.failure, control)

def clientReceivedData (buffer : Bytes) (length : Nat) : Prog Client Code := do
  if length > 4096 then return .success
  else
    setControl fun control =>
      { control with clientRxBuffer := buffer.take length, bufferRxLength := length }
    if <- observe fun client => client.control.commInitStatus then
      setControl fun control => { control with commInitStatus := false }
      beginFrame
      let code <- onControl (initCommunication buffer length)
      noteFrame { buffer := buffer, offset := 0, length := length } true code
      return code
    else receivedFrames buffer length 11 0 .success

def receiveDataAndValidateResponse : Prog Client Code := do
  let (rxLen, buffer) <- receiveData 4096
  if rxLen > 0 then clientReceivedData buffer rxLen.toNat else return .pollTimeout

/-- The moves of the thread while it receives: profile values are added, and the pull is free but
for what it has passed to the database. -/
structure ReceiveFrame (rel : Client -> Client -> Prop) : Prop extends Frame rel where
  profiles : forall client profiles, OdmProfiles.Grows client.profiles profiles ->
    rel client { client with profiles := profiles }
  pull : forall client pull, pull.inserts = client.pull.inserts ->
    rel client { client with pull := pull }

theorem processProfileData_inserts {T : Type}
    (parse : Bytes -> UInt8 -> Dlms.PacketBuffer T -> Bool × Dlms.PacketBuffer T)
    (read : NodeProfileData -> Dlms.PacketBuffer T)
    (write : Dlms.PacketBuffer T -> NodeProfileData -> NodeProfileData)
    (packet : Packet) (now : Int) (pull : PullState) :
    (processProfileData parse read write packet now pull).2.inserts = pull.inserts := by
  unfold processProfileData
  dsimp only
  split
  next => split <;> rfl
  next => rfl

theorem pullResponse_inserts (state : CurrentState) (packet : Packet) (now : Int)
    (pull : PullState) : (pullResponse state packet now pull).2.inserts = pull.inserts := by
  have instant (command : UInt8) (process : Process)
      (same : (process packet now pull).2.inserts = pull.inserts) :
      (instantProfile command process packet now pull).2.inserts = pull.inserts := by
    unfold instantProfile
    cases ran : process packet now pull with
    | mk code after =>
      rw [ran] at same
      dsimp only
      (repeat' split) <;> first | exact same | rfl
  cases state
  case nameplate => exact instant _ _ (processProfileData_inserts _ _ _ packet now pull)
  case dailyLoad => exact instant _ _ (processProfileData_inserts _ _ _ packet now pull)
  case blockLoad => exact instant _ _ (processProfileData_inserts _ _ _ packet now pull)
  case billingHistory => exact instant _ _ (processProfileData_inserts _ _ _ packet now pull)
  case instantaneousProfile =>
    simp only [pullResponse, instantaneousProfile]
    split
    next => rfl
    next =>
      split
      next => exact processProfileData_inserts _ _ _ packet now pull
      next => rfl
  case internalFv =>
    simp only [pullResponse]
    (repeat' split) <;> rfl
  all_goals rfl

theorem parseProfile_grows (command : UInt8) (dlmsData : Bytes) (dlmsLen : Nat)
    (profiles parsed : OdmProfiles)
    (known : parseProfile command dlmsData dlmsLen profiles = some parsed) :
    OdmProfiles.Grows profiles parsed := by
  unfold parseProfile at known
  split at known <;> simp only [Option.some.injEq, reduceCtorEq] at known
  all_goals subst known
  all_goals first
    | exact OdmProfiles.parseEventsProfile_grows _ _ _
    | exact OdmProfiles.parseRecords_grows _ _ _ _

theorem meshDataResponse_grows (packet : Packet) (profiles : OdmProfiles) :
    OdmProfiles.Grows profiles (meshDataResponse packet profiles).2 := by
  have same := OdmProfiles.Grows.refl profiles
  unfold meshDataResponse
  dsimp only
  split
  next => exact same
  next =>
    split
    next => exact same
    next =>
      split
      next =>
        split
        next => exact same
        next =>
          split
          next parsed known => exact parseProfile_grows _ _ _ _ parsed known
          next => exact same
      next =>
        split
        next => exact OdmProfiles.handleSingleObisRead_grows _ profiles
        next => split <;> exact same

theorem odmResponse_grows (txPageIndex : UInt8) (packet : Packet) (profiles : OdmProfiles) :
    OdmProfiles.Grows profiles (odmResponse txPageIndex packet profiles).2 := by
  have same := OdmProfiles.Grows.refl profiles
  unfold odmResponse
  split
  next => exact same
  next =>
    split
    next => exact same
    next =>
      split
      next => exact same
      next =>
        split
        next => exact meshDataResponse_grows packet profiles
        next => split <;> exact same

section Frames

variable {rel : Client -> Client -> Prop}

theorem pullSwitch_respects (frame : ReceiveFrame rel) (packet : Packet) :
    Respects rel (pullSwitch packet) := by
  intro client
  unfold pullSwitch
  split
  next => exact frame.pull client _ (pullResponse_inserts _ packet _ client.pull)
  next => exact frame.refl client

theorem clientProcessData_respects (frame : ReceiveFrame rel) (packet : Packet) :
    Respects rel (clientProcessData packet) := by
  unfold clientProcessData
  split
  next => exact respects_pure frame.refl _
  next =>
    refine respects_bind frame.trans (onControl_respects frame.toFrame _) fun code => ?_
    split
    next => exact respects_pure frame.refl _
    next =>
      refine respects_bind frame.trans (pullSwitch_respects frame packet) fun answer => ?_
      cases answer with
      | some code => exact respects_pure frame.refl _
      | none =>
        refine respects_bind frame.trans (respects_observe frame.refl _) fun txPageIndex => ?_
        intro client
        exact frame.profiles client _ (odmResponse_grows txPageIndex packet client.profiles)

theorem validateReceivedData_respects (frame : ReceiveFrame rel) (packet : Packet) :
    Respects rel (validateReceivedData packet) := by
  unfold validateReceivedData
  refine respects_bind frame.trans (onControl_respects frame.toFrame _) fun valid => ?_
  split
  next => exact clientProcessData_respects frame packet
  next => exact respects_pure frame.refl _

theorem processFrame_respects (frame : ReceiveFrame rel) (packet : Packet) (last : Bool) :
    Respects rel (processFrame packet last) := by
  refine respects_bind frame.trans (fun client => frame.pull client _ rfl) fun _ => ?_
  refine respects_bind frame.trans (validateReceivedData_respects frame packet) fun code => ?_
  exact respects_bind frame.trans (fun client => frame.pull client _ rfl)
    fun _ => respects_pure frame.refl code

theorem receivedFrames_respects (frame : ReceiveFrame rel) (buffer : Bytes)
    (length frames offset : Nat) (code : Code) :
    Respects rel (receivedFrames buffer length frames offset code) := by
  induction frames generalizing offset code with
  | zero => exact respects_pure frame.refl _
  | succ frames ih =>
    rw [receivedFrames]
    split
    next => exact respects_bind frame.trans (processFrame_respects frame _ _) fun next => ih _ next
    next => exact respects_pure frame.refl _

theorem clientReceivedData_respects (frame : ReceiveFrame rel) (buffer : Bytes) (length : Nat) :
    Respects rel (clientReceivedData buffer length) := by
  unfold clientReceivedData
  split
  next => exact respects_pure frame.refl _
  next =>
    refine respects_bind frame.trans (setControl_respects frame.toFrame _) fun _ => ?_
    refine respects_bind frame.trans (respects_observe frame.refl _) fun first => ?_
    split
    next =>
      refine respects_bind frame.trans (setControl_respects frame.toFrame _) fun _ => ?_
      refine respects_bind frame.trans (fun client => frame.pull client _ rfl) fun _ => ?_
      refine respects_bind frame.trans (onControl_respects frame.toFrame _) fun code => ?_
      exact respects_bind frame.trans (fun client => frame.pull client _ rfl)
        fun _ => respects_pure frame.refl code
    next => exact receivedFrames_respects frame _ _ _ _ _

theorem receiveDataAndValidateResponse_respects (frame : ReceiveFrame rel) :
    Respects rel receiveDataAndValidateResponse := by
  unfold receiveDataAndValidateResponse
  refine respects_bind frame.trans (receiveData_respects frame.toSendFrame 4096) fun received => ?_
  split
  split
  next => exact clientReceivedData_respects frame _ _
  next => exact respects_pure frame.refl _

end Frames

end Client

end Hes
