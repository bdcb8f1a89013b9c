import Hes.Fuota.Frames

set_option autoImplicit false

namespace Hes.Fuota

open Prog Text Mqtt

structure SocketVars where
  recvbuf : Bytes := []
  rfRetryCount : Nat := 0
  deriving DecidableEq, Repr

def rfMaxRetries : Nat := 3

/-- The first frame of the buffer and the bytes behind it, when it is complete. -/
def firstFrame (recvbuf : Bytes) : Option (Bytes × Bytes) :=
  let frameLen := (byteAt recvbuf 1).toNat + 1
  if recvbuf.length < 2 || recvbuf.length < frameLen then none
  else some (recvbuf.take frameLen, recvbuf.drop frameLen)

/-- The last byte is 0, and the command or the reply carries a code of the sequence. -/
def validResponse (txBuffer frame : Bytes) : Bool :=
  let cmdLen := (byteAt txBuffer 1).toNat + 1
  let lastByte := byteAt frame (frame.length - 1)
  let cmdOpcode := byteAt txBuffer (cmdLen - 2)
  let respOpcode := byteAt frame (frame.length - 2)
  let serialCmdOpcode := byteAt txBuffer (cmdLen - 1)
  cmdLen ≥ 2 && lastByte = 0x00 &&
    ((cmdOpcode = 0x9B || cmdOpcode = 0x9D) ||
      ((respOpcode = 0x02 || respOpcode = 0x01) &&
        (serialCmdOpcode = 0x01 || serialCmdOpcode = 0x02)))

/-- The previous command again. -/
def resend (vars : SocketVars) : Prog Fuota (Turn SocketVars Bool) := do
  if <- writeFrame then return .again { vars with rfRetryCount := vars.rfRetryCount + 1 }
  else return .done false

def handleFrame (frame : Bytes) (vars : SocketVars) : Prog Fuota (Turn SocketVars Bool) := do
  let code := byteAt frame 2
  let status := byteAt frame (frame.length - 1)
  if (code = 0x09 || code = 0x03) && (status = 0x06 || status = 0x07) then resend vars
  else if code = 0x04 || code = 0x82 then
    return .done (validResponse (<- observe fun fuota => fuota.radio.clientTxBuffer) frame)
  else return .done false

/-- Complete frames are handled one after another; the socket is read when none is left. -/
def socketTurn (vars : SocketVars) : Prog Fuota (Turn SocketVars Bool) := do
  match firstFrame vars.recvbuf with
  | some (frame, rest) => handleFrame frame { vars with recvbuf := rest }
  | none =>
    if vars.rfRetryCount < rfMaxRetries then
      match <- nextArrival with
      | .failed => return .done false
      | .timedOut => resend vars
      | .data bytes =>
        if bytes = [] then return .done false
        else return .again { vars with recvbuf := vars.recvbuf ++ bytes }
    else return .done false

def waitForSocketResponse : Prog Fuota Bool := do
  loop socketTurn (<- observe fun fuota => fuota.inputs.fuel) {}

/-- The command of a step until it is answered, three times at most. -/
def executeStep : Nat -> Prog Fuota Bool
  | 0 => return false
  | attempts + 1 => do
    if <- buildAndStoreFuotaCmd then
      if <- waitForSocketResponse then
        let radio <- observe fun fuota => fuota.radio
        note (.acknowledged (bytesToHexString radio.currentFuotaTargetMac) radio.built.command)
        return true
      else executeStep attempts
    else executeStep attempts

/-- The steps from `networkSilenceState` on, up to the first that fails. -/
def executeFuotasequence : List Nat -> Prog Fuota Bool
  | [] => return true
  | state :: rest => do
    setMachine fun machine => { machine with networkSilenceState := state }
    if <- executeStep 3 then executeFuotasequence rest else return false

def sequenceSteps : List Nat := [atFuotaEnable, atFuotaModeEntry, atEnableFlashsave, atEnableFlashexit]

def executeFuotasequenceToSilenceNetwork : Prog Fuota Bool := executeFuotasequence sequenceSteps

def executeFuotaSequenceForUnsilenceNetwork : Prog Fuota Bool := executeFuotasequence sequenceSteps

def maxRouteHops : Nat := 10

def computeRouterPath (routes : List MeterVitalInfo) (targetMac : Bytes) : Option RouterPath :=
  (routes.find? fun entry => entry.meterMacAddress = targetMac).map fun entry =>
    { paths := slice entry.routePath 0 (entry.hopCount.toNat * 4), hopCount := entry.hopCount }

/-- The leaf becomes the current target; its route too, of which ten hops are copied. -/
def addressLeaf (leaf : MeterVitalInfo) : Prog Fuota Bool := do
  setRadio fun radio => { radio with currentFuotaTargetMac := leaf.meterMacAddress }
  let routes <- observe fun fuota => fuota.radio.gatewayRouteInfo
  match computeRouterPath routes leaf.meterMacAddress with
  | none => return false
  | some route =>
    let copied := slice route.paths 0 (min route.hopCount.toNat maxRouteHops * 4)
    setRadio fun radio => { radio with
      currentFuotaRoute := { paths := copied, hopCount := route.hopCount } }
    return true

def sendFuotaEnableToLeaf (leaf : MeterVitalInfo) : Prog Fuota Bool := do
  if <- addressLeaf leaf then
    setMachine fun machine => { machine with useAlternateFuotaRoute := true }
    let success <- executeFuotasequenceToSilenceNetwork
    setMachine fun machine => { machine with useAlternateFuotaRoute := false }
    return success
  else return false

def sendFuotaDisableToLeafNodes (leaf : MeterVitalInfo) : Prog Fuota Bool := do
  if <- addressLeaf leaf then
    setMachine fun machine => { machine with useAlternateFuotarouteDisable := true }
    let success <- executeFuotaSequenceForUnsilenceNetwork
    setMachine fun machine => { machine with useAlternateFuotarouteDisable := false }
    return success
  else return false

/-- Whether another node has the last four bytes of the address among its hops. -/
def usedAsHop (address : Bytes) (other : MeterVitalInfo) : Bool :=
  (List.range other.hopCount.toNat).any fun hop => slice other.routePath (4 * hop) 4 = address

def detectLeafNodes (meters : List MeterVitalInfo) : List MeterVitalInfo :=
  (meters.zipIdx.filter fun (node, index) =>
    !(meters.zipIdx.any fun (other, place) =>
      place ≠ index && usedAsHop (slice node.meterMacAddress 4 4) other)).map Prod.fst

def filterOutOnDemand (leaves : List MeterVitalInfo) (ondemandMac : Bytes) : List MeterVitalInfo :=
  leaves.filter fun leaf => leaf.meterMacAddress ≠ ondemandMac

def enableLeaf (leaf : MeterVitalInfo) : Prog Fuota Unit := do
  if <- sendFuotaEnableToLeaf leaf then insertUpdateUnsilencedMeter leaf.meterMacAddress 1 leaf.hopCount
  else insertUpdateUnsilencedMeter leaf.meterMacAddress 0 leaf.hopCount

def disableLeaf (leaf : MeterVitalInfo) : Prog Fuota Unit := do
  if <- sendFuotaDisableToLeafNodes leaf then
    insertUpdateUnsilencedMeter leaf.meterMacAddress 0 leaf.hopCount
  else insertUpdateUnsilencedMeter leaf.meterMacAddress 1 leaf.hopCount

def forEach {A : Type} (body : A -> Prog Fuota Unit) : List A -> Prog Fuota Unit
  | [] => return ()
  | item :: rest => do
    body item
    forEach body rest

/-- The nodes under the gateway; a failing query frees the object that asked. -/
def undernodes : Prog Fuota (List MeterVitalInfo) := do
  match <- getGatewayUndernodes with
  | some meters => return meters
  | none => waiting

def setGatewayRouteInfo (meters : List MeterVitalInfo) : Prog Fuota Unit :=
  setRadio fun radio => { radio with gatewayRouteInfo := meters }

/-- The packet type of the frame in the buffer. -/
def setPacketType (packetType : UInt8) : Prog Fuota Unit :=
  setRadio fun radio => { radio with clientTxBuffer := overwrite radio.clientTxBuffer 2 [packetType] }

/-- Every leaf but the target. -/
def visitLeaves (body : MeterVitalInfo -> Prog Fuota Unit) (meters : List MeterVitalInfo)
    (ondemandMac : Bytes) : Prog Fuota Unit := do
  setGatewayRouteInfo meters
  forEach body (filterOutOnDemand (detectLeafNodes meters) ondemandMac)

/-- False for an empty node list; else every leaf was tried. -/
def enableNetwork (ondemandMac : Bytes) : Prog Fuota Bool := do
  let meters <- undernodes
  if meters = [] then return false
  else
    visitLeaves enableLeaf meters ondemandMac
    return true

def processRffuotaDisableSequence (ondemandMac : Bytes) : Prog Fuota Unit := do
  let meters <- undernodes
  if meters = [] then return ()
  else
    visitLeaves disableLeaf meters ondemandMac
    setState .gatewayPathUnsilence

def prepareCommandsToUnsilenceTheNetworkForFuota : Prog Fuota Unit := do
  setGatewayRouteInfo (<- undernodes)
  setPacketType meshCommissionPacketType
  processRffuotaDisableSequence (<- observe fun fuota => fuota.radio.currentFuotaTargetMac)

/-- A step without a command of its own sends nothing. -/
def prepareToUnsilenceTheGatewayNode : Prog Fuota Unit := do
  match unsilenceCommand (<- observe fun fuota => fuota.machine.fuotaGatewayUnsilenceState) with
  | some command =>
    framePmeshOtaCmdHeader meshCommissionPacketType command
    let _ <- buildAndStoreFuotaCmd
  | none => return ()

/-- The gateway is the target when it has no nodes: its short address goes into the target's. -/
def targetTheGateway : Prog Fuota Unit :=
  setRadio fun radio => { radio with
    currentFuotaTargetMac := overwrite radio.currentFuotaTargetMac 4 radio.dcuShortAddr }

/-- `cansend_fuota_next_command` in the state NETWORK_UNSILENCE. -/
def sendNetworkUnsilence : Prog Fuota Unit := do
  if <- nodelistEmpty then
    targetTheGateway
    setState .gatewayPathUnsilence
    prepareToUnsilenceTheGatewayNode
  else prepareCommandsToUnsilenceTheNetworkForFuota

/-- An exception of `stoi` ends the thread. -/
def orStop {A : Type} (result : Result A) : Prog Fuota A :=
  match result with
  | .ok value => return value
  | .error _ => waiting

def parseAndUpdateFuotaRequest (cmd : Bytes) : Prog Fuota Bool := do
  let parts := split colon cmd
  if parts.length < 7 then return false
  else
    let requestId <- orStop (stoi (part parts 0))
    setClient fun client => { client with
      requestId := requestId, firmwarePath := part parts 5, firmwareFilename := part parts 6 }
    setFirmware fun firmware => { firmware with firmwareFile := part parts 6 }
    return true

/-- Another command is taken up, unless it cannot be parsed. -/
def continueWith (command : Bytes) : Prog Fuota Unit := do
  setMachine fun machine => { machine with cmdBytes := command }
  if <- parseAndUpdateFuotaRequest command then
    note (.dequeued command)
    setMachine fun machine => { machine with waitingForResponse := false }
    setState .openFile
  else return ()

def handleFuotaCompletion : Prog Fuota Unit := do
  match <- dequeueFuota with
  | some command => continueWith command
  | none =>
    setState .networkUnsilence
    sendNetworkUnsilence

end Hes.Fuota
