import Hes.Fuota.Upload
import Hes.Lib.Transition

set_option autoImplicit false

namespace Hes.Fuota

open Prog Text Mqtt Transition

/-- One bit of the table entry: `k` collects the remainder, `c` holds the bits not yet used. -/
def crcBit (kc : UInt16 × UInt16) : UInt16 × UInt16 :=
  let (k, c) := kc
  (if (k ^^^ c) &&& 0x0001 ≠ 0 then (k >>> 1) ^^^ 0xA001 else k >>> 1, c >>> 1)

def crcEntry (index : Nat) : UInt16 := (crcBit^[8] (0, UInt16.ofNat index)).1

def initCrc16Tab : List UInt16 := (List.range 256).map crcEntry

def crc16Update (crcTab16 : List UInt16) (data : Bytes) (crc : UInt16) : UInt16 :=
  data.foldl (fun crc byte =>
    (crc >>> 8) ^^^ crcTab16.getD ((crc ^^^ byte.toUInt16) &&& 0xFF).toNat 0) crc

/-- The flag is a static variable, the table a member of the object. -/
def ensureCrcTable : Prog Fuota Unit :=
  update fun fuota =>
    if fuota.statics.crcTab16Init then fuota
    else { fuota with
      statics := { fuota.statics with crcTab16Init := true }
      crc := { fuota.crc with crcTab16 := initCrc16Tab } }

def resetCrc : Prog Fuota Unit := setCrc fun crc => { crc with crc := 0 }

/-- The chunks of the file, until none is left or a read gives nothing. -/
def crcTurn (remaining : Nat) : Prog Fuota (Turn Nat Bool) := do
  if remaining > 0 then
    let sectorValue <- observe fun fuota => fuota.firmware.sectorValue
    let chunk <- fread (if remaining > sectorValue then sectorValue else remaining)
    if chunk = [] then return .done false
    else
      setCrc fun crc => { crc with crc := crc16Update crc.crcTab16 chunk crc.crc }
      return .again (remaining - chunk.length)
  else return .done true

def calculateCrcForTargetNode : Prog Fuota Unit := do
  ensureCrcTable
  let fuota <- observe id
  if fuota.crc.rfFuotaCrcCalculated then
    setCrc fun crc => { crc with value := crc.rfFuotaCrcValue }
  else if fuota.firmware.foutaReadFd.isNone || fuota.firmware.totalFirmwaresize = 0 then return ()
  else
    fseek 0
    if <- loop crcTurn fuota.inputs.fuel fuota.firmware.totalFirmwaresize then
      setCrc fun crc => { crc with
        value := crc.crc, rfFuotaCrcValue := crc.crc, rfFuotaCrcCalculated := true }
    else return ()

def prepareGatewaySilenceCmd : Prog Fuota Unit := do
  match silenceCommand (<- observe fun fuota => fuota.machine.fuotaGatewaySilenceState) with
  | some command =>
    framePmeshOtaCmdHeader meshCommissionPacketType command
    let _ <- buildAndStoreFuotaCmd
  | none => return ()

def sendToTarget (packetType : UInt8) (command : Bytes) : Prog Fuota Unit := do
  framePmeshFuotaCmdHeaderForTargetNode packetType command
  let _ <- buildAndStoreFuotaCmd

def prepareTargetnodeSilenceCmd : Prog Fuota Unit := do
  match silenceCommand (<- observe fun fuota => fuota.machine.fuotaTargetnodeSilenceState) with
  | some command => sendToTarget meshCommissionPacketType command
  | none => return ()

def prepareGetSectorReadForTargetNode : Prog Fuota Unit := sendToTarget fuotaDataQuery sectorRead

/-- Firmware size, page count and subpage count behind the first four bytes. -/
def fwInfo (firmware : Firmware) : Bytes :=
  let size := firmware.totalFirmwaresize
  let pages := maxPageCount size firmware.sectorValue
  let info := overwrite initiateFwInfo 4 [UInt8.ofNat (size / 2 ^ 24), UInt8.ofNat (size / 2 ^ 16),
    UInt8.ofNat (size / 2 ^ 8), UInt8.ofNat size, UInt8.ofNat (pages / 256), UInt8.ofNat pages,
    UInt8.ofNat (maxSubPageCount firmware.sectorValue firmware.session.headerLen)]
  overwrite info 11 [calculateChecksum info 0 11]

def prepareFwimageOfSectorCountCmd : Prog Fuota Unit := do
  sendToTarget fuotaDataQuery (fwInfo (<- observe fun fuota => fuota.firmware))

def prepareFlashEraseCommandToTargetNode : Prog Fuota Unit := sendToTarget fuotaDataQuery eraseFlashArea

/-- The CRC behind the first four bytes, then the checksum. -/
def verifyCommand (crc : UInt16) : Bytes :=
  let command := overwrite verifyImage 4 [(crc >>> 8).toUInt8, crc.toUInt8]
  overwrite command 6 [calculateChecksum command 0 6]

def prepareAndCalculateAndVerifyCrcValue : Prog Fuota Unit := do
  calculateCrcForTargetNode
  sendToTarget fuotaDataQuery (verifyCommand (<- observe fun fuota => fuota.crc.value))

def prepareAndGetTheFirmwareActivateCommand : Prog Fuota Unit := sendToTarget fuotaDataQuery activateRead

def prepareAndGetTheFirmwareActivateStatusCommand : Prog Fuota Unit :=
  sendToTarget fuotaDataQuery activateStatusRead

def prepareToReadTheFirmwareVersionForComparision : Prog Fuota Unit :=
  sendToTarget meshCommissionPacketType rfInternalFw

def prepareToUnsilenceTheTargetNode : Prog Fuota Unit := do
  match unsilenceCommand (<- observe fun fuota => fuota.machine.fuotaTargetnodeUnsilenceState) with
  | some command => sendToTarget meshCommissionPacketType command
  | none => return ()

def prepareSilenceTheEntireNetworkForFuota : Prog Fuota Unit := do
  setGatewayRouteInfo (<- undernodes)
  setPacketType meshCommissionPacketType
  if <- enableNetwork ((<- observe fun fuota => fuota.radio.ondemandMacAddr).take 8) then
    setState .sectorRead
    prepareGetSectorReadForTargetNode
  else return ()

/-- `cansend_fuota_next_command` in the state NETWORK_SILENCE. -/
def sendNetworkSilence : Prog Fuota Unit := do
  if <- nodelistEmpty then
    targetTheGateway
    setState .sectorRead
    prepareGetSectorReadForTargetNode
  else prepareSilenceTheEntireNetworkForFuota

def fuotaFolder : Bytes := ascii "/FUOTA/RF/"

/-- The content of the file at the path, where it can be opened. -/
def fopen (path : Bytes) : Prog Fuota (Option Bytes) := fun fuota =>
  let content := if fuota.inputs.fopen fuota.counters.fopens then fuota.inputs.files path else none
  (some content, { fuota with
    counters := { fuota.counters with fopens := fuota.counters.fopens + 1 } })

def keepOpen (content : Bytes) : Prog Fuota Unit :=
  setFirmware fun firmware => { firmware with
    foutaReadFd := some { content := content }
    totalFirmwaresize := content.length % 2 ^ 32 }

def keepNone : Prog Fuota Unit := setFirmware fun firmware => { firmware with foutaReadFd := none }

/-- The file is there: it is opened, and the gateway asked to be silent. -/
def openFirmware (firmwarePath requestedFilename : Bytes) : Prog Fuota (Option Bytes) := do
  match <- fopen firmwarePath with
  | some content =>
    keepOpen content
    setClient fun client => { client with
      firmwarePath := firmwarePath, firmwareFilename := requestedFilename }
    note (.opened firmwarePath)
    setState .gatewayPathSilence
    prepareGatewaySilenceCmd
    return some firmwarePath
  | none =>
    keepNone
    updateStatus 1 1
    return none

/-- The path of the opened file, where every check is passed. -/
def openRequestedFirmware (requestedFilename : Bytes) : Prog Fuota (Option Bytes) := do
  if requestedFilename = [] then
    updateStatus 2 1
    return none
  else
    let fuota <- observe id
    let dcuFolder := fuota.inputs.currentPath ++ fuotaFolder ++ fuota.client.gatewayId
    let firmwarePath := dcuFolder ++ ascii "/" ++ requestedFilename
    setFirmware fun firmware => { firmware with dcuFolder := dcuFolder, firmwarePath := firmwarePath }
    if (fuota.inputs.files firmwarePath).isNone then
      updateStatus 0 1
      return none
    else openFirmware firmwarePath requestedFilename

/-- `cansend_fuota_next_command` in the state OPEN_FILE: silenced also without a file. -/
def sendOpenFile : Prog Fuota Unit := do
  let _ <- openRequestedFirmware (<- observe fun fuota => fuota.firmware.firmwareFile)
  setState .gatewayPathSilence

def cansendFuotaNextCommand : Prog Fuota Unit := do
  match <- getState with
  | .openFile => sendOpenFile
  | .gatewayPathSilence => prepareGatewaySilenceCmd
  | .targetNodeSilence => prepareTargetnodeSilenceCmd
  | .networkSilence => sendNetworkSilence
  | .sectorRead => prepareGetSectorReadForTargetNode
  | .fwimageOfSectorCount => prepareFwimageOfSectorCountCmd
  | .eraseFlash => prepareFlashEraseCommandToTargetNode
  | .fwImageTransfer => fuotaUploadingProcess
  | .fwImageEndofPageTransfer => prepareAndGetTheEndofImageTransfer
  | .newFwimageCrcCalculate => prepareAndCalculateAndVerifyCrcValue
  | .activateNewFwimage => prepareAndGetTheFirmwareActivateCommand
  | .sendActivateCmd => prepareAndGetTheFirmwareActivateStatusCommand
  | .readAndCompareFwVersion => prepareToReadTheFirmwareVersionForComparision
  | .networkUnsilence => sendNetworkUnsilence
  | .targetNodeUnsilence => prepareToUnsilenceTheTargetNode
  | .gatewayPathUnsilence => prepareToUnsilenceTheGatewayNode
  | .rollbackToNormalCommMode => setState .rollbackToNormalCommMode
  | .lastUpdateFwimageOfSectorcount | .idle | .unset => return ()

def headerLenWithoutPath : Nat := 13 + 4

/-- False where the file of the request cannot be opened; a sector value of 0 is divided by. -/
def dynamicFuotaCalculate : Prog Fuota Bool := do
  if (<- observe fun fuota => fuota.firmware.dcuFolder) = [] then return false
  else
    updateStatus 8 1
    let fuota <- observe id
    let file := fuota.client.firmwarePath
    setFirmware fun firmware => { firmware with
      session := { headerLen := headerLenWithoutPath, file := file } }
    if file = [] then return false
    else
      match <- fopen file with
      | some content =>
        keepOpen content
        note (.opened file)
        if fuota.firmware.sectorValue = 0 then waiting else return true
      | none =>
        keepNone
        return false

inductive TimeoutResult where
  | retrySameRoute
  | retryAlternateRoute
  | nextFromQueue
  | terminate
  deriving DecidableEq, Repr

def decideTimeoutAction : Prog Fuota TimeoutResult := do
  let machine <- observe fun fuota => fuota.machine
  if !machine.cntxActive then return .terminate
  else if machine.cntx.retryCount < machine.cntx.maxRetries then
    setCntx fun cntx => { cntx with retryCount := cntx.retryCount + 1 }
    return .retrySameRoute
  else if machine.cntx.alternateRetry < machine.cntx.alternateMaxcnt then
    setCntx fun cntx => { cntx with alternateRetry := cntx.alternateRetry + 1 }
    return .retryAlternateRoute
  else return .nextFromQueue

def stopRetryContext : Prog Fuota Unit := setMachine fun machine => { machine with cntxActive := false }

/-- The command is kept, but no member of the request is read from it. -/
def takeCommand (command : Bytes) : Prog Fuota Unit := do
  setMachine fun machine => { machine with cmdBytes := command }
  note (.dequeued command)
  setState .openFile

def commandResponseTimeoutAtFuota : Prog Fuota Unit := do
  match <- decideTimeoutAction with
  | .retrySameRoute =>
    let _ <- buildAndStoreFuotaCmd
  | .retryAlternateRoute =>
    let command <- observe fun fuota => fuota.radio.currentFuotaCommand
    prepareAlternateRouteRetry (some command) ((byteAt command 1).toNat + 1)
    let _ <- buildAndStoreFuotaCmd
  | .nextFromQueue =>
    stopRetryContext
    match <- dequeueFuota with
    | some command => takeCommand command
    | none => setState .networkUnsilence
  | .terminate =>
    stopRetryContext
    setState .rollbackToNormalCommMode

/-- Another command from the queue, else the state given. -/
def nextCommandOr (state : FuotaState) : Prog Fuota Unit := do
  match <- dequeueFuota with
  | some command => takeCommand command
  | none => setState state

section Replies

/-- `data[len - back]`. -/
def fromEnd (data : Bytes) (back : Nat) : UInt8 := byteAt data (data.length - back)

/-- A step of a sequence was done: last byte 0 behind one of its codes. -/
def stepDone (data : Bytes) : Bool :=
  fromEnd data 1 = 0x00 && (fromEnd data 2 = 0x9B || fromEnd data 2 = 0x9D ||
    fromEnd data 2 = 0x02 || fromEnd data 2 = 0x01)

/-- The reply that the handler of the state takes as a success. -/
def accepts (state : FuotaState) (data : Bytes) : Bool :=
  match state with
  | .sectorRead | .fwimageOfSectorCount | .eraseFlash | .lastUpdateFwimageOfSectorcount =>
    fromEnd data 2 = 0x00 && byteAt data 2 = 0x0A
  | .fwImageEndofPageTransfer =>
    byteAt data 2 = 0x0A && fromEnd data 2 = 0x00 && fromEnd data 3 = 0x01
  | .newFwimageCrcCalculate =>
    fromEnd data 4 = 0x00 && fromEnd data 6 = 0x0B && byteAt data 2 = 0x0A
  | .activateNewFwimage =>
    (fromEnd data 2 = 0x00 || fromEnd data 2 = 0x01) && fromEnd data 4 = 0x0F && byteAt data 2 = 0x0A
  | .sendActivateCmd => (fromEnd data 2 = 0x00 || fromEnd data 2 = 0x01) && byteAt data 2 = 0x0A
  | .gatewayPathSilence | .targetNodeSilence | .networkSilence | .readAndCompareFwVersion
  | .networkUnsilence | .targetNodeUnsilence | .gatewayPathUnsilence =>
    byteAt data 2 = commissionRespPacketType
  | .openFile | .fwImageTransfer | .rollbackToNormalCommMode | .idle | .unset => true

/-- The state goes on: its reply was accepted. -/
def proceed (next : FuotaState) : Prog Fuota Unit :=
  update fun fuota => { fuota with
    machine := { fuota.machine with ondemandFuotaState := next }
    log := fuota.log ++ [.accepted fuota.machine.ondemandFuotaState, .assigned next] }

/-- The success and the retry branch of most replies. -/
def succeed : Prog Fuota Unit := setMachine fun machine => { machine with
  waitingForResponse := false
  cntx := { machine.cntx with retryCount := 0, alternateRetry := 0 }
  useAlternateFuotaRoute := false }

def retryOr (limit : Nat) (retrying : Prog Fuota Unit) (given : Prog Fuota Unit) : Prog Fuota Unit := do
  if (<- observe fun fuota => fuota.machine.cntx.retryCount) < limit then
    setMachine fun machine => { machine with
      waitingForResponse := true
      cntx := { machine.cntx with retryCount := machine.cntx.retryCount + 1 } }
    retrying
  else
    given
    setMachine fun machine => { machine with
      waitingForResponse := false
      cntx := { machine.cntx with retryCount := 0 } }
    handleFuotaCompletion

/-- The node of the frame sent last acknowledged its command. -/
def acknowledge (node : Bytes) : Prog Fuota Unit := do
  note (.acknowledged node (<- observe fun fuota => fuota.radio.built.command))

def acknowledgeGateway : Prog Fuota Unit := do
  acknowledge (<- observe fun fuota => fuota.client.gatewayId)

def acknowledgeTarget : Prog Fuota Unit := do
  acknowledge (bytesToHexString (<- observe fun fuota => fuota.radio.currentFuotaTargetMac))

/-- A wrong packet type in a silence state. -/
def silenceFailed (state : FuotaState) (change : RetryContext -> RetryContext) : Prog Fuota Unit := do
  setState state
  setMachine fun machine => { machine with
    cntx := { change machine.cntx with alternateRetry := 0 }
    useAlternateFuotaRoute := false }
  commandResponseTimeoutAtFuota

/-- The file of a pending request, where the machine was resumed with one. -/
def openResumedFirmware : Prog Fuota Unit := do
  let fuota <- observe id
  if fuota.machine.resumeFuotaFlag then
    match <- openRequestedFirmware fuota.machine.resumeFileName with
    | some path => setMachine fun machine => { machine with resumeFwpath := path }
    | none => return ()
  else
    let _ <- openRequestedFirmware fuota.firmware.firmwareFile

def replyOpenFile : Prog Fuota Unit := do
  openResumedFirmware
  setState .gatewayPathSilence
  setMachine fun machine => { machine with fuotaGatewaySilenceState := atFuotaEnable }

def replyGatewayPathSilence (data : Bytes) : Prog Fuota Unit := do
  if accepts .gatewayPathSilence data then
    updateStatus 6 1
    if stepDone data then
      acknowledgeGateway
      let fuota <- observe id
      if fuota.machine.fuotaGatewaySilenceState < atEnableFlashexit then
        setMachine fun machine => { machine with
          fuotaGatewaySilenceState := machine.fuotaGatewaySilenceState + 1 }
      else
        insertUpdateUnsilencedMeter fuota.client.gatewayId 1 0
        if fuota.radio.routerPath.hopCount > 0 then setState .targetNodeSilence
        else setState .networkSilence
        setMachine fun machine => { machine with fuotaGatewaySilenceState := atFuotaEnable }
    else setState .gatewayPathSilence
  else
    silenceFailed .gatewayPathSilence fun cntx => { cntx with retryCount := cntx.retryCount + 1 }

def replyTargetNodeSilence (data : Bytes) : Prog Fuota Unit := do
  if accepts .targetNodeSilence data then
    acknowledgeTarget
    if (<- observe fun fuota => fuota.machine.fuotaTargetnodeSilenceState) < atEnableFlashexit then
      setMachine fun machine => { machine with
        fuotaTargetnodeSilenceState := machine.fuotaTargetnodeSilenceState + 1 }
    else
      setState .networkSilence
      setMachine fun machine => { machine with fuotaTargetnodeSilenceState := atFuotaEnable }
  else silenceFailed .targetNodeSilence fun cntx => { cntx with retryCount := 0 }

def replyNetworkSilence (data : Bytes) : Prog Fuota Unit := do
  if accepts .networkSilence data then
    acknowledgeTarget
    if (<- observe fun fuota => fuota.machine.networkSilenceState) < atEnableFlashexit then
      setMachine fun machine => { machine with networkSilenceState := machine.networkSilenceState + 1 }
    else setState .sectorRead
  else silenceFailed .networkSilence fun cntx => { cntx with retryCount := 0 }

def replySectorRead (data : Bytes) : Prog Fuota Unit := do
  if accepts .sectorRead data then
    note (.accepted .sectorRead)
    setFirmware fun firmware => { firmware with
      sectorValue := (fromEnd data 3).toNat * 256 + (fromEnd data 2).toNat }
    updateStatus 7 1
    succeed
    if <- dynamicFuotaCalculate then setState .fwimageOfSectorCount
    else
      let firmware <- observe fun fuota => fuota.firmware
      if firmware.session.file = [] || firmware.totalFirmwaresize = 0 then
        updateStatus 2 1
        setState .networkUnsilence
      else return ()
  else
    let retrying : Prog Fuota Unit := do
      setMachine fun machine => { machine with
        cntx := { machine.cntx with alternateRetry := 0 }
        useAlternateFuotaRoute := false }
      setState .sectorRead
    retryOr 3 retrying (return ())

def replyFwimageOfSectorCount (data : Bytes) : Prog Fuota Unit := do
  if accepts .fwimageOfSectorCount data then
    updateStatus 9 1
    succeed
    stopRetryContext
    proceed .eraseFlash
  else retryOr 3 (setState .fwimageOfSectorCount) (return ())

def replyEraseFlash (data : Bytes) : Prog Fuota Unit := do
  if accepts .eraseFlash data then
    updateStatus 10 1
    setMachine fun machine => { machine with
      cntx := { machine.cntx with retryCount := 0, alternateRetry := 0 }
      useAlternateFuotaRoute := false }
    proceed .fwImageTransfer
  else retryOr 3 (setState .eraseFlash) (return ())

/-- Whatever arrives in the middle of the upload is its end. -/
def replyFwImageTransfer : Prog Fuota Unit := do
  updateStatus 11 1
  setState .fwImageEndofPageTransfer

def replyLastUpdate (data : Bytes) : Prog Fuota Unit := do
  updateStatus 12 1
  if accepts .lastUpdateFwimageOfSectorcount data then
    succeed
    setState .fwImageEndofPageTransfer
  else setState .lastUpdateFwimageOfSectorcount

def replyFwImageEndofPageTransfer (data : Bytes) : Prog Fuota Unit := do
  if accepts .fwImageEndofPageTransfer data then
    updateStatus 13 1
    succeed
    proceed .newFwimageCrcCalculate
  else retryOr 3 (setState .fwImageEndofPageTransfer) (return ())

def replyNewFwimageCrcCalculate (data : Bytes) : Prog Fuota Unit := do
  if accepts .newFwimageCrcCalculate data then
    updateStatus 14 1
    resetCrc
    setMachine fun machine => { machine with
      waitingForResponse := false
      cntx := { machine.cntx with retryCount := 0 } }
    setCrc fun crc => { crc with rfFuotaCrcCalculated := false }
    proceed .activateNewFwimage
  else
    -- the cached value stays valid where the verification is given up
    let given : Prog Fuota Unit := do
      updateStatus 14 0
      resetCrc
    retryOr 2 (setState .newFwimageCrcCalculate) given

def replyActivateNewFwimage (data : Bytes) : Prog Fuota Unit := do
  if accepts .activateNewFwimage data then
    updateStatus 15 1
    succeed
    proceed .sendActivateCmd
  else
    let retrying : Prog Fuota Unit := do
      updateStatus 16 1
      setState .activateNewFwimage
    retryOr 3 retrying (updateStatus 16 0)

def replySendActivateCmd (data : Bytes) : Prog Fuota Unit := do
  if accepts .sendActivateCmd data then
    updateStatus 17 1
    succeed
    proceed .readAndCompareFwVersion
  else retryOr 3 (setState .activateNewFwimage) (updateStatus 17 0)

/-- The client's hop count becomes 1 where it was 0. -/
def comparisionOfFirmware : Prog Fuota Unit :=
  setClient fun client =>
    { client with hopCount := if client.hopCount = 0 then 1 else client.hopCount }

def replyReadAndCompareFwVersion (data : Bytes) : Prog Fuota Unit := do
  if accepts .readAndCompareFwVersion data then
    note (.accepted .readAndCompareFwVersion)
    updateStatus 18 1
    succeed
    comparisionOfFirmware
    handleFuotaCompletion
  else retryOr 3 (setState .readAndCompareFwVersion) (updateStatus 18 0)

/-- The step of the gateway's sequence counts the replies of all three unsilence states. -/
def countUnsilenceStep (finished : Prog Fuota Unit) : Prog Fuota Unit := do
  if (<- observe fun fuota => fuota.machine.fuotaGatewayUnsilenceState) < atEnableFlashexit then
    setMachine fun machine => { machine with
      fuotaGatewayUnsilenceState := machine.fuotaGatewayUnsilenceState + 1 }
  else finished

def finishUnsilence (next : FuotaState) : Prog Fuota Unit := do
  if (<- observe fun fuota => fuota.radio.routerPath.hopCount) > 0 then setState next
  else setState .networkUnsilence
  setMachine fun machine => { machine with fuotaGatewayUnsilenceState := atFuotaEnable }

def replyNetworkUnsilence (data : Bytes) : Prog Fuota Unit := do
  if accepts .networkUnsilence data then
    updateStatus 20 1
    if stepDone data then
      acknowledgeTarget
      countUnsilenceStep (finishUnsilence .targetNodeUnsilence)
    else setState .targetNodeUnsilence
  else if byteAt data 2 = meshCommissionPacketType then updateStatus 20 0
  else setState .targetNodeUnsilence

def replyTargetNodeUnsilence (data : Bytes) : Prog Fuota Unit := do
  if accepts .targetNodeUnsilence data then
    if stepDone data then
      acknowledgeTarget
      countUnsilenceStep (finishUnsilence .gatewayPathUnsilence)
    else setState .gatewayPathUnsilence
  else setState .targetNodeUnsilence

def replyGatewayPathUnsilence (data : Bytes) : Prog Fuota Unit := do
  if accepts .gatewayPathUnsilence data then
    if stepDone data then
      acknowledgeGateway
      let finished : Prog Fuota Unit := do
        insertUpdateUnsilencedMeter (<- observe fun fuota => fuota.client.gatewayId) 0 0
        nextCommandOr .rollbackToNormalCommMode
      countUnsilenceStep finished
    else nextCommandOr .rollbackToNormalCommMode
  else if byteAt data 2 = meshCommissionPacketType then return ()
  else nextCommandOr .rollbackToNormalCommMode

/-- True when the session is over and no command follows. -/
def replyRollback : Prog Fuota Bool := do
  match <- dequeueFuota with
  | some command =>
    takeCommand command
    return false
  | none =>
    setClient fun client => { client with timeoutState := .timerNone }
    return true

def replyIn (state : FuotaState) (data : Bytes) : Prog Fuota Unit :=
  match state with
  | .openFile => replyOpenFile
  | .gatewayPathSilence => replyGatewayPathSilence data
  | .targetNodeSilence => replyTargetNodeSilence data
  | .networkSilence => replyNetworkSilence data
  | .sectorRead => replySectorRead data
  | .fwimageOfSectorCount => replyFwimageOfSectorCount data
  | .eraseFlash => replyEraseFlash data
  | .fwImageTransfer => replyFwImageTransfer
  | .lastUpdateFwimageOfSectorcount => replyLastUpdate data
  | .fwImageEndofPageTransfer => replyFwImageEndofPageTransfer data
  | .newFwimageCrcCalculate => replyNewFwimageCrcCalculate data
  | .activateNewFwimage => replyActivateNewFwimage data
  | .sendActivateCmd => replySendActivateCmd data
  | .readAndCompareFwVersion => replyReadAndCompareFwVersion data
  | .networkUnsilence => replyNetworkUnsilence data
  | .targetNodeUnsilence => replyTargetNodeUnsilence data
  | .gatewayPathUnsilence => replyGatewayPathUnsilence data
  | .rollbackToNormalCommMode | .idle | .unset => return ()

end Replies

def clientProcessRfFuotaData (data : Bytes) : Prog Fuota Unit := do
  let state <- getState
  if state = .rollbackToNormalCommMode then
    if <- replyRollback then return () else cansendFuotaNextCommand
  else
    replyIn state data
    cansendFuotaNextCommand

/-- `TIMER_FUOTA_RESPONSE` of `poll_timeout_handler`. -/
def pollTimeoutHandler : Prog Fuota Unit := do
  let machine <- observe fun fuota => fuota.machine
  let timeoutState <- observe fun fuota => fuota.client.timeoutState
  if timeoutState ≠ .timerFuotaResponse || !machine.waitingForResponse then return ()
  else if machine.cntx.retryCount < machine.cntx.maxRetries then
    setCntx fun cntx => { cntx with retryCount := cntx.retryCount + 1 }
    let _ <- buildAndStoreFuotaCmd
  else if machine.cntx.alternateRetry < machine.cntx.alternateMaxcnt then
    setMachine fun machine => { machine with
      cntx := { machine.cntx with
        retryCount := 0, alternateRetry := machine.cntx.alternateRetry + 1 }
      useAlternateFuotaRoute := true }
    let payloadLen := (byteAt (<- observe fun fuota => fuota.radio.clientTxBuffer) 1).toNat + 1
    let state <- getState
    if state = .fwImageTransfer || state = .fwimageOfSectorCount then
      prepareAlternateSamerouteRetry none payloadLen
    else prepareAlternateRouteRetry none payloadLen
    let _ <- buildAndStoreFuotaCmd
  else
    setMachine fun machine => { machine with
      waitingForResponse := false
      useAlternateFuotaRoute := false
      cntx := { machine.cntx with retryCount := 0, alternateRetry := 0 } }
    note (.updated (<- observe fun fuota => fuota.client.requestId) 3 0)
    nextCommandOr .networkSilence

/-- The queue without the request, where it is at the front. -/
def withoutRequest (pid : Int) (queue : List Bytes) : List Bytes :=
  match queue with
  | front :: rest =>
    let parts := split colon front
    if pid ≥ 0 && parts ≠ [] && stoi (part parts 0) = .ok pid then rest else queue
  | [] => []

/-- The request a status update found to be over leaves the front of the queue. -/
def dropCompleted : Prog Fuota Unit := do
  let machine <- observe fun fuota => fuota.machine
  if machine.pendingTerminalComplete then
    setClient fun client => { client with
      rfMeterFuota := withoutRequest machine.pendingTerminalRequestId client.rfMeterFuota }
    setMachine fun machine => { machine with
      pendingTerminalComplete := false, pendingTerminalRequestId := -1 }

def processFuotaQueue : Prog Fuota Unit := do
  dropCompleted
  match <- dequeueFuota with
  | none => setState .rollbackToNormalCommMode
  | some command =>
    setMachine fun machine => { machine with cmdBytes := command }
    let parts := split colon command
    if parts.length < 7 then return ()
    else
      let requestId <- orStop (stoi (part parts 0))
      let hopCount <- orStop (stoi (part parts 2))
      setClient fun client => { client with requestId := requestId, hopCount := hopCount }
      setFirmware fun firmware => { firmware with
        firmwarePath := part parts 5, firmwareFile := part parts 6 }
      note (.dequeued command)
      setState .openFile
      cansendFuotaNextCommand

/-- With the path and the name of a pending request, when the gateway connects again. -/
def resumeRfFuotaPendingStateProcess (resumeFwpath resumeFileName : Bytes) : Prog Fuota Unit := do
  let fuota <- observe id
  let path := resumeFwpath ++ ascii "/" ++ resumeFileName
  let failed : Prog Fuota Unit := setMachine fun machine => { machine with resumeFuotaFlag := false }
  setMachine fun machine => { machine with
    resumeFwpath := resumeFwpath, resumeFileName := resumeFileName, resumeFuotaFlag := true }
  if resumeFileName = [] || (fuota.inputs.files path).isNone then failed
  else
    match <- fopen path with
    | some content =>
      keepOpen content
      note (.opened path)
      setState .openFile
      cansendFuotaNextCommand
    | none =>
      keepNone
      failed

/-- `is_valid_packet` for a packet that is not complete. -/
def normalCommunication : Prog Fuota Unit := do
  if (<- getState) = .rollbackToNormalCommMode then
    setClient fun client => { client with timeoutState := .timerNone }
    setState .idle
  else return ()

def maxFuotaQueueSize : Nat := 500

def enqueueFuota (command : Bytes) : Prog Fuota Unit :=
  setClient fun client =>
    let queue := client.rfMeterFuota
    let kept := if queue.length ≥ maxFuotaQueueSize then queue.tail else queue
    { client with rfMeterFuota := kept ++ [command] }

def cancelFuota (ids : List Bytes) : Prog Fuota Unit :=
  setClient fun client => { client with
    rfMeterFuota := client.rfMeterFuota.filter fun command => part (explode colon command) 0 ∉ ids }

inductive Action where
  | queue
  | reply (data : Bytes)
  | pollTimeout
  | packet
  | resume (path name : Bytes)
  | enqueue (command : Bytes)
  | cancel (ids : List Bytes)
  deriving DecidableEq, Repr

def perform : Action -> Prog Fuota Unit
  | .queue => processFuotaQueue
  | .reply data => clientProcessRfFuotaData data
  | .pollTimeout => pollTimeoutHandler
  | .packet => normalCommunication
  | .resume path name => resumeRfFuotaPendingStateProcess path name
  | .enqueue command => enqueueFuota command
  | .cancel ids => cancelFuota ids

/-- The state a step reaches, also where the thread does not come back from it. -/
def step : Step Fuota Action := fun fuota action => some (perform action fuota).2

end Hes.Fuota
