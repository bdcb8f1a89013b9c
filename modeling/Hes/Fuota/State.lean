import Hes.Client

set_option autoImplicit false

namespace Hes

open Prog Text Mqtt

namespace Fuota

/-- `FUOTA_STATE`; `unset` stands for any number without a case, as before the first assignment. -/
inductive FuotaState where
  | openFile
  | gatewayPathSilence
  | targetNodeSilence
  | networkSilence
  | sectorRead
  | fwimageOfSectorCount
  | eraseFlash
  | fwImageTransfer
  | lastUpdateFwimageOfSectorcount
  | fwImageEndofPageTransfer
  | newFwimageCrcCalculate
  | activateNewFwimage
  | sendActivateCmd
  | readAndCompareFwVersion
  | networkUnsilence
  | targetNodeUnsilence
  | gatewayPathUnsilence
  | rollbackToNormalCommMode
  | idle
  | unset
  deriving DecidableEq, Repr

-- the four steps of `PATH_SILENCE_STATE` and of `PATH_UNSILENCE_STATE`
def atFuotaEnable : Nat := 0
def atFuotaModeEntry : Nat := 1
def atEnableFlashsave : Nat := 2
def atEnableFlashexit : Nat := 3

def fuotaEnable : Bytes := [0x01, 0x9B, 0x01]
def fuotaUpdatemode : Bytes := [0x01, 0x9D, 0x01]
def fuotaDisableCmd : Bytes := [0x01, 0x9B, 0x00]
def fuotaModeentryDisableCmd : Bytes := [0x01, 0x9D, 0x00]
def flashWrite : Bytes := [0x00, 0x02]
def flashExit : Bytes := [0x00, 0x01]
def sectorRead : Bytes := [0x2F, 0x03, 0x00, 0x32]
def initiateFwInfo : Bytes := [0x2F, 0x0B, 0x02, 0x01, 0, 0, 0, 0, 0, 0, 0, 0]
def eraseFlashArea : Bytes := [0x2F, 0x04, 0x04, 0x01, 0x38]
def endofImageTransfer : Bytes := [0x2F, 0x04, 0x08, 0x01, 0x3C]
def verifyImage : Bytes := [0x2F, 0x06, 0x0A, 0x01, 0x00, 0x00, 0x00]
def lastsectorPageRead : Bytes := [0x2F, 0x04, 0x0C, 0x01, 0x40]
def activateRead : Bytes := [0x2F, 0x04, 0x0E, 0x01, 0x42]
def activateStatusRead : Bytes := [0x2F, 0x04, 0x10, 0x01, 0x44]
def rfInternalFw : Bytes := [0x00, 0x49, 0x46]
def imageTransfer : Bytes := [0x2F, 0x06, 0x06, 0x01, 0x00, 0x00, 0x00]

def fuotaDataQuery : UInt8 := 0x09
def meshCommissionPacketType : UInt8 := 0x03
def commissionRespPacketType : UInt8 := 0x04

/-- A row of `source_route_network`: the last four bytes of every hop make up the route. -/
structure MeterVitalInfo where
  meterMacAddress : Bytes := []
  routePath : Bytes := []
  hopCount : UInt8 := 0
  deriving DecidableEq, Repr

structure AlternatePathInfo where
  meterMacAddress : Bytes := []
  routePath : Bytes := []
  hopCount : UInt8 := 0
  deriving DecidableEq, Repr

/-- `router_path_t` and `path_details`: four bytes for every hop. -/
structure RouterPath where
  paths : Bytes := []
  hopCount : UInt8 := 0
  deriving DecidableEq, Repr

/-- What a blocking read of the socket ends with; no bytes is the end of the stream. -/
inductive Arrival where
  | data (bytes : Bytes)
  | timedOut
  | failed
  deriving DecidableEq, Repr

/-- What the machine meets: the results of its system calls and queries, in their order. -/
structure Inputs where
  arrival : Nat -> Arrival := fun _ => .timedOut
  write : Nat -> Bool := fun _ => true
  meters : Nat -> Option (List MeterVitalInfo) := fun _ => some []
  nodelistEmpty : Nat -> Bool := fun _ => true
  alternates : Nat -> Option (List AlternatePathInfo) := fun _ => none
  /-- The content of the file at a path. -/
  files : Bytes -> Option Bytes := fun _ => none
  fopen : Nat -> Bool := fun _ => true
  /-- How much an `fread` gives at most, where it meets an error. -/
  fread : Nat -> Option Nat := fun _ => none
  currentPath : Bytes := []
  /-- The turns of a loop after which it is taken as still waiting. -/
  fuel : Nat := 0

structure Counters where
  arrivals : Nat := 0
  writes : Nat := 0
  metersRead : Nat := 0
  listsCounted : Nat := 0
  alternatesRead : Nat := 0
  fopens : Nat := 0
  freads : Nat := 0
  deriving DecidableEq, Repr

/-- The function that put the frame into the transmit buffer. -/
inductive Builder where
  | none
  | gateway
  | target
  | network
  | alternate
  deriving DecidableEq, Repr

/-- What the frame in the transmit buffer was built from, and the length of the history by then. -/
structure Built where
  builder : Builder := .none
  command : Bytes := []
  targetMac : Bytes := []
  paths : Bytes := []
  hopCount : UInt8 := 0
  place : Nat := 0
  deriving DecidableEq, Repr

structure Sent where
  state : FuotaState
  requestId : Int
  built : Built
  frame : Bytes
  written : Bool
  deriving DecidableEq, Repr

/-- An image frame as it is written, and the file position its payload was read from. -/
structure ImageFrame where
  headerLen : Nat
  bytes : Bytes
  position : Nat
  lastSubpage : Bool
  deriving DecidableEq, Repr

def ImageFrame.subpage (frame : ImageFrame) : Nat := (byteAt frame.bytes (frame.headerLen + 4)).toNat

def ImageFrame.page (frame : ImageFrame) : Nat := bigEndian (slice frame.bytes (frame.headerLen + 5) 2)

/-- What stands between the seven bytes of the command and the checksum. -/
def ImageFrame.payload (frame : ImageFrame) : Bytes :=
  slice frame.bytes (frame.headerLen + 7) (frame.bytes.length - (frame.headerLen + 8))

/-- What happened, in its order; the code reads none of it. -/
inductive Event where
  | dequeued (command : Bytes)
  | assigned (state : FuotaState)
  | opened (path : Bytes)
  | sent (sent : Sent)
  | imageSent (requestId : Int) (frame : ImageFrame)
  | imageAcknowledged (frame : ImageFrame)
  /-- The image frames get the header of the frame in the transmit buffer. -/
  | uploadStarted (header : Built)
  | uploadEnded
  | accepted (state : FuotaState)
  | acknowledged (node : Bytes) (command : Bytes)
  | recorded (node : Bytes) (status : Nat)
  | updated (requestId : Int) (status errorCode : Nat)
  deriving DecidableEq, Repr

/-- `Fuota_retry_contex`. -/
structure RetryContext where
  retryCount : Nat := 0
  maxRetries : Nat := 3
  alternateRetry : Nat := 0
  alternateMaxcnt : Nat := 2
  deriving DecidableEq, Repr

/-- The members of the client that the machine uses. -/
structure FuotaClient where
  gatewayId : Bytes := []
  requestId : Int := 0
  hopCount : Int := 0
  firmwarePath : Bytes := []
  firmwareFilename : Bytes := []
  rfMeterFuota : List Bytes := []
  timeoutState : TimeoutState := .timerNone
  deriving DecidableEq, Repr

structure Machine where
  ondemandFuotaState : FuotaState := .unset
  fuotaGatewaySilenceState : Nat := 0
  fuotaTargetnodeSilenceState : Nat := 0
  fuotaTargetnodeUnsilenceState : Nat := 0
  fuotaGatewayUnsilenceState : Nat := 0
  networkSilenceState : Nat := 0
  useAlternateFuotaRoute : Bool := false
  useAlternateFuotarouteDisable : Bool := false
  waitingForResponse : Bool := false
  cntx : RetryContext := {}
  cntxActive : Bool := false
  resumeFuotaFlag : Bool := false
  resumeFileName : Bytes := []
  resumeFwpath : Bytes := []
  pendingTerminalComplete : Bool := false
  pendingTerminalRequestId : Int := -1
  cmdBytes : Bytes := []
  deriving DecidableEq, Repr

/-- The frame buffers and the addresses frames are built with. -/
structure Radio where
  clientTxBuffer : Bytes := []
  built : Built := {}
  currentFuotaTargetMac : Bytes := [0, 0, 0, 0, 0, 0, 0, 0]
  currentFuotaRoute : RouterPath := {}
  routerPath : RouterPath := {}
  ondemandMacAddr : Bytes := []
  panid : Bytes := [0, 0, 0, 0]
  dcuShortAddr : Bytes := [0, 0, 0, 0]
  gatewayRouteInfo : List MeterVitalInfo := []
  alternatepaths : List AlternatePathInfo := []
  currentFuotaCommand : Bytes := []
  deriving DecidableEq, Repr

structure OpenFile where
  content : Bytes
  position : Nat := 0
  deriving DecidableEq, Repr

structure Session where
  headerLen : Nat := 0
  file : Bytes := []
  deriving DecidableEq, Repr

structure Firmware where
  foutaReadFd : Option OpenFile := none
  firmwarePath : Bytes := []
  firmwareFile : Bytes := []
  dcuFolder : Bytes := []
  totalFirmwaresize : Nat := 0
  sectorValue : Nat := 0
  session : Session := {}
  deriving DecidableEq, Repr

structure Upload where
  pageCount : Nat := 0
  subpageCount : UInt8 := 0
  fuotaImagetfRetryCount : Nat := 0
  fuotaimagetfAlternateCount : Nat := 0
  usingAlternatePath : Bool := false
  fuotaRespHeaderLen : Nat := 0
  fuotaCmdHeaderLen : Nat := 0
  responseLength : Nat := 0
  imageTfCommand : Bytes := []
  rfFuotaExpectedRespHeader : Bytes := [0x2D, 0x08, 0x07, 0x01]
  fuotaRbuf : Bytes := []
  deriving DecidableEq, Repr

structure Crc where
  crc : UInt16 := 0
  value : UInt16 := 0
  rfFuotaCrcCalculated : Bool := false
  rfFuotaCrcValue : UInt16 := 0
  crcTab16 : List UInt16 := []
  deriving DecidableEq, Repr

/-- The static variables: one of each in the process. -/
structure Statics where
  crcTab16Init : Bool := false
  lastStatusMap : Int -> Option (Nat × Nat) := fun _ => none

end Fuota

structure Fuota where
  inputs : Fuota.Inputs := {}
  counters : Fuota.Counters := {}
  client : Fuota.FuotaClient := {}
  machine : Fuota.Machine := {}
  radio : Fuota.Radio := {}
  firmware : Fuota.Firmware := {}
  upload : Fuota.Upload := {}
  crc : Fuota.Crc := {}
  statics : Fuota.Statics := {}
  /-- The rows of `unsilenced_nodes_for_fuota` and their status. -/
  rows : Bytes -> Option Nat := fun _ => none
  log : List Fuota.Event := []

namespace Fuota

def setClient (change : FuotaClient -> FuotaClient) : Prog Fuota Unit :=
  update fun fuota => { fuota with client := change fuota.client }

def setMachine (change : Machine -> Machine) : Prog Fuota Unit :=
  update fun fuota => { fuota with machine := change fuota.machine }

def setCntx (change : RetryContext -> RetryContext) : Prog Fuota Unit :=
  setMachine fun machine => { machine with cntx := change machine.cntx }

def setRadio (change : Radio -> Radio) : Prog Fuota Unit :=
  update fun fuota => { fuota with radio := change fuota.radio }

def setFirmware (change : Firmware -> Firmware) : Prog Fuota Unit :=
  update fun fuota => { fuota with firmware := change fuota.firmware }

def setUpload (change : Upload -> Upload) : Prog Fuota Unit :=
  update fun fuota => { fuota with upload := change fuota.upload }

def setCrc (change : Crc -> Crc) : Prog Fuota Unit :=
  update fun fuota => { fuota with crc := change fuota.crc }

def note (event : Event) : Prog Fuota Unit :=
  update fun fuota => { fuota with log := fuota.log ++ [event] }

def getState : Prog Fuota FuotaState := observe fun fuota => fuota.machine.ondemandFuotaState

def setState (state : FuotaState) : Prog Fuota Unit :=
  update fun fuota => { fuota with
    machine := { fuota.machine with ondemandFuotaState := state }
    log := fuota.log ++ [.assigned state] }

/-- One read of the socket. -/
def nextArrival : Prog Fuota Arrival := fun fuota =>
  (some (fuota.inputs.arrival fuota.counters.arrivals), { fuota with
    counters := { fuota.counters with arrivals := fuota.counters.arrivals + 1 } })

/-- One write to the socket, whether it succeeds. -/
def nextWrite : Prog Fuota Bool := fun fuota =>
  (some (fuota.inputs.write fuota.counters.writes), { fuota with
    counters := { fuota.counters with writes := fuota.counters.writes + 1 } })

def nodelistEmpty : Prog Fuota Bool := fun fuota =>
  (some (fuota.inputs.nodelistEmpty fuota.counters.listsCounted), { fuota with
    counters := { fuota.counters with listsCounted := fuota.counters.listsCounted + 1 } })

def getGatewayUndernodes : Prog Fuota (Option (List MeterVitalInfo)) := fun fuota =>
  (some (fuota.inputs.meters fuota.counters.metersRead), { fuota with
    counters := { fuota.counters with metersRead := fuota.counters.metersRead + 1 } })

/-- At most two rows, in the order of their hop counts; the list is replaced in every case but a
failing query. -/
def getAlternateSourceRoute : Prog Fuota Bool := fun fuota =>
  let counted := { fuota with
    counters := { fuota.counters with alternatesRead := fuota.counters.alternatesRead + 1 } }
  match fuota.inputs.alternates fuota.counters.alternatesRead with
  | none => (some false, counted)
  | some paths => (some (paths ≠ []), { counted with
      radio := { fuota.radio with alternatepaths := paths } })

/-- `insert_update_fuota_Unsilenced_meter_details_in_db`: without hops the row is the gateway's. -/
def insertUpdateUnsilencedMeter (meterMac : Bytes) (status : Nat) (hopCount : UInt8) :
    Prog Fuota Unit :=
  update fun fuota =>
    let node := if hopCount ≠ 0 then bytesToHexString meterMac else fuota.client.gatewayId
    { fuota with
      rows := Function.update fuota.rows node (some status)
      log := fuota.log ++ [.recorded node status] }

def Machine.terminal (machine : Machine) (requestId : Int) : Machine :=
  { machine with pendingTerminalComplete := true, pendingTerminalRequestId := requestId }

/-- A request whose last error code was 0 is not updated any more. -/
def ondemandFuotaUpdateStatus (requestStatus errorCode : Nat) (requestId : Int) :
    Prog Fuota Unit :=
  update fun fuota =>
    if (fuota.statics.lastStatusMap requestId).map Prod.snd = some 0 then fuota
    else
      let dbStatus := if requestStatus = 17 && errorCode = 1 then 21 else requestStatus
      let terminal := (dbStatus = 21 && errorCode = 1) || errorCode = 0
      let lastStatus := Function.update fuota.statics.lastStatusMap requestId
        (some (dbStatus, errorCode))
      { fuota with
        statics := { fuota.statics with lastStatusMap := lastStatus }
        machine := if terminal then fuota.machine.terminal requestId else fuota.machine
        log := fuota.log ++ [.updated requestId dbStatus errorCode] }

def updateStatus (requestStatus errorCode : Nat) : Prog Fuota Unit := do
  ondemandFuotaUpdateStatus requestStatus errorCode (<- observe fun fuota => fuota.client.requestId)

/-- The front of the queue leaves it. -/
def dequeueFuota : Prog Fuota (Option Bytes) := fun fuota =>
  match fuota.client.rfMeterFuota with
  | [] => (some none, fuota)
  | command :: rest => (some (some command), { fuota with
      client := { fuota.client with rfMeterFuota := rest } })

end Fuota

end Hes
