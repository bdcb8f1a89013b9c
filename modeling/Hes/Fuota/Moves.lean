import Hes.Fuota.Machine
import Mathlib.Logic.Relation

set_option autoImplicit false

namespace Hes.Fuota

open Prog Text Mqtt Relation

/-- What an observer of the machine sees: addresses, requests, the open file and the history. -/
structure Core where
  state : FuotaState
  queue : List Bytes
  requestId : Int
  hopCount : Int
  clientPath : Bytes
  firmwareFile : Bytes
  file : Option Bytes
  size : Nat
  sector : Nat
  crc : Crc
  tableBuilt : Bool
  route : RouterPath
  mac : Bytes
  built : Built
  rows : Bytes -> Option Nat
  log : List Event
  inputs : Inputs
  gatewayId : Bytes
  routerPath : RouterPath

def core (fuota : Fuota) : Core where
  state := fuota.machine.ondemandFuotaState
  queue := fuota.client.rfMeterFuota
  requestId := fuota.client.requestId
  hopCount := fuota.client.hopCount
  clientPath := fuota.client.firmwarePath
  firmwareFile := fuota.firmware.firmwareFile
  file := fuota.firmware.foutaReadFd.map OpenFile.content
  size := fuota.firmware.totalFirmwaresize
  sector := fuota.firmware.sectorValue
  crc := fuota.crc
  tableBuilt := fuota.statics.crcTab16Init
  route := fuota.radio.currentFuotaRoute
  mac := fuota.radio.currentFuotaTargetMac
  built := fuota.radio.built
  rows := fuota.rows
  log := fuota.log
  inputs := fuota.inputs
  gatewayId := fuota.client.gatewayId
  routerPath := fuota.radio.routerPath

/-- The branches that a step takes only for some replies and in some states. -/
inductive Cause where
  /-- A frame is built for the target. -/
  | targeted
  | acknowledged
  /-- The row of the gateway is written. -/
  | recorded
  /-- A request is over: the next command is taken, or the network unsilenced. -/
  | completed
  /-- A reply in a silence state is refused: the retries are used up, or none were asked for. -/
  | exhausted
  | terminated
  /-- The last poll timeout of a command. -/
  | failed
  /-- The queue is looked at: it is empty, or its front is started. -/
  | emptied
  | started
  /-- The file at the path is opened for a pending request, or that of the name. -/
  | resumed (path : Bytes)
  | pending (name : Bytes)
  /-- The gateway is unsilenced, and the machine takes the next command or rolls back. -/
  | finished
  /-- From the network straight to the gateway, while unsilencing. -/
  | skipped
  /-- A reply is taken for the end of the upload. -/
  | cut
  | uploading
  | uploaded
  /-- The checksum of a verification is computed. -/
  | summed
  | compared
  | queued
  deriving DecidableEq, Repr

/-- The commands of the silence and the unsilence sequences. -/
def SequenceCommand (command : Bytes) : Prop :=
  exists step, silenceCommand step = some command \/ unsilenceCommand step = some command

def Verifying (command : Bytes) : Prop := command.take 4 = verifyImage.take 4

/-- The states that a silence sequence is run in. -/
def FuotaState.silencing (state : FuotaState) : Bool :=
  state = .gatewayPathSilence || state = .targetNodeSilence || state = .networkSilence

/-- The next state where the reply was taken as a success. -/
def Follows (state next : FuotaState) : Prop :=
  match state, next with
  | .fwimageOfSectorCount, .eraseFlash => True
  | .eraseFlash, .fwImageTransfer => True
  | .fwImageEndofPageTransfer, .newFwimageCrcCalculate => True
  | .newFwimageCrcCalculate, .activateNewFwimage => True
  | .activateNewFwimage, .sendActivateCmd => True
  | .sendActivateCmd, .readAndCompareFwVersion => True
  | _, _ => False

/-- The other assignments of one state after another that need no cause. -/
def Leads (hops : Bool) (state next : FuotaState) : Prop :=
  match state, next with
  | .gatewayPathSilence, .targetNodeSilence => hops
  | .gatewayPathSilence, .networkSilence => !hops
  | .targetNodeSilence, .networkSilence => True
  | .networkSilence, .sectorRead => True
  | .sectorRead, .networkUnsilence => True
  | .sendActivateCmd, .activateNewFwimage => True
  | .networkUnsilence, .targetNodeUnsilence => True
  | .targetNodeUnsilence, .gatewayPathUnsilence => True
  | .targetNodeUnsilence, .networkUnsilence => !hops
  | .rollbackToNormalCommMode, .idle => True
  | _, _ => state = next

/-- The assignments that only some step can make; most of them with an empty queue. -/
def Jumps (cause : Cause) (state next : FuotaState) (queue : List Bytes) : Prop :=
  match cause with
  | .completed => queue = [] /\ next = .networkUnsilence
  | .exhausted => queue = [] /\ state.silencing /\ next = .networkUnsilence
  | .terminated => state.silencing /\ next = .rollbackToNormalCommMode
  | .failed => queue = [] /\ next = .networkSilence
  | .emptied => queue = [] /\ next = .rollbackToNormalCommMode
  | .finished => queue = [] /\ state = .gatewayPathUnsilence /\ next = .rollbackToNormalCommMode
  | .cut => (state = .fwImageTransfer \/ state = .lastUpdateFwimageOfSectorcount) /\
      next = .fwImageEndofPageTransfer
  | _ => False

/-- Where a command is taken from the queue without being read. -/
def Takes (cause : Cause) (state : FuotaState) : Prop :=
  match cause with
  | .exhausted => state.silencing
  | .failed => True
  | .finished => state = .gatewayPathUnsilence \/ state = .rollbackToNormalCommMode
  | _ => False

namespace Core

variable (core : Core)

def hops : Bool := core.routerPath.hopCount > 0

/-- A frame as it is built from the current route. -/
def routeBuilt (builder : Builder) (command : Bytes) : Built where
  builder := builder
  command := command
  targetMac := core.mac
  paths := slice core.route.paths 0 (core.route.hopCount.toNat * 4)
  hopCount := core.route.hopCount
  place := core.log.length

def gatewayBuilt (command : Bytes) : Built where
  builder := .gateway
  command := command
  targetMac := core.mac
  paths := slice core.routerPath.paths 0 (core.routerPath.hopCount.toNat * 4)
  hopCount := core.routerPath.hopCount
  place := core.log.length

/-- The frame in the buffer with another route in front of its command. -/
def rerouted : Built := { core.routeBuilt .alternate core.built.command with place := core.built.place }

def note (event : Event) : Core := { core with log := core.log ++ [event] }

def assign (state : FuotaState) : Core :=
  { core with state := state, log := core.log ++ [.assigned state] }

/-- The path of a firmware file of the gateway. -/
def firmwareAt (name : Bytes) : Bytes :=
  core.inputs.currentPath ++ fuotaFolder ++ core.gatewayId ++ ascii "/" ++ name

def withFile (content : Bytes) : Core :=
  { core with file := some content, size := content.length % 2 ^ 32 }

/-- The node that a reply is from. -/
def replier : Bytes :=
  if core.state = .gatewayPathSilence || core.state = .gatewayPathUnsilence then core.gatewayId
  else bytesToHexString core.mac

/-- A leaf to be silenced, among the nodes that some query gives. -/
def IsLeaf (leaf : MeterVitalInfo) : Prop :=
  exists index meters ondemandMac, core.inputs.meters index = some meters /\
    leaf ∈ filterOutOnDemand (detectLeafNodes meters) ondemandMac

def HasLeaf : Prop := exists leaf, core.IsLeaf leaf

/-- The row a leaf is recorded in. -/
def rowOf (leaf : MeterVitalInfo) : Bytes :=
  if leaf.hopCount ≠ 0 then bytesToHexString leaf.meterMacAddress else core.gatewayId

/-- Some read of the socket gives bytes. -/
def Heard : Prop := exists index bytes, core.inputs.arrival index = .data bytes /\ bytes ≠ []

/-- Some query finds the gateway without nodes, or with nodes. -/
def HasAnswer : Prop :=
  (exists index, core.inputs.nodelistEmpty index = true) \/
    exists index meters, core.inputs.meters index = some meters /\ meters ≠ []

def HasAlternate : Prop :=
  exists index paths, core.inputs.alternates index = some paths /\ paths ≠ []

/-- The firmware file cannot be opened. -/
def Unreadable (name : Bytes) : Prop :=
  name = [] \/ core.inputs.files (core.firmwareAt name) = none \/
    exists index, core.inputs.fopen index = false

end Core

/-- What the machine can do at a time, by the causes that the step permits. -/
inductive Move (permitted : Cause -> Core -> Prop) : Core -> Core -> Prop
  | gateway (core : Core) (command : Bytes) (sequence : SequenceCommand command) :
    Move permitted core { core with built := core.gatewayBuilt command }
  | routed (core : Core) :
    Move permitted core { core with
      route := { core.route with hopCount := toUInt8 core.hopCount } }
  | target (core : Core) (command : Bytes) (ok : permitted .targeted core)
    (hops : core.route.hopCount = toUInt8 core.hopCount)
    (activates : command = activateRead -> core.state = .activateNewFwimage)
    (verifies : Verifying command -> core.state = .newFwimageCrcCalculate /\
      permitted .summed core /\ command = verifyCommand core.crc.value) :
    Move permitted core { core with built := core.routeBuilt .target command }
  | network (core : Core) (command : Bytes) (sequence : SequenceCommand command) :
    Move permitted core { core with built := core.routeBuilt .network command }
  | alternate (core : Core) (found : core.HasAlternate) :
    Move permitted core { core with built := core.rerouted }
  | detoured (core : Core) (mac : Bytes) (route : RouterPath) (found : core.HasAlternate) :
    Move permitted core { core with mac := mac, route := route }
  | addressed (core : Core) (mac : Bytes) (route : RouterPath) (found : core.HasLeaf) :
    Move permitted core { core with mac := mac, route := route }
  | retargeted (core : Core) (address : Bytes) :
    Move permitted core { core with mac := overwrite core.mac 4 address }
  | sent (core : Core) (frame : Bytes) (written : Bool) :
    Move permitted core (core.note (.sent { state := core.state, requestId := core.requestId,
                                            built := core.built, frame := frame, written := written }))
  | updated (core : Core) (status errorCode : Nat) :
    Move permitted core (core.note (.updated core.requestId status errorCode))
  | uploadStarted (core : Core) (ok : permitted .uploading core) :
    Move permitted core (core.note (.uploadStarted core.built))
  | imaged (core : Core) (frame : ImageFrame) :
    Move permitted core (core.note (.imageSent core.requestId frame))
  | imageAcknowledged (core : Core) (frame : ImageFrame) :
    Move permitted core (core.note (.imageAcknowledged frame))
  | uploaded (core : Core) (ok : permitted .uploaded core) (state : core.state = .fwImageTransfer) :
    Move permitted core ((core.note .uploadEnded).assign .fwImageEndofPageTransfer)
  | accepted (core : Core) : Move permitted core (core.note (.accepted core.state))
  | acknowledged (core : Core) (ok : permitted .acknowledged core) :
    Move permitted core (core.note (.acknowledged core.replier core.built.command))
  | leafAcknowledged (core : Core) (found : core.HasLeaf) (heard : core.Heard)
    (state : core.state = .networkSilence \/ core.state = .networkUnsilence) :
    Move permitted core (core.note (.acknowledged core.replier core.built.command))
  | recorded (core : Core) (status : Nat) (ok : permitted .recorded core)
    (done : core.state = .gatewayPathSilence /\ status = 1 \/
      core.state = .gatewayPathUnsilence /\ status = 0) :
    Move permitted core { core.note (.recorded core.gatewayId status) with
      rows := Function.update core.rows core.gatewayId (some status) }
  | leafRecorded (core : Core) (leaf : MeterVitalInfo) (status : Nat) (found : core.IsLeaf leaf)
    (told : core.Heard \/ core.state = .networkSilence /\ status = 0 \/
      core.state = .networkUnsilence /\ status = 1) :
    Move permitted core { core.note (.recorded (core.rowOf leaf) status) with
      rows := Function.update core.rows (core.rowOf leaf) (some status) }
  | proceeded (core : Core) (next : FuotaState) (follows : Follows core.state next) :
    Move permitted core ((core.note (.accepted core.state)).assign next)
  | assigned (core : Core) (next : FuotaState) (leads : Leads core.hops core.state next) :
    Move permitted core (core.assign next)
  | skipped (core : Core) (ok : permitted .skipped core) (state : core.state = .networkUnsilence)
    (found : core.HasAnswer) : Move permitted core (core.assign .gatewayPathUnsilence)
  | unopened (core : Core) (name : Bytes) (state : core.state = .openFile)
    (named : name = core.firmwareFile \/ permitted (.pending name) core) (bad : core.Unreadable name) :
    Move permitted core (core.assign .gatewayPathSilence)
  | jumped (core : Core) (cause : Cause) (next : FuotaState) (ok : permitted cause core)
    (jumps : Jumps cause core.state next core.queue) : Move permitted core (core.assign next)
  | took (core : Core) (cause : Cause) (command : Bytes) (rest : List Bytes)
    (ok : permitted cause core) (takes : Takes cause core.state) (queue : core.queue = command :: rest) :
    Move permitted core ({ core.note (.dequeued command) with queue := rest }.assign .openFile)
  | completed (core : Core) (command : Bytes) (rest : List Bytes) (requestId : Int)
    (ok : permitted .completed core) (queue : core.queue = command :: rest)
    (long : 7 ≤ (split colon command).length)
    (id : stoi (part (split colon command) 0) = .ok requestId) :
    Move permitted core ({ core.note (.dequeued command) with
      queue := rest
      requestId := requestId
      clientPath := part (split colon command) 5
      firmwareFile := part (split colon command) 6 }.assign .openFile)
  | started (core : Core) (command : Bytes) (rest : List Bytes) (requestId hopCount : Int)
    (ok : permitted .started core) (queue : core.queue = command :: rest)
    (long : 7 ≤ (split colon command).length)
    (id : stoi (part (split colon command) 0) = .ok requestId)
    (hop : stoi (part (split colon command) 2) = .ok hopCount) :
    Move permitted core ({ core.note (.dequeued command) with
      queue := rest
      requestId := requestId
      hopCount := hopCount
      firmwareFile := part (split colon command) 6 }.assign .openFile)
  | shrunk (core : Core) (rest : List Bytes) (shorter : rest <:+ core.queue) :
    Move permitted core { core with queue := rest }
  | queued (core : Core) (queue : List Bytes) (ok : permitted .queued core) :
    Move permitted core { core with queue := queue }
  | opened (core : Core) (name content : Bytes) (state : core.state = .openFile)
    (named : name = core.firmwareFile \/ permitted (.pending name) core)
    (file : core.inputs.files (core.firmwareAt name) = some content) :
    Move permitted core (({ core.withFile content with
      clientPath := core.firmwareAt name }.note (.opened (core.firmwareAt name))).assign
        .gatewayPathSilence)
  | reopened (core : Core) (content : Bytes) (state : core.state = .sectorRead)
    (file : core.inputs.files core.clientPath = some content) :
    Move permitted core ((core.withFile content).note (.opened core.clientPath))
  | located (core : Core) (log : List Event) (path : Bytes) (state : core.state = .sectorRead)
    (opened : core.log = log ++ [.opened path]) : Move permitted core (core.assign .fwimageOfSectorCount)
  | resumed (core : Core) (path content : Bytes) (ok : permitted (.resumed path) core)
    (file : core.inputs.files path = some content) :
    Move permitted core (((core.withFile content).note (.opened path)).assign .openFile)
  | closed (core : Core) (path : Bytes)
    (asked : core.state = .openFile \/ core.state = .sectorRead \/ permitted (.resumed path) core)
    (bad : core.inputs.files path = none \/ exists index, core.inputs.fopen index = false) :
    Move permitted core { core with file := none }
  | sectored (core : Core) (sector : Nat) (state : core.state = .sectorRead) :
    Move permitted core { core.note (.accepted core.state) with sector := sector }
  | summed (core : Core) (crc : Crc) (tableBuilt : Bool) :
    Move permitted core { core with crc := crc, tableBuilt := tableBuilt }
  | crcReset (core : Core) : Move permitted core { core with crc := { core.crc with crc := 0 } }
  | crcVerified (core : Core) : Move permitted core { core with
      crc := { core.crc with crc := 0, rfFuotaCrcCalculated := false } }
  | compared (core : Core) (ok : permitted .compared core) :
    Move permitted core { core with hopCount := if core.hopCount = 0 then 1 else core.hopCount }

/-- No move changes what the machine will meet, nor the addresses it was given. -/
theorem Move.fixed {permitted : Cause -> Core -> Prop} {before after : Core}
    (move : Move permitted before after) :
    after.inputs = before.inputs /\ after.gatewayId = before.gatewayId /\
      after.routerPath = before.routerPath := by
  cases move <;> exact ⟨rfl, rfl, rfl⟩

theorem moves_fixed {permitted : Cause -> Core -> Prop} {before after : Core}
    (moves : ReflTransGen (Move permitted) before after) :
    after.inputs = before.inputs /\ after.gatewayId = before.gatewayId /\
      after.routerPath = before.routerPath := by
  induction moves with
  | refl => exact ⟨rfl, rfl, rfl⟩
  | tail _ move ih =>
    obtain ⟨inputs, gateway, routers⟩ := ih
    obtain ⟨inputs', gateway', routers'⟩ := move.fixed
    exact ⟨inputs'.trans inputs, gateway'.trans gateway, routers'.trans routers⟩

end Hes.Fuota
