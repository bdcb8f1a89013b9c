import Hes.Lib.Prog
import Hes.Dlms
import Hes.Mqtt
import Hes.OdmProfiles

set_option autoImplicit false

namespace Hes

open Prog Text Mqtt

inductive Status where
  | connected
  | disconnected
  deriving DecidableEq, Repr

inductive Writer where
  | writeToClient
  | writeToClientVector
  deriving DecidableEq, Repr

/-- What `recv` does; no bytes is the end of the stream. The code never sees `cycle`, the
instantaneous cycle of the request the bytes answer. -/
inductive Received where
  | data (bytes : Bytes) (cycle : Option Int)
  | timedOut
  | failed
  deriving DecidableEq, Repr

/-- What the client meets: the results of its system calls and queries, in their order. -/
structure Inputs where
  recv : Nat -> Received := fun _ => .timedOut
  send : Nat -> Int := fun _ => 4096
  query : Nat -> Bool := fun _ => true
  lookup : Nat -> PathLookup := fun _ => .found
  duplicateGateway : Nat -> Bool := fun _ => false
  now : Nat -> Int := fun _ => 0
  /-- Start and end of the range a load profile is asked for, in seconds of the meter clock. -/
  loadRange : Nat -> Nat × Nat := fun _ => (0, 0)
  /-- Path text and hop count of the alternate path queued for the node. -/
  alternatePath : Nat -> Option (Bytes × UInt8) := fun _ => none

structure Counters where
  received : Nat := 0
  sent : Nat := 0
  queried : Nat := 0
  lookedUp : Nat := 0
  duplicateRead : Nat := 0
  deriving DecidableEq, Repr

/-- An assignment of the status, or a `send` and the status it leaves. -/
inductive GatewayEvent where
  | assigned (status : Status)
  | sent (writer : Writer) (result : Int) (after : Status)
  deriving DecidableEq, Repr

structure Gateway where
  status : Status := .connected
  history : List GatewayEvent := []
  deriving DecidableEq, Repr

def Gateway.assign (gateway : Gateway) (status : Status) : Gateway :=
  { status := status, history := gateway.history ++ [.assigned status] }

/-- The status a failed or empty `send` leaves; `write_to_client` assigns 0. -/
def Writer.onFailure : Writer -> Status
  | .writeToClient => .connected
  | .writeToClientVector => .disconnected

def Gateway.send (gateway : Gateway) (writer : Writer) (result : Int) : Gateway :=
  if result ≤ 0 then
    { status := writer.onFailure
      history := gateway.history ++ [.assigned (writer.onFailure),
        .sent writer result (writer.onFailure)] }
  else { gateway with history := gateway.history ++ [.sent writer result gateway.status] }

inductive TargetState where
  | idle
  | pull
  deriving DecidableEq, Repr

inductive CurrentState where
  | init
  | fuotaStatus
  | fuotaDisable
  | flashSave
  | softReset
  | nameplate
  | dailyLoad
  | blockLoad
  | billingHistory
  | instantaneousProfile
  | dlmsConnect
  | internalFv
  | idle
  deriving DecidableEq, Repr

inductive TimeoutState where
  | timerPgwidRx
  | timerNone
  | timerFuotaResponse
  deriving DecidableEq, Repr

structure Control where
  commInitStatus : Bool := false
  targetState : TargetState := .idle
  currentState : CurrentState := .idle
  timeoutState : TimeoutState := .timerNone
  /-- The FUOTA machine is in `ROLLBACK_TO_NORMAL_COMM_MODE`. -/
  fuotaRollback : Bool := false
  needToValidateSrcAddr : Bool := false
  srcAddrCheckBuffer : Bytes := [0, 0, 0, 0]
  clientRxBuffer : Bytes := []
  bufferRxLength : Nat := 0
  txPageIndex : UInt8 := 0
  pageIndexCount : UInt8 := 0
  retry : Nat := 1
  pmeshHeader : Bytes := []
  currentIpCycle : Int := -1
  deriving DecidableEq, Repr

structure PathInfo where
  hopCount : Int := 0
  path : Bytes := []
  deriving DecidableEq, Repr

structure NodeProfileData where
  namePlateProfile : Dlms.PacketBuffer Dlms.DlmsRecordMap := { profileData := fun _ => none }
  instantaneousProfile : Dlms.PacketBuffer Dlms.DlmsRecordMap := { profileData := fun _ => none }
  blockLoadProfile : Dlms.PacketBuffer Dlms.BlockLoad := { profileData := {} }
  dailyLoadProfile : Dlms.PacketBuffer Dlms.DlmsRecordMap := { profileData := fun _ => none }
  billingHistory : Dlms.PacketBuffer Dlms.DlmsRecordMap := { profileData := fun _ => none }

structure NodeInfo where
  nodeMacAddress : Bytes := []
  missingIpCycles : List Int := []
  primaryPath : PathInfo := {}
  alternatePaths : List PathInfo := []
  profileData : NodeProfileData := {}

/-- A frame that was met: whether it was the last of its chunk, the page asked for, the cycle of
the request it answers, the page it names, and whether its records went into a buffer. -/
structure Note where
  last : Bool
  asked : UInt8
  cycle : Option Int
  page : UInt8
  frame : Bytes
  merged : Bool
  code : Code
  deriving DecidableEq, Repr

/-- An instantaneous profile passed to the database: the frames met in front of the pull of its
cycle and in it, and the buffer when that pull began. -/
structure CycleInsert where
  cycle : Int
  earlier : List Note
  own : List Note
  before : Dlms.DlmsRecordMap
  profile : Dlms.DlmsRecordMap

/-- The node of a pull, whether `currentNode` points to it, and the frames met so far; `merged`
is about the frame in process. -/
structure PullState where
  node : NodeInfo := {}
  currentNode : Bool := false
  serialNumber : Bytes := [0, 0, 0, 0, 0, 0, 0, 0]
  asked : UInt8 := 0
  merged : Bool := false
  notes : List Note := []
  inserts : List CycleInsert := []

structure DbParameters where
  reqId : Int := 0
  gatewayId : Bytes := []
  meterMacAddress : Bytes := []
  meterSerialNo : Bytes := []
  deriving DecidableEq, Repr

/-- The request in process, and the profile values and the payload tail it was started with. -/
structure Serving where
  serial : Nat := 0
  length : Nat := 0
  downloadDataType : UInt8 := 0
  before : List Stored := []
  tailBefore : Origin := .filler
  deriving DecidableEq, Repr

/-- How a column is read: `[0]`, `back()`, or `[i]` for the i-th row. -/
inductive Reading where
  | first
  | last
  | each
  deriving DecidableEq, Repr

/-- An insert: its table, and the columns it reads from one store. -/
structure Query where
  table : String
  store : Store
  reading : Reading
  columns : List UInt8
  deriving DecidableEq, Repr

/-- A row passed to the database, the `turn`-th of its query, and the values it holds; `held` is
all there was to read. -/
structure Row where
  serving : Serving
  parameters : DbParameters
  query : Query
  turn : Nat
  values : List Stored
  held : List Stored
  inserted : Bool
  deriving DecidableEq, Repr

structure Odm where
  dbParameter : DbParameters := {}
  pingCount : Nat := 0
  serving : Serving := {}
  updates : List StatusUpdate := []
  rows : List Row := []
  deriving DecidableEq, Repr

structure Client where
  inputs : Inputs := {}
  counters : Counters := {}
  gateway : Gateway := {}
  control : Control := {}
  profiles : OdmProfiles := {}
  pull : PullState := {}
  odm : Odm := {}

namespace Client

def onControl {A : Type} (change : Control -> A × Control) : Prog Client A := fun client =>
  let (result, control) := change client.control
  (some result, { client with control := control })

def setControl (change : Control -> Control) : Prog Client Unit :=
  onControl fun control => ((), change control)

def onProfiles {A : Type} (change : OdmProfiles -> A × OdmProfiles) : Prog Client A :=
  fun client =>
    let (result, profiles) := change client.profiles
    (some result, { client with profiles := profiles })

def setPull (change : PullState -> PullState) : Prog Client Unit :=
  update fun client => { client with pull := change client.pull }

def setOdm (change : Odm -> Odm) : Prog Client Unit :=
  update fun client => { client with odm := change client.odm }

def setStatus (status : Status) : Prog Client Unit :=
  update fun client => { client with gateway := client.gateway.assign status }

def sendOnce (writer : Writer) : Prog Client Int := fun client =>
  let result := client.inputs.send client.counters.sent
  (some result, { client with
    counters := { client.counters with sent := client.counters.sent + 1 }
    gateway := client.gateway.send writer result })

/-- The bytes left to send: each `send` that succeeds takes at least one of them. -/
def sendAll (writer : Writer) : Nat -> Nat -> Prog Client Code
  | 0, _ => pure .success
  | turns + 1, left =>
    if left = 0 then pure .success
    else do
      let written <- sendOnce writer
      if written < 0 then return .failure
      else if written = 0 then return .success
      else sendAll writer turns (left - written.toNat)

/-- The source address replies are checked against, taken from the path of the command. -/
def getDestinationAddress (buf : Bytes) (control : Control) : Control :=
  if (byteAt buf 0 = 0x2E || byteAt buf 0 = 0x2A) &&
      (byteAt buf 2 = 0x0D || byteAt buf 2 = 0x07 || byteAt buf 2 = 0x03) then
    let routers := (byteAt buf 12).toNat
    { control with
      srcAddrCheckBuffer := slice buf (if routers = 0 then 13 else 13 + (routers - 1) * 4) 4
      needToValidateSrcAddr := true }
  else control

def writeWith (writer : Writer) (buf : Bytes) : Prog Client Code := do
  setControl (getDestinationAddress buf)
  sendAll writer buf.length buf.length

def writeToClient := writeWith .writeToClient

def writeToClientVector := writeWith .writeToClientVector

def nextRecv : Prog Client Received := fun client =>
  (some (client.inputs.recv client.counters.received),
    { client with counters := { client.counters with received := client.counters.received + 1 } })

/-- The result of `recv` and the buffer, which was cleared before. -/
def receiveData (buffSize : Nat) : Prog Client (Int × Bytes) := do
  match <- nextRecv with
  | .data bytes _ =>
    let buff := bytes.take buffSize
    if buff.take 4 = ascii "PING" then let _ <- writeToClient (ascii "PONG")
    if buff = [] then setStatus .disconnected
    return (buff.length, buff)
  | .timedOut => return (-1, [])
  | .failed => do
    setStatus .disconnected
    return (-1, [])

def duplicateGateway : Prog Client Bool := fun client =>
  (some (client.inputs.duplicateGateway client.counters.duplicateRead),
    { client with counters :=
        { client.counters with duplicateRead := client.counters.duplicateRead + 1 } })

/-- The last `send` failed, and `write_to_client` has left the status at 0. -/
structure SendFailed (client : Client) : Prop where
  failed : client.inputs.send (client.counters.sent - 1) < 0
  connected : client.gateway.status = .connected

theorem sendAll_failed (turns left : Nat) (pre : Client -> Prop) :
    Returns pre (sendAll .writeToClient turns left)
      fun code client => code ≠ .success -> SendFailed client := by
  induction turns generalizing left pre with
  | zero => exact triple_pure _ fun _ _ failed => absurd rfl failed
  | succ turns ih =>
    rw [sendAll]
    split
    next => exact triple_pure _ fun _ _ failed => absurd rfl failed
    next =>
      refine triple_bind (fun written client => written < 0 -> SendFailed client) ?_ fun written => ?_
      next =>
        intro client _ failed
        exact ⟨failed, by simp [Gateway.send, Int.le_of_lt failed, Writer.onFailure]⟩
      next =>
        split
        next failed => exact triple_pure _ fun _ known _ => known failed
        next =>
          split
          next => exact triple_pure _ fun _ _ failed => absurd rfl failed
          next => exact ih _ _

theorem write_failed (buf : Bytes) (pre : Client -> Prop) :
    Returns pre (writeToClient buf) fun code client => code ≠ .success -> SendFailed client :=
  triple_bind _ (returns_trivial pre _) fun _ => sendAll_failed _ _ _

/-- What sending and receiving do to the client. -/
structure SendFrame (rel : Client -> Client -> Prop) : Prop where
  refl : forall client, rel client client
  trans : forall first second third, rel first second -> rel second third -> rel first third
  destination : forall client buf,
    rel client { client with control := getDestinationAddress buf client.control }
  counters : forall client counters, rel client { client with counters := counters }
  assign : forall client, rel client { client with gateway := client.gateway.assign .disconnected }
  send : forall client writer result,
    rel client { client with gateway := client.gateway.send writer result }

/-- The moves of the client that the programs of its thread are made of. -/
structure Frame (rel : Client -> Client -> Prop) : Prop extends SendFrame rel where
  control : forall client control, rel client { client with control := control }
  destination := fun client _ => control client _

section Frames

variable {rel : Client -> Client -> Prop} {A : Type}

theorem onControl_respects (frame : Frame rel) (change : Control -> A × Control) :
    Respects rel (onControl change) := fun client => frame.control client _

theorem setControl_respects (frame : Frame rel) (change : Control -> Control) :
    Respects rel (setControl change) := onControl_respects frame _

theorem disconnect_respects (frame : SendFrame rel) : Respects rel (setStatus .disconnected) :=
  frame.assign

theorem sendOnce_respects (frame : SendFrame rel) (writer : Writer) :
    Respects rel (sendOnce writer) := by
  intro client
  let counted := { client.counters with sent := client.counters.sent + 1 }
  exact frame.trans client { client with counters := counted } _ (frame.counters client counted)
    (frame.send _ writer (client.inputs.send client.counters.sent))

theorem sendAll_respects (frame : SendFrame rel) (writer : Writer) (turns left : Nat) :
    Respects rel (sendAll writer turns left) := by
  induction turns generalizing left with
  | zero => exact respects_pure frame.refl _
  | succ turns ih =>
    rw [sendAll]
    split
    next => exact respects_pure frame.refl _
    next =>
      refine respects_bind frame.trans (sendOnce_respects frame writer) ?_
      intro written
      split
      next => exact respects_pure frame.refl _
      next =>
        split
        next => exact respects_pure frame.refl _
        next => exact ih _

theorem writeWith_respects (frame : SendFrame rel) (writer : Writer) (buf : Bytes) :
    Respects rel (writeWith writer buf) :=
  respects_bind frame.trans (fun client => frame.destination client buf)
    fun _ => sendAll_respects frame writer _ _

theorem nextRecv_respects (frame : SendFrame rel) : Respects rel nextRecv :=
  fun client => frame.counters client _

theorem duplicateGateway_respects (frame : SendFrame rel) : Respects rel duplicateGateway :=
  fun client => frame.counters client _

theorem receiveData_respects (frame : SendFrame rel) (buffSize : Nat) :
    Respects rel (receiveData buffSize) := by
  unfold receiveData
  refine respects_bind frame.trans (nextRecv_respects frame) ?_
  intro outcome
  have ended (result : Int × Bytes) : Respects rel (pure result : Prog Client (Int × Bytes)) :=
    respects_pure frame.refl result
  have lost (result : Int × Bytes) : Respects rel (setStatus .disconnected >>= fun _ => pure result) :=
    respects_bind frame.trans (disconnect_respects frame) fun _ => ended result
  cases outcome with
  | data bytes cycle =>
    have answered : Respects rel (writeToClient (Text.ascii "PONG")) := writeWith_respects frame _ _
    dsimp only
    split
    next =>
      refine respects_bind frame.trans answered fun _ => ?_
      split
      next => exact lost _
      next => exact ended _
    next =>
      split
      next => exact lost _
      next => exact ended _
  | timedOut => exact ended _
  | failed => exact lost _

end Frames

end Client

end Hes
