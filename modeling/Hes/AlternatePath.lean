import Hes.CommandFrames
import Hes.RawTurns

set_option autoImplicit false

namespace Hes.AlternatePath

open Prog Client CommandFrames Mqtt RawTurns

/-- An entry of `hesATPathQueue`. -/
structure PathDataRecord where
  routerMacAddress : Bytes
  pathRecord : Bytes
  hopCount : UInt8
  deriving DecidableEq, Repr

/-- The path text has eight digits for each hop. -/
def PathDataRecord.pathSize (record : PathDataRecord) : Nat := record.hopCount.toNat * 4

/-- The copied queue is searched for the 16 bytes of the target. -/
def search (target : Bytes) (queue : List PathDataRecord) : Option PathDataRecord :=
  queue.find? fun record => record.routerMacAddress.take 16 = target.take 16

def alternate (record : PathDataRecord) : Bytes × UInt8 := (record.pathRecord, record.hopCount)

/-- Two timeouts in front of this one, and a path left to try. -/
def switchDue (vars : RawVars) : Bool :=
  vars.retryTimeout ≥ 2 && vars.triedAlternatePath < 2 && byteAt vars.buf 2 = 0x07

/-- The queue behind a mesh timeout. The source searches a copy, and pops the queue itself. -/
def queueAfter (hopCount : Nat) (target : Bytes) (queue : List PathDataRecord) (vars : RawVars) :
    List PathDataRecord :=
  if switchDue vars && hopCount ≠ 0 then
    match search target queue with
    | some record =>
      if (takeAlternatePath hopCount record.pathRecord record.hopCount vars).isSome then queue.tail
      else queue
    | none => queue
  else queue

/-- A frame of one of the two builders. -/
def Built (buf : Bytes) : Prop := exists texts path hopCount,
  frameNPCmdToPullData texts path hopCount = some buf \/
    exists profile, frameScalarProfileCmdToPull texts path hopCount profile = some buf

variable (maxRetries : Nat) (call : RawCall) (target : Bytes) (queue : List PathDataRecord)
  (record : PathDataRecord)

/-- A turn whose chunk is a mesh timeout, with the switch due and a record for the target. -/
structure Switches (turn : RawVars × Client) (vars : RawVars) : Prop where
  timeout : exists buffer reached, rawReply call.hops turn.1 turn.2 = (some (some (buffer, vars)), reached) /\
    reached.inputs.alternatePath reached.counters.received = (search target queue).map alternate
  few : ¬ turn.1.retry > maxRetries
  code : vars.ret = .timeoutReceived
  due : switchDue vars = true
  hops : call.hops ≠ 0
  found : search target queue = some record

/-- The command has moved behind the path of the record, with what is sent and updated later. -/
structure Moved (vars next : RawVars) : Prop where
  due : next.needToWrite = true /\ next.needToWriteDlmsPkt = false
  whole : record.pathSize * 2 ≤ record.pathRecord.length
  hops : byteAt next.buf 12 = record.hopCount
  path : slice next.buf 13 record.pathSize =
    convertAscHexStringToBytes record.pathRecord record.pathSize
  command : slice next.buf (13 + record.pathSize) 8 =
    slice vars.buf (13 + (byteAt vars.buf 12).toNat * 4) 8
  size : (slice next.buf 0 next.length).length = 13 + record.pathSize + 8
  sized : (byteAt next.buf 1).toNat = (slice next.buf 0 next.length).length - 1
  paged : forall page index, byteAt (nextPage call.hops page next).buf index =
    if index = 13 + record.pathSize + 2 then page
    else if index = 13 + record.pathSize + 7 then byteAt next.buf index + 1
    else byteAt next.buf index

/-- The loop goes on over the path of the record, and nothing else leaves the queue. -/
def Works (turn : RawVars × Client) (vars : RawVars) : Prop :=
  exists next after, rawTurn call.hops maxRetries turn.1 turn.2 = (some (.again next), after) /\
    Moved call record vars next /\ queueAfter call.hops target queue vars = queue.erase record

variable {maxRetries call target queue record}

theorem queryCommand_hops (texts : GatewayTexts) (cmdType : UInt8) (path : Bytes) (hopCount : UInt8)
    (command : Bytes) : byteAt (queryCommand texts cmdType path hopCount command) 12 = hopCount := by
  simp [queryCommand, byteAt, convertAscHexStringToBytes, List.range_succ]

theorem built_hops {buf : Bytes} (built : Built buf) : (byteAt buf 12).toNat ≤ 30 := by
  obtain ⟨texts, path, hopCount, built⟩ := built
  have fits (cmdType : UInt8) (command : Bytes) (room : ¬ hopCount.toNat * 4 + dlmsCmdLen > maxData) :
      (byteAt (queryCommand texts cmdType path hopCount command) 12).toNat ≤ 30 := by
    simp only [dlmsCmdLen, maxData] at room
    rw [queryCommand_hops]
    omega
  rcases built with nameplate | ⟨profile, scalar⟩
  next =>
    unfold frameNPCmdToPullData at nameplate
    split at nameplate
    next => simp at nameplate
    next room => exact Option.some.inj nameplate ▸ fits _ _ room
  next =>
    unfold frameScalarProfileCmdToPull at scalar
    split at scalar
    next => simp at scalar
    next room =>
      split at scalar
      next => exact Option.some.inj scalar ▸ fits _ _ room
      next => simp at scalar

theorem switches_turn {turn : RawVars × Client} {vars : RawVars}
    (switches : Switches maxRetries call target queue record turn vars) :
    exists reached, rawTurn call.hops maxRetries turn.1 turn.2 =
      match meshTimeout call.hops (some (alternate record)) vars with
      | .done leave => (some (.done leave), reached)
      | .again next => (some (rawCount next), reached) := by
  obtain ⟨buffer, reached, replied, queued⟩ := switches.timeout
  refine ⟨reached, ?_⟩
  rw [switches.found, Option.map_some] at queued
  have switched : rawSwitch call.hops buffer vars reached =
      (some (meshTimeout call.hops (some (alternate record)) vars), reached) := by
    rw [← queued]
    simp only [rawSwitch, switches.code]
    rfl
  rw [rawTurn_reply call.hops maxRetries switches.few replied, ran_bind switched]
  cases meshTimeout call.hops (some (alternate record)) vars <;> rfl

theorem text_refused {turn : RawVars × Client} {vars : RawVars}
    (switches : Switches maxRetries call target queue record turn vars)
    (text : record.pathRecord ≠ []) :
    exists reached, rawTurn call.hops maxRetries turn.1 turn.2 =
      (some (.done (.returned .failure)), reached) := by
  -- a path of any text ends the call: there is room for none in the vector it is written to
  obtain ⟨reached, ran⟩ := switches_turn switches
  have long : (record.pathRecord.length + 1) / 2 > 0 := by
    have some := List.length_pos_iff.mpr text
    omega
  have due : (vars.retryTimeout ≥ 2 && vars.triedAlternatePath < 2 && byteAt vars.buf 2 = 0x07) = true :=
    switches.due
  have refused : meshTimeout call.hops (some (alternate record)) vars = .done (.returned .failure) := by
    simp only [meshTimeout, due, if_true, switches.hops, if_false, alternate, takeAlternatePath, long]
  rw [refused] at ran
  exact ⟨reached, ran⟩

theorem paged_before {buf : Bytes} (built : Built call.buf) (hops : call.hops ≠ 0) (page : UInt8)
    (next : RawVars) (here : next.buf = buf) :
    byteAt (nextPage call.hops page next).buf 20 = byteAt buf 20 := by
  -- the updates stay where the command was: they are made at the offset of the path it had before
  have few := built_hops built
  have some : call.hops ≤ 30 := few
  have offset : pathBytes call.hops = call.hops * 4 := by
    rw [pathBytes, if_neg hops]
    omega
  simp only [nextPage, offset, here, byteAt, List.getD_eq_getElem?_getD]
  rw [List.getElem?_set_ne (by omega), List.getElem?_set_ne (by omega)]

/-- A switch to an alternate path never works: a text is refused, and without one the command moves
away from the place where its pages are counted. -/
theorem alternatePath_fails (maxRetries : Nat) (call : RawCall) (built : Built call.buf) (fuel : Nat)
    (target : Bytes) (queue : List PathDataRecord) (record : PathDataRecord) :
    ∀ turn ∈ rawTurns maxRetries call fuel, forall vars,
      Switches maxRetries call target queue record turn vars ->
        ¬ Works maxRetries call target queue record turn vars := by
  rintro turn - vars switches ⟨next, after, ran, moved, popped⟩
  by_cases text : record.pathRecord = []
  next =>
    have none : record.pathSize = 0 := by simpa [text] using moved.whole
    have counted := moved.paged 0 20
    rw [paged_before built switches.hops 0 next rfl, none] at counted
    simp at counted
  next =>
    obtain ⟨reached, refused⟩ := text_refused switches text
    rw [refused] at ran
    simp at ran

section Refused

def gatewayTexts : GatewayTexts := { panId := Text.ascii "1234", sourceId := Text.ascii "A3535435" }

/-- The nameplate of a node behind one router is asked for. -/
def nameplateCommand : Bytes :=
  [0x2E, 0x18, 0x07, 0x00, 0x00, 0x12, 0x34, 0xA3, 0x53, 0x54, 0x35, 0x00, 0x01, 0xB1, 0xB2, 0xB3, 0xB4,
    0x2B, 0x07, 0x00, 0x0E, 0x00, 0x00, 0x00, 0x40] ++ List.replicate 116 0

/-- The mesh returns the command with the code of a timeout. -/
def meshTimedOut : Bytes := [0x2E, 0x19, 0x07] ++ slice nameplateCommand 3 22 ++ [0x06]

def nodeAddress : Bytes := Text.ascii "3CC1F601B1B2B3B4"

/-- A path over another router to the node, as the database part queues it. -/
def otherPath : PathDataRecord :=
  { routerMacAddress := nodeAddress, hopCount := 2
    pathRecord := Text.ascii "C1C2C3C4B1B2B3B4" ++ List.replicate 16 0 }

def strangerPath : PathDataRecord :=
  { routerMacAddress := Text.ascii "3CC1F601D1D2D3D4", hopCount := 1
    pathRecord := Text.ascii "D1D2D3D4" ++ List.replicate 8 0 }

def timedOut : RawCall :=
  { client := { inputs := { recv := fun _ => .data meshTimedOut none
                            alternatePath := fun _ => some (alternate otherPath) } }
    buf := nameplateCommand, length := 25 }

/-- The loop at the third timeout. -/
def thirdTimeout (needToWrite : Bool) : RawVars :=
  { buf := nameplateCommand, length := 25, txBuffer := slice nameplateCommand 0 25, needToWrite := needToWrite
    gotAnyResponse := true, retry := 2, retryTimeout := 2, ret := .timeoutReceived }

theorem timedOut_switches : ∃ turn ∈ rawTurns 4 timedOut 3,
    Switches 4 timedOut nodeAddress [strangerPath, otherPath] otherPath turn (thirdTimeout false) := by
  have third : ((rawTurns 4 timedOut 3)[2]?.map fun turn => (turn.1, (rawReply 1 turn.1 turn.2).1)) =
      some (thirdTimeout true, some (some (meshTimedOut, thirdTimeout false))) := by
    decide +kernel
  have queued : ((rawTurns 4 timedOut 3)[2]?.map fun turn =>
      let reached := (rawReply 1 turn.1 turn.2).2
      reached.inputs.alternatePath reached.counters.received) = some (some (alternate otherPath)) := by
    decide +kernel
  obtain ⟨turn, here, known⟩ := Option.map_eq_some_iff.mp third
  obtain ⟨vars, replied⟩ := Prod.mk.inj known
  rw [here] at queued
  exact ⟨turn, List.mem_of_getElem? here,
    ⟨⟨meshTimedOut, _, returned_of_fst _ _ _ replied, (Option.some.inj queued).trans (by decide)⟩,
      by rw [vars]; decide, rfl, by decide, by decide, by decide⟩⟩

/-- The record of the target is found, but its path is refused and the call fails. -/
theorem matching_path_refused :
    frameNPCmdToPullData gatewayTexts (Text.ascii "B1B2B3B4") 1 = some nameplateCommand /\
    (transmitRaw 5 nameplateCommand 25 4 timedOut.client).1 = some .failure /\
    ∃ turn ∈ rawTurns 4 timedOut 3,
      Switches 4 timedOut nodeAddress [strangerPath, otherPath] otherPath turn (thirdTimeout false) /\
      ¬ Works 4 timedOut nodeAddress [strangerPath, otherPath] otherPath turn (thirdTimeout false) := by
  obtain ⟨turn, among, switches⟩ := timedOut_switches
  refine ⟨by decide +kernel, by decide +kernel, turn, among, switches, ?_⟩
  rintro ⟨next, after, ran, moved, popped⟩
  obtain ⟨reached, refused⟩ := text_refused switches (by decide)
  rw [refused] at ran
  simp at ran

theorem alternatePath_fails_refused : ∃ turn ∈ rawTurns 4 timedOut 3,
    ¬ Works 4 timedOut nodeAddress [strangerPath, otherPath] otherPath turn (thirdTimeout false) := by
  obtain ⟨turn, among, switches⟩ := timedOut_switches
  have built : frameNPCmdToPullData gatewayTexts (Text.ascii "B1B2B3B4") 1 = some nameplateCommand := by
    decide +kernel
  exact ⟨turn, among, alternatePath_fails 4 timedOut ⟨gatewayTexts, _, 1, .inl built⟩ 3 nodeAddress _
    otherPath turn among _ switches⟩

end Refused

end Hes.AlternatePath
