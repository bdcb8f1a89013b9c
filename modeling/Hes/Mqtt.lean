import Mathlib.Data.List.Dedup
import Hes.Text

set_option autoImplicit false

namespace Hes.Mqtt

open Text

inductive RequestStatus where
  | requested
  | queued
  | inProgress
  | success
  | retryInProgress
  | cancelled
  | failedInvalidRequest
  | failedRfTimeout
  | failedNoGwResponse
  | failedPartialData
  | gwDisconnected
  | dlmsFailed
  | failedPmeshError
  | dlmsError
  deriving DecidableEq, Repr

def RequestStatus.terminal : RequestStatus -> Bool
  | .requested | .queued | .inProgress | .retryInProgress => false
  | .success | .cancelled | .failedInvalidRequest | .failedRfTimeout | .failedNoGwResponse
  | .failedPartialData | .gwDisconnected | .dlmsFailed | .failedPmeshError | .dlmsError => true

def colon : UInt8 := 0x3A

def hyphen : UInt8 := 0x2D

def part (parts : List Bytes) (index : Nat) : Bytes := parts.getD index []

/-- The request ids seen last, shared by every gateway; each list keeps two. -/
structure SeenIds where
  globalSeenReqIds : List Bytes := []
  specialReqIds : List Bytes := []
  fuotaReqIds : List Bytes := []
  deriving DecidableEq, Repr

def isPing (downloadType : Bytes) : Bool := downloadType = ascii "13" || downloadType = ascii "14"

def SeenIds.target (seen : SeenIds) (downloadType : Bytes) : List Bytes :=
  if isPing downloadType then seen.specialReqIds
  else if downloadType = ascii "27" then seen.fuotaReqIds
  else seen.globalSeenReqIds

def pushRecent (ids : List Bytes) (id : Bytes) : List Bytes :=
  (ids ++ [id]).drop (ids.length + 1 - 2)

def SeenIds.insert (seen : SeenIds) (downloadType id : Bytes) : SeenIds :=
  if isPing downloadType then { seen with specialReqIds := pushRecent seen.specialReqIds id }
  else if downloadType = ascii "27" then
    { seen with fuotaReqIds := pushRecent seen.fuotaReqIds id }
  else { seen with globalSeenReqIds := pushRecent seen.globalSeenReqIds id }

/-- `"00"` to `"31"`. -/
def allowedCmds : List Bytes :=
  (List.range 32).map fun code =>
    [UInt8.ofNat (0x30 + code / 10), UInt8.ofNat (0x30 + code % 10)]

/-- `16 * (hop_count + 1)` as an int, converted to `size_t`. -/
def expectedLength (hopCount : Int) : Int := Int.bmod (16 * (hopCount + 1)) (2 ^ 32) % 2 ^ 64

def gatewayMatches (gatewayId : Bytes) (parts : List Bytes) : Bool :=
  (part parts 1).length = 16 && (part parts 1).take 16 = gatewayId

def destMatches (gatewayId : Bytes) (parts : List Bytes) : Bool :=
  match stoi (part parts 2) with
  | .error _ => false
  | .ok hopCount =>
    if hopCount = 0 then part parts 1 = part parts 3
    else (part parts 3).length = expectedLength hopCount && (part parts 3).take 16 = gatewayId

/-- `std::stoi` throws on a pair without a hexadecimal digit, outside any try block. -/
def hexPairs : Bytes -> Result Bytes
  | high :: low :: rest => do
    let value <- stoiBase 16 [high, low]
    let later <- hexPairs rest
    return UInt8.ofNat (value % 256).toNat :: later
  | _ => .ok []

def hexToBytes (hex : Bytes) : Result (Option Bytes) :=
  if hex.length % 2 ≠ 0 then .ok none else (hexPairs hex).map some

/-- The tests use `&&`: one of the two bytes is enough. -/
def eitherMatches (command subCommand expected expectedSub : UInt8) : Bool :=
  !(command ≠ expected && subCommand ≠ expectedSub)

def commandMatches (downloadType command subCommand packetType : UInt8) : Bool :=
  match downloadType with
  | 0 | 1 | 2 | 3 | 4 => command = downloadType
  | 5 => eitherMatches command subCommand 0x08 0x00
  | 6 => eitherMatches command subCommand 0x08 0x01
  | 7 => eitherMatches command subCommand 0x08 0x02
  | 8 => eitherMatches command subCommand 0x08 0x03
  | 9 => eitherMatches command subCommand 0x08 0x04
  | 10 => eitherMatches command subCommand 0x08 0x05
  | 11 => eitherMatches command subCommand 0x08 0x06
  | 12 => eitherMatches command subCommand 0x08 0x07
  | 13 => packetType = 0x0D
  | 15 => eitherMatches command subCommand 0x00 0x02
  | 16 => eitherMatches command subCommand 0x01 0x02
  | 17 | 19 => eitherMatches command subCommand 0x00 0x01
  | 18 | 20 => eitherMatches command subCommand 0x01 0x01
  | 21 => eitherMatches command subCommand 0x00 0x08
  | 22 => eitherMatches command subCommand 0x01 0x08
  | 23 | 14 => eitherMatches command subCommand 0x00 0x09
  | 24 => eitherMatches command subCommand 0x01 0x09
  | 25 => eitherMatches command subCommand 0x01 0x07
  | _ => false

def toUInt8 (value : Int) : UInt8 := UInt8.ofNat (value % 256).toNat

def validateCommand (parts : List Bytes) : Result Bool := do
  let downloadDataType <- stoi (part parts 4)
  match <- hexToBytes (part parts 5) with
  | none => return false
  | some cmdBytes =>
    if cmdBytes.length < 8 then return false
    else
      return commandMatches (toUInt8 downloadDataType) (byteAt cmdBytes 4) (byteAt cmdBytes 5)
        (byteAt cmdBytes 2)

/-- Ping count and interval: 1 to 3, and only for type 13 and when the field is there. -/
def pingFieldValid (parts : List Bytes) (index : Nat) : Bool :=
  if index < parts.length && part parts 4 = ascii "13" then
    match stoi (part parts index) with
    | .ok value => 1 ≤ value && value ≤ 3
    | .error _ => false
  else true

/-- What one command of a message leaves in the queues. -/
inductive Produced where
  | cancelled (ids : List Bytes)
  | failed (cmd : Bytes)
  | fuota (cmd : Bytes)
  | odm (cmd : Bytes)
  deriving DecidableEq, Repr

def partsCountValid (parts : List Bytes) : Bool :=
  (parts.length = 6 && part parts 4 ≠ ascii "13") || parts.length = 7 || parts.length = 8

def idIsNumeric (parts : List Bytes) : Bool := (part parts 0).all isDigit

def isDuplicate (seen : SeenIds) (parts : List Bytes) : Bool :=
  decide (part parts 0 ∈ seen.target (part parts 4))

/-- The fields in front of the command pass, so `Validate_command` is called. -/
def reachesCommand (gatewayId : Bytes) (seen : SeenIds) (parts : List Bytes) : Bool :=
  partsCountValid parts && idIsNumeric parts && !isDuplicate seen parts &&
    gatewayMatches gatewayId parts && destMatches gatewayId parts &&
    decide (part parts 4 ∈ allowedCmds)

/-- The id is remembered as soon as it is no duplicate, whatever the later fields hold. -/
def idRemembered (seen : SeenIds) (parts : List Bytes) : Bool :=
  partsCountValid parts && idIsNumeric parts && !isDuplicate seen parts

def enqueue (parts : List Bytes) (cmd : Bytes) : Produced :=
  if part parts 4 = ascii "27" || part parts 4 = ascii "28" then .fuota cmd else .odm cmd

def produce (gatewayId : Bytes) (seen : SeenIds) (cmd : Bytes) : Result (Produced × SeenIds) :=
  let parts := explode colon cmd
  if part parts 0 = ascii "CANCEL" then .ok (.cancelled parts.tail.dedup, seen)
  else
    let remembered :=
      if idRemembered seen parts then seen.insert (part parts 4) (part parts 0) else seen
    if reachesCommand gatewayId seen parts then do
      let matched <- validateCommand parts
      if matched && pingFieldValid parts 6 && pingFieldValid parts 7 then
        return (enqueue parts cmd, remembered)
      else return (.failed cmd, remembered)
    else .ok (.failed cmd, remembered)

def produceAll (gatewayId : Bytes) : SeenIds -> List Bytes -> Result (List Produced × SeenIds)
  | seen, [] => .ok ([], seen)
  | seen, cmd :: rest => do
    let (entry, after) <- produce gatewayId seen cmd
    let (entries, last) <- produceAll gatewayId after rest
    return (entry :: entries, last)

/-- The message up to its first NUL; a group id in front of the first colon is dropped. -/
def commandsOf (payload : Bytes) : List Bytes :=
  let message := payload.takeWhile fun letter => letter ≠ 0
  let ungrouped :=
    if hyphen ∈ message ∧ colon ∈ message then
      (message.dropWhile fun letter => letter ≠ colon).drop 1
    else message
  explode hyphen ungrouped

def validateRequestIds (gatewayId : Bytes) (seen : SeenIds) (payload : Bytes) :
    Result (List Produced × SeenIds) :=
  produceAll gatewayId seen (commandsOf payload)

structure StatusUpdate where
  requestId : Int
  status : RequestStatus
  errorCode : Nat := 0
  ping : Bool := false
  deriving DecidableEq, Repr

def cancelledRequest (id : Bytes) : Result StatusUpdate := do
  let requestId <- stoi id
  return { requestId := requestId, status := .cancelled }

/-- The id is -1 when the field is missing or empty. -/
def requestIdOf (parts : List Bytes) : Result Int :=
  if parts ≠ [] && part parts 0 ≠ [] then stoi (part parts 0) else .ok (-1)

def failedRequest (cmd : Bytes) : Result StatusUpdate := do
  let parts := split colon cmd
  let requestId <- requestIdOf parts
  let downloadType <-
    if parts.length > 0 then do
      let text <- field parts 4
      if text ≠ [] then stoi text else .ok 0
    else .ok 0
  return { requestId := requestId, status := .failedInvalidRequest,
           ping := downloadType = 13 || downloadType = 14 }

/-- `sscanf` with `%2hhX` at every second letter; what it cannot read stays zero. -/
def convertAscHexStringToBytes (text : Bytes) (length : Nat) : Bytes :=
  (List.range length).map fun index =>
    match signedNumber 16 (((text.drop (2 * index)).dropWhile isSpace).take 2) with
    | some (negative, value) => toUInt8 (if negative then -(value : Int) else value)
    | none => 0

def bytesToHexString (bytes : Bytes) : Bytes :=
  let digit (value : Nat) : UInt8 := UInt8.ofNat (if value < 10 then 0x30 + value else 0x37 + value)
  bytes.flatMap fun byte => [digit (byte.toNat / 16), digit (byte.toNat % 16)]

structure OdmRequest where
  requestId : Int
  downloadType : UInt8
  gatewayId : Bytes
  meterMacAddress : Bytes
  meterSerialNo : Bytes
  packet : Bytes
  pmeshHeader : Bytes := []
  repeats : Nat := 1
  deriving DecidableEq, Repr

/-- Eight-byte hops behind the gateway, of which the last four bytes are kept. -/
def destAddress (hopCount : UInt8) (path : Bytes) : Bytes :=
  if hopCount = 0 then slice path 4 4
  else (List.range (path.length / 8 - 1)).flatMap fun hop => slice path (8 * (hop + 1) + 4) 4

def buildOdmPmeshPacket (packetType : UInt8) (panId sourceAddress : Bytes) (hopCount : UInt8)
    (dest command : Bytes) : Bytes × Bytes :=
  let pmhLen := if hopCount.toNat > 0 then 13 + hopCount.toNat * 4 else 13 + 4
  let header := [0x2E, UInt8.ofNat (pmhLen + command.length - 1), packetType] ++ panId ++
    sourceAddress ++ [0x00, hopCount] ++ slice dest 0 (pmhLen - 13)
  (header ++ command, header)

def buildPmeshFrame (parts : List Bytes) : Result (Bytes × Bytes) := do
  let downloadType <- field parts 4
  let gateway <- field parts 1
  let hopText <- field parts 2
  let dest <- field parts 3
  let command <- field parts 5
  if gateway.length < 8 then .error .outOfRange
  else
    let hopCount <- stoi hopText
    let packetType : UInt8 := if downloadType = ascii "13" then 0x0D else 0x07
    let panId := [0x00, 0x00] ++ convertAscHexStringToBytes (gateway.drop (gateway.length - 4)) 2
    let source := convertAscHexStringToBytes (gateway.drop (gateway.length - 8)) 4
    let path := convertAscHexStringToBytes dest (dest.length / 2)
    return buildOdmPmeshPacket packetType panId source (toUInt8 hopCount)
      (destAddress (toUInt8 hopCount) path)
      (convertAscHexStringToBytes command (command.length / 2))

def pingHopCount (parts : List Bytes) : Result Int :=
  if parts.length > 2 && part parts 2 ≠ [] then stoi (part parts 2) else .ok 0

/-- The request id `ping_node_details` pushes, read as an unsigned long. -/
def pingNodeDetails (parts : List Bytes) : Result Nat := do
  let _ <- pingHopCount parts
  if parts ≠ [] then stoul (part parts 0) else .ok 0

/-- What the query of `source_route_network` answers for the path of a command. -/
inductive PathLookup where
  | found
  | absent
  | queryFailed
  deriving DecidableEq, Repr

/-- The updates when the path check fails, or none when it passes. -/
def checkPathInSourceRouteNetwork (lookup : PathLookup) (dest : Bytes) (requestId : Int) :
    Option (List StatusUpdate) :=
  if dest.length < 32 || lookup = .queryFailed then
    some [{ requestId := requestId, status := .failedPmeshError }]
  else if lookup = .found then none else some []

inductive Prepared where
  | rejected (updates : List StatusUpdate)
  | request (request : OdmRequest)
  deriving DecidableEq, Repr

def buildRequest (parts : List Bytes) (requestId : Int) (downloadType : UInt8)
    (gateway dest : Bytes) : Result OdmRequest := do
  let meterData := convertAscHexStringToBytes dest (dest.length / 2)
  let mac := bytesToHexString (slice meterData (meterData.length - 8) 8)
  let serial := bytesToHexString (slice meterData (meterData.length - 4) 4)
  if downloadType = 13 then
    let command := part parts 5
    let count <- stoi (<- field parts 6)
    return { requestId := requestId, downloadType := downloadType, gatewayId := gateway,
             meterMacAddress := mac, meterSerialNo := serial,
             packet := convertAscHexStringToBytes command (command.length / 2),
             repeats := (toUInt8 count).toNat }
  else
    let (packet, header) <- buildPmeshFrame parts
    return { requestId := requestId, downloadType := downloadType, gatewayId := gateway,
             meterMacAddress := mac, meterSerialNo := serial, packet := packet,
             pmeshHeader := header }

def prepareRequest (parts : List Bytes) (requestId : Int) (gateway dest : Bytes) :
    Result Prepared := do
  let downloadType := toUInt8 (<- stoi (<- field parts 4))
  if downloadType = 13 || downloadType = 14 then
    let _ <- pingNodeDetails parts
    let request <- buildRequest parts requestId downloadType gateway dest
    return .request request
  else
    let request <- buildRequest parts requestId downloadType gateway dest
    return .request request

/-- The consumer from the front of the queue up to `Process_ODM_request`. -/
def prepareOdm (lookup : PathLookup) (cmd : Bytes) : Result Prepared := do
  let parts := split colon cmd
  let requestId <- requestIdOf parts
  let hopCount <- stoi (<- field parts 2)
  let gateway <- field parts 1
  let dest <- field parts 3
  match if hopCount > 0 then checkPathInSourceRouteNetwork lookup dest requestId else none with
  | some updates =>
    return .rejected (updates ++ [{ requestId := requestId, status := .failedInvalidRequest }])
  | none => prepareRequest parts requestId gateway dest

end Hes.Mqtt
