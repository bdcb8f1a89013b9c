import Hes.Fuota.State

set_option autoImplicit false

namespace Hes.Fuota

open Prog Mqtt

/-- `memcpy` into a buffer that is zero behind its bytes. -/
def overwrite (buffer : Bytes) (start : Nat) (bytes : Bytes) : Bytes :=
  slice buffer 0 start ++ bytes ++ buffer.drop (start + bytes.length)

theorem byteAt_overwrite (buffer : Bytes) (start : Nat) (bytes : Bytes) (index : Nat) :
    byteAt (overwrite buffer start bytes) index =
      if start ≤ index /\ index < start + bytes.length then byteAt bytes (index - start)
      else byteAt buffer index := by
  unfold overwrite
  by_cases before : index < start
  next =>
    rw [List.append_assoc, byteAt_append_left _ _ _ (by simpa using before),
      byteAt_slice _ _ _ _ before, if_neg (by omega), Nat.zero_add]
  next =>
    by_cases inside : index < start + bytes.length
    next =>
      rw [byteAt_append_left _ _ _ (by simpa using inside), if_pos (by omega)]
      have place : index = (slice buffer 0 start).length + (index - start) := by
        rw [slice_length]
        omega
      conv => lhs; rw [place]
      rw [byteAt_append_right]
    next =>
      have place : index = (slice buffer 0 start ++ bytes).length + (index - start - bytes.length) := by
        rw [List.length_append, slice_length]
        omega
      conv => lhs; rw [place]
      rw [byteAt_append_right, if_neg (by omega)]
      simp only [byteAt, List.getD_eq_getElem?_getD, List.getElem?_drop]
      rw [show start + bytes.length + (index - start - bytes.length) = index by omega]

theorem slice_overwrite (buffer : Bytes) (start : Nat) (bytes : Bytes) :
    slice (overwrite buffer start bytes) start bytes.length = bytes := by
  conv => rhs; rw [← slice_whole bytes]
  apply slice_congr
  intro index inside
  rw [byteAt_overwrite, if_pos (by omega)]
  congr 1
  omega

theorem slice_overwrite_apart (buffer : Bytes) (start : Nat) (bytes : Bytes) (place length : Nat)
    (apart : place + length ≤ start \/ start + bytes.length ≤ place) :
    slice (overwrite buffer start bytes) place length = slice buffer place length := by
  apply slice_congr
  intro index inside
  rw [byteAt_overwrite, if_neg (by omega)]

/-- Start byte, packet type, PAN id and the address of the gateway. -/
def headerInit (gatewayId : Bytes) (packetType : UInt8) (radio : Radio) : Radio :=
  let dcuId := convertAscHexStringToBytes gatewayId 8
  let panid := [0x00, 0x00, byteAt dcuId 6, byteAt dcuId 7]
  let dcuShortAddr := slice dcuId 4 4
  { radio with
    panid := panid
    dcuShortAddr := dcuShortAddr
    clientTxBuffer := overwrite (overwrite radio.clientTxBuffer 0 [0x2E]) 2
      ([packetType] ++ panid ++ dcuShortAddr) }

/-- Router index and count, the addresses, the command `behind` bytes further, and the length. -/
def placeFrame (radio : Radio) (builder : Builder) (place : Nat) (command paths : Bytes)
    (hopCount : UInt8) (addresses : Bytes) (behind pktLength : Nat) : Radio :=
  let addressed := overwrite radio.clientTxBuffer 11 ([0x00, hopCount] ++ addresses)
  { radio with
    clientTxBuffer := overwrite (overwrite addressed (13 + behind) command) 1
      [UInt8.ofNat pktLength]
    built := { builder := builder, command := command, targetMac := radio.currentFuotaTargetMac,
               paths := slice paths 0 (hopCount.toNat * 4), hopCount := hopCount, place := place } }

/-- Addresses of the hops, or the gateway's own address where there are none. -/
def routeAddresses (radio : Radio) (paths : Bytes) (hopCount : UInt8) : Bytes :=
  if hopCount = 0 then radio.dcuShortAddr else slice paths 0 (hopCount.toNat * 4)

def framePmeshOtaCmdHeader (packetType : UInt8) (cmdData : Bytes) : Prog Fuota Unit := do
  let gatewayId <- observe fun fuota => fuota.client.gatewayId
  let place <- observe fun fuota => fuota.log.length
  setRadio fun radio =>
    let header := headerInit gatewayId packetType radio
    let hopCount := header.routerPath.hopCount
    let behind := if hopCount = 0 then 4 else hopCount.toNat * 4
    placeFrame header .gateway place cmdData header.routerPath.paths hopCount
      (routeAddresses header header.routerPath.paths hopCount) behind (12 + behind + cmdData.length)

/-- The hop count of the route is overwritten with the client's, an `int` in an `unsigned char`. -/
def framePmeshFuotaCmdHeaderForTargetNode (packetType : UInt8) (cmdData : Bytes) :
    Prog Fuota Unit := do
  let client <- observe fun fuota => fuota.client
  let place <- observe fun fuota => fuota.log.length
  setRadio fun radio =>
    let header := headerInit client.gatewayId packetType radio
    let hopCount := toUInt8 client.hopCount
    let paths := header.currentFuotaRoute.paths
    let routed := { header with currentFuotaRoute := { paths := paths, hopCount := hopCount } }
    if hopCount > 32 then routed
    else
      -- the command stands behind the first address, also where more addresses follow it
      placeFrame routed .target place cmdData paths hopCount (routeAddresses routed paths hopCount) 4
        (if hopCount > 0 then 12 + hopCount.toNat * 4 + cmdData.length
          else 12 + 4 + cmdData.length)

def frameFuotaCmdheaderForNetwork (packetType : UInt8) (cmdData : Bytes) : Prog Fuota Unit := do
  let gatewayId <- observe fun fuota => fuota.client.gatewayId
  let place <- observe fun fuota => fuota.log.length
  setRadio fun radio =>
    let header := headerInit gatewayId packetType radio
    let route := header.currentFuotaRoute
    if route.hopCount > 32 then header
    else placeFrame header .network place cmdData route.paths route.hopCount
      (routeAddresses header route.paths route.hopCount) (route.hopCount.toNat * 4)
      (12 + route.hopCount.toNat * 4 + cmdData.length)

/-- The frame in the transmit buffer, as long as its length byte says. -/
def Radio.frame (radio : Radio) : Bytes :=
  slice radio.clientTxBuffer 0 ((byteAt radio.clientTxBuffer 1).toNat + 1)

/-- The frame in the transmit buffer is written to the socket. -/
def writeFrame : Prog Fuota Bool := do
  let written <- nextWrite
  update fun fuota => { fuota with
    log := fuota.log ++ [.sent { state := fuota.machine.ondemandFuotaState
                                 requestId := fuota.client.requestId
                                 built := fuota.radio.built
                                 frame := fuota.radio.frame
                                 written := written }] }
  return written

def silenceCommand (step : Nat) : Option Bytes :=
  match step with
  | 0 => some fuotaEnable
  | 1 => some fuotaUpdatemode
  | 2 => some flashWrite
  | 3 => some flashExit
  | _ => none

def unsilenceCommand (step : Nat) : Option Bytes :=
  match step with
  | 0 => some fuotaDisableCmd
  | 1 => some fuotaModeentryDisableCmd
  | 2 => some flashWrite
  | 3 => some flashExit
  | _ => none

/-- On an alternate route and for the leaves the frame is built here, else it is already there. -/
def networkCommand (machine : Machine) : Option Bytes :=
  if machine.useAlternateFuotaRoute then silenceCommand machine.networkSilenceState
  else if machine.useAlternateFuotarouteDisable then unsilenceCommand machine.networkSilenceState
  else none

def buildNetworkCommand : Prog Fuota Unit := do
  match networkCommand (<- observe fun fuota => fuota.machine) with
  | some command => frameFuotaCmdheaderForNetwork meshCommissionPacketType command
  | none => return ()

def buildAndStoreFuotaCmd : Prog Fuota Bool := do
  buildNetworkCommand
  if <- writeFrame then
    setMachine fun machine => { machine with waitingForResponse := true }
    -- `setsockopt` never gives the 1 it is compared with
    setClient fun client => { client with timeoutState := .timerFuotaResponse }
    return true
  else return false

/-- The route table that the alternate routes are compared with. -/
def primaryHopCount (routes : List MeterVitalInfo) (targetMac : Bytes) : UInt8 :=
  match routes.find? fun entry => entry.meterMacAddress = targetMac with
  | some entry => entry.hopCount
  | none => 0

def takeRoute (radio : Radio) (chosen : AlternatePathInfo) : Radio :=
  { radio with
    currentFuotaRoute := { paths := slice chosen.routePath 0 (chosen.hopCount.toNat * 4)
                           hopCount := chosen.hopCount }
    currentFuotaTargetMac := chosen.meterMacAddress }

def useAlternate (chosen : Radio -> Option AlternatePathInfo) : Prog Fuota Bool := do
  match chosen (<- observe fun fuota => fuota.radio) with
  | some path =>
    setRadio fun radio => takeRoute radio path
    return true
  | none => return false

/-- A route of as many hops as the primary one, else the first. -/
def buildAlternateRoute (targetMac : Bytes) : Prog Fuota Bool := do
  if <- getAlternateSourceRoute then
    useAlternate fun radio =>
      let hopCount := primaryHopCount radio.gatewayRouteInfo targetMac
      (radio.alternatepaths.find? fun path => path.hopCount = hopCount).or radio.alternatepaths.head?
  else return false

def buildAlternaterouteImageTransfer (routerCount : UInt8) : Prog Fuota Bool := do
  updateStatus 22 1
  if <- getAlternateSourceRoute then
    useAlternate fun radio => radio.alternatepaths.find? fun path => path.hopCount = routerCount
  else return false

/-- The new header, and behind it the payload, which may be the buffer that is written to. -/
def updateClientTxBufferWithRoute (payload : Option Bytes) (payloadLen : Nat) : Prog Fuota Unit := do
  let gatewayId <- observe fun fuota => fuota.client.gatewayId
  setRadio fun radio =>
    let header := headerInit gatewayId meshCommissionPacketType radio
    let route := header.currentFuotaRoute
    let addresses := slice route.paths 0 (route.hopCount.toNat * 4)
    let idx := 13 + addresses.length
    let buffer := overwrite (overwrite header.clientTxBuffer 1 [0x00]) 11
      ([0x00, route.hopCount] ++ addresses)
    let bytes := slice (payload.getD buffer) 0 payloadLen
    let length := UInt8.ofNat (idx + payloadLen - 1)
    { header with
      clientTxBuffer := overwrite (overwrite buffer idx bytes) 1 [length]
      built := { builder := .alternate, command := header.built.command,
                 targetMac := header.currentFuotaTargetMac, paths := addresses,
                 hopCount := route.hopCount, place := header.built.place } }

/-- Address of the last router of the frame, behind the common prefix of the nodes. -/
def lastRouterMac (buffer : Bytes) (routerCount : UInt8) : Bytes :=
  [0x3C, 0xC1, 0xF6, 0x01] ++ slice buffer (13 + 4 * (routerCount.toNat - 1)) 4

def prepareAlternateRouteRetry (payload : Option Bytes) (payloadLen : Nat) : Prog Fuota Unit := do
  setCntx fun cntx => { cntx with retryCount := 0, alternateRetry := cntx.alternateRetry + 1 }
  updateStatus 18 1
  let buffer <- observe fun fuota => fuota.radio.clientTxBuffer
  let routerCount := byteAt buffer 12
  if routerCount = 0 then return ()
  else if <- buildAlternateRoute (lastRouterMac buffer routerCount) then
    updateClientTxBufferWithRoute payload payloadLen
    setRadio fun radio => { radio with currentFuotaCommand := radio.frame }
  else setCntx fun cntx => { cntx with alternateRetry := cntx.alternateMaxcnt }

def prepareAlternateSamerouteRetry (payload : Option Bytes) (payloadLen : Nat) :
    Prog Fuota Unit := do
  if payloadLen = 0 then return ()
  setCntx fun cntx => { cntx with retryCount := 0, alternateRetry := cntx.alternateRetry + 1 }
  updateStatus 22 1
  let buffer <- observe fun fuota => fuota.radio.clientTxBuffer
  let routerCount := byteAt buffer 12
  if routerCount = 0 then return ()
  else if <- buildAlternaterouteImageTransfer routerCount then
    updateClientTxBufferWithRoute payload payloadLen
  else setCntx fun cntx => { cntx with alternateRetry := cntx.maxRetries }

end Hes.Fuota
