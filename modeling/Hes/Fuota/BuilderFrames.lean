import Hes.Fuota.Frames

set_option autoImplicit false

namespace Hes.Fuota

open Prog Mqtt

/-- The buffers of the object that a frame builder stores into. -/
inductive FrameBuffer where
  | clientTxBuffer
  | currentFuotaRoute
  deriving DecidableEq, Repr

def FrameBuffer.size : FrameBuffer -> Nat
  | .clientTxBuffer => 1024
  | .currentFuotaRoute => 128

structure Store where
  buffer : FrameBuffer
  offset : Nat
  bytes : Bytes
  deriving DecidableEq, Repr

def Store.Inside (store : Store) : Prop := store.offset + store.bytes.length ≤ store.buffer.size

/-- The three builders of a command frame. -/
inductive CmdHeader where
  | ota
  | targetNode
  | network
  deriving DecidableEq, Repr

namespace CmdHeader

/-- The route a builder is called with. -/
def route (header : CmdHeader) (radio : Radio) : RouterPath :=
  match header with
  | ota => radio.routerPath
  | targetNode | network => radio.currentFuotaRoute

/-- The hop count a builder takes: for the target node the client's, stored into the route first. -/
def hopCount (header : CmdHeader) (fuota : Fuota) : UInt8 :=
  match header with
  | targetNode => toUInt8 fuota.client.hopCount
  | ota | network => (header.route fuota.radio).hopCount

/-- What the header and the addresses are checked for: `CLIENT_TX_BUFFER_SIZE` is 1024. -/
def accepts (header : CmdHeader) (cmdData : Bytes) (fuota : Fuota) : Bool :=
  match header with
  | ota => true
  | targetNode | network => header.hopCount fuota ≤ 32 &&
      12 + (header.hopCount fuota).toNat * 4 + cmdData.length ≤ 1024

/-- A builder, and whether it returns `e_success_0`. -/
def frame (header : CmdHeader) (packetType : UInt8) (cmdData : Bytes) : Prog Fuota Bool := do
  let accepted <- observe (header.accepts cmdData)
  match header with
  | ota =>
    framePmeshOtaCmdHeader packetType cmdData
    return accepted
  | targetNode =>
    if cmdData = [] then return false
    framePmeshFuotaCmdHeaderForTargetNode packetType cmdData
    return accepted
  | network =>
    if cmdData = [] then return false
    frameFuotaCmdheaderForNetwork packetType cmdData
    return accepted

/-- Bytes between the first address and the command. -/
def behind (header : CmdHeader) (fuota : Fuota) : Nat :=
  let hopCount := header.hopCount fuota
  match header with
  | ota => if hopCount = 0 then 4 else hopCount.toNat * 4
  | targetNode => 4
  | network => hopCount.toNat * 4

def pktLength (header : CmdHeader) (cmdData : Bytes) (fuota : Fuota) : Nat :=
  let hopCount := header.hopCount fuota
  match header with
  | ota => 12 + (if hopCount = 0 then 4 else hopCount.toNat * 4) + cmdData.length
  | targetNode => if hopCount > 0 then 12 + hopCount.toNat * 4 + cmdData.length
      else 12 + 4 + cmdData.length
  | network => 12 + hopCount.toNat * 4 + cmdData.length

def addresses (header : CmdHeader) (packetType : UInt8) (fuota : Fuota) : Bytes :=
  let radio := headerInit fuota.client.gatewayId packetType fuota.radio
  routeAddresses radio (header.route radio).paths (header.hopCount fuota)

/-- The stores of a builder, those into neighbouring bytes as one. -/
def stores (header : CmdHeader) (packetType : UInt8) (cmdData : Bytes) (fuota : Fuota) : List Store :=
  let radio := headerInit fuota.client.gatewayId packetType fuota.radio
  let hopCount := header.hopCount fuota
  let start : List Store := [⟨.clientTxBuffer, 0, [0x2E]⟩,
    ⟨.clientTxBuffer, 2, [packetType] ++ radio.panid ++ radio.dcuShortAddr⟩]
  -- `current_fuota_route` has 128 bytes, and the hop count of a `router_path_t` comes behind them
  let routed : List Store := if header = targetNode then [⟨.currentFuotaRoute, 128, [hopCount]⟩] else []
  let placed : List Store := [⟨.clientTxBuffer, 11, [0x00, hopCount] ++ header.addresses packetType fuota⟩,
    ⟨.clientTxBuffer, 13 + header.behind fuota, cmdData⟩,
    ⟨.clientTxBuffer, 1, [UInt8.ofNat (header.pktLength cmdData fuota)]⟩]
  if header ≠ ota /\ cmdData = [] then []
  else start ++ routed ++ if header.accepts cmdData fuota then placed else []

end CmdHeader

def storeFrame (buffer : Bytes) (store : Store) : Bytes :=
  if store.buffer = .clientTxBuffer then overwrite buffer store.offset store.bytes else buffer

/-- Last two bytes of the gateway's short id behind two zeros. -/
def gatewayPanid (gatewayId : Bytes) : Bytes :=
  [0x00, 0x00, byteAt (convertAscHexStringToBytes gatewayId 8) 6,
    byteAt (convertAscHexStringToBytes gatewayId 8) 7]

def gatewayAddress (gatewayId : Bytes) : Bytes := slice (convertAscHexStringToBytes gatewayId 8) 4 4

/-- All addresses of a route, and the gateway's own where it has none. -/
def routePath (gatewayId : Bytes) (route : RouterPath) : Bytes :=
  if route.hopCount = 0 then gatewayAddress gatewayId else slice route.paths 0 (route.hopCount.toNat * 4)

/-- The frame of a command: start byte, length, type, PAN id, source, index, count, path, command. -/
def commandFrame (gatewayId : Bytes) (packetType : UInt8) (route : RouterPath) (cmdData : Bytes) : Bytes :=
  let body := [packetType] ++ gatewayPanid gatewayId ++ gatewayAddress gatewayId ++
    [0x00, route.hopCount] ++ routePath gatewayId route ++ cmdData
  [0x2E, UInt8.ofNat (body.length + 1)] ++ body

/-- The length byte has room for the frame of a command. -/
def FitsFrame (route : RouterPath) (cmdData : Bytes) : Prop :=
  12 + (if route.hopCount = 0 then 4 else route.hopCount.toNat * 4) + cmdData.length ≤ 255

namespace CmdHeader

/-- The builder succeeds, and the frame in the transmit buffer is that of the command. -/
def Yields (header : CmdHeader) (packetType : UInt8) (cmdData : Bytes) (fuota : Fuota) : Prop :=
  (header.frame packetType cmdData fuota).1 = some true /\
    (header.frame packetType cmdData fuota).2.radio.frame =
      commandFrame fuota.client.gatewayId packetType (header.route fuota.radio) cmdData

def StoresInside (header : CmdHeader) (packetType : UInt8) (cmdData : Bytes) (fuota : Fuota) : Prop :=
  ∀ store ∈ header.stores packetType cmdData fuota, store.Inside

/-- The command behind the first address reads as the other addresses with the command behind them. -/
def Coincides (route : RouterPath) (cmdData : Bytes) (clientTxBuffer : Bytes) : Prop :=
  let others := slice route.paths 4 (route.hopCount.toNat * 4 - 4)
  let stale := slice clientTxBuffer (13 + route.hopCount.toNat * 4) cmdData.length
  cmdData ++ (others ++ stale).drop cmdData.length = others ++ cmdData

/-- Where a builder yields the frame of the command. -/
def Placed (header : CmdHeader) (cmdData : Bytes) (fuota : Fuota) : Prop :=
  let route := header.route fuota.radio
  match header with
  | ota => True
  | targetNode => cmdData ≠ [] /\ toUInt8 fuota.client.hopCount = route.hopCount /\
      (route.hopCount = 0 \/ Coincides route cmdData fuota.radio.clientTxBuffer)
  | network => cmdData ≠ [] /\ route.hopCount ≠ 0

variable {header : CmdHeader} {packetType : UInt8} {cmdData : Bytes} {fuota : Fuota}

theorem accepts_fits (near : (header.hopCount fuota) ≤ 32)
    (fits : FitsFrame (header.route fuota.radio) cmdData) : header.accepts cmdData fuota = true := by
  have short : cmdData.length ≤ 243 := by
    unfold FitsFrame at fits
    omega
  have hops : (header.hopCount fuota).toNat ≤ 32 := UInt8.le_iff_toNat_le.mp near
  cases header with
  | ota => rfl
  | targetNode | network =>
    simp only [accepts, near, decide_true, Bool.true_and, decide_eq_true_eq]
    omega

theorem frame_empty (header : CmdHeader) (other : header ≠ ota) (packetType : UInt8) (fuota : Fuota) :
    header.frame packetType [] fuota = (some false, fuota) := by
  cases header with
  | ota => exact absurd rfl other
  | targetNode | network => rfl

theorem frame_targetNode (packetType : UInt8) (some : cmdData ≠ []) (fuota : Fuota) :
    targetNode.frame packetType cmdData fuota = (.some (targetNode.accepts cmdData fuota),
      (framePmeshFuotaCmdHeaderForTargetNode packetType cmdData fuota).2) := by
  simp only [frame, if_neg some]
  rfl

theorem frame_network (packetType : UInt8) (some : cmdData ≠ []) (fuota : Fuota) :
    network.frame packetType cmdData fuota = (.some (network.accepts cmdData fuota),
      (frameFuotaCmdheaderForNetwork packetType cmdData fuota).2) := by
  simp only [frame, if_neg some]
  rfl

theorem frame_near (packetType : UInt8) (some : header ≠ ota -> cmdData ≠ [])
    (near : header.hopCount fuota ≤ 32) :
    (header.frame packetType cmdData fuota).2.radio.clientTxBuffer =
      overwrite (overwrite (overwrite
        (headerInit fuota.client.gatewayId packetType fuota.radio).clientTxBuffer 11
        ([0x00, header.hopCount fuota] ++ header.addresses packetType fuota))
        (13 + header.behind fuota) cmdData) 1 [UInt8.ofNat (header.pktLength cmdData fuota)] := by
  have far : ¬ header.hopCount fuota > 32 := UInt8.not_lt.mpr near
  cases header with
  | ota => rfl
  | targetNode =>
    rw [frame_targetNode packetType (some nofun)]
    exact congrArg Radio.clientTxBuffer (if_neg (show ¬ toUInt8 fuota.client.hopCount > 32 from far))
  | network =>
    rw [frame_network packetType (some nofun)]
    exact congrArg Radio.clientTxBuffer
      (if_neg (show ¬ fuota.radio.currentFuotaRoute.hopCount > 32 from far))

theorem frame_far (packetType : UInt8) (some : header ≠ ota -> cmdData ≠ [])
    (other : header ≠ ota) (far : header.hopCount fuota > 32) :
    (header.frame packetType cmdData fuota).2.radio.clientTxBuffer =
      (headerInit fuota.client.gatewayId packetType fuota.radio).clientTxBuffer := by
  cases header with
  | ota => exact absurd rfl other
  | targetNode =>
    rw [frame_targetNode packetType (some nofun)]
    exact (congrArg Radio.clientTxBuffer (if_pos (show toUInt8 fuota.client.hopCount > 32 from far))).trans rfl
  | network =>
    rw [frame_network packetType (some nofun)]
    exact congrArg Radio.clientTxBuffer
      (if_pos (show fuota.radio.currentFuotaRoute.hopCount > 32 from far))

/-- The transmit buffer behind a builder is what its stores make of it. -/
theorem frame_stores (hops : (header.route fuota.radio).hopCount ≤ 32)
    (fits : FitsFrame (header.route fuota.radio) cmdData) :
    (header.frame packetType cmdData fuota).2.radio.clientTxBuffer =
      (header.stores packetType cmdData fuota).foldl storeFrame fuota.radio.clientTxBuffer := by
  by_cases refused : header ≠ ota /\ cmdData = []
  next =>
    obtain ⟨other, rfl⟩ := refused
    rw [frame_empty header other, stores, if_pos ⟨other, rfl⟩]
    rfl
  next =>
    have some (other : header ≠ ota) : cmdData ≠ [] := fun none => refused ⟨other, none⟩
    rw [stores, if_neg refused]
    by_cases near : header.hopCount fuota ≤ 32
    next =>
      rw [frame_near packetType some near, if_pos (accepts_fits near fits)]
      cases header <;> rfl
    next =>
      have far : header.hopCount fuota > 32 := UInt8.not_le.mp near
      have other : header ≠ ota := fun same => by
        subst same
        exact near hops
      have refuses : header.accepts cmdData fuota = false := by
        cases header with
        | ota => exact absurd rfl other
        | targetNode | network => simp [accepts, near]
      rw [frame_far packetType some other far, refuses]
      cases header <;> rfl

end CmdHeader

section Laid

theorem slice_overwrite_within (buffer : Bytes) (start : Nat) (bytes : Bytes) (place length : Nat)
    (inside : place + length ≤ bytes.length) :
    slice (overwrite buffer start bytes) (start + place) length = slice bytes place length := by
  apply slice_congr
  intro index below
  rw [byteAt_overwrite, if_pos (by omega)]
  congr 1
  omega

variable (buffer info addresses command : Bytes) (hopCount length : UInt8) (behind : Nat)

/-- The transmit buffer with the header, the addresses and the command stored into it. -/
def laid : Bytes :=
  overwrite (overwrite (overwrite (overwrite (overwrite buffer 0 [0x2E]) 2 info) 11
    ([0x00, hopCount] ++ addresses)) (13 + behind) command) 1 [length]

variable {info}

theorem laid_head (nine : info.length = 9) :
    slice (laid buffer info addresses command hopCount length behind) 0 13 =
      [0x2E, length] ++ info ++ [0x00, hopCount] := by
  have start : slice (laid buffer info addresses command hopCount length behind) 0 1 = [0x2E] := by
    rw [laid, slice_overwrite_apart _ _ _ _ _ (by simp), slice_overwrite_apart _ _ _ _ _ (by omega),
      slice_overwrite_apart _ _ _ _ _ (by simp), slice_overwrite_apart _ _ _ _ _ (by simp)]
    exact slice_overwrite buffer 0 [0x2E]
  have counted : slice (laid buffer info addresses command hopCount length behind) 1 1 = [length] :=
    slice_overwrite _ 1 [length]
  have kept : slice (laid buffer info addresses command hopCount length behind) 2 9 = info := by
    rw [laid, slice_overwrite_apart _ _ _ _ _ (by simp), slice_overwrite_apart _ _ _ _ _ (by omega),
      slice_overwrite_apart _ _ _ _ _ (by simp), ← nine]
    exact slice_overwrite _ 2 info
  have hops : slice (laid buffer info addresses command hopCount length behind) 11 2 =
      [0x00, hopCount] := by
    rw [laid, slice_overwrite_apart _ _ _ _ _ (by simp), slice_overwrite_apart _ _ _ _ _ (by omega)]
    exact (slice_overwrite_within _ 11 _ 0 2 (by simp)).trans rfl
  rw [show 13 = 1 + (1 + (9 + 2)) from rfl, slice_append, slice_append, slice_append, start, counted,
    kept, hops]
  simp

theorem laid_addresses (within : behind ≤ addresses.length) :
    slice (laid buffer info addresses command hopCount length behind) 13 behind =
      slice addresses 0 behind := by
  rw [laid, slice_overwrite_apart _ _ _ _ _ (by simp), slice_overwrite_apart _ _ _ _ _ (by omega),
    show 13 = 11 + 2 from rfl, slice_overwrite_within _ _ _ _ _ (by simp; omega)]
  exact slice_append_right [0x00, hopCount] addresses 0 behind

theorem laid_command : slice (laid buffer info addresses command hopCount length behind)
    (13 + behind) command.length = command := by
  rw [laid, slice_overwrite_apart _ _ _ _ _ (by simp; omega)]
  exact slice_overwrite _ (13 + behind) command

/-- Addresses and stale bytes behind the command. -/
theorem laid_rest (nine : info.length = 9) (count : Nat) :
    slice (laid buffer info addresses command hopCount length behind)
      (13 + behind + command.length) count =
      slice (overwrite buffer 13 addresses) (13 + behind + command.length) count := by
  rw [laid, slice_overwrite_apart _ _ _ _ _ (by simp; omega),
    slice_overwrite_apart _ _ _ _ _ (by omega)]
  apply slice_congr
  intro index _
  generalize position : 13 + behind + command.length + index = place
  have size : ([0x00, hopCount] ++ addresses).length = addresses.length + 2 := by simp
  rw [byteAt_overwrite _ 11, byteAt_overwrite _ 13, size]
  by_cases inside : place < 13 + addresses.length
  next =>
    rw [if_pos (by omega), if_pos (by omega), show place - 11 = [0x00, hopCount].length + (place - 13) by
      simp only [List.length_cons, List.length_nil]; omega, byteAt_append_right]
  next =>
    rw [if_neg (by omega), if_neg (by omega), byteAt_overwrite, if_neg (by omega), byteAt_overwrite,
      if_neg (by simp; omega)]

end Laid

namespace CmdHeader

variable {header : CmdHeader} {packetType : UInt8} {cmdData : Bytes} {fuota : Fuota}

def info (packetType : UInt8) (gatewayId : Bytes) : Bytes :=
  [packetType] ++ gatewayPanid gatewayId ++ gatewayAddress gatewayId

theorem info_length (packetType : UInt8) (gatewayId : Bytes) : (info packetType gatewayId).length = 9 := by
  simp [info, gatewayPanid, gatewayAddress]

theorem routePath_length (gatewayId : Bytes) (route : RouterPath) : (routePath gatewayId route).length =
    if route.hopCount = 0 then 4 else route.hopCount.toNat * 4 := by
  unfold routePath
  split <;> simp [gatewayAddress]

/-- The transmit buffer behind a builder that takes the hop count. -/
def built (header : CmdHeader) (packetType : UInt8) (cmdData : Bytes) (fuota : Fuota) : Bytes :=
  laid fuota.radio.clientTxBuffer (info packetType fuota.client.gatewayId)
    (header.addresses packetType fuota) cmdData (header.hopCount fuota)
    (UInt8.ofNat (header.pktLength cmdData fuota)) (header.behind fuota)

theorem frame_built (some : header ≠ ota -> cmdData ≠ []) (near : header.hopCount fuota ≤ 32) :
    (header.frame packetType cmdData fuota).2.radio.frame =
      slice (header.built packetType cmdData fuota) 0
        ((UInt8.ofNat (header.pktLength cmdData fuota)).toNat + 1) := by
  have same : (header.frame packetType cmdData fuota).2.radio.clientTxBuffer =
      header.built packetType cmdData fuota := frame_near packetType some near
  have head := laid_head fuota.radio.clientTxBuffer (header.addresses packetType fuota) cmdData
    (header.hopCount fuota) (UInt8.ofNat (header.pktLength cmdData fuota)) (header.behind fuota)
    (info_length packetType fuota.client.gatewayId)
  have length : byteAt (header.built packetType cmdData fuota) 1 =
      UInt8.ofNat (header.pktLength cmdData fuota) := by
    have read := byteAt_slice (header.built packetType cmdData fuota) 0 13 1 (by decide)
    rw [built, head] at read
    exact read.symm
  rw [Radio.frame, same, length]

theorem frame_accepts (some : header ≠ ota -> cmdData ≠ []) :
    (header.frame packetType cmdData fuota).1 = .some (header.accepts cmdData fuota) := by
  cases header with
  | ota => rfl
  | targetNode => rw [frame_targetNode packetType (some nofun)]
  | network => rw [frame_network packetType (some nofun)]

theorem commandFrame_head (gatewayId : Bytes) (packetType : UInt8) (route : RouterPath) (cmdData : Bytes) :
    commandFrame gatewayId packetType route cmdData =
      [0x2E, UInt8.ofNat (12 + (routePath gatewayId route).length + cmdData.length)] ++
        info packetType gatewayId ++ [0x00, route.hopCount] ++ (routePath gatewayId route ++ cmdData) := by
  have size : (info packetType gatewayId ++ [0x00, route.hopCount] ++ routePath gatewayId route ++
      cmdData).length + 1 = 12 + (routePath gatewayId route).length + cmdData.length := by
    simp only [List.length_append, info_length, List.length_cons, List.length_nil]
    omega
  show [0x2E, UInt8.ofNat ((info packetType gatewayId ++ [0x00, route.hopCount] ++
    routePath gatewayId route ++ cmdData).length + 1)] ++ (info packetType gatewayId ++
      [0x00, route.hopCount] ++ routePath gatewayId route ++ cmdData) = _
  rw [size]
  simp

/-- With the right hop count and length the frame is right where its path and command are. -/
theorem yields_of_counts (some : header ≠ ota -> cmdData ≠ []) (near : header.hopCount fuota ≤ 32)
    (fits : FitsFrame (header.route fuota.radio) cmdData)
    (hops : header.hopCount fuota = (header.route fuota.radio).hopCount)
    (counts : header.pktLength cmdData fuota =
      12 + (routePath fuota.client.gatewayId (header.route fuota.radio)).length + cmdData.length) :
    header.Yields packetType cmdData fuota <->
      slice (header.built packetType cmdData fuota) 13
        ((routePath fuota.client.gatewayId (header.route fuota.radio)).length + cmdData.length) =
        routePath fuota.client.gatewayId (header.route fuota.radio) ++ cmdData := by
  have below : header.pktLength cmdData fuota ≤ 255 := by
    rw [counts, routePath_length]
    exact fits
  have head := laid_head fuota.radio.clientTxBuffer (header.addresses packetType fuota) cmdData
    (header.hopCount fuota) (UInt8.ofNat (header.pktLength cmdData fuota)) (header.behind fuota)
    (info_length packetType fuota.client.gatewayId)
  have size : (UInt8.ofNat (header.pktLength cmdData fuota)).toNat + 1 = 13 +
      ((routePath fuota.client.gatewayId (header.route fuota.radio)).length + cmdData.length) := by
    rw [UInt8.toNat_ofNat', Nat.mod_eq_of_lt (by omega), counts]
    omega
  rw [Yields, frame_accepts some, accepts_fits near fits, frame_built some near, size, slice_append,
    commandFrame_head, ← counts, ← hops]
  simp only [true_and, Nat.zero_add]
  rw [show slice (header.built packetType cmdData fuota) 0 13 = _ from head]
  exact List.append_right_inj _

theorem not_yields_empty (other : header ≠ ota) : ¬ header.Yields packetType [] fuota := by
  intro yields
  rw [Yields, frame_empty header other] at yields
  simp at yields

theorem byteAt_head (length : UInt8) (gatewayId : Bytes) (hopCount : UInt8) (rest : Bytes) :
    byteAt ([0x2E, length] ++ info packetType gatewayId ++ [0x00, hopCount] ++ rest) 12 = hopCount := by
  have size : ([0x2E, length] ++ info packetType gatewayId).length = 11 := by simp [info_length]
  rw [List.append_assoc, show 12 = ([0x2E, length] ++ info packetType gatewayId).length + 1 by rw [size],
    byteAt_append_right]
  rfl

/-- A frame that is right has the length and the hop count of the route. -/
theorem yields_counts (some : header ≠ ota -> cmdData ≠ []) (near : header.hopCount fuota ≤ 32)
    (yields : header.Yields packetType cmdData fuota) :
    (UInt8.ofNat (header.pktLength cmdData fuota)).toNat =
      12 + (routePath fuota.client.gatewayId (header.route fuota.radio)).length + cmdData.length /\
    header.hopCount fuota = (header.route fuota.radio).hopCount := by
  have right := yields.2
  rw [frame_built some near, commandFrame_head] at right
  have size := congrArg List.length right
  simp only [slice_length, List.length_append, info_length, List.length_cons, List.length_nil] at size
  refine ⟨by omega, ?_⟩
  have head := laid_head fuota.radio.clientTxBuffer (header.addresses packetType fuota) cmdData
    (header.hopCount fuota) (UInt8.ofNat (header.pktLength cmdData fuota)) (header.behind fuota)
    (info_length packetType fuota.client.gatewayId)
  calc header.hopCount fuota
    _ = byteAt (slice (header.built packetType cmdData fuota) 0 13) 12 := by
      rw [built, head]
      exact (byteAt_head _ _ _ []).symm.trans (by rw [List.append_nil])
    _ = byteAt (slice (header.built packetType cmdData fuota) 0
        ((UInt8.ofNat (header.pktLength cmdData fuota)).toNat + 1)) 12 := by
      rw [byteAt_slice _ _ _ _ (by decide), byteAt_slice _ _ _ _ (by omega)]
    _ = _ := by rw [right, byteAt_head]

theorem addresses_path (hops : header.hopCount fuota = (header.route fuota.radio).hopCount) :
    header.addresses packetType fuota = routePath fuota.client.gatewayId (header.route fuota.radio) := by
  rw [routePath, ← hops]
  cases header <;> rfl

/-- Behind all addresses the command is in its place. -/
theorem yields_behind (some : header ≠ ota -> cmdData ≠ []) (near : header.hopCount fuota ≤ 32)
    (fits : FitsFrame (header.route fuota.radio) cmdData)
    (hops : header.hopCount fuota = (header.route fuota.radio).hopCount)
    (place : header.behind fuota =
      (routePath fuota.client.gatewayId (header.route fuota.radio)).length)
    (counts : header.pktLength cmdData fuota = 12 + header.behind fuota + cmdData.length) :
    header.Yields packetType cmdData fuota := by
  rw [place] at counts
  apply (yields_of_counts some near fits hops counts).mpr
  rw [← place, slice_append, built, laid_command, laid_addresses _ _ _ _ _ _ (by rw [addresses_path hops, place]),
    addresses_path hops, place, slice_whole]

theorem routePath_split (gatewayId : Bytes) (route : RouterPath) (hop : route.hopCount ≠ 0) :
    routePath gatewayId route = slice (routePath gatewayId route) 0 4 ++
      slice route.paths 4 (route.hopCount.toNat * 4 - 4) := by
  have positive : 0 < route.hopCount.toNat := Nat.pos_of_ne_zero fun none => hop (UInt8.toNat_inj.mp none)
  have split := slice_append route.paths 0 4 (route.hopCount.toNat * 4 - 4)
  have size : 4 + (route.hopCount.toNat * 4 - 4) = route.hopCount.toNat * 4 := by omega
  have first : slice (slice route.paths 0 (route.hopCount.toNat * 4)) 0 4 = slice route.paths 0 4 := by
    apply slice_congr
    intro index inside
    rw [byteAt_slice _ _ _ _ (by omega), Nat.zero_add]
  rw [show routePath gatewayId route = slice route.paths 0 (route.hopCount.toNat * 4) from if_neg hop,
    first]
  conv => lhs; rw [← size, split]

/-- What the command does not overwrite of the other addresses and the bytes behind them. -/
theorem others_drop (route : RouterPath) (hop : route.hopCount ≠ 0) (gatewayId buffer cmdData : Bytes) :
    (slice route.paths 4 (route.hopCount.toNat * 4 - 4) ++
      slice buffer (13 + route.hopCount.toNat * 4) cmdData.length).drop cmdData.length =
      slice (overwrite buffer 13 (routePath gatewayId route)) (17 + cmdData.length)
        (route.hopCount.toNat * 4 - 4) := by
  have positive : 0 < route.hopCount.toNat := Nat.pos_of_ne_zero fun none => hop (UInt8.toNat_inj.mp none)
  have path : routePath gatewayId route = slice route.paths 0 (route.hopCount.toNat * 4) := if_neg hop
  have others : slice (overwrite buffer 13 (routePath gatewayId route)) 17
      (route.hopCount.toNat * 4 - 4) = slice route.paths 4 (route.hopCount.toNat * 4 - 4) := by
    rw [path, show 17 = 13 + 4 from rfl, slice_overwrite_within _ _ _ _ _ (by rw [slice_length]; omega)]
    apply slice_congr
    intro index inside
    rw [byteAt_slice _ _ _ _ (by omega), Nat.zero_add]
  have stale : slice (overwrite buffer 13 (routePath gatewayId route)) (13 + route.hopCount.toNat * 4)
      cmdData.length = slice buffer (13 + route.hopCount.toNat * 4) cmdData.length := by
    refine slice_overwrite_apart _ _ _ _ _ ?_
    rw [path, slice_length]
    omega
  have whole := slice_append (overwrite buffer 13 (routePath gatewayId route)) 17
    (route.hopCount.toNat * 4 - 4) cmdData.length
  rw [others, show 17 + (route.hopCount.toNat * 4 - 4) = 13 + route.hopCount.toNat * 4 by omega, stale,
    Nat.add_comm, slice_append] at whole
  rw [← whole]
  exact List.drop_left' (slice_length _ _ _)

/-- Over one hop and more the builder for a target node has the command behind the first address. -/
theorem yields_targetNode (some : cmdData ≠ [])
    (hops : targetNode.hopCount fuota = (targetNode.route fuota.radio).hopCount)
    (near : targetNode.hopCount fuota ≤ 32) (fits : FitsFrame (targetNode.route fuota.radio) cmdData)
    (hop : (targetNode.route fuota.radio).hopCount ≠ 0) :
    targetNode.Yields packetType cmdData fuota <->
      Coincides (targetNode.route fuota.radio) cmdData fuota.radio.clientTxBuffer := by
  have path : (routePath fuota.client.gatewayId (targetNode.route fuota.radio)) =
      slice (targetNode.route fuota.radio).paths 0 ((targetNode.route fuota.radio).hopCount.toNat * 4) :=
    if_neg hop
  have positive : 0 < (targetNode.route fuota.radio).hopCount.toNat :=
    Nat.pos_of_ne_zero fun none => hop (UInt8.toNat_inj.mp none)
  have counts : targetNode.pktLength cmdData fuota = 12 + (routePath fuota.client.gatewayId
      (targetNode.route fuota.radio)).length + cmdData.length := by
    rw [path, slice_length, ← hops]
    exact if_pos (UInt8.pos_iff_ne_zero.mpr (hops ▸ hop))
  have four : 4 ≤ (routePath fuota.client.gatewayId (targetNode.route fuota.radio)).length := by
    rw [path, slice_length]
    omega
  have first : slice (targetNode.built packetType cmdData fuota) 13 4 =
      slice (routePath fuota.client.gatewayId (targetNode.route fuota.radio)) 0 4 := by
    rw [built, ← addresses_path hops]
    exact laid_addresses _ _ _ _ _ _ (by rwa [addresses_path hops])
  have second : slice (targetNode.built packetType cmdData fuota) 17 cmdData.length = cmdData :=
    laid_command _ _ _ _ _ 4
  have rest : slice (targetNode.built packetType cmdData fuota) (17 + cmdData.length)
      ((targetNode.route fuota.radio).hopCount.toNat * 4 - 4) =
      (slice (targetNode.route fuota.radio).paths 4 ((targetNode.route fuota.radio).hopCount.toNat * 4 - 4) ++
        slice fuota.radio.clientTxBuffer (13 + (targetNode.route fuota.radio).hopCount.toNat * 4)
          cmdData.length).drop cmdData.length := by
    rw [others_drop _ hop fuota.client.gatewayId, ← addresses_path hops]
    exact laid_rest _ _ _ _ _ 4 (info_length _ _) _
  have size : (routePath fuota.client.gatewayId (targetNode.route fuota.radio)).length + cmdData.length =
      4 + (cmdData.length + ((targetNode.route fuota.radio).hopCount.toNat * 4 - 4)) := by
    rw [path, slice_length]
    omega
  rw [yields_of_counts (fun _ => some) near fits hops counts, size, slice_append, slice_append, first,
    second]
  rw [show 13 + 4 = 17 from rfl, rest]
  conv => lhs; rhs; rw [routePath_split _ _ hop, List.append_assoc]
  exact List.append_right_inj _

theorem near_of_yields (other : header ≠ ota) (some : cmdData ≠ [])
    (yields : header.Yields packetType cmdData fuota) : header.hopCount fuota ≤ 32 := by
  have accepted := yields.1
  rw [frame_accepts fun _ => some] at accepted
  cases header with
  | ota => exact absurd rfl other
  | targetNode | network =>
    simp only [accepts, Option.some.injEq, Bool.and_eq_true, decide_eq_true_eq] at accepted
    exact accepted.1

theorem some_of_yields (other : header ≠ ota) (yields : header.Yields packetType cmdData fuota) :
    cmdData ≠ [] := by
  rintro rfl
  exact not_yields_empty other yields

/-- Where each of the builders yields the frame of the command. -/
theorem yields_iff (near : (header.route fuota.radio).hopCount ≤ 32)
    (fits : FitsFrame (header.route fuota.radio) cmdData) :
    header.Yields packetType cmdData fuota <-> header.Placed cmdData fuota := by
  have length := routePath_length fuota.client.gatewayId (header.route fuota.radio)
  cases header with
  | ota => exact iff_of_true (yields_behind (absurd rfl) near fits rfl length.symm rfl) trivial
  | targetNode =>
    constructor
    next =>
      intro yields
      have some := some_of_yields (by decide) yields
      have near := near_of_yields (by decide) some yields
      have hops := (yields_counts (fun _ => some) near yields).2
      refine ⟨some, hops, or_iff_not_imp_left.mpr fun hop => ?_⟩
      exact (yields_targetNode some hops near fits hop).mp yields
    next =>
      rintro ⟨some, hops, placed⟩
      have same : targetNode.hopCount fuota = (targetNode.route fuota.radio).hopCount := hops
      by_cases hop : (targetNode.route fuota.radio).hopCount = 0
      next =>
        refine yields_behind (fun _ => some) (same ▸ near) fits same (length.trans (if_pos hop)).symm ?_
        exact if_neg (UInt8.pos_iff_ne_zero.not.mpr (not_not.mpr (same.trans hop)))
      next => exact (yields_targetNode some same (same ▸ near) fits hop).mpr (placed.resolve_left hop)
  | network =>
    constructor
    next =>
      intro yields
      have some := some_of_yields (by decide) yields
      refine ⟨some, fun hop => ?_⟩
      have hops : network.hopCount fuota ≤ 32 := near
      have counts := (yields_counts (fun _ => some) hops yields).1
      rw [length, if_pos hop, pktLength, show network.hopCount fuota = 0 from hop] at counts
      simp only [UInt8.toNat_ofNat'] at counts
      have short : cmdData.length ≤ 239 := by
        rw [FitsFrame, if_pos hop] at fits
        omega
      rw [Nat.mod_eq_of_lt (by simp; omega)] at counts
      simp at counts
    next =>
      rintro ⟨some, hop⟩
      exact yields_behind (fun _ => some) near fits rfl (length.trans (if_neg hop)).symm rfl

theorem inside_start : ∀ store ∈ [Store.mk .clientTxBuffer 0 [0x2E],
    Store.mk .clientTxBuffer 2 ([packetType] ++ (headerInit fuota.client.gatewayId packetType
      fuota.radio).panid ++ (headerInit fuota.client.gatewayId packetType fuota.radio).dcuShortAddr)],
    store.Inside := by
  simp [Store.Inside, FrameBuffer.size, headerInit]

/-- The only store that leaves its buffer is that of the hop count behind the route. -/
theorem storesInside_iff (near : (header.route fuota.radio).hopCount ≤ 32)
    (fits : FitsFrame (header.route fuota.radio) cmdData) :
    header.StoresInside packetType cmdData fuota <-> header ≠ targetNode \/ cmdData = [] := by
  constructor
  next =>
    intro inside
    by_cases same : header = targetNode
    next =>
      subst same
      refine Or.inr (by_contra fun some => ?_)
      have outside := inside ⟨.currentFuotaRoute, 128, [targetNode.hopCount fuota]⟩ (by simp [stores, some])
      simp [Store.Inside, FrameBuffer.size] at outside
    next => exact Or.inl same
  next =>
    intro allowed
    have hops : (header.route fuota.radio).hopCount.toNat ≤ 32 := UInt8.le_iff_toNat_le.mp near
    have short : cmdData.length ≤ 243 := by
      unfold FitsFrame at fits
      omega
    rw [StoresInside, stores]
    by_cases refused : header ≠ ota /\ cmdData = []
    next => simp [refused]
    next =>
      have other : header ≠ targetNode := by
        rintro rfl
        exact refused ⟨by decide, allowed.resolve_left (absurd rfl)⟩
      have same : header.hopCount fuota = (header.route fuota.radio).hopCount := by
        cases header <;> first | rfl | exact absurd rfl other
      have addressed : (header.addresses packetType fuota).length ≤ 128 := by
        rw [addresses_path same, routePath_length]
        split <;> omega
      have behind : header.behind fuota ≤ 128 := by
        rw [← same] at hops
        cases header with
        | ota => simp only [CmdHeader.behind]; split <;> omega
        | targetNode => exact absurd rfl other
        | network => simp only [CmdHeader.behind]; omega
      rw [if_neg refused, if_neg other, List.append_nil]
      intro store stored
      rw [List.mem_append] at stored
      cases stored with
      | inl start => exact inside_start store start
      | inr placed =>
        split at placed
        next =>
          simp only [List.mem_cons, List.not_mem_nil, or_false] at placed
          obtain rfl | rfl | rfl := placed <;> simp [Store.Inside, FrameBuffer.size] <;> omega
        next => simp at placed

end CmdHeader

/-- The three builders agree with the frame of a command, and store inside of their buffers. -/
theorem cmdHeaders_right_iff (header : CmdHeader) (packetType : UInt8) (cmdData : Bytes) (fuota : Fuota)
    (near : (header.route fuota.radio).hopCount ≤ 32)
    (fits : FitsFrame (header.route fuota.radio) cmdData) :
    (header.Yields packetType cmdData fuota <-> header.Placed cmdData fuota) /\
    (header.Yields packetType cmdData fuota /\ header.StoresInside packetType cmdData fuota <->
      header = .ota \/ header = .network /\ cmdData ≠ [] /\ (header.route fuota.radio).hopCount ≠ 0) /\
    (header.frame packetType cmdData fuota).2.radio.clientTxBuffer =
      (header.stores packetType cmdData fuota).foldl storeFrame fuota.radio.clientTxBuffer := by
  have placed : header.Yields packetType cmdData fuota <-> header.Placed cmdData fuota :=
    CmdHeader.yields_iff near fits
  refine ⟨placed, ?_, CmdHeader.frame_stores near fits⟩
  rw [placed, CmdHeader.storesInside_iff near fits]
  cases header with
  | ota => simp [CmdHeader.Placed]
  | targetNode => simp +contextual [CmdHeader.Placed]
  | network => simp [CmdHeader.Placed]

/-- A gateway whose target node is two hops away. -/
def overTwoHops : Fuota where
  client := { gatewayId := "3CC1F60112345678".toUTF8.toList, hopCount := 2 }
  radio := { currentFuotaRoute := { paths := [1, 2, 3, 4, 5, 6, 7, 8], hopCount := 2 } }

theorem cmdHeaders_right_iff_overTwoHops :
    CmdHeader.network.Yields meshCommissionPacketType fuotaEnable overTwoHops /\
      CmdHeader.network.StoresInside meshCommissionPacketType fuotaEnable overTwoHops :=
  (cmdHeaders_right_iff .network meshCommissionPacketType fuotaEnable overTwoHops (by decide)
    (by unfold FitsFrame; decide)).2.1.mpr (Or.inr (by decide))

/-- The sector read command stands where the address of the target node belongs. -/
theorem sectorRead_displaced :
    (CmdHeader.targetNode.frame fuotaDataQuery sectorRead overTwoHops).2.radio.frame ≠
      commandFrame overTwoHops.client.gatewayId fuotaDataQuery
        (CmdHeader.targetNode.route overTwoHops.radio) sectorRead := by
  decide +kernel

end Hes.Fuota
