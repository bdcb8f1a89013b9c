import Hes.MqttRobust
import Hes.Client

set_option autoImplicit false

namespace Hes.OdmFrames

open Mqtt Text

/-- A command that `validate_request_ids` puts into the ODM queue for a message. -/
structure OdmCommand where
  gatewayId : Bytes
  seen : SeenIds
  payload : Bytes
  cmd : Bytes
  queued : exists entries after,
    validateRequestIds gatewayId seen payload = .ok (entries, after) /\ Produced.odm cmd ∈ entries

theorem produce_accepted (gatewayId cmd command : Bytes) (seen after : SeenIds)
    (produced : produce gatewayId seen command = .ok (.odm cmd, after)) :
    command = cmd /\ accepted gatewayId seen (explode colon cmd) = true := by
  unfold produce at produced
  dsimp only at produced
  split at produced
  next => simp at produced
  next =>
    split at produced
    next reaches =>
      obtain ⟨matched, valid, produced⟩ := (ok_bind _ _ _).mp produced
      split at produced
      next passed =>
        simp only [pure, Except.pure, Except.ok.injEq, Prod.mk.injEq] at produced
        have kind : enqueue (explode colon command) command = .odm cmd := produced.1
        have same : command = cmd := by
          unfold enqueue at kind
          split at kind <;> simp_all
        subst same
        simp only [Bool.and_eq_true] at passed
        simp [accepted, reaches, valid, passed]
      next => simp [pure, Except.pure] at produced
    next => simp at produced

theorem produceAll_accepted (gatewayId cmd : Bytes) (commands : List Bytes) (seen after : SeenIds)
    (entries : List Produced) (produced : produceAll gatewayId seen commands = .ok (entries, after))
    (among : Produced.odm cmd ∈ entries) :
    exists known, accepted gatewayId known (explode colon cmd) = true := by
  induction commands generalizing seen entries after with
  | nil =>
    simp only [produceAll, Except.ok.injEq, Prod.mk.injEq] at produced
    simp [← produced.1] at among
  | cons command commands ih =>
    rw [produceAll] at produced
    obtain ⟨⟨entry, next⟩, first, produced⟩ := (ok_bind _ _ _).mp produced
    obtain ⟨⟨others, last⟩, later, produced⟩ := (ok_bind _ _ _).mp produced
    simp only [pure, Except.pure, Except.ok.injEq, Prod.mk.injEq] at produced
    rcases List.mem_cons.mp (produced.1 ▸ among) with here | behind
    next => exact ⟨seen, (produce_accepted _ _ _ _ _ (here ▸ first)).2⟩
    next => exact ih next last others later behind

namespace OdmCommand

variable (command : OdmCommand)

def parts : List Bytes := split colon command.cmd

def hopCount : Int := (stoi (part command.parts 2)).toOption.getD 0

def path : Bytes := part command.parts 3

def commandText : Bytes := part command.parts 5

/-- The bytes of the DLMS command that the frame ends with. -/
def decoded : Bytes :=
  convertAscHexStringToBytes command.commandText (command.commandText.length / 2)

/-- What the frame is built of, as the checks of the message leave it. -/
structure Fields : Prop where
  count : 6 ≤ command.parts.length
  gateway : (part command.parts 1).length = 16
  hops : stoi (part command.parts 2) = .ok command.hopCount
  gatewayPath : command.hopCount = 0 -> command.path = part command.parts 1
  hopPath : command.hopCount ≠ 0 ->
    (command.path.length : Int) = expectedLength command.hopCount /\ 16 ≤ command.path.length
  long : 8 ≤ command.decoded.length
  even : command.commandText.length % 2 = 0

theorem hexPairs_length (text bytes : Bytes) (pairs : hexPairs text = .ok bytes) :
    bytes.length = text.length / 2 := by
  induction text using hexPairs.induct generalizing bytes with
  | case1 high low rest ih =>
    rw [hexPairs] at pairs
    obtain ⟨value, -, pairs⟩ := (ok_bind _ _ _).mp pairs
    obtain ⟨later, read, pairs⟩ := (ok_bind _ _ _).mp pairs
    simp only [pure, Except.pure, Except.ok.injEq] at pairs
    rw [← pairs, List.length_cons, ih later read, List.length_cons, List.length_cons]
    omega
  | case2 text short =>
    rw [hexPairs] at pairs
    next =>
      simp only [Except.ok.injEq] at pairs
      cases text with
      | nil => simp [← pairs]
      | cons high text =>
        cases text with
        | nil => simp [← pairs]
        | cons low rest => exact absurd rfl (short high low rest)
    next => exact short

theorem validateCommand_command (parts : List Bytes) (valid : validateCommand parts = .ok true) :
    (part parts 5).length % 2 = 0 /\ 8 ≤ (part parts 5).length / 2 := by
  rw [validateCommand] at valid
  obtain ⟨type, -, valid⟩ := (ok_bind _ _ _).mp valid
  obtain ⟨bytes, read, valid⟩ := (ok_bind _ _ _).mp valid
  unfold hexToBytes at read
  split at read
  next =>
    simp only [Except.ok.injEq] at read
    simp [← read, pure, Except.pure] at valid
  next even =>
    cases pairs : hexPairs (part parts 5) with
    | error fault => simp [pairs, Except.map] at read
    | ok cmdBytes =>
      simp only [pairs, Except.map, Except.ok.injEq] at read
      subst read
      have size := hexPairs_length _ _ pairs
      simp only at valid
      split at valid
      next => simp [pure, Except.pure] at valid
      next long => omega

theorem fields : command.Fields := by
  obtain ⟨entries, after, produced, among⟩ := command.queued
  obtain ⟨known, accept⟩ := produceAll_accepted _ _ _ _ _ _ produced among
  obtain ⟨checked, same⟩ := accepted_fields command.gatewayId known command.cmd accept
  simp only [accepted, reachesCommand, gatewayMatches, Bool.and_eq_true, decide_eq_true_eq] at accept
  obtain ⟨⟨⟨⟨⟨⟨-, size, gateway⟩, dest⟩, -⟩, valid⟩, -⟩, -⟩ := accept
  have valid : validateCommand (explode colon command.cmd) = .ok true := by
    cases checked : validateCommand (explode colon command.cmd) <;> simp_all
  obtain ⟨even, long⟩ := validateCommand_command _ valid
  have sixteen : command.gatewayId.length = 16 := by
    rw [← gateway, List.length_take]
    omega
  obtain ⟨count, hops⟩ := checked.hop
  have hop : command.hopCount = count := by simp [hopCount, parts, hops, Except.toOption]
  unfold destMatches at dest
  rw [← same 2 (by omega), hops] at dest
  rw [← same 5 (by omega)] at even long
  refine ⟨checked.count, checked.gateway, hop ▸ hops, ?_, ?_, ?_, even⟩
  next =>
    intro none
    rw [hop] at none
    simp only [none, if_true, decide_eq_true_eq] at dest
    rw [path, parts, same 3 (by omega), same 1 (by omega), dest]
  next =>
    intro some
    rw [hop] at some
    simp only [some, if_false, Bool.and_eq_true, decide_eq_true_eq] at dest
    rw [hop, path, parts, same 3 (by omega)]
    have front : 16 = min 16 (part (explode colon command.cmd) 3).length := by
      rw [← List.length_take, dest.2, sixteen]
    exact ⟨dest.1, by omega⟩
  next => simpa [decoded, convertAscHexStringToBytes, commandText, parts] using long

end OdmCommand

/-- Where the header of a frame ends: behind the addresses of its hops, or that of the gateway. -/
def headerEnd (hops : UInt8) : Nat := 13 + 4 * max 1 hops.toNat

section Packet

variable (packetType : UInt8) (panId sourceAddress : Bytes) (hops : UInt8) (dest command : Bytes)

def odmPacket : Bytes := (buildOdmPmeshPacket packetType panId sourceAddress hops dest command).1

def odmHeader : Bytes := (buildOdmPmeshPacket packetType panId sourceAddress hops dest command).2

theorem odmHeader_eq : odmHeader packetType panId sourceAddress hops dest command =
    [0x2E, UInt8.ofNat (headerEnd hops + command.length - 1), packetType] ++ panId ++
      sourceAddress ++ [0x00, hops] ++ slice dest 0 (4 * max 1 hops.toNat) := by
  have area : (if hops.toNat > 0 then 13 + hops.toNat * 4 else 13 + 4) = headerEnd hops := by
    unfold headerEnd
    split <;> omega
  simp only [odmHeader, buildOdmPmeshPacket, area]
  rw [show headerEnd hops - 13 = 4 * max 1 hops.toNat from by simp [headerEnd]]

theorem odmHeader_length (pan : panId.length = 4) (source : sourceAddress.length = 4) :
    (odmHeader packetType panId sourceAddress hops dest command).length = headerEnd hops := by
  rw [odmHeader_eq]
  simp [pan, source, headerEnd]
  omega

theorem odmHeader_fields (pan : panId.length = 4) (source : sourceAddress.length = 4) :
    let header := odmHeader packetType panId sourceAddress hops dest command
    byteAt header 0 = 0x2E /\ byteAt header 1 = UInt8.ofNat (headerEnd hops + command.length - 1) /\
      byteAt header 2 = packetType /\ byteAt header 12 = hops /\
      header.drop 13 = slice dest 0 (4 * max 1 hops.toNat) := by
  obtain ⟨a, b, c, d, rfl⟩ := List.length_eq_four.mp pan
  obtain ⟨e, f, g, h, rfl⟩ := List.length_eq_four.mp source
  rw [odmHeader_eq]
  exact ⟨rfl, rfl, rfl, rfl, rfl⟩

end Packet

namespace OdmCommand

variable (command : OdmCommand)

def hops : UInt8 := toUInt8 command.hopCount

def packetType : UInt8 := if part command.parts 4 = ascii "13" then 0x0D else 0x07

def panId : Bytes :=
  let gateway := part command.parts 1
  [0x00, 0x00] ++ convertAscHexStringToBytes (gateway.drop (gateway.length - 4)) 2

def sourceAddress : Bytes :=
  let gateway := part command.parts 1
  convertAscHexStringToBytes (gateway.drop (gateway.length - 8)) 4

def decodedPath : Bytes := convertAscHexStringToBytes command.path (command.path.length / 2)

def frame : Bytes := odmPacket command.packetType command.panId command.sourceAddress command.hops
  (destAddress command.hops command.decodedPath) command.decoded

def header : Bytes := odmHeader command.packetType command.panId command.sourceAddress command.hops
  (destAddress command.hops command.decodedPath) command.decoded

theorem buildPmeshFrame_frame :
    buildPmeshFrame command.parts = .ok (command.frame, command.header) := by
  have fields := command.fields
  have enough := fields.count
  have gateway := fields.gateway
  unfold buildPmeshFrame
  rw [field_part command.parts 4 (by omega), field_part command.parts 1 (by omega),
    field_part command.parts 2 (by omega), field_part command.parts 3 (by omega),
    field_part command.parts 5 (by omega)]
  have long : ¬ (part command.parts 1).length < 8 := by omega
  simp only [bind, Except.bind, long, if_false, fields.hops]
  rfl

theorem header_length : command.header.length = headerEnd command.hops :=
  odmHeader_length _ _ _ _ _ _ (by simp [panId, convertAscHexStringToBytes])
    (by simp [sourceAddress, convertAscHexStringToBytes])

theorem header_fields : byteAt command.header 0 = 0x2E /\
    byteAt command.header 1 = UInt8.ofNat (headerEnd command.hops + command.decoded.length - 1) /\
      byteAt command.header 2 = command.packetType /\ byteAt command.header 12 = command.hops /\
      command.header.drop 13 =
        slice (destAddress command.hops command.decodedPath) 0 (4 * max 1 command.hops.toNat) :=
  odmHeader_fields _ _ _ _ _ _ (by simp [panId, convertAscHexStringToBytes])
    (by simp [sourceAddress, convertAscHexStringToBytes])

theorem frame_eq : command.frame = command.header ++ command.decoded := rfl

theorem frame_length : command.frame.length = headerEnd command.hops + command.decoded.length := by
  rw [frame_eq, List.length_append, header_length]

/-- The last four bytes of a hop of the path, the gateway being hop 0. -/
def hopAddress (hop : Nat) : Bytes := convertAscHexStringToBytes (command.path.drop (16 * hop + 8)) 4

def addressArea : Bytes :=
  if command.hopCount = 0 then command.hopAddress 0
  else (List.range command.hopCount.toNat).flatMap fun hop => command.hopAddress (hop + 1)

theorem hopAddress_slice (hop : Nat) (inside : 16 * (hop + 1) ≤ command.path.length) :
    slice command.decodedPath (8 * hop + 4) 4 = command.hopAddress hop := by
  unfold hopAddress decodedPath convertAscHexStringToBytes slice
  apply List.map_congr_left
  intro index small
  have small := List.mem_range.mp small
  have within : 8 * hop + 4 + index < command.path.length / 2 := by omega
  simp only [byteAt, List.getD_eq_getElem?_getD, List.getElem?_map, List.getElem?_range within,
    Option.map_some, Option.getD_some, List.drop_drop]
  rw [show 16 * hop + 8 + 2 * index = 2 * (8 * hop + 4 + index) from by omega]

theorem path_length (few : 0 ≤ command.hopCount) (byte : command.hopCount < 256) :
    command.path.length = 16 * (command.hopCount.toNat + 1) := by
  have fields := command.fields
  by_cases none : command.hopCount = 0
  next =>
    rw [fields.gatewayPath none, fields.gateway, none]
    rfl
  next =>
    have sized := (fields.hopPath none).1
    rw [expectedLength, Int.bmod_eq_of_le (by omega) (by omega)] at sized
    omega

theorem hops_toNat (few : 0 ≤ command.hopCount) (byte : command.hopCount < 256) :
    command.hops.toNat = command.hopCount.toNat := by
  rw [hops, toUInt8, UInt8.toNat_ofNat']
  omega

theorem destAddress_area (few : 0 ≤ command.hopCount) (byte : command.hopCount < 256) :
    destAddress command.hops command.decodedPath = command.addressArea := by
  have size := command.path_length few byte
  have same := command.hops_toNat few byte
  have decodedSize : command.decodedPath.length = 8 * (command.hopCount.toNat + 1) := by
    simp only [decodedPath, convertAscHexStringToBytes, List.length_map, List.length_range, size]
    omega
  unfold destAddress addressArea
  by_cases none : command.hopCount = 0
  next =>
    have zero : command.hops = 0 := UInt8.toNat_inj.mp (by rw [same, none]; rfl)
    rw [if_pos zero, if_pos none]
    exact command.hopAddress_slice 0 (by omega)
  next =>
    have some : command.hops ≠ 0 := by
      rintro zero
      rw [zero] at same
      simp at same
      omega
    rw [if_neg some, if_neg none, decodedSize,
      show 8 * (command.hopCount.toNat + 1) / 8 - 1 = command.hopCount.toNat from by omega]
    apply List.flatMap_congr
    intro hop inside
    have inside := List.mem_range.mp inside
    exact command.hopAddress_slice (hop + 1) (by omega)

theorem hopAddress_length (hop : Nat) : (command.hopAddress hop).length = 4 := by
  simp [hopAddress, convertAscHexStringToBytes]

theorem addressArea_length (few : 0 ≤ command.hopCount) :
    command.addressArea.length = 4 * max 1 command.hopCount.toNat := by
  unfold addressArea
  split
  next none => simp [none, hopAddress_length]
  next some =>
    simp only [List.length_flatMap, hopAddress_length, List.map_const', List.length_range,
      List.sum_replicate_nat]
    omega

theorem addressArea_last (few : 0 ≤ command.hopCount) :
    slice command.addressArea (4 * (command.hopCount.toNat - 1)) 4 =
      command.hopAddress command.hopCount.toNat := by
  have four := command.hopAddress_length command.hopCount.toNat
  unfold addressArea
  split
  next none =>
    rw [none] at four ⊢
    exact (congrArg (slice _ 0) four).symm.trans (slice_whole _)
  next some =>
    obtain ⟨hop, last⟩ : exists hop, command.hopCount.toNat = hop + 1 :=
      ⟨command.hopCount.toNat - 1, by omega⟩
    have before : ((List.range hop).flatMap fun hop => command.hopAddress (hop + 1)).length =
        4 * hop := by
      simp only [List.length_flatMap, hopAddress_length, List.map_const', List.length_range,
        List.sum_replicate_nat]
      omega
    rw [last] at four ⊢
    rw [List.range_succ, List.flatMap_append, Nat.add_sub_cancel, ← before]
    have behind := slice_append_right ((List.range hop).flatMap fun hop => command.hopAddress (hop + 1))
      ([hop].flatMap fun hop => command.hopAddress (hop + 1)) 0 4
    rw [Nat.add_zero] at behind
    rw [behind]
    simp only [List.flatMap_cons, List.flatMap_nil, List.append_nil]
    exact (congrArg (slice _ 0) four).symm.trans (slice_whole _)

end OdmCommand

section Buffers

/-- The places of its buffer that a decoded text is written to: none where no digit is read. -/
def writtenPlaces (text : Bytes) : List Nat :=
  (List.range (text.length / 2)).filter fun index =>
    (signedNumber 16 (((text.drop (2 * index)).dropWhile isSpace).take 2)).isSome

/-- The places of `path` that the address area is copied from. -/
def addressPlaces (hops : UInt8) (totalBytes : Nat) : List Nat :=
  if hops = 0 then List.range' 4 4
  else (List.range (totalBytes / 8 - 1)).flatMap fun hop => List.range' (8 * (hop + 1) + 4) 4

def pathSize : Nat := 100

def commandSize : Nat := 256

theorem written_inside (text : Bytes) (size : Nat) (fits : text.length / 2 ≤ size) :
    ∀ place ∈ writtenPlaces text, place < size := by
  intro place among
  have inside := List.mem_range.mp (List.mem_filter.mp among).1
  omega

end Buffers

/-- The frame of a command, by the four things it has to say. -/
structure FrameOf (command : OdmCommand) (packet : Bytes) : Prop where
  size : (byteAt packet 1).toNat = packet.length - 1
  hops : ((byteAt packet 12).toNat : Int) = command.hopCount
  address : slice packet 13 (4 * max 1 command.hopCount.toNat) = command.addressArea
  command : packet.drop (13 + 4 * max 1 command.hopCount.toNat) = command.decoded

/-- Built inside the buffers, from bytes that are in them, and read again by the address check. -/
structure Framed (command : OdmCommand) : Prop where
  pathWritten : ∀ place ∈ writtenPlaces command.path, place < pathSize
  pathRead : ∀ place ∈ addressPlaces command.hops (command.path.length / 2), place < pathSize
  commandWritten : ∀ place ∈ writtenPlaces command.commandText, place < commandSize
  frame : exists packet header, Mqtt.buildPmeshFrame command.parts = .ok (packet, header) /\
    FrameOf command packet /\ forall control,
      (Client.getDestinationAddress packet control).srcAddrCheckBuffer =
        command.hopAddress command.hopCount.toNat

namespace OdmCommand

variable (command : OdmCommand)

theorem frame_byte (index : Nat) (inside : index < headerEnd command.hops) :
    byteAt command.frame index = byteAt command.header index := by
  rw [frame_eq]
  exact byteAt_append_left _ _ _ (by rw [header_length]; exact inside)

theorem frame_address (few : 0 ≤ command.hopCount) (byte : command.hopCount < 256) :
    command.header.drop 13 = command.addressArea := by
  have area := command.header_fields.2.2.2.2
  rw [command.destAddress_area few byte, command.hops_toNat few byte,
    ← command.addressArea_length few, slice_whole] at area
  exact area

theorem frame_slice (few : 0 ≤ command.hopCount) (byte : command.hopCount < 256) (start length : Nat)
    (inside : start + length ≤ 4 * max 1 command.hopCount.toNat) :
    slice command.frame (13 + start) length = slice command.addressArea start length := by
  have area := command.frame_address few byte
  have size := command.addressArea_length few
  apply slice_congr
  intro index small
  rw [frame_byte _ _ (by rw [headerEnd, command.hops_toNat few byte]; omega), ← area]
  simp [byteAt, List.getD_eq_getElem?_getD, Nat.add_assoc]

theorem address_extracted (few : 0 ≤ command.hopCount) (byte : command.hopCount < 256)
    (control : Control) : (Client.getDestinationAddress command.frame control).srcAddrCheckBuffer =
      command.hopAddress command.hopCount.toNat := by
  have long : 17 ≤ headerEnd command.hops := by
    unfold headerEnd
    omega
  have fields := command.header_fields
  have start := (command.frame_byte 0 (by omega)).trans fields.1
  have type := (command.frame_byte 2 (by omega)).trans fields.2.2.1
  have hops := (command.frame_byte 12 (by omega)).trans fields.2.2.2.1
  have known : command.packetType = 0x0D \/ command.packetType = 0x07 := by
    unfold packetType
    split <;> simp
  have place : (if command.hopCount.toNat = 0 then 13 else 13 + (command.hopCount.toNat - 1) * 4) =
      13 + 4 * (command.hopCount.toNat - 1) := by
    split <;> omega
  have query : ((byteAt command.frame 0 = 0x2E || byteAt command.frame 0 = 0x2A) &&
      (byteAt command.frame 2 = 0x0D || byteAt command.frame 2 = 0x07 ||
        byteAt command.frame 2 = 0x03)) = true := by
    rcases known with ping | other
    next => simp [start, type, ping]
    next => simp [start, type, other]
  rw [Client.getDestinationAddress, if_pos query]
  simp only [hops, command.hops_toNat few byte, place]
  rw [command.frame_slice few byte _ _ (by omega)]
  exact command.addressArea_last few

end OdmCommand

theorem decoded_length (command : OdmCommand) :
    command.decoded.length = command.commandText.length / 2 := by
  simp [OdmCommand.decoded, convertAscHexStringToBytes]

theorem addressPlaces_inside (hops : UInt8) (count : Nat) (same : hops.toNat = count)
    (few : count ≤ 11) : ∀ place ∈ addressPlaces hops (8 * (count + 1)), place < pathSize := by
  intro place among
  unfold addressPlaces at among
  unfold pathSize
  split at among
  next =>
    have inside := List.mem_range'_1.mp among
    omega
  next =>
    obtain ⟨hop, within, among⟩ := List.mem_flatMap.mp among
    have within := List.mem_range.mp within
    have inside := List.mem_range'_1.mp among
    omega

/-- A command is framed as it should be exactly when its path has at most eleven hops and the
length of its frame fits the length byte. -/
theorem framed_iff (command : OdmCommand) :
    Framed command <-> 0 ≤ command.hopCount /\ command.hopCount ≤ 11 /\
      13 + 4 * max 1 command.hopCount.toNat + command.decoded.length ≤ 256 := by
  have sized := command.frame_length
  have length_byte := (command.frame_byte 1 (by unfold headerEnd; omega)).trans command.header_fields.2.1
  have hop_byte := (command.frame_byte 12 (by unfold headerEnd; omega)).trans
    command.header_fields.2.2.2.1
  have long := command.fields.long
  constructor
  next =>
    intro framed
    obtain ⟨packet, header, built, matching, -⟩ := framed.frame
    obtain ⟨rfl, rfl⟩ : command.frame = packet /\ command.header = header := by
      simpa using command.buildPmeshFrame_frame.symm.trans built
    have hops := matching.hops
    rw [hop_byte] at hops
    have byte := command.hops.toNat_lt
    have few : 0 ≤ command.hopCount := by omega
    have same := command.hops_toNat few (by omega)
    have size := matching.size
    rw [length_byte, sized, headerEnd, same, UInt8.toNat_ofNat'] at size
    refine ⟨few, ?_, by omega⟩
    by_contra many
    -- the last byte of the path is taken from behind the buffer
    have some : command.hops ≠ 0 := by
      intro zero
      rw [zero] at same
      simp at same
      omega
    have last := framed.pathRead (8 * command.hopCount.toNat + 7) (by
      rw [addressPlaces, if_neg some, command.path_length few (by omega)]
      apply List.mem_flatMap.mpr
      exact ⟨command.hopCount.toNat - 1, List.mem_range.mpr (by omega), List.mem_range'_1.mpr (by omega)⟩)
    unfold pathSize at last
    omega
  next =>
    rintro ⟨few, most, fits⟩
    have byte : command.hopCount < 256 := by omega
    have same := command.hops_toNat few byte
    have path := command.path_length few byte
    have decoded := decoded_length command
    refine ⟨written_inside _ _ (by unfold pathSize; omega), ?_,
      written_inside _ _ (by unfold commandSize; omega), command.frame, command.header,
      command.buildPmeshFrame_frame, ⟨?_, ?_, ?_, ?_⟩, command.address_extracted few byte⟩
    next =>
      rw [show command.path.length / 2 = 8 * (command.hopCount.toNat + 1) from by omega]
      exact addressPlaces_inside _ _ same (by omega)
    next =>
      rw [length_byte, sized, headerEnd, same, UInt8.toNat_ofNat']
      omega
    next =>
      rw [hop_byte, same]
      omega
    next =>
      rw [command.frame_slice few byte 0 _ (by omega), ← command.addressArea_length few, slice_whole]
    next =>
      have size := command.header_length
      rw [headerEnd, same] at size
      rw [command.frame_eq, ← size, List.drop_left]

def gatewayLetters : Bytes := ascii "3CC1F601A3535435"

/-- Request 1 over a path of so many hops. -/
def commandOver (hopCount : String) (hops : Nat) (typeAndCommand : String) : Bytes :=
  ascii "1:" ++ gatewayLetters ++ ascii (":" ++ hopCount ++ ":") ++ gatewayLetters ++
    (List.replicate hops (ascii "3CC1F60100000045")).flatten ++ ascii (":" ++ typeAndCommand)

def twelveHops : OdmCommand where
  gatewayId := gatewayLetters
  seen := {}
  payload := commandOver "12" 12 "01:2B07000E01000041"
  cmd := commandOver "12" 12 "01:2B07000E01000041"
  queued := ⟨[.odm _], { globalSeenReqIds := [ascii "1"] }, by decide +kernel, List.mem_singleton.mpr rfl⟩

/-- The path of twelve hops is written behind its buffer of a hundred bytes. -/
theorem twelve_hops_overrun : 100 ∈ writtenPlaces twelveHops.path /\ ¬ Framed twelveHops := by
  have written : 100 ∈ writtenPlaces twelveHops.path := by decide +kernel
  exact ⟨written, fun framed => absurd (framed.pathWritten 100 written) (by decide)⟩

end Hes.OdmFrames
