import Hes.PushRecords
import Hes.Respond

set_option autoImplicit false

namespace Hes.PacketType

open Decoders PushRecords Client

/-- A `MESH_DATA_RESPONSE` of a profile: mesh and DLMS header, the records and the checksum. -/
structure DataResponse where
  headers : Bytes
  records : List Record
  checksum : UInt8
  whole : headers.length = recordsStart
  starts : byteAt headers 0 = 0x2E
  sized : (byteAt headers 1).toNat = recordsStart + (encodeAll records).length
  response : byteAt headers 2 = 0x08
  dlms : byteAt headers 17 = 0x2D
  declared : bigEndian (slice headers 18 2) = recordsStart + (encodeAll records).length - 17
  profile : byteAt headers 21 ∈ [0x0A, 0x0C, 0x0E, 0x0F]
  pageStatus : byteAt headers 24 = 0 \/ byteAt headers 24 = 1
  counted : (byteAt headers 25).toNat = records.length
  nonempty : records ≠ []
  wellFormed : ∀ record ∈ records, record.WellFormed
  summed : checksum = calculateChecksum (headers ++ encodeAll records) 17
    (recordsStart + (encodeAll records).length - 17)

namespace DataResponse

variable (frame : DataResponse)

def bytes : Bytes := frame.headers ++ encodeAll frame.records ++ [frame.checksum]

def sourceAddress : Bytes := slice frame.headers 11 4

/-- The frame somewhere in what was received. -/
def packetIn (before rest : Bytes) : Packet :=
  { buffer := before ++ (frame.bytes ++ rest), offset := before.length, length := frame.bytes.length }

theorem length_bytes : frame.bytes.length = recordsStart + (encodeAll frame.records).length + 1 := by
  simp [bytes, frame.whole, Nat.add_assoc]

theorem three_inside : 3 ≤ (encodeAll frame.records).length := by
  have many := encodeAll_length frame.records
  have some := List.length_pos_iff.mpr frame.nonempty
  omega

variable (before rest : Bytes)

theorem packet_byte (index : Nat) (inside : index < frame.bytes.length) :
    (frame.packetIn before rest).byte index = byteAt frame.bytes index := by
  simp only [packetIn, Packet.byte, byteAt_append_right]
  exact byteAt_append_left _ _ _ inside

theorem header_byte (index : Nat) (inside : index < recordsStart) :
    (frame.packetIn before rest).byte index = byteAt frame.headers index := by
  have long := frame.length_bytes
  rw [packet_byte _ _ _ _ (by omega), bytes, List.append_assoc]
  exact byteAt_append_left _ _ _ (by rw [frame.whole]; exact inside)

theorem packet_fromEnd (back : Nat) (behind : 2 ≤ back) (inside : back ≤ 4) :
    (frame.packetIn before rest).fromEnd back =
      byteAt (encodeAll frame.records) ((encodeAll frame.records).length + 1 - back) := by
  have three := frame.three_inside
  have long := frame.length_bytes
  have place : before.length + frame.bytes.length - back = before.length + (frame.headers.length +
      ((encodeAll frame.records).length + 1 - back)) := by
    rw [frame.whole]
    omega
  simp only [packetIn, Packet.fromEnd]
  rw [place, byteAt_append_right, bytes, List.append_assoc, List.append_assoc, byteAt_append_right]
  exact byteAt_append_left _ _ _ (by omega)

end DataResponse

/-- The code of an error reply, in front of the checksum. -/
def errorEnding (status : UInt8) : Bytes := [0x0E, 0x01, status]

theorem three_suffix_iff (bytes : Bytes) (first second third : UInt8) (three : 3 ≤ bytes.length) :
    [first, second, third] <:+ bytes <->
      byteAt bytes (bytes.length - 3) = first /\ byteAt bytes (bytes.length - 2) = second /\
        byteAt bytes (bytes.length - 1) = third := by
  obtain ⟨front, tail, rfl, size⟩ : exists front tail, bytes = front ++ tail /\ tail.length = 3 :=
    ⟨bytes.take (bytes.length - 3), bytes.drop (bytes.length - 3), by simp, by simp; omega⟩
  obtain ⟨a, b, c, rfl⟩ := List.length_eq_three.mp size
  have here (index : Nat) : byteAt (front ++ [a, b, c]) (front.length + index) = byteAt [a, b, c] index :=
    byteAt_append_right _ _ _
  have first_place := here 0
  have second_place := here 1
  have third_place := here 2
  rw [List.suffix_iff_eq_drop]
  simp only [List.length_append, List.length_cons, List.length_nil, Nat.add_sub_cancel, Nat.zero_add,
    Nat.reduceAdd, List.drop_left]
  rw [show front.length + 3 - 2 = front.length + 1 from by omega,
    show front.length + 3 - 1 = front.length + 2 from by omega, second_place, third_place]
  rw [Nat.add_zero] at first_place
  rw [first_place]
  simp [byteAt, eq_comm]

theorem header_slice (frame : DataResponse) (before rest : Bytes) :
    slice (frame.packetIn before rest).bytes 11 4 = frame.sourceAddress := by
  apply slice_congr
  intro index inside
  have byte := frame.header_byte before rest (11 + index) (by
    simp only [recordsStart, Dlms.pmeshHeaderSize, Dlms.dlmsHeaderSize]
    omega)
  rw [← byte]
  simp [Packet.byte, Packet.bytes, byteAt, List.getD_eq_getElem?_getD]

/-- The last three bytes of the records are what an error code of the frame is taken for. -/
def endsAsError (frame : DataResponse) : Prop :=
  errorEnding 0x29 <:+ encodeAll frame.records \/ errorEnding 0x25 <:+ encodeAll frame.records

/-- A data response of the node is taken for one exactly where its records do not end as an error. -/
theorem data_response_success_iff (frame : DataResponse) (before rest : Bytes) (control : Control)
    (addressed : frame.sourceAddress = control.srcAddrCheckBuffer) :
    (processPacketType (frame.packetIn before rest) control).1 = .success <->
      ¬ endsAsError frame := by
  have three := frame.three_inside
  have byte (index : Nat) (inside : index < recordsStart) := frame.header_byte before rest index inside
  have type : (frame.packetIn before rest).byte 2 = 0x08 := (byte 2 (by decide)).trans frame.response
  have start : (frame.packetIn before rest).byte 0 = 0x2E := (byte 0 (by decide)).trans frame.starts
  have size : ((frame.packetIn before rest).byte 1).toNat + 1 = (frame.packetIn before rest).length := by
    rw [byte 1 (by decide), frame.sized]
    exact frame.length_bytes.symm
  have profile : (frame.packetIn before rest).byte 21 ≠ 0 := by
    rw [byte 21 (by decide)]
    intro zero
    have known := frame.profile
    simp [zero] at known
  have page : (frame.packetIn before rest).byte 24 ≠ 0x0E := by
    rw [byte 24 (by decide)]
    rcases frame.pageStatus with none | more
    next => simp [none]
    next => simp [more]
  have source : validateSourceAddress (frame.packetIn before rest) control = true := by
    simp [validateSourceAddress, header_slice, addressed]
  have checked : (checkSourceAddress (frame.packetIn before rest) control).1 = .success := by
    simp [checkSourceAddress, source]
    split <;> rfl
  have ends (status : UInt8) : errorEnding status <:+ encodeAll frame.records <->
      (frame.packetIn before rest).fromEnd 4 = 0x0E /\ (frame.packetIn before rest).fromEnd 3 = 0x01 /\
        (frame.packetIn before rest).fromEnd 2 = status := by
    rw [frame.packet_fromEnd _ _ 4 (by omega) (by omega), frame.packet_fromEnd _ _ 3 (by omega) (by omega),
      frame.packet_fromEnd _ _ 2 (by omega) (by omega)]
    exact three_suffix_iff _ _ _ _ three
  rw [endsAsError, ends, ends]
  unfold processPacketType
  simp [type, start, size, profile, page]
  split
  next checksumError => simp [checksumError]
  next sound =>
    split
    next notConnected => simp [notConnected]
    next connected =>
      simp only [checked, true_iff]
      exact ⟨fun fourth third second => sound ⟨⟨third, fourth⟩, second⟩,
        fun fourth third second => connected ⟨⟨third, fourth⟩, second⟩⟩

/-- A reply of one record of type UINT32. -/
def energyReply (energy : Bytes) (four : energy.length = 4) : DataResponse where
  headers := [0x2E, 0x21, 0x08, 0, 0, 0, 0, 0, 0, 0, 0, 0x00, 0x00, 0x00, 0x02, 0x00, 0x01] ++
    [0x2D, 0x00, 0x10, 0x00, 0x0E, 0x01, 0x00, 0x00, 0x01]
  records := [{ index := 0x01, type := 0x06, bytes := energy }]
  checksum := calculateChecksum ([0x2E, 0x21, 0x08, 0, 0, 0, 0, 0, 0, 0, 0, 0, 0, 0, 0x02, 0x00, 0x01] ++
    [0x2D, 0x00, 0x10, 0x00, 0x0E, 0x01, 0x00, 0x00, 0x01] ++
      encodeAll [{ index := 0x01, type := 0x06, bytes := energy }]) 17 16
  whole := rfl
  starts := rfl
  sized := by simp [byteAt, encodeAll, Record.encode, Record.counts, shape, four, recordsStart,
    Dlms.pmeshHeaderSize, Dlms.dlmsHeaderSize]
  response := rfl
  dlms := rfl
  declared := by simp [slice, byteAt, bigEndian, List.range_succ, encodeAll, Record.encode,
    Record.counts, shape, four, recordsStart, Dlms.pmeshHeaderSize, Dlms.dlmsHeaderSize]
  profile := by decide
  pageStatus := Or.inl rfl
  counted := rfl
  nonempty := by simp
  wellFormed := by simp [Record.WellFormed, shape, four]
  summed := by simp [encodeAll, Record.encode, Record.counts, shape, four, recordsStart,
    Dlms.pmeshHeaderSize, Dlms.dlmsHeaderSize]

def askedNode : Control := { srcAddrCheckBuffer := [0x00, 0x00, 0x00, 0x02], needToValidateSrcAddr := true }

theorem energy_reply_taken :
    (processPacketType ((energyReply [0x00, 0x00, 0x00, 0x07] rfl).packetIn [] []) askedNode).1 =
      .success :=
  (data_response_success_iff (energyReply [0x00, 0x00, 0x00, 0x07] rfl) [] [] askedNode rfl).mpr
    (by unfold endsAsError errorEnding; decide)

theorem energy_reply_mistaken :
    (energyReply [0x00, 0x0E, 0x01, 0x29] rfl).sourceAddress = askedNode.srcAddrCheckBuffer /\
    (processPacketType ((energyReply [0x00, 0x0E, 0x01, 0x29] rfl).packetIn [] []) askedNode).1 =
      .dlmsChecksumError := by
  decide +kernel

end Hes.PacketType
