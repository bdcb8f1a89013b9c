import Hes.PushRecords

set_option autoImplicit false

namespace Hes.PushRecords

open Dlms Decoders

/-- The value of a record as a meter sends it. -/
inductive Value where
  | array
  | boolean (value : Bool)
  | int8 (value : Int8)
  | int16 (value : Int16)
  | int32 (value : Int32)
  | int64 (value : Int64)
  | uint8 (value : UInt8)
  | uint16 (value : UInt16)
  | uint32 (value : UInt32)
  | uint64 (value : UInt64)
  | datetime (value : UInt32)
  | bitString (bytes : Bytes)
  | octetString (bytes : Bytes)
  | string (bytes : Bytes)
  | stringUtf8 (bytes : Bytes)
  deriving DecidableEq, Repr

/-- The low `width` bytes of a number, the highest first. -/
def toBigEndian : Nat -> Nat -> Bytes
  | 0, _ => []
  | width + 1, number => toBigEndian width (number / 256) ++ [UInt8.ofNat number]

namespace Value

def type : Value -> UInt8
  | array => 0x01
  | boolean _ => 0x03
  | bitString _ => 0x04
  | int32 _ => 0x05
  | uint32 _ => 0x06
  | octetString _ => 0x09
  | string _ => 0x0A
  | stringUtf8 _ => 0x0C
  | int8 _ => 0x0F
  | int16 _ => 0x10
  | uint8 _ => 0x11
  | uint16 _ => 0x12
  | int64 _ => 0x14
  | uint64 _ => 0x15
  | datetime _ => 0x19

def bytes : Value -> Bytes
  | array => []
  | boolean value => [if value then 1 else 0]
  | int8 value => toBigEndian 1 value.toUInt8.toNat
  | int16 value => toBigEndian 2 value.toUInt16.toNat
  | int32 value => toBigEndian 4 value.toUInt32.toNat
  | int64 value => toBigEndian 8 value.toUInt64.toNat
  | uint8 value => toBigEndian 1 value.toNat
  | uint16 value => toBigEndian 2 value.toNat
  | uint32 value | datetime value => toBigEndian 4 value.toNat
  | uint64 value => toBigEndian 8 value.toNat
  | bitString bytes | octetString bytes | string bytes | stringUtf8 bytes => bytes

/-- A length byte can count the bytes of a string. -/
def Short : Value -> Prop
  | bitString bytes | octetString bytes | string bytes | stringUtf8 bytes => bytes.length ≤ 255
  | _ => True

/-- The member of the union, or the octet string, that goes with the type. -/
def read (value : DlmsValue) : Option Value :=
  match value.type with
  | 0x01 => some array
  | 0x03 => some (boolean value.boolValue)
  | 0x04 => some (bitString value.octetString)
  | 0x05 => some (int32 value.int32Value)
  | 0x06 => some (uint32 value.uint32Value)
  | 0x09 => some (octetString value.octetString)
  | 0x0A => some (string value.octetString)
  | 0x0C => some (stringUtf8 value.octetString)
  | 0x0F => some (int8 value.int8Value)
  | 0x10 => some (int16 value.int16Value)
  | 0x11 => some (uint8 value.uint8Value)
  | 0x12 => some (uint16 value.uint16Value)
  | 0x14 => some (int64 value.int64Value)
  | 0x15 => some (uint64 value.uint64Value)
  | 0x19 => some (datetime value.uint32Value)
  | _ => none

end Value

theorem toBigEndian_length (width number : Nat) : (toBigEndian width number).length = width := by
  induction width generalizing number with
  | zero => rfl
  | succ width ih => simp [toBigEndian, ih]

theorem bigEndian_toBigEndian (width number : Nat) (small : number < 256 ^ width) :
    bigEndian (toBigEndian width number) = number := by
  induction width generalizing number with
  | zero => simp_all [toBigEndian, bigEndian]
  | succ width ih =>
    have high : number / 256 < 256 ^ width := by
      rw [Nat.pow_succ] at small
      exact Nat.div_lt_of_lt_mul (by omega)
    have rest := ih _ high
    unfold bigEndian at rest ⊢
    rw [toBigEndian, List.foldl_append, rest]
    simp only [List.foldl_cons, List.foldl_nil, UInt8.toNat_ofNat']
    omega

namespace Value

/-- The value that is stored is read back as the value that was sent. -/
theorem read_decode (value : Value) : read (decode value.type value.bytes) = some value := by
  cases value with
  | array => rfl
  | boolean value => cases value <;> rfl
  | bitString | octetString | string | stringUtf8 => rfl
  | int8 value =>
    have number := bigEndian_toBigEndian 1 value.toUInt8.toNat value.toUInt8.toNat_lt
    simp [read, decode, type, bytes, shape, number, DlmsValue.int8Value]
  | int16 value =>
    have number := bigEndian_toBigEndian 2 value.toUInt16.toNat value.toUInt16.toNat_lt
    simp [read, decode, type, bytes, shape, number, DlmsValue.int16Value]
  | int32 value =>
    have number := bigEndian_toBigEndian 4 value.toUInt32.toNat value.toUInt32.toNat_lt
    simp [read, decode, type, bytes, shape, number, DlmsValue.int32Value]
  | int64 value =>
    have number := bigEndian_toBigEndian 8 value.toUInt64.toNat value.toUInt64.toNat_lt
    simp [read, decode, type, bytes, shape, number, DlmsValue.int64Value]
  | uint8 value =>
    have number := bigEndian_toBigEndian 1 value.toNat value.toNat_lt
    simp [read, decode, type, bytes, shape, number, DlmsValue.uint8Value]
  | uint16 value =>
    have number := bigEndian_toBigEndian 2 value.toNat value.toNat_lt
    simp [read, decode, type, bytes, shape, number, DlmsValue.uint16Value]
  | uint32 value =>
    have number := bigEndian_toBigEndian 4 value.toNat value.toNat_lt
    simp [read, decode, type, bytes, shape, number, DlmsValue.uint32Value]
  | uint64 value =>
    have number := bigEndian_toBigEndian 8 value.toNat value.toNat_lt
    simp [read, decode, type, bytes, shape, number]
  | datetime value =>
    have number := bigEndian_toBigEndian 4 value.toNat value.toNat_lt
    simp [read, decode, type, bytes, shape, number, DlmsValue.uint32Value]

/-- The record of a value under an id. -/
def record (id : UInt8) (value : Value) : Record :=
  { index := id, type := value.type, bytes := value.bytes }

theorem record_complete (id : UInt8) (value : Value) (short : value.Short) :
    Complete (value.record id) := by
  cases value with
  | bitString bytes | octetString bytes | string bytes | stringUtf8 bytes =>
    exact ⟨Nat.lt_succ_of_le short, by simp [record, type, pushSupports]⟩
  | _ => exact ⟨by simp [Record.WellFormed, record, type, shape, bytes, toBigEndian_length],
      by simp [record, type, pushSupports]⟩

end Value

section RoundTrip

variable (headers : Bytes) (records : List (UInt8 × Value)) (checksum : UInt8)

/-- The records, encoded behind the headers and in front of the checksum byte. -/
def recordPacket : Bytes :=
  headers ++ (encodeAll (records.map fun record => record.2.record record.1) ++ [checksum])

def insertValue (map : DlmsRecordMap) (record : UInt8 × Value) : DlmsRecordMap :=
  Function.update map record.1 (some (decode record.2.type record.2.bytes))

theorem recordPacket_reads (twentySix : headers.length = recordsStart)
    (short : ∀ record ∈ records, record.2.Short) :
    Reads (recordPacket headers records checksum) recordsStart
      (records.map fun record => record.2.record record.1)
      ((recordPacket headers records checksum).length - 1) := by
  have bytes (encoded : Bytes) :
      slice (headers ++ (encoded ++ [checksum])) recordsStart encoded.length = encoded := by
    rw [<- twentySix, <- Nat.add_zero headers.length, slice_append_right, slice_append_whole]
  constructor
  next =>
    intro record among
    obtain ⟨⟨id, value⟩, sent, rfl⟩ := List.mem_map.mp among
    exact Value.record_complete id value (short _ sent)
  next =>
    simp only [recordPacket, List.length_append, List.length_singleton]
    omega
  next => exact bytes _
  next => omega
  next =>
    intro last
    simp only [recordPacket, List.length_append, List.length_singleton] at last
    omega
  next => exact .inl (by omega)

theorem lastWith_decode (id : UInt8) :
    (lastWith id ((records.map fun record => record.2.record record.1).map fun record =>
        (record.index, decode record.type record.bytes))).map Prod.snd =
      (records.reverse.find? fun record => record.1 = id).map fun record =>
        decode record.2.type record.2.bytes := by
  rw [lastWith, List.map_map, <- List.map_reverse, List.find?_map, Option.map_map]
  rfl

theorem record_round_trip (buffer : PacketBuffer DlmsRecordMap) (twentySix : headers.length = 26)
    (few : records.length ≤ 255) (short : ∀ record ∈ records, record.2.Short) :
    let data := recordPacket headers records checksum
    let parsed := parseDLMSRecords data (UInt8.ofNat records.length) buffer
    parsed.1 = true /\ consumed data = data.length - 1 /\
      parsed.2 = { buffer with profileData := records.foldl insertValue buffer.profileData } /\
      forall id, (parsed.2.profileData id).bind Value.read =
        ((records.reverse.find? fun record => record.1 = id).map Prod.snd).or
          ((buffer.profileData id).bind Value.read) := by
  intro data parsed
  have reads := recordPacket_reads headers records checksum twentySix short
  obtain ⟨all, stop⟩ := reads_standing data reads
  have long : recordsStart ≤ data.length := by
    simp only [data, recordPacket, List.length_append, twentySix]
    exact Nat.le_add_right 26 _
  have accepted : parses data (UInt8.ofNat records.length) = true := by
    rw [parses_iff data _ long, all, List.length_map, UInt8.toNat_ofNat']
    omega
  have merged : (storedRecords data).foldl storeRecord buffer.profileData =
      records.foldl insertValue buffer.profileData := by
    rw [storedRecords_standing data long, all, List.map_map, List.foldl_map]
    rfl
  refine ⟨accepted, stop, ?_, ?_⟩
  next => simp only [parsed, parseDLMSRecords, parseRecordsInto, merged]
  next =>
    intro id
    simp only [parsed, parseDLMSRecords, parseRecordsInto, foldl_storeRecord_apply,
      storedRecords_standing data long, all, lastWith_decode]
    cases records.reverse.find? fun record => record.1 = id with
    | none => rfl
    | some record => simp [Value.read_decode]

end RoundTrip

def sampleRecords : List (UInt8 × Value) :=
  [(0x01, .int16 (-5)), (0x02, .octetString [0x30, 0x31]), (0x03, .boolean true),
   (0x01, .uint64 7), (0x04, .array)]

theorem record_round_trip_sample :
    sampleRecords.length ≤ 255 /\
    parseDLMSRecords (recordPacket (List.replicate 26 0) sampleRecords 0x55) 5
        { profileData := fun _ => none } =
      (true, { profileData := sampleRecords.foldl insertValue fun _ => none }) := by
  obtain ⟨accepted, -, merged, -⟩ := record_round_trip (List.replicate 26 0) sampleRecords 0x55
    { profileData := fun _ => none } (by decide) (by decide)
    (by simp [sampleRecords, Value.Short])
  exact ⟨by decide, Prod.ext accepted merged⟩

end Hes.PushRecords
