import Mathlib.Logic.Function.Basic
import Hes.Bytes

set_option autoImplicit false

namespace Hes.Dlms

/-- The type code, the union read as its eight little-endian bytes, and the octet string. -/
structure DlmsValue where
  type : UInt8 := 0
  uint64Value : UInt64 := 0
  octetString : Bytes := []
  deriving DecidableEq, Repr

namespace DlmsValue

variable (value : DlmsValue)

-- the other members of the union: the low bytes of the little-endian number

def boolValue : Bool := value.uint64Value.toUInt8 != 0

def int8Value : Int8 := value.uint64Value.toUInt8.toInt8

def int16Value : Int16 := value.uint64Value.toUInt16.toInt16

def int32Value : Int32 := value.uint64Value.toUInt32.toInt32

def int64Value : Int64 := value.uint64Value.toInt64

def uint8Value : UInt8 := value.uint64Value.toUInt8

def uint16Value : UInt16 := value.uint64Value.toUInt16

def uint32Value : UInt32 := value.uint64Value.toUInt32

end DlmsValue

abbrev DlmsRecordMap := UInt8 -> Option DlmsValue

def numeric (data : Bytes) (offset : Nat) (type : UInt8) (width : Nat) :
    Option (DlmsValue × Nat) :=
  if offset + width > data.length then none
  else some ({ type := type, uint64Value := UInt64.ofNat (bigEndian (slice data offset width)) },
    offset + width)

def octets (data : Bytes) (offset : Nat) (type : UInt8) : Option (DlmsValue × Nat) :=
  let length := (byteAt data offset).toNat
  if offset + 1 + length > data.length then none
  else some ({ type := type, octetString := slice data (offset + 1) length }, offset + 1 + length)

/-- The value and the offset behind it, or `none` where the source returns false. -/
def parseByType (data : Bytes) (offset : Nat) (type : UInt8) : Option (DlmsValue × Nat) :=
  if offset ≥ data.length then none else
  match type with
  | 0x01 => some ({ type := type }, offset)
  | 0x03 => some ({ type := type, uint64Value := if byteAt data offset = 0 then 0 else 1 },
      offset + 1)
  | 0x05 | 0x06 | 0x19 => numeric data offset type 4
  | 0x04 | 0x09 | 0x0A | 0x0C => octets data offset type
  | 0x0F | 0x11 => numeric data offset type 1
  | 0x10 | 0x12 => numeric data offset type 2
  | 0x14 | 0x15 => numeric data offset type 8
  | _ => none

/-- One turn of the record loop: the record and the next offset, or `none` where it breaks. -/
def parseRecord (data : Bytes) (offset : Nat) : Option ((UInt8 × DlmsValue) × Nat) :=
  if offset + 3 > data.length then none
  else if byteAt data (offset + 1) ≠ 0 then none
  else (parseByType data (offset + 3) (byteAt data (offset + 2))).map fun parsed =>
    ((byteAt data offset, parsed.1), parsed.2)

/-- The records the loop stores before it ends; each turn consumes at least three bytes. -/
def recordsFrom (data : Bytes) : Nat -> Nat -> List (UInt8 × DlmsValue)
  | 0, _ => []
  | fuel + 1, offset =>
    if offset < data.length - 1 then
      match parseRecord data offset with
      | some (record, next) => record :: recordsFrom data fuel next
      | none => []
    else []

def pmeshHeaderSize : Nat := 17

def dlmsHeaderSize : Nat := 9

/-- Every record a packet stores, also when the packet as a whole then fails. -/
def storedRecords (data : Bytes) : List (UInt8 × DlmsValue) :=
  if data.length < pmeshHeaderSize + dlmsHeaderSize then []
  else recordsFrom data data.length (pmeshHeaderSize + dlmsHeaderSize)

/-- `SUCCESS` of both record parsers: long enough, and as many records as announced. -/
def parses (data : Bytes) (numberOfRecords : UInt8) : Bool :=
  decide (pmeshHeaderSize + dlmsHeaderSize ≤ data.length) &&
    (storedRecords data).length == numberOfRecords.toNat

def storeRecord (records : DlmsRecordMap) (record : UInt8 × DlmsValue) : DlmsRecordMap :=
  Function.update records record.1 (some record.2)

/-- The completed blocks and the block in progress. -/
structure BlockLoad where
  profilesData : List DlmsRecordMap := []
  partialProfile : DlmsRecordMap := fun _ => none

def storeBlockRecord (blocks : BlockLoad) (record : UInt8 × DlmsValue) : BlockLoad :=
  let extended := storeRecord blocks.partialProfile record
  if record.1 = 0x06 then
    { profilesData := blocks.profilesData ++ [extended], partialProfile := fun _ => none }
  else { blocks with partialProfile := extended }

structure PacketBuffer (T : Type) where
  totalPacketsReceived : Nat := 0
  lastPacketTime : Int := 0
  profileData : T

def parseRecordsInto {T : Type} (store : T -> UInt8 × DlmsValue -> T) (data : Bytes)
    (numberOfRecords : UInt8) (records : PacketBuffer T) : Bool × PacketBuffer T :=
  (parses data numberOfRecords,
    { records with profileData := (storedRecords data).foldl store records.profileData })

def parseDLMSRecords := parseRecordsInto storeRecord

def parseBlockLoadDLMSRecords := parseRecordsInto storeBlockRecord

theorem parseByType_advances (data : Bytes) (offset next : Nat) (type : UInt8) (value : DlmsValue)
    (parsed : parseByType data offset type = some (value, next)) : offset ≤ next := by
  unfold parseByType at parsed
  split at parsed
  next => simp at parsed
  next =>
    split at parsed <;> grind [numeric, octets]

theorem parseRecord_advances (data : Bytes) (offset next : Nat) (record : UInt8 × DlmsValue)
    (parsed : parseRecord data offset = some (record, next)) : offset + 3 ≤ next := by
  simp only [parseRecord] at parsed
  split at parsed
  next => simp at parsed
  next =>
    split at parsed
    next => simp at parsed
    next =>
      obtain ⟨⟨value, after⟩, typed, same⟩ := Option.map_eq_some_iff.mp parsed
      have later := parseByType_advances _ _ _ _ _ typed
      grind

theorem recordsFrom_fuel (data : Bytes) (fuel offset : Nat)
    (enough : data.length ≤ fuel + offset) :
    recordsFrom data (fuel + 1) offset = recordsFrom data fuel offset := by
  -- the loop ends by its own tests: more fuel than the bytes left changes nothing
  induction fuel generalizing offset with
  | zero =>
    have ended : ¬ offset < data.length - 1 := by omega
    simp [recordsFrom, ended]
  | succ fuel ih =>
    rw [recordsFrom]
    conv => rhs; rw [recordsFrom]
    split
    next =>
      cases parsed : parseRecord data offset with
      | none => rfl
      | some result =>
        obtain ⟨record, next⟩ := result
        have later := parseRecord_advances data offset next record parsed
        simp only [ih next (by omega)]
    next => rfl

end Hes.Dlms
