import Mathlib.Tactic.IntervalCases
import Hes.OdmWrite
import Hes.RecordValues

set_option autoImplicit false

namespace Hes.CellValues

open Dlms OdmProfiles PushRecords

/-- A number in `bits` significant bits, ties to even, as a conversion to floating point gives it. -/
def roundTo (bits : Nat) (number : Nat) : Nat :=
  let unit := 2 ^ (number.log2 + 1 - bits)
  let low := number % unit
  let high := number / unit
  if 2 * low > unit ∨ (2 * low = unit ∧ high % 2 = 1) then (high + 1) * unit else high * unit

def roundInt (bits : Nat) (number : Int) : Int :=
  if number < 0 then -(roundTo bits number.natAbs : Int) else roundTo bits number.natAbs

def toDouble (number : Int) : Int := roundInt 53 number

theorem roundTo_small (bits number : Nat) (small : number < 2 ^ bits) :
    roundTo bits number = number := by
  by_cases zero : number = 0
  next => simp [roundTo, zero]
  next =>
    have width := (Nat.log2_lt zero).mpr small
    have none : number.log2 + 1 - bits = 0 := by omega
    simp [roundTo, none, Nat.mod_one]

theorem roundTo_zero (bits number : Nat) (some : 0 < bits) :
    roundTo bits number = 0 <-> number = 0 := by
  constructor
  next =>
    intro rounded
    by_contra positive
    have least : 2 ^ number.log2 ≤ number := Nat.log2_self_le positive
    have unit : 2 ^ (number.log2 + 1 - bits) ≤ number := by
      refine Nat.le_trans (Nat.pow_le_pow_right (by decide) ?_) least
      omega
    have high : 1 ≤ number / 2 ^ (number.log2 + 1 - bits) := (Nat.one_le_div_iff (by positivity)).mpr unit
    have width : 0 < 2 ^ (number.log2 + 1 - bits) := by positivity
    simp only [roundTo] at rounded
    split at rounded
    next => simp_all
    next =>
      rcases Nat.mul_eq_zero.mp rounded with none | none <;> omega
  next =>
    rintro rfl
    simp [roundTo]

theorem roundInt_small (bits : Nat) (number : Int) (small : number.natAbs < 2 ^ bits) :
    roundInt bits number = number := by
  simp only [roundInt, roundTo_small bits _ small]
  split <;> omega

theorem toDouble_zero (number : Int) : toDouble number = 0 <-> number = 0 := by
  have magnitude := roundTo_zero 53 number.natAbs (by decide)
  simp only [toDouble, roundInt]
  split <;> omega

/-- The seconds by which the local time is ahead, at each time. -/
abbrev Zone := Int -> Int

/-- The lowest decimal digits of a number. -/
def pad : Nat -> Nat -> Bytes
  | 0, _ => []
  | width + 1, number => pad width (number / 10) ++ [UInt8.ofNat (0x30 + number % 10)]

/-- At least four digits, and as many as are needed. -/
def padYear (year : Nat) : Bytes := if year < 10000 then pad 4 year else pad 5 year

def decimal (number : Nat) : Bytes :=
  if number = 0 then [0x30] else (pad 20 number).dropWhile fun digit => digit = 0x30

def toText (number : Int) : Bytes :=
  if number < 0 then 0x2D :: decimal number.natAbs else decimal number.natAbs

/-- Year, month and day of a day counted from 1970; years begin in March here. -/
def civil (days : Int) : Int × Int × Int :=
  let shifted := days + 719468
  let era := shifted / 146097
  let dayOfEra := shifted % 146097
  let yearOfEra := (dayOfEra - dayOfEra / 1460 + dayOfEra / 36524 - dayOfEra / 146096) / 365
  let dayOfYear := dayOfEra - (365 * yearOfEra + yearOfEra / 4 - yearOfEra / 100)
  let monthIndex := (5 * dayOfYear + 2) / 153
  let month := if monthIndex < 10 then monthIndex + 3 else monthIndex - 9
  (yearOfEra + era * 400 + (if month ≤ 2 then 1 else 0), month,
    dayOfYear - (153 * monthIndex + 2) / 5 + 1)

def dateText (days : Int) : Bytes :=
  let (year, month, day) := civil days
  padYear year.toNat ++ [0x2D] ++ pad 2 month.toNat ++ [0x2D] ++ pad 2 day.toNat

def timeText (seconds : Nat) : Bytes :=
  pad 2 (seconds / 3600) ++ [0x3A] ++ pad 2 (seconds % 3600 / 60) ++ [0x3A] ++ pad 2 (seconds % 60)

/-- `localtime` and `strftime`, the same in both classes. -/
def formatTimestamp (zone : Zone) (stamp : UInt32) : Bytes :=
  let seconds := (stamp.toNat : Int) + zone stamp.toNat
  dateText (seconds / 86400) ++ [0x20] ++ timeText (seconds % 86400).toNat

def orDefault (byte absent value : Nat) (zeroToo : Bool) : Nat :=
  if byte = absent || (zeroToo && byte = 0) then value else byte

/-- The date and time of an octet string, of which the first seven bytes are read. -/
def parseDlmsDatetime (data : Bytes) : Bytes :=
  let year := orDefault (bigEndian (slice data 0 2)) 0xFFFF 2000 true
  let month := orDefault (byteAt data 2).toNat 0xFF 1 true
  let day := orDefault (byteAt data 3).toNat 0xFF 1 true
  let hour := orDefault (byteAt data 5).toNat 0xFF 0 false
  let minute := orDefault (byteAt data 6).toNat 0xFF 0 false
  let three (value : Nat) := if value < 100 then pad 2 value else pad 3 value
  padYear year ++ [0x2D] ++ three month ++ [0x2D] ++ three day ++ [0x20] ++ three hour ++ [0x3A] ++
    three minute

/-- `2000-01-01 00:00` -/
def defaultDateTime : Bytes := parseDlmsDatetime [0xFF, 0xFF, 0xFF, 0xFF, 0xFF, 0xFF, 0xFF]

def parseDlmsDateTime (data : Bytes) : Bytes :=
  if data.length < 7 then defaultDateTime else parseDlmsDatetime data

/-- What a `%s` shows of a text. -/
def cString (text : Bytes) : Bytes := text.takeWhile fun byte => byte ≠ 0

/-- A `DLMSValue` of the on-demand path: its type and the member that goes with it. -/
inductive Extracted where
  | boolean (value : Bool)
  | int8 (value : Int8)
  | int16 (value : Int16)
  | int32 (value : Int32)
  | uint8 (value : UInt8)
  | uint16 (value : UInt16)
  | uint32 (value : UInt32)
  -- only the `0.0f` of a missing value: no decoder walks a record of a float type
  | float
  | octetString (bytes : Bytes)
  | string (bytes : Bytes)
  deriving DecidableEq, Repr

def extractDlmsValue (zone : Zone) (content : DlmsContent) : Extracted :=
  let number := bigEndian content.bytes
  match content.type with
  | 0x03 => .boolean (byteAt content.bytes 0 != 0)
  | 0x0F => .int8 (UInt8.ofNat number).toInt8
  | 0x11 => .uint8 (UInt8.ofNat number)
  | 0x10 => .int16 (UInt16.ofNat number).toInt16
  | 0x12 => .uint16 (UInt16.ofNat number)
  | 0x05 => .int32 (UInt32.ofNat number).toInt32
  | 0x06 => .uint32 (UInt32.ofNat number)
  | 0x19 => .string (formatTimestamp zone (UInt32.ofNat number - 19800))
  | 0x17 | 0x18 => .float
  | 0x0A => .string content.bytes
  -- the 64-bit integers among them
  | _ => .octetString content.bytes

namespace Extracted

/-- The number that is multiplied by the factor; the union holds no octet string. -/
def getAs (bits : Nat) : Extracted -> Int
  | boolean value => if value then 1 else 0
  | int8 value => roundInt bits value.toInt
  | int16 value => roundInt bits value.toInt
  | int32 value => roundInt bits value.toInt
  | uint8 value => roundInt bits value.toNat
  | uint16 value => roundInt bits value.toNat
  | uint32 value => roundInt bits value.toNat
  | float => 0
  | octetString _ | string _ => 0

def getAsFloat := getAs 24

def getAsDouble := getAs 53

def getAsBool : Extracted -> Bool
  | boolean value => value
  | _ => false

def getOctetString : Extracted -> Bytes
  | octetString bytes | string bytes => bytes
  | _ => []

def getAsString : Extracted -> Bytes
  | boolean value => Text.ascii (if value then "true" else "false")
  | int8 value => toText value.toInt
  | int16 value => toText value.toInt
  | int32 value => toText value.toInt
  | uint8 value => toText value.toNat
  | uint16 value => toText value.toNat
  | uint32 value => toText value.toNat
  | float => Text.ascii "0.000000"
  | octetString bytes => bytes.flatMap fun byte => toText byte.toNat ++ [0x20]
  | string bytes => bytes

end Extracted

/-- `DlmsValueExtractor::get_numeric`; no record of a float type is ever stored. -/
def getNumeric (value : DlmsValue) : Option Int :=
  match value.type with
  | 0x03 => some (if value.boolValue then 1 else 0)
  | 0x0F | 0x1C => some value.int8Value.toInt
  | 0x11 | 0x1F | 0x16 => some value.uint8Value.toNat
  | 0x10 | 0x1D => some value.int16Value.toInt
  | 0x12 | 0x20 => some value.uint16Value.toNat
  | 0x05 | 0x1E => some value.int32Value.toInt
  | 0x06 | 0x21 | 0x19 => some value.uint32Value.toNat
  | 0x14 => some (toDouble value.int64Value.toInt)
  | 0x15 => some (toDouble value.uint64Value.toNat)
  | _ => none

def getNumericOrDefault (records : DlmsRecordMap) (tag : UInt8) : Int :=
  ((records tag).bind getNumeric).getD 0

def getBool (records : DlmsRecordMap) (tag : UInt8) : Bool :=
  match records tag with
  | none => false
  | some value =>
    if value.type = 0x03 then value.boolValue
    else ((getNumeric value).map fun number => number != 0).getD false

def getOctetString (records : DlmsRecordMap) (tag : UInt8) : Bytes :=
  match records tag with
  | none => []
  | some value =>
    if value.type = 0x09 ∨ value.type = 0x04 ∨ value.type = 0x0A ∨ value.type = 0x0C then
      value.octetString
    else []

/-- What the on-demand decoder stores of a value. -/
def contentOf (value : Value) : DlmsContent := { type := value.type, bytes := value.bytes }

/-- What the push decoder stores of a value. -/
def valueOf (value : Value) : DlmsValue := Decoders.decode value.type value.bytes

theorem extractDlmsValue_content (zone : Zone) (value : Value) :
    extractDlmsValue zone (contentOf value) =
      match value with
      | .array => .octetString []
      | .boolean value => .boolean value
      | .int8 value => .int8 value
      | .int16 value => .int16 value
      | .int32 value => .int32 value
      | .uint8 value => .uint8 value
      | .uint16 value => .uint16 value
      | .uint32 value => .uint32 value
      | .datetime value => .string (formatTimestamp zone (value - 19800))
      | .string bytes => .string bytes
      | .int64 value => .octetString (toBigEndian 8 value.toUInt64.toNat)
      | .uint64 value => .octetString (toBigEndian 8 value.toNat)
      | .bitString bytes | .octetString bytes | .stringUtf8 bytes => .octetString bytes := by
  cases value with
  | boolean value => cases value <;> rfl
  | int8 value =>
    have number := bigEndian_toBigEndian 1 value.toUInt8.toNat value.toUInt8.toNat_lt
    simp [extractDlmsValue, contentOf, Value.type, Value.bytes, number]
  | int16 value =>
    have number := bigEndian_toBigEndian 2 value.toUInt16.toNat value.toUInt16.toNat_lt
    simp [extractDlmsValue, contentOf, Value.type, Value.bytes, number]
  | int32 value =>
    have number := bigEndian_toBigEndian 4 value.toUInt32.toNat value.toUInt32.toNat_lt
    simp [extractDlmsValue, contentOf, Value.type, Value.bytes, number]
  | uint8 value =>
    have number := bigEndian_toBigEndian 1 value.toNat value.toNat_lt
    simp [extractDlmsValue, contentOf, Value.type, Value.bytes, number]
  | uint16 value =>
    have number := bigEndian_toBigEndian 2 value.toNat value.toNat_lt
    simp [extractDlmsValue, contentOf, Value.type, Value.bytes, number]
  | uint32 value | datetime value =>
    have number := bigEndian_toBigEndian 4 value.toNat value.toNat_lt
    simp [extractDlmsValue, contentOf, Value.type, Value.bytes, number]
  | _ => rfl

/-- The number of a value, in double precision. -/
def numberOf : Value -> Option Int
  | .boolean value => some (if value then 1 else 0)
  | .int8 value => some value.toInt
  | .int16 value => some value.toInt
  | .int32 value => some value.toInt
  | .uint8 value => some value.toNat
  | .uint16 value => some value.toNat
  | .uint32 value | .datetime value => some value.toNat
  | .int64 value => some (toDouble value.toInt)
  | .uint64 value => some (toDouble value.toNat)
  | .array | .bitString _ | .octetString _ | .string _ | .stringUtf8 _ => none

theorem valueOf_type (value : Value) : (valueOf value).type = value.type := by
  simp only [valueOf, Decoders.decode]
  (repeat' split) <;> rfl

theorem getNumeric_valueOf (value : Value) : getNumeric (valueOf value) = numberOf value := by
  -- the member that goes with the type is the value that was sent
  have known := Value.read_decode value
  have type := valueOf_type value
  rw [<- valueOf] at known
  cases value with
  | boolean value | int8 value | int16 value | int32 value | int64 value | uint8 value
  | uint16 value | uint32 value | datetime value | uint64 value =>
    simp only [Value.type] at type
    simp [Value.read, type] at known
    simp [getNumeric, numberOf, type, known]
  | _ =>
    simp only [Value.type] at type
    simp [getNumeric, numberOf, type]

theorem getOctetString_valueOf (records : DlmsRecordMap) (tag : UInt8) (value : Value)
    (stored : records tag = some (valueOf value)) :
    getOctetString records tag =
      match value with
      | .bitString bytes | .octetString bytes | .string bytes | .stringUtf8 bytes => bytes
      | _ => [] := by
  have type := valueOf_type value
  simp only [getOctetString, stored, type]
  cases value <;> simp [Value.type, valueOf, Decoders.decode, Decoders.shape, Value.bytes]

theorem getBool_valueOf (records : DlmsRecordMap) (tag : UInt8) (value : Value)
    (stored : records tag = some (valueOf value)) :
    getBool records tag =
      match value with
      | .boolean value => value
      | value => ((numberOf value).map fun number => number != 0).getD false := by
  have type := valueOf_type value
  have number := getNumeric_valueOf value
  simp only [getBool, stored, type, number]
  cases value with
  | boolean value => cases value <;> rfl
  | _ => simp [Value.type]

/-- A whole number of 32 bits is a float, one of 64 bits and a date are zero. -/
def NumberFits (bits : Nat) : Option Value -> Prop
  | some (.int32 value) => roundInt bits value.toInt = value.toInt
  | some (.uint32 value) => roundInt bits value.toNat = value.toNat
  | some (.int64 value) => value = 0
  | some (.uint64 value) => value = 0
  | some (.datetime value) => value = 0
  | _ => True

theorem number_fits (zone : Zone) (bits : Nat) (wide : 24 ≤ bits) (value : Value) :
    (extractDlmsValue zone (contentOf value)).getAs bits = (numberOf value).getD 0 <->
      NumberFits bits (some value) := by
  have short (number : Int) (small : number.natAbs < 2 ^ 24) : roundInt bits number = number :=
    roundInt_small bits number
      (Nat.lt_of_lt_of_le small (Nat.pow_le_pow_right (by decide) wide))
  rw [extractDlmsValue_content]
  cases value with
  | int8 value =>
    have low := value.le_toInt
    have high := value.toInt_lt
    simp [Extracted.getAs, numberOf, NumberFits, short value.toInt (by omega)]
  | int16 value =>
    have low := value.le_toInt
    have high := value.toInt_lt
    simp [Extracted.getAs, numberOf, NumberFits, short value.toInt (by omega)]
  | uint8 value =>
    have high := value.toNat_lt
    simp [Extracted.getAs, numberOf, NumberFits, short value.toNat (by omega)]
  | uint16 value =>
    have high := value.toNat_lt
    simp [Extracted.getAs, numberOf, NumberFits, short value.toNat (by omega)]
  | int64 value =>
    have zero := toDouble_zero value.toInt
    simp only [Extracted.getAs, numberOf, NumberFits, Option.getD_some]
    rw [eq_comm, zero, <- Int64.toInt_inj]
    rfl
  | uint64 value =>
    have zero := toDouble_zero value.toNat
    simp only [Extracted.getAs, numberOf, NumberFits, Option.getD_some]
    rw [eq_comm, zero, <- UInt64.toNat_inj]
    simp
  | datetime value =>
    simp only [Extracted.getAs, numberOf, NumberFits, Option.getD_some]
    rw [eq_comm, <- UInt32.toNat_inj]
    simp
  | _ => simp [Extracted.getAs, numberOf, NumberFits]

/-- A status is a boolean, or what both read as false. -/
def StatusFits : Option Value -> Prop
  | some (.int8 value) => value = 0
  | some (.int16 value) => value = 0
  | some (.int32 value) => value = 0
  | some (.int64 value) => value = 0
  | some (.uint8 value) => value = 0
  | some (.uint16 value) => value = 0
  | some (.uint32 value) => value = 0
  | some (.uint64 value) => value = 0
  | some (.datetime value) => value = 0
  | _ => True

theorem status_fits (zone : Zone) (records : DlmsRecordMap) (tag : UInt8) (value : Value)
    (stored : records tag = some (valueOf value)) :
    (extractDlmsValue zone (contentOf value)).getAsBool = getBool records tag <->
      StatusFits (some value) := by
  rw [getBool_valueOf records tag value stored, extractDlmsValue_content]
  cases value with
  | int8 value =>
    simp [Extracted.getAsBool, numberOf, StatusFits, <- Int8.toInt_inj]
  | int16 value =>
    simp [Extracted.getAsBool, numberOf, StatusFits, <- Int16.toInt_inj]
  | int32 value =>
    simp [Extracted.getAsBool, numberOf, StatusFits, <- Int32.toInt_inj]
  | int64 value =>
    simp [Extracted.getAsBool, numberOf, StatusFits, toDouble_zero, <- Int64.toInt_inj]
  | uint64 value =>
    simp [Extracted.getAsBool, numberOf, StatusFits, toDouble_zero, <- UInt64.toNat_inj]
  | uint8 value =>
    simp [Extracted.getAsBool, numberOf, StatusFits, <- UInt8.toNat_inj]
  | uint16 value =>
    simp [Extracted.getAsBool, numberOf, StatusFits, <- UInt16.toNat_inj]
  | uint32 value | datetime value =>
    simp [Extracted.getAsBool, numberOf, StatusFits, <- UInt32.toNat_inj]
  | _ => simp [Extracted.getAsBool, numberOf, StatusFits]

/-- `get_datetime`: what stands behind the string in memory is read after a short one. -/
def odmDateTime (behind : Bytes) (value : Option Extracted) : Bytes :=
  let octets := (value.map Extracted.getOctetString).getD []
  if octets = [] then [] else parseDlmsDatetime (octets ++ behind)

def pushDateTime (records : DlmsRecordMap) (tag : UInt8) : Bytes :=
  parseDlmsDateTime (getOctetString records tag)

/-- Seven bytes of a string, or something that both show as the default date. -/
def DateFits (zone : Zone) (behind : Bytes) : Option Value -> Prop
  | some (.bitString bytes) | some (.octetString bytes) | some (.string bytes)
  | some (.stringUtf8 bytes) =>
    7 ≤ bytes.length \/ (bytes ≠ [] /\ parseDlmsDatetime (bytes ++ behind) = defaultDateTime)
  | some (.int64 value) =>
    parseDlmsDatetime (toBigEndian 8 value.toUInt64.toNat ++ behind) = defaultDateTime
  | some (.uint64 value) =>
    parseDlmsDatetime (toBigEndian 8 value.toNat ++ behind) = defaultDateTime
  | some (.datetime value) =>
    parseDlmsDatetime (formatTimestamp zone (value - 19800) ++ behind) = defaultDateTime
  | _ => False

theorem parseDlmsDatetime_append (data behind : Bytes) (seven : 7 ≤ data.length) :
    parseDlmsDatetime (data ++ behind) = parseDlmsDatetime data := by
  have byte (index : Nat) (inside : index < 7) : byteAt (data ++ behind) index = byteAt data index :=
    byteAt_append_left data behind index (by omega)
  have year : slice (data ++ behind) 0 2 = slice data 0 2 :=
    slice_congr _ _ 0 0 2 fun index inside => byte _ (by omega)
  simp only [parseDlmsDatetime, year, byte 2 (by decide), byte 3 (by decide), byte 5 (by decide),
    byte 6 (by decide)]

theorem defaultDateTime_nonempty : defaultDateTime ≠ [] := by decide +kernel

theorem string_fits (behind bytes : Bytes) :
    (if bytes = [] then [] else parseDlmsDatetime (bytes ++ behind)) = parseDlmsDateTime bytes <->
      7 ≤ bytes.length \/ (bytes ≠ [] /\ parseDlmsDatetime (bytes ++ behind) = defaultDateTime) := by
  by_cases none : bytes = []
  next =>
    simp [none, parseDlmsDateTime, eq_comm, defaultDateTime_nonempty]
  next =>
    by_cases seven : 7 ≤ bytes.length
    next =>
      simp [none, seven, parseDlmsDateTime, show ¬ bytes.length < 7 by omega,
        parseDlmsDatetime_append]
    next => simp [none, seven, parseDlmsDateTime, show bytes.length < 7 by omega]

theorem toBigEndian_nonempty (width number : Nat) : toBigEndian (width + 1) number ≠ [] := by
  simp [toBigEndian]

theorem pad_length (width number : Nat) : (pad width number).length = width := by
  induction width generalizing number with
  | zero => rfl
  | succ width ih => simp [pad, ih]

theorem padYear_nonempty (year : Nat) : padYear year ≠ [] := by
  rw [padYear]
  split <;> simp [pad]

theorem formatTimestamp_nonempty (zone : Zone) (stamp : UInt32) : formatTimestamp zone stamp ≠ [] := by
  simp [formatTimestamp]

theorem date_fits (zone : Zone) (behind : Bytes) (records : DlmsRecordMap) (tag : UInt8) (value : Value)
    (stored : records tag = some (valueOf value)) :
    odmDateTime behind (some (extractDlmsValue zone (contentOf value))) = pushDateTime records tag <->
      DateFits zone behind (some value) := by
  have empty : parseDlmsDateTime [] = defaultDateTime := rfl
  have nothing : ([] : Bytes) ≠ defaultDateTime := Ne.symm defaultDateTime_nonempty
  rw [pushDateTime, getOctetString_valueOf records tag value stored, extractDlmsValue_content]
  cases value with
  | bitString bytes | octetString bytes | string bytes | stringUtf8 bytes =>
    exact string_fits behind bytes
  | int64 value | uint64 value =>
    simp [odmDateTime, Extracted.getOctetString, DateFits, empty, toBigEndian_nonempty]
  | datetime value =>
    simp [odmDateTime, Extracted.getOctetString, DateFits, empty, formatTimestamp_nonempty]
  | _ => simp [odmDateTime, Extracted.getOctetString, DateFits, empty, nothing]

/-- The text begins with something else than a minus sign, and there is one behind. -/
def Dated (text : Bytes) : Prop :=
  exists first rest, text = first :: rest /\ first ≠ 0x2D /\ 0x2D ∈ rest

theorem pad_digits (width number : Nat) : ∀ digit ∈ pad width number, 0x30 ≤ digit /\ digit ≤ 0x39 := by
  induction width generalizing number with
  | zero => simp [pad]
  | succ width ih =>
    intro digit inside
    rcases List.mem_append.mp inside with before | last
    · exact ih _ digit before
    · have digit_known := List.mem_singleton.mp last
      have ten : number % 10 < 10 := Nat.mod_lt _ (by decide)
      generalize number % 10 = lowest at digit_known ten
      subst digit_known
      interval_cases lowest <;> decide

theorem decimal_digits (number : Nat) : ∀ digit ∈ decimal number, 0x30 ≤ digit /\ digit ≤ 0x39 := by
  intro digit inside
  rw [decimal] at inside
  split at inside
  next =>
    have zero := List.mem_singleton.mp inside
    subst zero
    decide
  next => exact pad_digits 20 number digit ((List.dropWhile_sublist _).subset inside)

theorem digit_other (digit : UInt8) (low : 0x30 ≤ digit) : digit ≠ 0x2D /\ digit ≠ 0 := by
  constructor <;> rintro rfl <;> exact absurd low (by decide)

theorem formatTimestamp_dated (zone : Zone) (stamp : UInt32) : Dated (formatTimestamp zone stamp) := by
  simp only [formatTimestamp, dateText]
  generalize (civil _).1.toNat = year
  cases known : padYear year with
  | nil => exact absurd known (padYear_nonempty year)
  | cons first rest =>
    have digits : ∀ digit ∈ padYear year, 0x30 ≤ digit := by
      intro digit inside
      rw [padYear] at inside
      split at inside <;> exact (pad_digits _ _ digit inside).1
    refine ⟨first, _, rfl, ?_, by simp⟩
    exact (digit_other first (digits first (by simp [known]))).1

theorem undated_digits (text : Bytes) (digits : ∀ letter ∈ text, letter ≠ 0x2D) : ¬ Dated text := by
  rintro ⟨first, rest, rfl, _, inside⟩
  exact digits 0x2D (List.mem_cons_of_mem first inside) rfl

theorem toText_undated (number : Int) : ¬ Dated (toText number) := by
  rw [toText]
  split
  next =>
    rintro ⟨first, rest, same, other, _⟩
    simp only [List.cons.injEq] at same
    exact other same.1.symm
  next =>
    apply undated_digits
    intro digit inside
    exact (digit_other digit (decimal_digits _ digit inside).1).1

theorem octets_undated (bytes : Bytes) :
    ¬ Dated (bytes.flatMap fun byte => toText byte.toNat ++ [0x20]) := by
  apply undated_digits
  intro letter inside
  obtain ⟨byte, _, own⟩ := List.mem_flatMap.mp inside
  rcases List.mem_append.mp own with number | blank
  · rw [toText, if_neg (by omega)] at number
    exact (digit_other letter (decimal_digits _ letter number).1).1
  · rw [List.mem_singleton.mp blank]
    decide

def odmTime (value : Option Extracted) : Bytes :=
  cString ((value.map Extracted.getAsString).getD [])

/-- The stamp that is formatted; `outside` is what the cast makes of a number without one. -/
def pushStamp (shifted : Bool) (outside : Int -> UInt32) (number : Int) : UInt32 :=
  let seconds := if shifted then toDouble (number - 19800) else number
  if 0 ≤ seconds ∧ seconds < 2 ^ 32 then UInt32.ofNat seconds.toNat else outside seconds

def pushTime (zone : Zone) (shifted : Bool) (outside : Int -> UInt32) (records : DlmsRecordMap) :
    Bytes :=
  cString (formatTimestamp zone (pushStamp shifted outside (getNumericOrDefault records 0x00)))

/-- A date of a profile whose push is shifted too, or texts that happen to be the same. -/
def TimeFits (zone : Zone) (shifted : Bool) (outside : Int -> UInt32) : Option Value -> Prop
  | some (.datetime value) =>
    if shifted then
      19800 ≤ value.toNat \/ formatTimestamp zone (value - 19800) =
        formatTimestamp zone (outside (value.toNat - 19800))
    else formatTimestamp zone (value - 19800) = formatTimestamp zone value
  | some (.string bytes) => cString bytes = formatTimestamp zone (pushStamp shifted outside 0)
  | _ => False

theorem cString_whole (text : Bytes) (some : ∀ letter ∈ text, letter ≠ 0) : cString text = text := by
  rw [cString, List.takeWhile_eq_self_iff]
  simpa using some

theorem dated_cString (text : Bytes) (dated : Dated (cString text)) : Dated text := by
  obtain ⟨first, rest, same, other, inside⟩ := dated
  obtain ⟨behind, whole⟩ := List.takeWhile_prefix (l := text) fun byte => byte ≠ 0
  rw [cString] at same
  rw [same] at whole
  exact ⟨first, rest ++ behind, whole.symm, other, List.mem_append_left behind inside⟩

theorem formatTimestamp_letters (zone : Zone) (stamp : UInt32) :
    ∀ letter ∈ formatTimestamp zone stamp, letter ≠ 0 := by
  have digits (width number : Nat) : ∀ letter ∈ pad width number, letter ≠ 0 :=
    fun letter inside => (digit_other letter (pad_digits width number letter inside).1).2
  have year (number : Nat) : ∀ letter ∈ padYear number, letter ≠ 0 := by
    rw [padYear]
    split <;> exact digits _ _
  simp only [formatTimestamp, dateText, timeText, List.forall_mem_append]
  and_intros
  all_goals first
    | exact year _
    | exact digits _ _
    | simp

theorem pushStamp_later (outside : Int -> UInt32) (value : UInt32) (later : 19800 ≤ value.toNat) :
    pushStamp true outside value.toNat = value - 19800 := by
  have small := value.toNat_lt
  have exact' : toDouble (value.toNat - 19800) = value.toNat - 19800 :=
    roundInt_small 53 _ (by omega)
  have inside : 0 ≤ (value.toNat : Int) - 19800 ∧ (value.toNat : Int) - 19800 < 2 ^ 32 := by omega
  rw [pushStamp]
  simp only [if_true, exact', if_pos inside]
  rw [<- UInt32.toNat_inj, UInt32.toNat_sub_of_le _ _ (by simpa [UInt32.le_iff_toNat_le] using later)]
  simp
  omega

theorem pushStamp_earlier (outside : Int -> UInt32) (value : UInt32) (earlier : value.toNat < 19800) :
    pushStamp true outside value.toNat = outside (value.toNat - 19800) := by
  have exact' : toDouble (value.toNat - 19800) = value.toNat - 19800 :=
    roundInt_small 53 _ (by omega)
  have before : ¬ (0 ≤ (value.toNat : Int) - 19800 ∧ (value.toNat : Int) - 19800 < 2 ^ 32) := by omega
  rw [pushStamp]
  simp only [if_true, exact', if_neg before]

theorem pushStamp_unshifted (outside : Int -> UInt32) (value : UInt32) :
    pushStamp false outside value.toNat = value := by
  have small := value.toNat_lt
  have inside : 0 ≤ (value.toNat : Int) ∧ (value.toNat : Int) < 2 ^ 32 := by omega
  simp only [pushStamp, Bool.false_eq_true, if_false, if_pos inside]
  simp

theorem pushTime_dated (zone : Zone) (shifted : Bool) (outside : Int -> UInt32)
    (records : DlmsRecordMap) : Dated (pushTime zone shifted outside records) := by
  rw [pushTime, cString_whole _ (formatTimestamp_letters zone _)]
  exact formatTimestamp_dated zone _

theorem time_fits (zone : Zone) (shifted : Bool) (outside : Int -> UInt32) (records : DlmsRecordMap)
    (value : Value) (stored : records 0x00 = some (valueOf value)) :
    odmTime (some (extractDlmsValue zone (contentOf value))) = pushTime zone shifted outside records <->
      TimeFits zone shifted outside (some value) := by
  have dated := pushTime_dated zone shifted outside records
  have never (text : Bytes) (undated : ¬ Dated text) :
      ¬ cString text = pushTime zone shifted outside records :=
    fun same => undated (dated_cString text (same ▸ dated))
  have number : getNumericOrDefault records 0x00 = (numberOf value).getD 0 := by
    simp [getNumericOrDefault, stored, getNumeric_valueOf]
  have shown : pushTime zone shifted outside records =
      formatTimestamp zone (pushStamp shifted outside ((numberOf value).getD 0)) := by
    rw [pushTime, number, cString_whole _ (formatTimestamp_letters zone _)]
  rw [extractDlmsValue_content]
  cases value with
  | datetime value =>
    have odm : odmTime (some (.string (formatTimestamp zone (value - 19800)))) =
        formatTimestamp zone (value - 19800) :=
      cString_whole _ (formatTimestamp_letters zone _)
    simp only [odm, shown, numberOf, Option.getD_some, TimeFits]
    cases shifted with
    | true =>
      by_cases later : 19800 ≤ value.toNat
      next => simp [later, pushStamp_later outside value later]
      next => simp [later, pushStamp_earlier outside value (by omega)]
    | false => simp [pushStamp_unshifted]
  | string bytes =>
    simp only [shown, numberOf, Option.getD_none, TimeFits]
    rfl
  | boolean value =>
    have words : forall value : Bool, ∀ letter ∈ Text.ascii (if value then "true" else "false"),
        letter ≠ 0x2D := by
      decide +kernel
    exact iff_of_false (never _ (undated_digits _ (words value))) id
  | array | bitString bytes | octetString bytes | stringUtf8 bytes | int64 value | uint64 value =>
    exact iff_of_false (never _ (octets_undated _)) id
  | int8 value | int16 value | int32 value =>
    exact iff_of_false (never _ (toText_undated value.toInt)) id
  | uint8 value | uint16 value | uint32 value =>
    exact iff_of_false (never _ (toText_undated value.toNat)) id

theorem pad_injective (width first second : Nat) (same : pad width first = pad width second) :
    first % 10 ^ width = second % 10 ^ width := by
  induction width generalizing first second with
  | zero => simp [Nat.mod_one]
  | succ width ih =>
    obtain ⟨higher, lowest⟩ := List.append_inj' same rfl
    have digit : first % 10 % 256 = second % 10 % 256 := by
      simpa [<- UInt8.toNat_inj] using lowest
    rw [Nat.pow_succ', Nat.mod_mul, Nat.mod_mul, ih _ _ higher]
    omega

theorem timeText_injective (first second : Nat) (day : first < 86400) (other : second < 86400)
    (same : timeText first = timeText second) : first = second := by
  obtain ⟨front, seconds⟩ := List.append_inj' same (by simp [pad_length])
  obtain ⟨front, _⟩ := List.append_inj' front rfl
  obtain ⟨front, minutes⟩ := List.append_inj' front (by simp [pad_length])
  obtain ⟨hours, _⟩ := List.append_inj' front rfl
  have hour := pad_injective 2 _ _ hours
  have minute := pad_injective 2 _ _ minutes
  have second' := pad_injective 2 _ _ seconds
  omega

/-- In a zone of one offset the five and a half hours always show. -/
theorem unshifted_never_fits (offset : Int) (value : UInt32) :
    formatTimestamp (fun _ => offset) (value - 19800) ≠ formatTimestamp (fun _ => offset) value := by
  intro same
  have long (seconds : Nat) : (timeText seconds).length = 8 := by simp [timeText, pad_length]
  have times := (List.append_inj' same (by simp [long])).2
  have seconds := timeText_injective _ _ (by omega) (by omega) times
  simp only at seconds
  have small := value.toNat_lt
  have shift : (value - 19800).toNat = (2 ^ 32 - 19800 + value.toNat) % 2 ^ 32 := by
    rw [UInt32.toNat_sub]
    rfl
  omega

end Hes.CellValues
