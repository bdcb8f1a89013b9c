import Mathlib.Data.List.Basic
import Hes.Bytes

set_option autoImplicit false

namespace Hes

/-- The int codes of the client functions; names of one number are one constructor. -/
inductive Code where
  | success
  | failure
  | enabled
  | succesNextPage
  | timeoutReceived
  | commandInProgress
  | failedResponse
  | failedPmeshError
  | dlmsError
  | pmeshError
  | dlmsConnectionFailed
  | dlmsChecksumError
  | dlmsSuccess
  | invalidResponse
  | nextPagePresent
  | pushDataReceived
  | pollTimeout
  deriving DecidableEq, Repr

inductive Store where
  | namePlate
  | ip
  | bh
  | dlp
  | blp
  | eventData
  | voltageEvent
  | currentEvent
  | powerEvent
  | transactionEvent
  | otherEvent
  | nonRollOverEvent
  | controlEvent
  | singleObisData
  deriving DecidableEq, Repr

/-- What the client was serving when a value was taken over; `filler` for a default value. -/
inductive Origin where
  | filler
  | outside
  | request (serial : Nat)
  deriving DecidableEq, Repr

/-- The bytes of the frame a value was made of, under its data type. -/
structure DlmsContent where
  type : UInt8 := 0
  bytes : Bytes := []
  deriving DecidableEq, Repr

/-- One `push_back`; `payload` is the origin of the write payload, for a value taken from it. -/
structure Stored where
  store : Store
  index : UInt8
  content : DlmsContent
  origin : Origin
  payload : Option Origin := none
  deriving DecidableEq, Repr

/-- The profile maps in the order of their `push_back`s, and the tail of the written payload. -/
structure OdmProfiles where
  values : List Stored := []
  ppWritePayloadTail : Nat := 0
  tailOrigin : Origin := .filler
  serving : Origin := .outside
  deriving DecidableEq, Repr

namespace OdmProfiles

def columnOf (values : List Stored) (store : Store) (index : UInt8) : List Stored :=
  values.filter fun stored => stored.store = store && stored.index = index

def column (profiles : OdmProfiles) : Store -> UInt8 -> List Stored := columnOf profiles.values

def pushBack (profiles : OdmProfiles) (store : Store) (index : UInt8) (content : DlmsContent)
    (payload : Option Origin) : OdmProfiles :=
  { profiles with values := profiles.values ++
      [{ store := store, index := index, content := content, origin := profiles.serving,
         payload := payload }] }

/-- Data offset and field length of a record; both stay zero for the other types. -/
def logDlmsDataType (data : Bytes) (offset : Nat) (dataType : UInt8) : Nat × Nat :=
  match dataType with
  | 0x01 => (3, 0)
  | 0x09 | 0x0A => (4, (byteAt data (offset + 3)).toNat)
  | 0x03 | 0x0F | 0x11 | 0x16 => (3, 1)
  | 0x10 | 0x12 => (3, 2)
  | 0x14 | 0x15 => (3, 8)
  | 0x05 | 0x06 | 0x19 => (3, 4)
  | _ => (0, 0)

/-- The bytes a value is made of: a fixed width for the numeric types, else the field length. -/
def valueWidth (dataType : UInt8) (fieldLen : Nat) : Nat :=
  match dataType with
  | 0x03 | 0x0F | 0x11 => 1
  | 0x10 | 0x12 => 2
  | 0x05 | 0x06 | 0x19 | 0x17 => 4
  | 0x18 => 8
  | _ => fieldLen

def extractDlmsValue (data : Bytes) (start : Nat) (dataType : UInt8) (fieldLen : Nat) :
    DlmsContent :=
  { type := dataType, bytes := slice data start (valueWidth dataType fieldLen) }

/-- Zero, false or the empty text of a type. -/
def defaultContent (dataType : UInt8) : DlmsContent :=
  { type := dataType, bytes := List.replicate (valueWidth dataType 0) 0 }

/-- A default value where a column is empty; no stored value has the type NONE. -/
def ensureDlmsValue (store : Store) (profiles : OdmProfiles) (column : UInt8 × UInt8) :
    OdmProfiles :=
  if profiles.column store column.1 = [] then
    { profiles with values := profiles.values ++
        [{ store := store, index := column.1, content := defaultContent column.2,
           origin := .filler }] }
  else profiles

def validateForDb (store : Store) (defaults : List (UInt8 × UInt8)) (profiles : OdmProfiles) :
    OdmProfiles :=
  defaults.foldl (ensureDlmsValue store) profiles

/-- Where the record loop stops for a record; its offset is a `uint8_t`. -/
def recordOffsets (data : Bytes) (length : Nat) : Nat -> Nat -> List Nat
  | 0, _ => []
  | records + 1, offset =>
    if offset ≥ length then []
    else
      let (dataOff, fieldLen) := logDlmsDataType data offset (byteAt data (offset + 2))
      offset :: recordOffsets data length records ((offset + (dataOff + fieldLen) % 256) % 256)

def storeRecord (data : Bytes) (store : Store) (profiles : OdmProfiles) (offset : Nat) :
    OdmProfiles :=
  let dataType := byteAt data (offset + 2)
  let (dataOff, fieldLen) := logDlmsDataType data offset dataType
  if dataType ≠ 0 then
    profiles.pushBack store (byteAt data offset)
      (extractDlmsValue data (offset + dataOff) dataType fieldLen) none
  else profiles

/-- The record loop of the profile parsers: from offset 9, `data[8]` records at most. -/
def parseRecords (store : Store) (data : Bytes) (length : Nat) (profiles : OdmProfiles) :
    OdmProfiles :=
  (recordOffsets data length (byteAt data 8).toNat 9).foldl (storeRecord data store) profiles

def parseNameplateProfile := parseRecords .namePlate

def parseInstantaneousProfile := parseRecords .ip

def parseDailyLoadProfile := parseRecords .dlp

def parseBlockLoadProfile := parseRecords .blp

def parseBillingHistoryProfile := parseRecords .bh

/-- The six fields of an event index are set at once: one value of sixteen bytes. -/
def storeEventIndex (data : Bytes) (profiles : OdmProfiles) (turn : Nat) : OdmProfiles :=
  let base := (9 + turn * 16) % 256
  profiles.pushBack .eventData (byteAt data base) { bytes := slice data base 16 } none

def parseEventsProfile (data : Bytes) (length : Nat) (profiles : OdmProfiles) : OdmProfiles :=
  match byteAt data 6 with
  | 0 =>
    let turns := (recordOffsets data length (byteAt data 8).toNat 9).length
    (List.range turns).foldl (storeEventIndex data) profiles
  | 1 => parseRecords .voltageEvent data length profiles
  | 2 => parseRecords .currentEvent data length profiles
  | 3 => parseRecords .powerEvent data length profiles
  | 4 => parseRecords .transactionEvent data length profiles
  | 5 => parseRecords .otherEvent data length profiles
  | 6 => parseRecords .nonRollOverEvent data length profiles
  | 7 => parseRecords .controlEvent data length profiles
  | _ => profiles

/-- The low bytes of a number, most significant first. -/
def lowBytes (value : Nat) (width : Nat) : Bytes :=
  (List.range width).reverse.map fun place => UInt8.ofNat (value / 256 ^ place % 256)

/-- Seconds from 1970 to the base of the meter clock. -/
def meterClockBase : Nat := 0x386CF628

def pushObis (profiles : OdmProfiles) (subCommand : UInt8) (bytes : Bytes)
    (payload : Option Origin) : OdmProfiles :=
  profiles.pushBack .singleObisData subCommand { bytes := bytes } payload

/-- The reply of a single object, its columns named by their sub-command. -/
def handleSingleObisRead (buff : Bytes) (profiles : OdmProfiles) : Code × OdmProfiles :=
  let data (index : Nat) := byteAt buff (17 + index)
  let command := data 5
  if command ≠ 0x00 && command ≠ 0x01 then (.invalidResponse, profiles)
  else
    match data 6 with
    | 0x02 =>
      if command = 0x00 then
        if data 11 = 0x19 && data 10 = 0x00 then
          let timestamp := (bigEndian (slice buff 29 4) + meterClockBase) % 2 ^ 32
          (.success, profiles.pushObis 0x02 (lowBytes timestamp 4) none)
        else (.invalidResponse, profiles)
      else if data 7 = 0x00 then
        -- the tail itself moves to the new base, so a second reply adds it once more
        let timestamp := (profiles.ppWritePayloadTail + meterClockBase) % 2 ^ 32
        (.success, pushObis { profiles with ppWritePayloadTail := timestamp } 0x02
          (lowBytes timestamp 4) (some profiles.tailOrigin))
      else (.invalidResponse, profiles)
    | 0x01 =>
      if command = 0x00 then
        if data 11 = 0x06 && data 10 = 0x00 then
          (.success, profiles.pushObis 0x01 (slice buff 31 2) none)
        else (.invalidResponse, profiles)
      else if data 7 = 0x00 then
        (.success, profiles.pushObis 0x01 (lowBytes profiles.ppWritePayloadTail 2)
          (some profiles.tailOrigin))
      else (.invalidResponse, profiles)
    | 0x08 =>
      if command = 0x00 then
        if data 9 = 0x04 then (.success, profiles.pushObis 0x08 (slice buff 31 2) none)
        else (.invalidResponse, profiles)
      else if data 7 = 0x00 then
        (.success, profiles.pushObis 0x08 (lowBytes profiles.ppWritePayloadTail 2)
          (some profiles.tailOrigin))
      else (.invalidResponse, profiles)
    | 0x09 =>
      if command = 0x01 then (.success, profiles.pushObis 0x09 [data 7] none)
      else (.success, profiles.pushObis 0x09 [data 11] none)
    | 0x07 =>
      if data 11 = 0x01 && data 12 = 0x01 && data 10 = 0x00 && data 13 = 0x1B then
        (.success, profiles.pushObis 0x07 (slice buff 31 4) none)
      else (.success, profiles)
    | _ => (.invalidResponse, profiles)

/-- The values a download type clears. -/
def clearedStores (downloadDataType : UInt8) : List Store :=
  match downloadDataType with
  | 0 => [.namePlate]
  | 1 => [.ip]
  | 2 => [.bh]
  | 3 => [.dlp]
  | 4 => [.blp]
  | 5 => [.eventData]
  | 6 | 7 | 8 | 9 | 10 | 11 | 12 =>
    [.voltageEvent, .currentEvent, .powerEvent, .transactionEvent, .otherEvent,
     .nonRollOverEvent, .controlEvent]
  | 15 | 16 | 17 | 18 | 19 | 20 | 21 | 22 | 23 | 24 | 25 | 26 => [.singleObisData]
  | _ => []

def clearProfileForType (downloadDataType : UInt8) (profiles : OdmProfiles) : OdmProfiles :=
  let kept := profiles.values.filter fun stored => stored.store ∉ clearedStores downloadDataType
  if .singleObisData ∈ clearedStores downloadDataType then
    { profiles with values := kept, ppWritePayloadTail := 0, tailOrigin := .filler }
  else { profiles with values := kept }

/-- Values are only added, each under what is served and with the tail of now as payload. -/
structure Grows (before after : OdmProfiles) : Prop where
  serving : after.serving = before.serving
  tailOrigin : after.tailOrigin = before.tailOrigin
  added : exists added, after.values = before.values ++ added /\
    ∀ stored ∈ added, stored.origin = before.serving /\
      ∀ origin ∈ stored.payload, origin = before.tailOrigin

theorem Grows.refl (profiles : OdmProfiles) : Grows profiles profiles :=
  ⟨rfl, rfl, [], by simp⟩

theorem Grows.trans {first second third : OdmProfiles} (before : Grows first second)
    (behind : Grows second third) : Grows first third := by
  obtain ⟨servingFirst, tailFirst, addedFirst, valuesFirst, factsFirst⟩ := before
  obtain ⟨servingSecond, tailSecond, addedSecond, valuesSecond, factsSecond⟩ := behind
  refine ⟨servingSecond.trans servingFirst, tailSecond.trans tailFirst,
    addedFirst ++ addedSecond, by simp [valuesSecond, valuesFirst], ?_⟩
  intro stored inside
  rcases List.mem_append.mp inside with earlier | later
  next => exact factsFirst stored earlier
  next => simpa [servingFirst, tailFirst] using factsSecond stored later

theorem pushBack_grows (profiles : OdmProfiles) (store : Store) (index : UInt8)
    (content : DlmsContent) (payload : Option Origin)
    (tail : ∀ origin ∈ payload, origin = profiles.tailOrigin) :
    Grows profiles (profiles.pushBack store index content payload) :=
  ⟨rfl, rfl, _, rfl, by simpa using tail⟩

theorem foldl_grows {A : Type} (step : OdmProfiles -> A -> OdmProfiles)
    (grows : forall profiles item, Grows profiles (step profiles item)) (items : List A)
    (profiles : OdmProfiles) : Grows profiles (items.foldl step profiles) := by
  induction items generalizing profiles with
  | nil => exact Grows.refl profiles
  | cons item items ih => exact (grows profiles item).trans (ih (step profiles item))

theorem parseRecords_grows (store : Store) (data : Bytes) (length : Nat)
    (profiles : OdmProfiles) : Grows profiles (parseRecords store data length profiles) := by
  apply foldl_grows
  intro profiles offset
  simp only [storeRecord]
  split
  next => exact pushBack_grows profiles _ _ _ _ (by simp)
  next => exact Grows.refl profiles

theorem parseEventsProfile_grows (data : Bytes) (length : Nat) (profiles : OdmProfiles) :
    Grows profiles (parseEventsProfile data length profiles) := by
  unfold parseEventsProfile
  split
  next => exact foldl_grows _ (fun profiles turn => pushBack_grows profiles _ _ _ _ (by simp)) _ _
  all_goals first
    | exact parseRecords_grows _ _ _ _
    | exact Grows.refl profiles

theorem pushObis_grows (profiles : OdmProfiles) (subCommand : UInt8) (bytes : Bytes)
    (payload : Option Origin) (known : ∀ origin ∈ payload, origin = profiles.tailOrigin) :
    Grows profiles (profiles.pushObis subCommand bytes payload) :=
  pushBack_grows profiles _ _ _ payload known

theorem moveTail_grows (profiles : OdmProfiles) (tail : Nat) :
    Grows profiles { profiles with ppWritePayloadTail := tail } :=
  ⟨rfl, rfl, [], by simp⟩

theorem handleSingleObisRead_grows (buff : Bytes) (profiles : OdmProfiles) :
    Grows profiles (handleSingleObisRead buff profiles).2 := by
  have same := Grows.refl profiles
  have read (subCommand : UInt8) (bytes : Bytes) :=
    pushObis_grows profiles subCommand bytes none (by simp)
  have written (subCommand : UInt8) (bytes : Bytes) :=
    pushObis_grows profiles subCommand bytes (some profiles.tailOrigin) (by simp)
  have moved (tail : Nat) (bytes : Bytes) := (moveTail_grows profiles tail).trans
    (pushObis_grows _ 0x02 bytes (some profiles.tailOrigin) (by simp))
  unfold handleSingleObisRead
  simp only
  split
  next => exact same
  next =>
    split
    next => (repeat' split) <;> first | exact read _ _ | exact moved _ _ | exact same
    next => (repeat' split) <;> first | exact read _ _ | exact written _ _ | exact same
    next => (repeat' split) <;> first | exact read _ _ | exact written _ _ | exact same
    next => split <;> exact read _ _
    next => split <;> first | exact read _ _ | exact same
    next => exact same

end OdmProfiles

end Hes
