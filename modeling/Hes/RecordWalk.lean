import Hes.Checksum

set_option autoImplicit false

namespace Hes.RecordWalk

open OdmProfiles Client Checksum

/-- The on-demand parsers, one for each command of an instant data reply. -/
inductive Parser where
  | nameplate
  | instantaneous
  | dailyLoad
  | blockLoad
  | billingHistory
  | events
  deriving DecidableEq, Repr

/-- What a turn of the record loop takes from the payload, next to the metadata of the record. -/
inductive Taken where
  | value
  | eventIndex
  | nothing
  deriving DecidableEq, Repr

def taken (data : Bytes) : Parser -> Taken
  | .events =>
    match byteAt data 6 with
    | 0 => .eventIndex
    | 1 | 2 | 3 | 4 | 5 | 6 | 7 => .value
    | _ => .nothing
  | .nameplate | .instantaneous | .dailyLoad | .blockLoad | .billingHistory => .value

section Walk

variable (data : Bytes)

def dataType (offset : Nat) : UInt8 := byteAt data (offset + 2)

/-- The bytes of a record: none for a type without a length of its own. -/
def recordSize (offset : Nat) : Nat :=
  (logDlmsDataType data offset (dataType data offset)).1 +
    (logDlmsDataType data offset (dataType data offset)).2

/-- Where the offset stands behind a turn; it is a `uint8_t`. -/
def nextOffset (offset : Nat) : Nat := (offset + recordSize data offset % 256) % 256

def counted (offset : Nat) : Bool := dataType data offset = 0x09 || dataType data offset = 0x0A

/-- The positions of the record header, with the length byte of a string. -/
def metadataReads (offset : Nat) : List Nat :=
  List.range' offset (if counted data offset then 4 else 3)

def valueReads (offset : Nat) : List Nat :=
  let (dataOff, fieldLen) := logDlmsDataType data offset (dataType data offset)
  List.range' (offset + dataOff) (valueWidth (dataType data offset) fieldLen)

def takenReads (turn offset : Nat) : Taken -> List Nat
  | .value => valueReads data offset
  -- the index entries are found by the turn, not by the offset
  | .eventIndex => List.range' ((9 + turn * 16) % 256) 16
  | .nothing => []

def reads (parser : Parser) (turn offset : Nat) : List Nat :=
  metadataReads data offset ++ takenReads data turn offset (taken data parser)

variable (length : Nat)

/-- The offsets at which the record loop of a payload finds its records. -/
def visited : List Nat := recordOffsets data length (byteAt data 8).toNat 9

/-- Every turn moves the offset on and reads bytes of the payload; no record is met twice. -/
structure Progress (parser : Parser) : Prop where
  headers : 8 < length
  advances : ∀ offset ∈ visited data length, offset < nextOffset data offset
  inside : ∀ entry ∈ (visited data length).zipIdx,
    ∀ place ∈ reads data parser entry.2 entry.1, place < length
  once : (visited data length).Nodup

/-- The record at an offset, in one of the turns, lies in the payload. -/
def Fits (turn offset : Nat) : Taken -> Prop
  | .value => 0 < recordSize data offset /\ offset + recordSize data offset ≤ length
  | .eventIndex =>
    0 < recordSize data offset % 256 /\ offset + recordSize data offset % 256 < 256 /\
      offset + (if counted data offset then 4 else 3) ≤ length /\ (9 + turn * 16) % 256 + 16 ≤ length
  | .nothing =>
    0 < recordSize data offset % 256 /\ offset + recordSize data offset % 256 < 256 /\
      offset + (if counted data offset then 4 else 3) ≤ length

/-- The records behind an offset lie in the payload, one behind the other. -/
def Chained (taken : Taken) : Nat -> Nat -> Nat -> Prop
  | _, 0, _ => True
  | turn, records + 1, offset =>
    length ≤ offset \/ Fits data length turn offset taken /\
      Chained taken (turn + 1) records (offset + recordSize data offset % 256)

theorem recordOffsets_step (records offset : Nat) (inside : offset < length) :
    recordOffsets data length (records + 1) offset =
      offset :: recordOffsets data length records (nextOffset data offset) := by
  rw [recordOffsets, if_neg (by omega)]
  rfl

theorem offsets_increase (records offset : Nat)
    (advances : ∀ place ∈ recordOffsets data length records offset, place < nextOffset data place) :
    (recordOffsets data length records offset).Pairwise (· < ·) /\
      ∀ place ∈ recordOffsets data length records offset, offset ≤ place := by
  induction records generalizing offset with
  | zero => simp [recordOffsets]
  | succ records ih =>
    by_cases inside : offset < length
    next =>
      rw [recordOffsets_step data length records offset inside] at advances ⊢
      have moves := advances offset (List.mem_cons_self ..)
      obtain ⟨later, above⟩ := ih _ fun place among => advances place (List.mem_cons_of_mem offset among)
      constructor
      next =>
        apply List.pairwise_cons.mpr
        exact ⟨fun place among => Nat.lt_of_lt_of_le moves (above place among), later⟩
      next =>
        intro place among
        rcases List.mem_cons.mp among with first | behind
        next => exact first ▸ Nat.le_refl place
        next => exact Nat.le_trans (Nat.le_of_lt moves) (above place behind)
    next => simp [recordOffsets, Nat.not_lt.mp inside]

theorem nextOffset_moves (offset : Nat) (small : offset < 256) :
    offset < nextOffset data offset <->
      0 < recordSize data offset % 256 /\ offset + recordSize data offset % 256 < 256 := by
  unfold nextOffset
  have rest := Nat.mod_lt (recordSize data offset) (show 0 < 256 by omega)
  constructor
  next =>
    intro moves
    by_cases carried : offset + recordSize data offset % 256 < 256
    next =>
      rw [Nat.mod_eq_of_lt carried] at moves
      exact ⟨by omega, carried⟩
    next =>
      rw [Nat.mod_eq_sub_mod (by omega), Nat.mod_eq_of_lt (by omega)] at moves
      omega
  next =>
    rintro ⟨some, within⟩
    rw [Nat.mod_eq_of_lt within]
    omega

theorem range_inside (start count bound : Nat) :
    (∀ place ∈ List.range' start count, place < bound) <-> count = 0 \/ start + count ≤ bound := by
  simp only [List.mem_range'_1]
  constructor
  next =>
    intro inside
    by_cases none : count = 0
    next => exact .inl none
    next =>
      have last := inside (start + count - 1) (by omega)
      omega
  next => omega

theorem metadata_inside (offset : Nat) :
    (∀ place ∈ metadataReads data offset, place < length) <->
      offset + (if counted data offset then 4 else 3) ≤ length := by
  rw [metadataReads, range_inside]
  split <;> omega

theorem record_kinds (offset : Nat) :
    (counted data offset = true /\ ∃ few < 256,
        logDlmsDataType data offset (dataType data offset) = (4, few) /\
          valueWidth (dataType data offset) few = few) \/
      (counted data offset = false /\ ∃ few ≤ 8,
        logDlmsDataType data offset (dataType data offset) = (3, few) /\
          valueWidth (dataType data offset) few = few) \/
      (counted data offset = false /\
        logDlmsDataType data offset (dataType data offset) = (0, 0)) := by
  unfold counted
  generalize dataType data offset = type
  unfold logDlmsDataType
  split
  next => exact .inr (.inl ⟨rfl, 0, by omega, rfl, rfl⟩)
  next => exact .inl ⟨rfl, _, (byteAt data (offset + 3)).toNat_lt, rfl, rfl⟩
  next => exact .inl ⟨rfl, _, (byteAt data (offset + 3)).toNat_lt, rfl, rfl⟩
  next => exact .inr (.inl ⟨rfl, 1, by omega, rfl, rfl⟩)
  next => exact .inr (.inl ⟨rfl, 1, by omega, rfl, rfl⟩)
  next => exact .inr (.inl ⟨rfl, 1, by omega, rfl, rfl⟩)
  next => exact .inr (.inl ⟨rfl, 1, by omega, rfl, rfl⟩)
  next => exact .inr (.inl ⟨rfl, 2, by omega, rfl, rfl⟩)
  next => exact .inr (.inl ⟨rfl, 2, by omega, rfl, rfl⟩)
  next => exact .inr (.inl ⟨rfl, 8, by omega, rfl, rfl⟩)
  next => exact .inr (.inl ⟨rfl, 8, by omega, rfl, rfl⟩)
  next => exact .inr (.inl ⟨rfl, 4, by omega, rfl, rfl⟩)
  next => exact .inr (.inl ⟨rfl, 4, by omega, rfl, rfl⟩)
  next => exact .inr (.inl ⟨rfl, 4, by omega, rfl, rfl⟩)
  next other => exact .inr (.inr ⟨by simp_all, rfl⟩)

theorem value_turn (offset : Nat) (inside : offset < length) (small : length < 256) :
    (offset < nextOffset data offset /\ (∀ place ∈ metadataReads data offset, place < length) /\
        ∀ place ∈ valueReads data offset, place < length) <->
      0 < recordSize data offset /\ offset + recordSize data offset ≤ length := by
  rw [nextOffset_moves data offset (by omega), metadata_inside, valueReads, recordSize]
  rcases record_kinds data offset with ⟨string, few, byte, shape, width⟩ |
    ⟨fixed, few, most, shape, width⟩ | ⟨unknown, shape⟩
  next => simp only [string, shape, width, range_inside, if_true]; omega
  next =>
    simp only [fixed, shape, width, range_inside]
    rw [Nat.mod_eq_of_lt (by omega)]
    simp
    omega
  next => simp [shape]

theorem turn_fits (kind : Taken) (turn offset : Nat) (inside : offset < length)
    (small : length < 256) :
    (offset < nextOffset data offset /\
        ∀ place ∈ metadataReads data offset ++ takenReads data turn offset kind, place < length) <->
      Fits data length turn offset kind := by
  have moves := nextOffset_moves data offset (by omega)
  have header := metadata_inside data length offset
  simp only [List.forall_mem_append]
  cases kind with
  | value => exact value_turn data length offset inside small
  | eventIndex =>
    have entry := range_inside ((9 + turn * 16) % 256) 16 length
    simp only [takenReads, moves, header, entry, Fits]
    omega
  | nothing => simp [takenReads, moves, header, Fits, and_assoc]

theorem fits_next (kind : Taken) (turn offset : Nat) (small : length < 256)
    (fits : Fits data length turn offset kind) :
    nextOffset data offset = offset + recordSize data offset % 256 := by
  have within : offset + recordSize data offset % 256 < 256 := by
    cases kind with
    | value =>
      have below := Nat.mod_le (recordSize data offset) 256
      have := fits.2
      omega
    | eventIndex => exact fits.2.1
    | nothing => exact fits.2.1
  rw [nextOffset, Nat.mod_eq_of_lt within]

theorem turns_chained (kind : Taken) (small : length < 256) (records turn offset : Nat) :
    (∀ entry ∈ (recordOffsets data length records offset).zipIdx turn,
      entry.1 < nextOffset data entry.1 /\
        ∀ place ∈ metadataReads data entry.1 ++ takenReads data entry.2 entry.1 kind,
          place < length) <->
      Chained data length kind turn records offset := by
  induction records generalizing turn offset with
  | zero => simp [recordOffsets, Chained]
  | succ records ih =>
    rw [Chained]
    by_cases inside : offset < length
    next =>
      rw [recordOffsets_step data length records offset inside, List.zipIdx_cons,
        List.forall_mem_cons, ih, turn_fits data length kind turn offset inside small]
      constructor
      next =>
        rintro ⟨fits, behind⟩
        exact .inr ⟨fits, fits_next data length kind turn offset small fits ▸ behind⟩
      next =>
        rintro (out | ⟨fits, behind⟩)
        next => omega
        next => exact ⟨fits, (fits_next data length kind turn offset small fits).symm ▸ behind⟩
    next => simp [recordOffsets, Nat.not_lt.mp inside]

theorem progress_iff (parser : Parser) (small : length < 256) :
    Progress data length parser <->
      8 < length /\ Chained data length (taken data parser) 0 (byteAt data 8).toNat 9 := by
  rw [← turns_chained data length (taken data parser) small]
  have offsets := List.zipIdx_map_fst 0 (visited data length)
  constructor
  next =>
    intro progress
    refine ⟨progress.headers, fun entry among => ⟨?_, progress.inside entry among⟩⟩
    exact progress.advances _ (List.fst_mem_of_mem_zipIdx among)
  next =>
    rintro ⟨headers, turns⟩
    have advances : ∀ offset ∈ visited data length, offset < nextOffset data offset := by
      rw [← offsets, List.forall_mem_map]
      exact fun entry among => (turns entry among).1
    exact { headers := headers
            advances := advances
            inside := fun entry among => (turns entry among).2
            once := (offsets_increase data length _ 9 advances).1.imp Nat.ne_of_lt }

end Walk

section Accepted

def Parser.parse : Parser -> Bytes -> Nat -> OdmProfiles -> OdmProfiles
  | .nameplate => parseNameplateProfile
  | .instantaneous => parseInstantaneousProfile
  | .dailyLoad => parseDailyLoadProfile
  | .blockLoad => parseBlockLoadProfile
  | .billingHistory => parseBillingHistoryProfile
  | .events => parseEventsProfile

def parserOf (command : UInt8) : Option Parser :=
  match command with
  | 0x00 => some .nameplate
  | 0x01 => some .instantaneous
  | 0x02 => some .billingHistory
  | 0x03 => some .dailyLoad
  | 0x04 => some .blockLoad
  | 0x08 => some .events
  | _ => none

theorem parseProfile_parses (command : UInt8) (data : Bytes) (length : Nat) (profiles : OdmProfiles) :
    parseProfile command data length profiles =
      (parserOf command).map fun parser => parser.parse data length profiles := by
  unfold parserOf
  split
  case h_7 =>
    unfold parseProfile
    split <;> simp_all
  all_goals rfl

/-- What a parser adds, turn by turn, at the offsets it visits. -/
theorem parse_visits (parser : Parser) (data : Bytes) (length : Nat) (profiles : OdmProfiles) :
    (taken data parser = .value -> exists store, parser.parse data length profiles =
        (visited data length).foldl (storeRecord data store) profiles) /\
      (taken data parser = .eventIndex -> parser.parse data length profiles =
        (List.range (visited data length).length).foldl (storeEventIndex data) profiles) /\
      (taken data parser = .nothing -> parser.parse data length profiles = profiles) := by
  cases parser
  case events =>
    simp only [Parser.parse, parseEventsProfile]
    split
    case h_1 type => exact ⟨by simp [taken, type], fun _ => rfl, by simp [taken, type]⟩
    case h_9 =>
      unfold taken
      split <;> simp_all
    all_goals
      next type => exact ⟨fun _ => ⟨_, rfl⟩, by simp [taken, type], by simp [taken, type]⟩
  all_goals exact ⟨fun _ => ⟨_, rfl⟩, by simp [taken], by simp [taken]⟩

variable (packet : Packet)

def payload : Bytes := slice packet.bytes 17 (packet.length - 17)

def dlmsOffset : Nat := (payload packet).findIdx fun byte => byte = 0x2D

def dlmsData : Bytes := packet.bytes.drop (17 + dlmsOffset packet)

def dlmsLen : Nat := bigEndian (slice (dlmsData packet) 1 2)

/-- The reply is taken for an instant profile, by the parser of its command. -/
structure Accepted (parser : Parser) : Prop where
  taken : exists profiles, (meshDataResponse packet profiles).1 ≠ .invalidResponse
  instant : byteAt (dlmsData packet) 4 = 0x0E
  command : parserOf (byteAt (dlmsData packet) 5) = some parser

theorem meshDataResponse_instant (profiles : OdmProfiles) (instant : byteAt (dlmsData packet) 4 = 0x0E) :
    meshDataResponse packet profiles =
      if dlmsOffset packet ≥ (payload packet).length ||
          dlmsLen packet + 1 ≠ (payload packet).length - dlmsOffset packet then
        (.invalidResponse, profiles)
      else if calculateChecksum (dlmsData packet) 0 (dlmsLen packet) ≠
          byteAt (dlmsData packet) (dlmsLen packet) then (.invalidResponse, profiles)
      else if byteAt (dlmsData packet) 8 = 0x00 then (.invalidResponse, profiles)
      else
        match parseProfile (byteAt (dlmsData packet) 5) (dlmsData packet) (dlmsLen packet) profiles with
        | some parsed => (pageCode packet, parsed)
        | none => (.invalidResponse, profiles) := by
  unfold dlmsData dlmsOffset payload at instant
  unfold meshDataResponse
  simp only [instant, if_true]
  rfl

theorem accepted_facts (parser : Parser) (accepted : Accepted packet parser) :
    dlmsOffset packet < (payload packet).length /\
      dlmsLen packet + 1 = (payload packet).length - dlmsOffset packet /\
      calculateChecksum (dlmsData packet) 0 (dlmsLen packet) =
        byteAt (dlmsData packet) (dlmsLen packet) /\ byteAt (dlmsData packet) 8 ≠ 0x00 := by
  obtain ⟨profiles, code⟩ := accepted.taken
  rw [meshDataResponse_instant packet profiles accepted.instant] at code
  split at code
  next => exact absurd rfl code
  next sized =>
    split at code
    next => exact absurd rfl code
    next summed =>
      split at code
      next => exact absurd rfl code
      next some => simp_all

theorem accepted_parses (parser : Parser) (accepted : Accepted packet parser)
    (profiles : OdmProfiles) :
    meshDataResponse packet profiles =
      (pageCode packet, parser.parse (dlmsData packet) (dlmsLen packet) profiles) := by
  obtain ⟨found, sized, summed, some⟩ := accepted_facts packet parser accepted
  have within : ¬ dlmsOffset packet ≥ (payload packet).length := by omega
  rw [meshDataResponse_instant packet profiles accepted.instant, parseProfile_parses, accepted.command]
  simp [within, ← sized, summed, some]

end Accepted

/-- The loop of an accepted payload makes progress in it exactly when the records are chained there. -/
theorem walk_progress_iff (buffer : Bytes) (offset : Nat) (parser : Parser)
    (accepted : Accepted (received buffer offset) parser) :
    let data := dlmsData (received buffer offset)
    let length := dlmsLen (received buffer offset)
    Progress data length parser <->
      8 < length /\ Chained data length (taken data parser) 0 (byteAt data 8).toNat 9 := by
  have whole := (accepted_facts _ parser accepted).2.1
  have few : (payload (received buffer offset)).length ≤ 239 := by
    have byte := (byteAt buffer (offset + 1)).toNat_lt
    simp only [payload, slice_length, received]
    omega
  exact progress_iff _ _ parser (by omega)

/-- An instantaneous reply that counts two records; one of them is there. -/
def countedTwo (type length checksum : UInt8) (rest : Bytes) : Bytes :=
  [0x2E, length + 17, 0x08, 0, 0, 0, 0, 0, 0, 0, 0, 0x00, 0x00, 0x00, 0x02, 0x00, 0x01] ++
    [0x2D, 0x00, length, 0x00, 0x0E, 0x01, 0x00, 0x00, 0x02] ++ [0x01, 0x00, type] ++ rest ++ [checksum]

def shortValue : Bytes := countedTwo 0x11 0x0D 0x62 [0x05]

def unknownType : Bytes := countedTwo 0x02 0x0C 0x4D []

/-- A record count too large is no harm: the loop leaves off at the end of the payload. -/
theorem short_value_walked :
    Progress (dlmsData (received shortValue 0)) (dlmsLen (received shortValue 0)) .instantaneous := by
  apply (walk_progress_iff shortValue 0 .instantaneous
    ⟨⟨{}, by decide +kernel⟩, by decide +kernel, by decide +kernel⟩).mpr
  have length : dlmsLen (received shortValue 0) = 13 := by decide +kernel
  have size : recordSize (dlmsData (received shortValue 0)) 9 = 4 := by decide +kernel
  have records : (byteAt (dlmsData (received shortValue 0)) 8).toNat = 2 := by decide +kernel
  rw [length, records]
  simp [Chained, Fits, taken, size]

/-- A record of an unknown type is met again in every turn, two times here. -/
theorem unknown_type_repeats :
    (Client.clientProcessData (received unknownType 0) {}).1 = some .success /\
      Accepted (received unknownType 0) .instantaneous /\
      ¬ Progress (dlmsData (received unknownType 0)) (dlmsLen (received unknownType 0)) .instantaneous := by
  constructor
  next => decide +kernel
  next =>
    constructor
    next => exact ⟨⟨{}, by decide +kernel⟩, by decide +kernel, by decide +kernel⟩
    next =>
      intro progress
      have once := progress.once
      revert once
      decide +kernel

end Hes.RecordWalk
