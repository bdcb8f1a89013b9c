import Hes.CellValues
import Hes.Scalers

set_option autoImplicit false

namespace Hes.StoredRows

open Dlms OdmProfiles Decoders PushRecords CellValues
open Scalers (Profile)

/-- The columns that are compared, every number before it is multiplied by the factor. -/
structure Row where
  time : Bytes
  numbers : List Int
  status : List Bool
  dates : List Bytes
  deriving DecidableEq, Repr

def statusColumns : Profile -> List UInt8
  | .instantaneous => [0x14]
  | .billing | .dailyLoad | .blockLoad => []

def dateColumns : Profile -> List UInt8
  | .instantaneous => [0x0B, 0x0D]
  | .billing => [0x15, 0x17]
  | .dailyLoad | .blockLoad => []

section OnDemand

def store : Profile -> Store
  | .instantaneous => .ip
  | .billing => .bh
  | .dailyLoad => .dlp
  | .blockLoad => .blp

/-- The values that `validate_*_for_db` adds where there is none. -/
def defaults : Profile -> List (UInt8 × UInt8)
  | .instantaneous => Client.ipDefaults
  | .billing => Client.bhDefaults
  | .dailyLoad => Client.dlpDefaults
  | .blockLoad => Client.blpDefaults

/-- The billing power on duration alone is read in double precision. -/
def significantBits (profile : Profile) (index : UInt8) : Nat :=
  if profile = .billing ∧ index = 0x18 then 53 else 24

def odmCell (zone : Zone) (held : List Stored) (store : Store) (turn : Nat) (index : UInt8) :
    Option Extracted :=
  (columnOf held store index)[turn]?.map fun stored => extractDlmsValue zone stored.content

def odmRow (zone : Zone) (behind : Bytes) (profile : Profile) (held : List Stored) (turn : Nat) : Row :=
  let cell := odmCell zone held (store profile) turn
  { time := if profile = .billing then odmDateTime behind (cell 0x00) else odmTime (cell 0x00)
    numbers := profile.scaledColumns.map fun index =>
      ((cell index).map (Extracted.getAs (significantBits profile index))).getD 0
    status := (statusColumns profile).map fun index =>
      ((cell index).map Extracted.getAsBool).getD false
    dates := (dateColumns profile).map fun index => odmDateTime behind (cell index) }

/-- The parser of the profile, then its `process_*_case`. -/
def odmRows (zone : Zone) (behind : Bytes) (profile : Profile) (data : Bytes) : List Row :=
  let profiles := parseRecords (store profile) data (data.length - 1) {}
  let held := (validateForDb (store profile) (defaults profile) profiles).values
  match profile with
  | .instantaneous => [odmRow zone behind .instantaneous held 0]
  | profile =>
    (List.range (columnOf held (store profile) 0x00).length).map (odmRow zone behind profile held)

end OnDemand

section Pushed

/-- The profiles of which the writer takes the time of the meter back by five and a half hours. -/
def shifted : Profile -> Bool
  | .instantaneous | .blockLoad => true
  | .billing | .dailyLoad => false

def pushRow (zone : Zone) (outside : Int -> UInt32) (profile : Profile) (records : DlmsRecordMap) : Row :=
  { time := if profile = .billing then pushDateTime records 0x00
      else pushTime zone (shifted profile) outside records
    numbers := profile.scaledColumns.map (getNumericOrDefault records)
    status := (statusColumns profile).map (getBool records)
    dates := (dateColumns profile).map (pushDateTime records) }

/-- `insert_*_profile_data` behind the parser of the push and of the pull. -/
def pushRows (zone : Zone) (outside : Int -> UInt32) (profile : Profile) (frame : Bytes)
    (numberOfRecords : UInt8) : List Row :=
  match profile with
  | .blockLoad =>
    let (success, buffer) := parseBlockLoadDLMSRecords frame numberOfRecords { profileData := {} }
    if success then buffer.profileData.profilesData.map (pushRow zone outside .blockLoad) else []
  | profile =>
    let (success, buffer) :=
      parseDLMSRecords frame numberOfRecords { profileData := fun _ => none }
    if success then [pushRow zone outside profile buffer.profileData] else []

end Pushed

/-- The records of a capture as a meter sends them. -/
def wire (records : List (UInt8 × Value)) : List Record :=
  records.map fun record => record.2.record record.1

/-- A block of the block load ends with its record of index 6. -/
def throughSix : List (UInt8 × Value) -> List (UInt8 × Value)
  | [] => []
  | record :: rest => if record.1 = 0x06 then [record] else record :: throughSix rest

/-- The records the push writer sees. -/
def delivered (profile : Profile) (records : List (UInt8 × Value)) : List (UInt8 × Value) :=
  if profile = .blockLoad then throughSix records else records

/-- The number of a column: a record the push lost must read as zero. -/
def NumberAgrees (zone : Zone) (bits : Nat) (sent kept : Option Value) : Prop :=
  match kept with
  | some value => NumberFits bits (some value)
  | none => ∀ value ∈ sent, (extractDlmsValue zone (contentOf value)).getAs bits = 0

/-- The time of the meter: a record the push lost must show the time of no record. -/
def TimeAgrees (zone : Zone) (outside : Int -> UInt32) (profile : Profile) (sent kept : Option Value) :
    Prop :=
  match kept with
  | some value => TimeFits zone (shifted profile) outside (some value)
  | none => ∃ value ∈ sent, odmTime (some (extractDlmsValue zone (contentOf value))) =
      formatTimestamp zone (pushStamp (shifted profile) outside 0)

structure Fits (zone : Zone) (behind : Bytes) (outside : Int -> UInt32) (profile : Profile)
    (records : List (UInt8 × Value)) : Prop where
  closed : profile = .blockLoad -> ∃ record ∈ records, record.1 = 0x06
  time : if profile = .billing then DateFits zone behind (records.lookup 0x00)
    else TimeAgrees zone outside profile (records.lookup 0x00) ((delivered profile records).lookup 0x00)
  numbers : ∀ index ∈ profile.scaledColumns,
    NumberAgrees zone (significantBits profile index) (records.lookup index)
      ((delivered profile records).lookup index)
  status : ∀ index ∈ statusColumns profile, StatusFits (records.lookup index)
  dates : ∀ index ∈ dateColumns profile, DateFits zone behind (records.lookup index)

section OnDemandCells

def storedOf (store : Store) (record : UInt8 × Value) : Stored :=
  { store := store, index := record.1, content := contentOf record.2, origin := .outside }

theorem storeRecord_encode (store : Store) (before tail : Bytes) (record : UInt8 × Value)
    (profiles : OdmProfiles) (outside : profiles.serving = .outside)
    (wellFormed : (record.2.record record.1).WellFormed)
    (known : pushSupports record.2.type = true)
    (taken : odmSupports record.2.type = true \/ record.2.bytes = []) :
    OdmProfiles.storeRecord (before ++ ((record.2.record record.1).encode ++ tail)) store profiles
        before.length =
      { profiles with values := profiles.values ++ [storedOf store record] } := by
  have field := (odmField_encode before tail _ wellFormed known).mpr taken
  have type : byteAt (before ++ ((record.2.record record.1).encode ++ tail)) (before.length + 2) =
      record.2.type :=
    encode_byteAt before tail _ 2 (by decide)
  have index : byteAt (before ++ ((record.2.record record.1).encode ++ tail)) before.length = record.1 :=
    encode_byteAt before tail _ 0 (by decide)
  simp only [odmField, type, index] at field
  split at field
  next valued =>
    simp only [Option.some.injEq, Prod.mk.injEq] at field
    have bytes : (OdmProfiles.extractDlmsValue
        (before ++ ((record.2.record record.1).encode ++ tail)) _ record.2.type _).bytes =
          record.2.bytes := field.2
    simp only [OdmProfiles.storeRecord, type, index, if_pos valued, OdmProfiles.pushBack, outside]
    congr 3
    simp only [storedOf, contentOf, Stored.mk.injEq, true_and, and_true]
    rw [<- bytes]
    rfl
  next => simp at field

theorem storeRecords_encodeAll (store : Store) (tail : Bytes) (records : List (UInt8 × Value))
    (before : Bytes) (profiles : OdmProfiles) (outside : profiles.serving = .outside)
    (wellFormed : ∀ record ∈ records, (record.2.record record.1).WellFormed)
    (known : ∀ record ∈ records, pushSupports record.2.type = true)
    (taken : ∀ record ∈ records, odmSupports record.2.type = true \/ record.2.bytes = []) :
    (offsets before.length (wire records)).foldl
        (OdmProfiles.storeRecord (before ++ (encodeAll (wire records) ++ tail)) store) profiles =
      { profiles with values := profiles.values ++ records.map (storedOf store) } := by
  induction records generalizing before profiles with
  | nil => simp [offsets, wire]
  | cons record rest ih =>
    have first := storeRecord_encode store before (encodeAll (wire rest) ++ tail) record profiles outside
      (wellFormed record List.mem_cons_self) (known record List.mem_cons_self)
      (taken record List.mem_cons_self)
    have behind := ih (before ++ (record.2.record record.1).encode)
      { profiles with values := profiles.values ++ [storedOf store record] } outside
      (fun other among => wellFormed other (List.mem_cons_of_mem record among))
      (fun other among => known other (List.mem_cons_of_mem record among))
      (fun other among => taken other (List.mem_cons_of_mem record among))
    rw [List.append_assoc, List.length_append] at behind
    have whole : wire (record :: rest) = record.2.record record.1 :: wire rest := rfl
    rw [whole, encodeAll_cons, List.append_assoc, offsets, List.foldl_cons, first, behind]
    simp

variable (head : Bytes) (records : List (UInt8 × Value)) (checksum : UInt8)

theorem wire_wellFormed (short : ∀ record ∈ records, record.2.Short) :
    ∀ record ∈ wire records, record.WellFormed := by
  intro record among
  obtain ⟨sent, inside, rfl⟩ := List.mem_map.mp among
  exact (Value.record_complete sent.1 sent.2 (short sent inside)).1

theorem common_taken (common : Common (wire records)) :
    ∀ record ∈ records, odmSupports record.2.type = true \/ record.2.bytes = [] := by
  obtain ⟨-, walkable, last⟩ := common
  intro record among
  have inside : record.2.record record.1 ∈ wire records := List.mem_map_of_mem among
  by_cases early : record.2.record record.1 ∈ (wire records).dropLast
  next => exact .inl (walkable.1 _ early)
  next =>
    have some : wire records ≠ [] := List.ne_nil_of_mem inside
    have split := List.dropLast_append_getLast some
    rw [<- split, List.mem_append, List.mem_singleton] at inside
    have ending := inside.resolve_left early
    have final : record.2.record record.1 ∈ (wire records).getLast? := by
      rw [ending]
      exact List.getLast?_eq_some_getLast some
    exact last _ final

theorem parse_values (store : Store) (eight : head.length = 8) (few : records.length < 256)
    (short : ∀ record ∈ records, record.2.Short) (common : Common (wire records)) :
    (parseRecords store (payload head (wire records) checksum)
        ((payload head (wire records) checksum).length - 1) {}).values =
      records.map (storedOf store) := by
  have size : (wire records).length = records.length := List.length_map ..
  have wellFormed := wire_wellFormed records short
  have nine : (head ++ [UInt8.ofNat (wire records).length]).length = 9 := by simp [eight]
  rw [parseRecords, (recordOffsets_payload head (wire records) checksum eight (by omega) wellFormed).mpr
    common.2.1, payload_behind]
  have run := storeRecords_encodeAll store [checksum] records
    (head ++ [UInt8.ofNat (wire records).length]) {} rfl
    (fun record among => wellFormed _ (List.mem_map_of_mem among))
    (fun record among => common.1 _ (List.mem_map_of_mem among)) (common_taken records common)
  rw [nine] at run
  rw [run]
  rfl

theorem columnOf_sent (store : Store) (once : (records.map Prod.fst).Nodup) (index : UInt8) :
    columnOf (records.map (storedOf store)) store index =
      ((records.lookup index).map fun value => storedOf store (index, value)).toList := by
  induction records with
  | nil => rfl
  | cons record rest ih =>
    obtain ⟨key, value⟩ := record
    simp only [List.map_cons, List.nodup_cons] at once
    have behind := ih once.2
    rw [columnOf] at behind ⊢
    rw [List.map_cons, List.lookup_cons]
    by_cases same : index = key
    next =>
      subst same
      have none : rest.lookup index = none := by
        rw [List.lookup_eq_none_iff]
        intro other among
        have different : index ≠ other.1 := fun equal =>
          once.1 (equal ▸ List.mem_map_of_mem among)
        simpa using different
      rw [none] at behind
      simp only [Option.map_none, Option.toList_none] at behind
      simp [storedOf, behind]
    next =>
      have different : (index == key) = false := by simpa using same
      rw [different, <- behind]
      simp [storedOf, Ne.symm same]

def fillerOf (store : Store) (index type : UInt8) : Stored :=
  { store := store, index := index, content := defaultContent type, origin := .filler }

theorem columnOf_validated (store : Store) (defaults : List (UInt8 × UInt8)) (profiles : OdmProfiles)
    (index : UInt8) :
    columnOf (validateForDb store defaults profiles).values store index =
      if columnOf profiles.values store index = [] then
        ((defaults.lookup index).map (fillerOf store index)).toList
      else columnOf profiles.values store index := by
  -- a column that has a value keeps it; an empty one gets the default of its list
  induction defaults generalizing profiles with
  | nil => simp [validateForDb]
  | cons column rest ih =>
    obtain ⟨key, type⟩ := column
    have step : validateForDb store ((key, type) :: rest) profiles =
      validateForDb store rest (ensureDlmsValue store profiles (key, type)) := rfl
    rw [step, ih, List.lookup_cons]
    have other (values : List Stored) (different : ¬ index = key) :
        columnOf (values ++ [fillerOf store key type]) store index = columnOf values store index := by
      simp [columnOf, fillerOf, Ne.symm different]
    by_cases same : index = key
    next =>
      subst same
      by_cases empty : columnOf profiles.values store index = []
      next =>
        have added : columnOf (ensureDlmsValue store profiles (index, type)).values store index =
            [fillerOf store index type] := by
          rw [show ensureDlmsValue store profiles (index, type) = _ from if_pos empty]
          rw [columnOf] at empty ⊢
          rw [List.filter_append, empty]
          simp [fillerOf]
        simp [added, empty]
      next =>
        have kept : ensureDlmsValue store profiles (index, type) = profiles := if_neg empty
        simp [kept, empty]
    next =>
      have different : (index == key) = false := by simpa using same
      have unchanged : columnOf (ensureDlmsValue store profiles (key, type)).values store index =
          columnOf profiles.values store index := by
        rw [ensureDlmsValue]
        split
        next => exact other profiles.values same
        next => rfl
      rw [unchanged, different]

/-- What the first row reads: the value that was sent, or the default of the column. -/
theorem odmCell_sent (zone : Zone) (profile : Profile) (eight : head.length = 8)
    (few : records.length < 256) (short : ∀ record ∈ records, record.2.Short)
    (common : Common (wire records)) (once : (records.map Prod.fst).Nodup) (index : UInt8) :
    odmCell zone (validateForDb (store profile) (defaults profile)
        (parseRecords (store profile) (payload head (wire records) checksum)
          ((payload head (wire records) checksum).length - 1) {})).values (store profile) 0 index =
      match records.lookup index with
      | some value => some (extractDlmsValue zone (contentOf value))
      | none => ((defaults profile).lookup index).map fun type =>
          extractDlmsValue zone (defaultContent type) := by
  rw [odmCell, columnOf_validated,
    parse_values head records checksum (store profile) eight few short common,
    columnOf_sent records (store profile) once index]
  cases records.lookup index with
  | some value => simp [storedOf]
  | none => cases (defaults profile).lookup index <;> simp [fillerOf]

end OnDemandCells

section PushedRecords

/-- The records as the push decoder stores them. -/
def stored (records : List (UInt8 × Value)) : List (UInt8 × DlmsValue) :=
  records.map fun record => (record.1, valueOf record.2)

theorem foldl_storeRecord_sent (records : List (UInt8 × Value)) (map : DlmsRecordMap)
    (once : (records.map Prod.fst).Nodup) (index : UInt8) :
    (stored records).foldl Dlms.storeRecord map index =
      ((records.lookup index).map valueOf).or (map index) := by
  induction records generalizing map with
  | nil => rfl
  | cons record rest ih =>
    obtain ⟨key, value⟩ := record
    simp only [List.map_cons, List.nodup_cons] at once
    have behind := ih (Dlms.storeRecord map (key, valueOf value)) once.2
    rw [stored, List.map_cons, List.foldl_cons, List.lookup_cons]
    rw [stored] at behind
    rw [behind]
    by_cases same : index = key
    next =>
      subst same
      have none : rest.lookup index = none := by
        rw [List.lookup_eq_none_iff]
        intro other among
        have different : index ≠ other.1 := fun equal =>
          once.1 (equal ▸ List.mem_map_of_mem among)
        simpa using different
      simp [none, Dlms.storeRecord]
    next =>
      have different : (index == key) = false := by simpa using same
      simp [different, Dlms.storeRecord, same]

/-- The one block of a capture: its records through the one of index 6. -/
theorem foldl_storeBlockRecord_sent (records : List (UInt8 × Value)) (blocks : BlockLoad)
    (once : (records.map Prod.fst).Nodup) :
    ((stored records).foldl storeBlockRecord blocks).profilesData =
      blocks.profilesData ++
        if ∃ record ∈ records, record.1 = 0x06 then
          [(stored (throughSix records)).foldl Dlms.storeRecord blocks.partialProfile]
        else [] := by
  induction records generalizing blocks with
  | nil => simp [stored]
  | cons record rest ih =>
    obtain ⟨key, value⟩ := record
    simp only [List.map_cons, List.nodup_cons] at once
    rw [stored, List.map_cons, List.foldl_cons, <- stored]
    by_cases last : key = 0x06
    next =>
      subst last
      have partway : ∀ record ∈ stored rest, record.1 ≠ 0x06 := by
        intro other among same
        obtain ⟨sent, inside, rfl⟩ := List.mem_map.mp among
        have present : sent.1 ∈ rest.map Prod.fst := List.mem_map_of_mem inside
        simp only at same
        rw [same] at present
        exact once.1 present
      rw [foldl_storeBlockRecord_partway _ _ partway]
      simp [storeBlockRecord, throughSix, stored]
    next =>
      have behind : (∃ record ∈ (key, value) :: rest, record.1 = 0x06) <->
          ∃ record ∈ rest, record.1 = 0x06 := by
        simp [last]
      rw [ih _ once.2]
      by_cases six : ∃ record ∈ rest, record.1 = 0x06
      next =>
        rw [if_pos six, if_pos (behind.mpr six)]
        simp [storeBlockRecord, last, throughSix, stored]
      next =>
        rw [if_neg six, if_neg (mt behind.mp six)]
        simp [storeBlockRecord, last]

theorem throughSix_sublist (records : List (UInt8 × Value)) : (throughSix records).Sublist records := by
  induction records with
  | nil => exact List.Sublist.refl []
  | cons record rest ih =>
    rw [throughSix]
    split
    next => exact (List.nil_sublist rest).cons_cons record
    next => exact ih.cons_cons record

theorem delivered_once (profile : Profile) (records : List (UInt8 × Value))
    (once : (records.map Prod.fst).Nodup) : ((delivered profile records).map Prod.fst).Nodup := by
  rw [delivered]
  split
  next => exact once.sublist ((throughSix_sublist records).map Prod.fst)
  next => exact once

theorem throughSix_lookup (records : List (UInt8 × Value)) (index : UInt8) :
    (throughSix records).lookup index = none \/
      (throughSix records).lookup index = records.lookup index := by
  induction records with
  | nil => exact .inl rfl
  | cons record rest ih =>
    obtain ⟨key, value⟩ := record
    rw [throughSix]
    split <;> simp only [List.lookup_cons] <;> cases index == key <;> simp_all

theorem delivered_lookup (profile : Profile) (records : List (UInt8 × Value)) (index : UInt8) :
    (delivered profile records).lookup index = none \/
      (delivered profile records).lookup index = records.lookup index := by
  rw [delivered]
  split
  next => exact throughSix_lookup records index
  next => exact .inr rfl

variable (pmesh head : Bytes) (records : List (UInt8 × Value)) (checksum : UInt8)

theorem storedRecords_sent (mesh : pmesh.length = 17) (eight : head.length = 8)
    (short : ∀ record ∈ records, record.2.Short) (common : Common (wire records)) :
    storedRecords (pmesh ++ payload head (wire records) checksum) = stored records := by
  have long : ¬ (pmesh ++ payload head (wire records) checksum).length <
      pmeshHeaderSize + dlmsHeaderSize := by
    simp only [payload, List.length_append, List.length_singleton, mesh, eight, pmeshHeaderSize,
      dlmsHeaderSize]
    omega
  rw [storedRecords, if_neg long, recordsFrom_raw,
    pushRecords_payload pmesh head (wire records) checksum mesh eight
      (wire_wellFormed records short),
    List.takeWhile_eq_self_iff.mpr common.1, wire, List.map_map]
  rfl

theorem pushRows_sent (zone : Zone) (outside : Int -> UInt32) (profile : Profile)
    (mesh : pmesh.length = 17) (eight : head.length = 8) (few : records.length < 256)
    (short : ∀ record ∈ records, record.2.Short) (common : Common (wire records))
    (once : (records.map Prod.fst).Nodup) :
    pushRows zone outside profile (pmesh ++ payload head (wire records) checksum)
        (byteAt (payload head (wire records) checksum) 8) =
      if profile = .blockLoad /\ ¬ ∃ record ∈ records, record.1 = 0x06 then []
      else [pushRow zone outside profile ((stored (delivered profile records)).foldl Dlms.storeRecord
        fun _ => none)] := by
  have size : (wire records).length = records.length := List.length_map ..
  have success := (parses_payload pmesh head (wire records) checksum mesh eight (by omega)
    (wire_wellFormed records short)).mpr common.1
  have taken := storedRecords_sent pmesh head records checksum mesh eight short common
  cases profile with
  | blockLoad =>
    simp only [pushRows, parseBlockLoadDLMSRecords, parseRecordsInto, success, if_true, taken,
      foldl_storeBlockRecord_sent records {} once, delivered, List.nil_append]
    split <;> simp_all
  | instantaneous | billing | dailyLoad =>
    simp [pushRows, parseDLMSRecords, parseRecordsInto, success, taken, delivered]

end PushedRecords

section Cells

/-- A cell of the on-demand row: the value that was sent, or what the validation put there. -/
def cellOf (zone : Zone) (sent : Option Value) (filler : Option Extracted) : Option Extracted :=
  match sent with
  | some value => some (extractDlmsValue zone (contentOf value))
  | none => filler

variable (zone : Zone) (records : DlmsRecordMap) (index : UInt8) (sent kept : Option Value)
variable (filler : Option Extracted)

theorem number_cell (bits : Nat) (wide : 24 ≤ bits)
    (zero : (filler.map (Extracted.getAs bits)).getD 0 = 0) (same : kept = none \/ kept = sent)
    (held : records index = kept.map valueOf) :
    ((cellOf zone sent filler).map (Extracted.getAs bits)).getD 0 = getNumericOrDefault records index <->
      NumberAgrees zone bits sent kept := by
  cases kept with
  | none =>
    have missing : getNumericOrDefault records index = 0 := by simp [getNumericOrDefault, held]
    cases sent with
    | none => simp [cellOf, zero, missing, NumberAgrees]
    | some value => simp [cellOf, missing, NumberAgrees]
  | some value =>
    obtain rfl : some value = sent := same.resolve_left (by simp)
    have number : getNumericOrDefault records index = (numberOf value).getD 0 := by
      simp [getNumericOrDefault, held, getNumeric_valueOf]
    rw [number]
    exact number_fits zone bits wide value

theorem status_cell (false' : (filler.map Extracted.getAsBool).getD false = false)
    (held : records index = sent.map valueOf) :
    ((cellOf zone sent filler).map Extracted.getAsBool).getD false = getBool records index <->
      StatusFits sent := by
  cases sent with
  | none =>
    have missing : getBool records index = false := by simp [getBool, held]
    simp [cellOf, false', missing, StatusFits]
  | some value => exact status_fits zone records index value held

theorem date_cell (behind : Bytes) (empty : odmDateTime behind filler = [])
    (held : records index = sent.map valueOf) :
    odmDateTime behind (cellOf zone sent filler) = pushDateTime records index <->
      DateFits zone behind sent := by
  cases sent with
  | none =>
    have missing : pushDateTime records index = defaultDateTime := by
      simp [pushDateTime, getOctetString, held, parseDlmsDateTime]
    simp [cellOf, empty, missing, DateFits, Ne.symm defaultDateTime_nonempty]
  | some value => exact date_fits zone behind records index value held

theorem time_cell (profile : Profile) (outside : Int -> UInt32) (empty : odmTime filler = [])
    (same : kept = none \/ kept = sent) (held : records 0x00 = kept.map valueOf) :
    odmTime (cellOf zone sent filler) = pushTime zone (shifted profile) outside records <->
      TimeAgrees zone outside profile sent kept := by
  cases kept with
  | none =>
    have missing : pushTime zone (shifted profile) outside records =
        formatTimestamp zone (pushStamp (shifted profile) outside 0) := by
      rw [pushTime, cString_whole _ (formatTimestamp_letters zone _)]
      simp [getNumericOrDefault, held]
    cases sent with
    | none =>
      simp [cellOf, empty, missing, TimeAgrees, Ne.symm (formatTimestamp_nonempty zone _)]
    | some value => simp [cellOf, missing, TimeAgrees]
  | some value =>
    obtain rfl : some value = sent := same.resolve_left (by simp)
    exact time_fits zone (shifted profile) outside records value held

end Cells

section Agreement

theorem defaults_number (profile : Profile) :
    ∀ index ∈ profile.scaledColumns, (defaults profile).lookup index = some 0x17 := by
  cases profile <;> decide +kernel

theorem defaults_time (profile : Profile) : (defaults profile).lookup 0x00 = some 0x09 := by
  cases profile <;> rfl

theorem defaults_status (profile : Profile) :
    ∀ index ∈ statusColumns profile, (defaults profile).lookup index = some 0x03 := by
  cases profile <;> decide +kernel

theorem defaults_dates (profile : Profile) :
    ∀ index ∈ dateColumns profile, (defaults profile).lookup index = none \/
      (defaults profile).lookup index = some 0x09 := by
  cases profile <;> decide +kernel

theorem significantBits_wide (profile : Profile) (index : UInt8) : 24 ≤ significantBits profile index := by
  rw [significantBits]
  split <;> decide

variable (zone : Zone) (behind : Bytes) (outside : Int -> UInt32) (profile : Profile)
variable (pmesh head : Bytes) (records : List (UInt8 × Value)) (checksum : UInt8)

/-- What the on-demand case holds when it writes its rows. -/
def held : List Stored :=
  (validateForDb (store profile) (defaults profile)
    (parseRecords (store profile) (payload head (wire records) checksum)
      ((payload head (wire records) checksum).length - 1) {})).values

theorem odmRows_sent (eight : head.length = 8) (few : records.length < 256)
    (short : ∀ record ∈ records, record.2.Short) (common : Common (wire records))
    (once : (records.map Prod.fst).Nodup) :
    odmRows zone behind profile (payload head (wire records) checksum) =
      [odmRow zone behind profile (held profile head records checksum) 0] := by
  have one : (columnOf (held profile head records checksum) (store profile) 0x00).length = 1 := by
    rw [held, columnOf_validated, parse_values head records checksum (store profile) eight few short
      common, columnOf_sent records (store profile) once 0x00, defaults_time]
    cases records.lookup 0x00 <;> simp
  cases profile with
  | instantaneous => rfl
  | billing | dailyLoad | blockLoad =>
    simp only [held] at one
    simp [odmRows, one, held]

theorem row_agrees_iff (kept : List (UInt8 × Value)) (map : DlmsRecordMap)
    (cell : forall index, odmCell zone (held profile head records checksum) (store profile) 0 index =
      cellOf zone (records.lookup index) (((defaults profile).lookup index).map fun type =>
        extractDlmsValue zone (defaultContent type)))
    (same : forall index, kept.lookup index = none \/ kept.lookup index = records.lookup index)
    (whole : profile ≠ .blockLoad -> kept = records)
    (stored : forall index, map index = (kept.lookup index).map valueOf) :
    odmRow zone behind profile (held profile head records checksum) 0 =
        pushRow zone outside profile map <->
      (if profile = .billing then DateFits zone behind (records.lookup 0x00)
        else TimeAgrees zone outside profile (records.lookup 0x00) (kept.lookup 0x00)) /\
      (∀ index ∈ profile.scaledColumns, NumberAgrees zone (significantBits profile index)
        (records.lookup index) (kept.lookup index)) /\
      (∀ index ∈ statusColumns profile, StatusFits (records.lookup index)) /\
      (∀ index ∈ dateColumns profile, DateFits zone behind (records.lookup index)) := by
  have sentTo (index : UInt8) (other : profile ≠ .blockLoad) :
      map index = (records.lookup index).map valueOf := by
    rw [stored, whole other]
  simp only [odmRow, pushRow, Row.mk.injEq, List.map_inj_left, cell]
  refine and_congr ?_ (and_congr ?_ (and_congr ?_ ?_))
  next =>
    have filler := defaults_time profile
    split
    next billing =>
      exact date_cell zone map 0x00 _ _ behind (by rw [filler]; rfl)
        (sentTo 0x00 (by simp [billing]))
    next =>
      exact time_cell zone map _ _ _ profile outside (by rw [filler]; rfl) (same 0x00) (stored 0x00)
  next =>
    refine forall₂_congr fun index scaled => ?_
    have filler := defaults_number profile index scaled
    exact number_cell zone map index _ _ _ _ (significantBits_wide profile index)
      (by rw [filler]; rfl) (same index) (stored index)
  next =>
    refine forall₂_congr fun index flag => ?_
    have filler := defaults_status profile index flag
    have other : profile ≠ .blockLoad := by rintro rfl; simp [statusColumns] at flag
    exact status_cell zone map index _ _ (by rw [filler]; rfl) (sentTo index other)
  next =>
    refine forall₂_congr fun index date => ?_
    have other : profile ≠ .blockLoad := by rintro rfl; simp [dateColumns] at date
    refine date_cell zone map index _ _ behind ?_ (sentTo index other)
    rcases defaults_dates profile index date with filler | filler <;> rw [filler] <;> rfl

end Agreement

def india : Zone := fun _ => 19800

/-- 2025-01-01 12:00:00 of the meter, a voltage and the dates of both maximum demands. -/
def plainCapture : List (UInt8 × Value) :=
  [(0x00, .datetime 1735732800), (0x01, .uint16 2301), (0x04, .int8 (-97)), (0x14, .boolean true),
    (0x0B, .octetString [0x07, 0xE9, 0x01, 0x01, 0xFF, 0x08, 0x1E]),
    (0x0D, .octetString [0x07, 0xE9, 0x01, 0x02, 0xFF, 0x09, 0x00])]

/-- The same time of the meter with an energy, as a daily load. -/
def dailyCapture : List (UInt8 × Value) := [(0x00, .datetime 1735732800), (0x01, .uint32 5000)]

/-- An instantaneous profile with an energy of 64 bits. -/
def wideCapture : List (UInt8 × Value) := plainCapture ++ [(0x08, .uint64 5000)]

end Hes.StoredRows
