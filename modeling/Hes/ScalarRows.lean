import Hes.Lib.Prog
import Hes.Scalers
import Hes.Text

set_option autoImplicit false

namespace Hes.ScalarRows

open Prog Scalers

/-- A page from `response->data` to the byte in front of the checksum, and what lies behind it. -/
structure Page where
  data : Bytes
  behind : Bytes
  deriving DecidableEq, Repr

def Page.byte (page : Page) (index : Nat) : UInt8 := byteAt (page.data ++ page.behind) index

def Page.recordCount (page : Page) : Nat := (page.byte 8).toNat

def Page.isLast (page : Page) : Bool := page.byte 7 = 0

/-- One record of a page; a record with the status 0x86 has no values, which all print as 0. -/
structure Record where
  index : UInt8
  obisCode : Bytes
  scalarDataType : Int := 0
  scalarValue : Int := 0
  unitDataType : Int := 0
  unitValue : Int := 0
  deriving DecidableEq, Repr

def recordAt (page : Page) (offset : Nat) : Record :=
  let record : Record :=
    { index := page.byte offset
      obisCode := slice (page.data ++ page.behind) (offset + 1) 6 }
  if page.byte (offset + 1 + 6) = 0x86 then record
  else
    { record with
      scalarDataType := (page.byte (offset + 8)).toInt8.toInt
      scalarValue := (page.byte (offset + 9)).toInt8.toInt
      unitDataType := (page.byte (offset + 11)).toInt8.toInt
      unitValue := (page.byte (offset + 12)).toInt8.toInt }

def recordSize (page : Page) (offset : Nat) : Nat :=
  if page.byte (offset + 1 + 6) = 0x86 then 8 else 13

/-- `ScalarProfile_init`; a key is the bit pattern of the index, read as `int8_t` by the maps. -/
structure ScalarProfileInit where
  scalar : UInt8 -> Option Int := fun _ => none
  scalarType : UInt8 -> Option Int := fun _ => none
  unit : UInt8 -> Option Int := fun _ => none
  unitType : UInt8 -> Option Int := fun _ => none
  obisCodes : UInt8 -> Option Bytes := fun _ => none

def ScalarProfileInit.put (profile : ScalarProfileInit) (record : Record) : ScalarProfileInit where
  scalar := Function.update profile.scalar record.index (some record.scalarValue)
  scalarType := Function.update profile.scalarType record.index (some record.scalarDataType)
  unit := Function.update profile.unit record.index (some record.unitValue)
  unitType := Function.update profile.unitType record.index (some record.unitDataType)
  obisCodes := Function.update profile.obisCodes record.index (some record.obisCode)

/-- Where the walk reads its records: the offset is one byte wide. -/
def walkOffsets (page : Page) : Nat -> UInt8 -> List Nat
  | 0, _ => []
  | count + 1, offset =>
    offset.toNat :: walkOffsets page count (offset + UInt8.ofNat (recordSize page offset.toNat))

def takePage (profile : ScalarProfileInit) (page : Page) : ScalarProfileInit :=
  (walkOffsets page page.recordCount 9).foldl
    (fun profile offset => profile.put (recordAt page offset)) profile

/-- What the pull was made for; the profile gives the number and the attribute of the rows. -/
structure Target where
  profile : Profile
  info : MeterInfo
  meterPhase : Int
  deriving DecidableEq, Repr

structure AttributeRow where
  manufacturer : Bytes
  supportedIndex : Nat
  meterType : Int
  attributeId : Bytes
  scalarDataType : Int
  scalarValue : Int
  unitDataType : Int
  unitValue : Int
  firmwareVersion : Bytes
  deriving DecidableEq, Repr

/-- The inserts that are issued; an OBIS code of none is the text "UNKNOWN". -/
structure Issued where
  obisCodes : List (Option Bytes × Bytes) := []
  attributes : List AttributeRow := []
  deriving DecidableEq, Repr

inductive Ended where
  | returned
  -- `at` of a map that has no such key
  | outOfRange
  deriving DecidableEq, Repr

/-- The number of keys of a map. -/
def size (map : UInt8 -> Option Int) : Nat :=
  (List.range 256).countP fun index => (map (UInt8.ofNat index)).isSome

def issue (target : Target) (profile : ScalarProfileInit) (index : UInt8) (scalar unit : Int)
    (issued : Issued) : Issued where
  obisCodes := issued.obisCodes ++ [(profile.obisCodes index, target.profile.attributeId)]
  attributes := issued.attributes ++
    [{ manufacturer := target.info.manufacturer
       supportedIndex := index.toNat
       meterType := target.meterPhase
       attributeId := target.profile.attributeId
       scalarDataType := (profile.scalarType index).getD 0
       scalarValue := scalar
       unitDataType := (profile.unitType index).getD 0
       unitValue := unit
       firmwareVersion := target.info.firmwareVersion }]

def storeTurn (target : Target) (profile : ScalarProfileInit) (index : UInt8) :
    Prog Issued (Turn UInt8 Ended) := do
  if index.toNat < size profile.scalar then
    match profile.unit index with
    | none => return .again (index + 1)
    | some unit =>
      match profile.scalar index with
      | none => return .done .outOfRange
      | some scalar =>
        update (issue target profile index scalar unit)
        return .again (index + 1)
  else return .done .returned

def storeScalarProfileDb (target : Target) (present : Bool) (profile : ScalarProfileInit)
    (fuel : Nat) : Prog Issued Ended := do
  if present then return .returned
  else loop (storeTurn target profile) fuel 0

/-- The maps behind a page: the last page of a pull empties them. -/
def arrive (profile : ScalarProfileInit) (page : Page) : ScalarProfileInit :=
  if page.isLast then {} else takePage profile page

/-- The pages of one pull. -/
structure Pull where
  pages : List Page
  last : Page
  more : ∀ page ∈ pages, page.isLast = false
  final : last.isLast = true

def Pull.all (pull : Pull) : List Page := pull.pages ++ [pull.last]

/-- The maps that the last page of a pull stores. -/
def Pull.collected (pull : Pull) (before : ScalarProfileInit) : ScalarProfileInit :=
  takePage (pull.pages.foldl arrive before) pull.last

/-- Where the records of a page are: each behind the one in front of it. -/
def places (page : Page) : Nat -> Nat -> List Nat
  | 0, _ => []
  | count + 1, offset => offset :: places page count (offset + recordSize page offset)

def Page.places (page : Page) : List Nat := ScalarRows.places page page.recordCount 9

def received (page : Page) : List Record := page.places.map (recordAt page)

def Pull.received (pull : Pull) : List Record := pull.all.flatMap ScalarRows.received

/-- The last record that was received for an index. -/
def lastReceived (records : List Record) (index : UInt8) : Option Record :=
  records.reverse.find? fun record => record.index = index

def rowOf (target : Target) (record : Record) : AttributeRow where
  manufacturer := target.info.manufacturer
  supportedIndex := record.index.toNat
  meterType := target.meterPhase
  attributeId := target.profile.attributeId
  scalarDataType := record.scalarDataType
  scalarValue := record.scalarValue
  unitDataType := record.unitDataType
  unitValue := record.unitValue
  firmwareVersion := target.info.firmwareVersion

/-- Each record is read at its own place, and all that is read is payload. -/
def Walked (page : Page) : Prop :=
  9 ≤ page.data.length /\ walkOffsets page page.recordCount 9 = page.places /\
    ∀ offset ∈ walkOffsets page page.recordCount 9,
      offset + recordSize page offset ≤ page.data.length

/-- The store returns with one row for each index received, and no other row. -/
def RowsStored (target : Target) (present : Bool) (before : ScalarProfileInit) (pull : Pull) : Prop :=
  exists fuel issued,
    storeScalarProfileDb target present (pull.collected before) fuel {} = (some .returned, issued) /\
      (issued.attributes.map AttributeRow.supportedIndex).Nodup /\
      forall row, row ∈ issued.attributes <->
        exists index record, lastReceived pull.received index = some record /\
          row = rowOf target record

/-- `earlier` are the pages of the pulls before, which may have been broken off. -/
def StoredExactly (target : Target) (present : Bool) (earlier : List Page) (pull : Pull) : Prop :=
  (∀ page ∈ pull.all, Walked page) /\
    RowsStored target present (earlier.foldl arrive {}) pull

def indexCount (has : UInt8 -> Bool) : Nat :=
  (List.range 256).countP fun index => has (UInt8.ofNat index)

/-- The records that the page announces begin below byte 256 and end inside the payload. -/
def Fits (page : Page) : Prop :=
  9 ≤ page.data.length /\ ∀ offset ∈ page.places,
    offset < 256 /\ offset + recordSize page offset ≤ page.data.length

/-- The indexes that were received are those below the number of all indexes in the maps, where
`before` are those that were there already. -/
def Numbered (before : UInt8 -> Bool) (records : List Record) : Prop :=
  let has := fun index => (lastReceived records index).isSome
  let count := indexCount fun index => has index || before index
  count < 256 /\ forall index, (has index = true -> index.toNat < count) /\
    (before index = true -> has index = false -> count ≤ index.toNat)

/-- The check that found the scalers of the meter type in the database is obeyed. -/
def Storable (present : Bool) (earlier : List Page) (pull : Pull) : Prop :=
  (∀ page ∈ pull.all, Fits page) /\
    if present then pull.received = []
    else Numbered (fun index => ((earlier.foldl arrive {}).scalar index).isSome) pull.received

/-- The maps hold the same records, each under its index. -/
def Holds (profile : ScalarProfileInit) (records : UInt8 -> Option Record) : Prop :=
  profile.scalar = (fun index => (records index).map Record.scalarValue) /\
    profile.scalarType = (fun index => (records index).map Record.scalarDataType) /\
    profile.unit = (fun index => (records index).map Record.unitValue) /\
    profile.unitType = (fun index => (records index).map Record.unitDataType) /\
    profile.obisCodes = (fun index => (records index).map Record.obisCode) /\
    forall index record, records index = some record -> record.index = index

theorem holds_empty : Holds {} fun _ => none :=
  ⟨rfl, rfl, rfl, rfl, rfl, fun _ _ known => by simp at known⟩

theorem put_holds (profile : ScalarProfileInit) (records : UInt8 -> Option Record) (record : Record)
    (holds : Holds profile records) :
    Holds (profile.put record) (Function.update records record.index (some record)) := by
  have updated : forall {B : Type} (view : Record -> B),
      Function.update (fun index => (records index).map view) record.index (some (view record)) =
        fun index => (Function.update records record.index (some record) index).map view := by
    intro B view
    funext index
    by_cases same : index = record.index <;> simp [Function.update, same]
  obtain ⟨scalar, scalarType, unit, unitType, obisCodes, keyed⟩ := holds
  refine ⟨?_, ?_, ?_, ?_, ?_, ?_⟩
  next => rw [ScalarProfileInit.put, scalar, updated Record.scalarValue]
  next => rw [ScalarProfileInit.put, scalarType, updated Record.scalarDataType]
  next => rw [ScalarProfileInit.put, unit, updated Record.unitValue]
  next => rw [ScalarProfileInit.put, unitType, updated Record.unitDataType]
  next => rw [ScalarProfileInit.put, obisCodes, updated Record.obisCode]
  next =>
    intro index other known
    by_cases same : index = record.index
    next =>
      rw [same, Function.update_self] at known
      rw [← Option.some.inj known, same]
    next =>
      rw [Function.update_of_ne same] at known
      exact keyed index other known

def putAll (records : UInt8 -> Option Record) (added : List Record) : UInt8 -> Option Record :=
  added.foldl (fun records record => Function.update records record.index (some record)) records

theorem putAll_last (records : UInt8 -> Option Record) (added : List Record) (index : UInt8) :
    putAll records added index = (lastReceived added index).or (records index) := by
  induction added generalizing records with
  | nil => simp [putAll, lastReceived]
  | cons record rest ih =>
    have step := ih (Function.update records record.index (some record))
    rw [putAll, lastReceived] at step
    rw [putAll, lastReceived, List.foldl_cons, List.reverse_cons, List.find?_append, step]
    cases rest.reverse.find? fun record => record.index = index with
    | some last => simp
    | none =>
      by_cases same : record.index = index
      next => simp [same]
      next => simp [same, Function.update_of_ne (Ne.symm same)]

theorem lastReceived_index (records : List Record) (index : UInt8) (record : Record)
    (known : lastReceived records index = some record) : record.index = index := by
  simpa using List.find?_some known

theorem fold_holds (profile : ScalarProfileInit) (records : UInt8 -> Option Record)
    (added : List Record) (holds : Holds profile records) :
    Holds (added.foldl ScalarProfileInit.put profile) (putAll records added) := by
  induction added generalizing profile records with
  | nil => exact holds
  | cons record rest ih => exact ih _ _ (put_holds profile records record holds)

theorem takePage_holds (profile : ScalarProfileInit) (records : UInt8 -> Option Record) (page : Page)
    (holds : Holds profile records) :
    Holds (takePage profile page) (putAll records
      ((walkOffsets page page.recordCount 9).map (recordAt page))) := by
  have taken := fold_holds profile records
    ((walkOffsets page page.recordCount 9).map (recordAt page)) holds
  rwa [List.foldl_map] at taken

theorem arrived_holds (pages : List Page) :
    exists records, Holds (pages.foldl arrive {}) records := by
  suffices onward : forall (pages : List Page) (profile : ScalarProfileInit) (records),
      Holds profile records -> exists records, Holds (pages.foldl arrive profile) records from
    onward pages {} _ holds_empty
  intro pages
  induction pages with
  | nil => exact fun profile records holds => ⟨records, holds⟩
  | cons page rest ih =>
    intro profile records holds
    rw [List.foldl_cons]
    by_cases last : page.isLast = true
    next => exact ih (arrive profile page) _ (by rw [arrive, if_pos last]; exact holds_empty)
    next =>
      exact ih (arrive profile page) _
        (by rw [arrive, if_neg last]; exact takePage_holds profile records page holds)

theorem recordSize_small (page : Page) (offset : Nat) : recordSize page offset ≤ 13 := by
  unfold recordSize
  split <;> omega

theorem walkOffsets_iff (page : Page) (count : Nat) (offset : UInt8) :
    walkOffsets page count offset = places page count offset.toNat <->
      ∀ place ∈ places page count offset.toNat, place < 256 := by
  -- the walk keeps to the places exactly while they are below byte 256
  induction count generalizing offset with
  | zero => simp [walkOffsets, places]
  | succ count ih =>
    have small := recordSize_small page offset.toNat
    have inside := offset.toNat_lt
    have next : (offset + UInt8.ofNat (recordSize page offset.toNat)).toNat =
        (offset.toNat + recordSize page offset.toNat) % 256 := by
      rw [UInt8.toNat_add, UInt8.toNat_ofNat']
      omega
    rw [walkOffsets, places, List.cons.injEq, List.forall_mem_cons]
    by_cases wraps : offset.toNat + recordSize page offset.toNat < 256
    next =>
      rw [Nat.mod_eq_of_lt wraps] at next
      have step := ih (offset + UInt8.ofNat (recordSize page offset.toNat))
      rw [next] at step
      rw [step]
      simp [inside]
    next =>
      cases count with
      | zero => simp [walkOffsets, places, inside]
      | succ count =>
        simp [walkOffsets, places, wraps]

theorem walked_iff (page : Page) : Walked page <-> Fits page := by
  have walk : walkOffsets page page.recordCount 9 = page.places <-> ∀ place ∈ page.places, place < 256 :=
    walkOffsets_iff page page.recordCount 9
  unfold Walked Fits
  constructor
  next =>
    rintro ⟨long, same, inside⟩
    rw [same] at inside
    exact ⟨long, fun place known => ⟨walk.mp same place known, inside place known⟩⟩
  next =>
    rintro ⟨long, places⟩
    have same := walk.mpr fun place known => (places place known).1
    refine ⟨long, same, ?_⟩
    rw [same]
    exact fun place known => (places place known).2

section Store

variable (target : Target) (profile : ScalarProfileInit) (records : UInt8 -> Option Record)

/-- Behind one turn of the store. -/
def issuedFor (index : UInt8) (issued : Issued) : Issued :=
  match records index with
  | none => issued
  | some record =>
    { obisCodes := issued.obisCodes ++ [(some record.obisCode, target.profile.attributeId)]
      attributes := issued.attributes ++ [rowOf target record] }

theorem storeTurn_below (holds : Holds profile records) (index : UInt8) (issued : Issued)
    (below : index.toNat < size profile.scalar) :
    storeTurn target profile index issued =
      (some (.again (index + 1)), issuedFor target records index issued) := by
  obtain ⟨scalar, scalarType, unit, unitType, obisCodes, keyed⟩ := holds
  rw [storeTurn, if_pos below]
  cases known : records index with
  | none =>
    have missing : profile.unit index = none := by simp [unit, known]
    rw [missing, issuedFor, known]
    rfl
  | some record =>
    have unitFound : profile.unit index = some record.unitValue := by simp [unit, known]
    have scalarFound : profile.scalar index = some record.scalarValue := by simp [scalar, known]
    have same : issue target profile index record.scalarValue record.unitValue issued =
        issuedFor target records index issued := by
      rw [issue, issuedFor, known]
      simp [rowOf, scalarType, unitType, obisCodes, known, keyed index record known]
    rw [unitFound]
    dsimp only
    rw [scalarFound]
    dsimp only
    rw [← same]
    rfl

theorem storeTurn_beyond (index : UInt8) (issued : Issued)
    (beyond : ¬ index.toNat < size profile.scalar) :
    storeTurn target profile index issued = (some (.done .returned), issued) := by
  rw [storeTurn, if_neg beyond]
  rfl

def rowsFrom (first count : Nat) : List AttributeRow :=
  (List.range' first count).filterMap fun index =>
    (records (UInt8.ofNat index)).map (rowOf target)

theorem issuedFor_rows (index : UInt8) (issued : Issued) (rest : List AttributeRow) (left : Nat)
    (behind : rest = (issuedFor target records index issued).attributes ++
      rowsFrom target records (index.toNat + 1) left) :
    rest = issued.attributes ++ rowsFrom target records index.toNat (left + 1) := by
  rw [behind, rowsFrom, rowsFrom, List.range'_succ, issuedFor]
  cases known : records index <;> simp [known]

theorem succ_toNat (index : UInt8) (last : Nat) (below : index.toNat < last) (small : last < 256) :
    (index + 1).toNat = index.toNat + 1 := by
  rw [UInt8.toNat_add]
  simp
  omega

theorem store_returns (holds : Holds profile records) (small : size profile.scalar < 256)
    (left : Nat) (index : UInt8) (enough : index.toNat + left = size profile.scalar)
    (issued : Issued) :
    exists last, loop (storeTurn target profile) (left + 1) index issued = (some .returned, last) /\
      last.attributes = issued.attributes ++ rowsFrom target records index.toNat left := by
  induction left generalizing index issued with
  | zero =>
    refine ⟨issued, ?_, by simp [rowsFrom]⟩
    rw [loop, ran_bind (storeTurn_beyond target profile index issued (by omega))]
    rfl
  | succ left ih =>
    have below : index.toNat < size profile.scalar := by omega
    have next := succ_toNat index _ below small
    obtain ⟨last, ended, rows⟩ := ih (index + 1) (by omega) (issuedFor target records index issued)
    refine ⟨last, ?_, issuedFor_rows target records index issued _ left (by rw [rows, next])⟩
    rw [loop, ran_bind (storeTurn_below target profile records holds index issued below)]
    exact ended

theorem store_returned (holds : Holds profile records) (small : size profile.scalar < 256)
    (fuel : Nat) (index : UInt8) (inside : index.toNat ≤ size profile.scalar)
    (issued last : Issued) (ended : Ended)
    (returned : loop (storeTurn target profile) fuel index issued = (some ended, last)) :
    last.attributes = issued.attributes ++
      rowsFrom target records index.toNat (size profile.scalar - index.toNat) := by
  induction fuel generalizing index issued with
  | zero => simp [loop, waiting] at returned
  | succ fuel ih =>
    rw [loop] at returned
    by_cases below : index.toNat < size profile.scalar
    next =>
      have next := succ_toNat index _ below small
      rw [ran_bind (storeTurn_below target profile records holds index issued below)] at returned
      have rows := ih (index + 1) (by omega) _ returned
      have count : size profile.scalar - index.toNat =
          size profile.scalar - (index + 1).toNat + 1 := by omega
      rw [count]
      exact issuedFor_rows target records index issued _ _ (by rw [rows, next])
    next =>
      rw [ran_bind (storeTurn_beyond target profile index issued below)] at returned
      have none : size profile.scalar - index.toNat = 0 := by omega
      rw [none, ← (Prod.mk.inj returned).2]
      simp [rowsFrom]

theorem store_full (holds : Holds profile records) (full : size profile.scalar = 256) (fuel : Nat)
    (index : UInt8) (issued : Issued) :
    (loop (storeTurn target profile) fuel index issued).1 = none := by
  -- with a key for every index the counter never reaches the size
  induction fuel generalizing index issued with
  | zero => rfl
  | succ fuel ih =>
    have below : index.toNat < size profile.scalar := by
      rw [full]
      exact index.toNat_lt
    rw [loop, ran_bind (storeTurn_below target profile records holds index issued below)]
    exact ih _ _

theorem mem_rows (count : Nat) (small : count < 256) (row : AttributeRow) :
    row ∈ rowsFrom target records 0 count <->
      exists index record, index.toNat < count /\ records index = some record /\
        row = rowOf target record := by
  simp only [rowsFrom, List.mem_filterMap, List.mem_range'_1, Option.map_eq_some_iff]
  constructor
  next =>
    rintro ⟨place, inside, record, known, rfl⟩
    have same : (UInt8.ofNat place).toNat = place := by
      rw [UInt8.toNat_ofNat']
      omega
    exact ⟨UInt8.ofNat place, record, by omega, known, rfl⟩
  next =>
    rintro ⟨index, record, below, known, rfl⟩
    exact ⟨index.toNat, by omega, record, by simpa using known, rfl⟩

theorem rows_nodup (keyed : forall index record, records index = some record -> record.index = index)
    (count : Nat) (small : count < 256) :
    ((rowsFrom target records 0 count).map AttributeRow.supportedIndex).Nodup := by
  have indexes : (rowsFrom target records 0 count).map AttributeRow.supportedIndex =
      (List.range' 0 count).filter fun place => (records (UInt8.ofNat place)).isSome := by
    rw [rowsFrom, List.map_filterMap, ← List.filterMap_eq_filter]
    apply List.filterMap_congr
    intro place inside
    rw [List.mem_range'_1] at inside
    cases known : records (UInt8.ofNat place) with
    | none => simp [Option.guard, known]
    | some record =>
      have same : (UInt8.ofNat place).toNat = place := by
        rw [UInt8.toNat_ofNat']
        omega
      simp [Option.guard, known, rowOf, keyed _ record known, same]
  rw [indexes]
  exact List.Nodup.filter _ List.nodup_range'

end Store

theorem pages_holds (pages : List Page) (profile : ScalarProfileInit)
    (records : UInt8 -> Option Record) (holds : Holds profile records)
    (walked : ∀ page ∈ pages, Walked page) :
    Holds (pages.foldl takePage profile) (putAll records (pages.flatMap received)) := by
  induction pages generalizing profile records with
  | nil => exact holds
  | cons page rest ih =>
    rw [List.forall_mem_cons] at walked
    have taken := takePage_holds profile records page holds
    rw [walked.1.2.1] at taken
    have all := ih _ _ taken walked.2
    rwa [putAll, putAll, ← List.foldl_append] at all

theorem collected_holds (pull : Pull) (before : ScalarProfileInit)
    (records : UInt8 -> Option Record) (holds : Holds before records)
    (walked : ∀ page ∈ pull.all, Walked page) :
    Holds (pull.collected before) (putAll records pull.received) := by
  have same : pull.pages.foldl arrive before = pull.pages.foldl takePage before := by
    apply List.foldl_ext
    intro profile page inside
    simp [arrive, pull.more page inside]
  have all := pages_holds pull.all before records holds walked
  rw [Pull.all, List.foldl_append, List.foldl_cons, List.foldl_nil, ← same] at all
  exact all

theorem holds_size (profile : ScalarProfileInit) (records : UInt8 -> Option Record)
    (holds : Holds profile records) :
    size profile.scalar = indexCount fun index => (records index).isSome := by
  simp [size, indexCount, holds.1]

theorem indexCount_le (has : UInt8 -> Bool) : indexCount has ≤ 256 :=
  (List.countP_le_length).trans (by simp)

theorem rowOf_index (target : Target) (first second : Record)
    (same : rowOf target first = rowOf target second) : first.index = second.index :=
  UInt8.toNat_inj.mp (congrArg AttributeRow.supportedIndex same)

theorem rowsStored_iff (target : Target) (before : ScalarProfileInit) (pull : Pull)
    (records : UInt8 -> Option Record) (holds : Holds before records)
    (walked : ∀ page ∈ pull.all, Walked page) :
    RowsStored target false before pull <->
      Numbered (fun index => (before.scalar index).isSome) pull.received := by
  have collected := collected_holds pull before records holds walked
  have keyed := collected.2.2.2.2.2
  have total := holds_size _ _ collected
  simp only [putAll_last, Option.isSome_or] at total
  have had : (fun index => (before.scalar index).isSome) = fun index => (records index).isSome := by
    simp [holds.1]
  rw [had, Numbered, RowsStored]
  dsimp only
  rw [← total]
  simp only [storeScalarProfileDb, Bool.false_eq_true, if_false]
  constructor
  next =>
    rintro ⟨fuel, issued, returned, -, exact⟩
    have small : size (pull.collected before).scalar < 256 := by
      by_contra large
      have bound := indexCount_le fun index =>
        (lastReceived pull.received index).isSome || (records index).isSome
      have waits := store_full target _ _ collected (by omega) fuel 0 {}
      rw [returned] at waits
      simp at waits
    have rows := store_returned target _ _ collected small fuel 0 (by simp) {} issued _ returned
    simp only [List.nil_append, UInt8.toNat_zero, Nat.sub_zero] at rows
    rw [rows] at exact
    refine ⟨small, fun index => ⟨?_, ?_⟩⟩
    next =>
      intro got
      obtain ⟨record, known⟩ := Option.isSome_iff_exists.mp got
      obtain ⟨other, found, below, stored, same⟩ := (mem_rows target _ _ small _).mp
        ((exact (rowOf target record)).mpr ⟨index, record, known, rfl⟩)
      have here := rowOf_index target record found same
      rw [lastReceived_index _ _ _ known, keyed other found stored] at here
      rwa [here]
    next =>
      intro left missed
      by_contra below
      obtain ⟨record, known⟩ := Option.isSome_iff_exists.mp left
      have none : lastReceived pull.received index = none := by simpa using missed
      have held : putAll records pull.received index = some record := by
        rw [putAll_last, none, known]
        rfl
      obtain ⟨other, found, got, same⟩ := (exact (rowOf target record)).mp
        ((mem_rows target _ _ small _).mpr ⟨index, record, by omega, held, rfl⟩)
      have here := rowOf_index target record found same
      rw [keyed index record held, lastReceived_index _ _ _ got] at here
      rw [← here, none] at got
      simp at got
  next =>
    rintro ⟨small, numbered⟩
    obtain ⟨issued, returned, rows⟩ := store_returns target _ _ collected small
      (size (pull.collected before).scalar) 0 (by simp) {}
    simp only [List.nil_append, UInt8.toNat_zero] at rows
    refine ⟨_, issued, returned, ?_, ?_⟩
    next =>
      rw [rows]
      exact rows_nodup target _ keyed _ small
    next =>
      intro row
      rw [rows, mem_rows target _ _ small]
      simp only [putAll_last, Option.or_eq_some_iff]
      constructor
      next =>
        rintro ⟨index, record, below, known | ⟨missed, left⟩, rfl⟩
        next => exact ⟨index, record, known, rfl⟩
        next =>
          have beyond := (numbered index).2 (by simp [left]) (by simp [missed])
          omega
      next =>
        rintro ⟨index, record, known, rfl⟩
        exact ⟨index, record, (numbered index).1 (by simp [known]), Or.inl known, rfl⟩

theorem rowsStored_present (target : Target) (before : ScalarProfileInit) (pull : Pull) :
    RowsStored target true before pull <-> pull.received = [] := by
  constructor
  next =>
    rintro ⟨fuel, issued, returned, -, exact⟩
    have nothing : issued.attributes = [] := by
      rw [← (Prod.mk.inj returned).2]
    rw [nothing] at exact
    by_contra some
    obtain ⟨record, inside⟩ := List.exists_mem_of_ne_nil _ some
    have got : (lastReceived pull.received record.index).isSome = true := by
      rw [lastReceived, List.find?_isSome]
      exact ⟨record, by simpa using inside, by simp⟩
    obtain ⟨last, known⟩ := Option.isSome_iff_exists.mp got
    simpa using (exact (rowOf target last)).mpr ⟨record.index, last, known, rfl⟩
  next =>
    intro nothing
    exact ⟨0, {}, rfl, by simp, by simp [nothing, lastReceived]⟩

/-- A pull is stored with a row for each index received exactly where its records fit their pages
and the indexes are those below their number. -/
theorem storedExactly_iff (target : Target) (present : Bool) (earlier : List Page) (pull : Pull) :
    StoredExactly target present earlier pull <-> Storable present earlier pull := by
  unfold StoredExactly Storable
  simp only [walked_iff]
  apply and_congr_right
  intro fits
  obtain ⟨records, holds⟩ := arrived_holds earlier
  cases present with
  | true => simpa using rowsStored_present target _ pull
  | false =>
    simpa using rowsStored_iff target _ pull records holds
      fun page inside => (walked_iff page).mpr (fits page inside)

/-- The exponents that the writers look up come from the same walk. -/
theorem scalarRecords_walk (data : Bytes) (count : Nat) (offset : UInt8) :
    scalarRecords data count offset =
      (walkOffsets { data := data, behind := [] } count offset).map fun place =>
        let record := recordAt { data := data, behind := [] } place
        (record.index, record.scalarValue) := by
  induction count generalizing offset with
  | zero => rfl
  | succ count ih =>
    rw [scalarRecords, walkOffsets, List.map_cons]
    by_cases status : byteAt data (offset.toNat + 1 + 6) = 0x86 <;>
      simp [status, ih, recordAt, recordSize, Page.byte]

/-- The page of one record of the index 5, as the meter answers with it. -/
def gapPage : Page where
  data := [0x2D, 0x00, 0x16, 0x00, 0x0A, 0x01, 0x00, 0x00, 0x01,
    0x05, 1, 0, 1, 8, 0, 255, 0x00, 0x0F, 0xFE, 0x00, 0x16, 0x1E]
  behind := []

def gapPull : Pull where
  pages := []
  last := gapPage
  more := by simp
  final := by decide

def firstMeter : Target :=
  { profile := .instantaneous, info := { manufacturer := [0x41], firmwareVersion := [0x46] }
    meterPhase := 1 }

theorem gapPull_lost :
    ¬ forall target earlier pull, StoredExactly target false earlier pull := by
  intro every
  obtain ⟨walked, stored⟩ := every firstMeter [] gapPull
  have numbered := (rowsStored_iff firstMeter {} gapPull _ holds_empty walked).mp stored
  have below := (numbered.2 5).1 (by decide +kernel)
  revert below
  decide +kernel

end Hes.ScalarRows
