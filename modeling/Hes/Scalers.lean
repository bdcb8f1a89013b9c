import Mathlib.Data.List.Sort
import Mathlib.Logic.Function.Basic
import Hes.Bytes
import Hes.Text
import Hes.Lib.Transition

set_option autoImplicit false

namespace Hes.Scalers

open Text Transition

/-- The profiles with scaled columns; the attribute of each is the profile's number. -/
inductive Profile where
  | instantaneous
  | billing
  | dailyLoad
  | blockLoad
  deriving DecidableEq, Repr

def Profile.attributeId : Profile -> Bytes
  | .instantaneous => ascii "0100"
  | .billing => ascii "0200"
  | .dailyLoad => ascii "0300"
  | .blockLoad => ascii "0400"

/-- The record indexes of the columns that the writers of a profile scale. -/
def Profile.scaledColumns : Profile -> List UInt8
  | .instantaneous => [0x01, 0x02, 0x03, 0x04, 0x05, 0x06, 0x07, 0x08, 0x09, 0x0A, 0x0C, 0x0E, 0x0F,
      0x10, 0x11, 0x12, 0x13, 0x15]
  | .billing => [0x01, 0x02, 0x03, 0x04, 0x05, 0x06, 0x07, 0x08, 0x09, 0x0A, 0x0B, 0x0C, 0x0D, 0x0E,
      0x0F, 0x10, 0x11, 0x12, 0x13, 0x14, 0x16, 0x18, 0x19, 0x1A]
  | .dailyLoad => [0x01, 0x02, 0x03, 0x04]
  | .blockLoad => [0x01, 0x02, 0x03, 0x04, 0x05]

abbrev Column := Bytes × UInt8

/-- A `std::map` that is only written key by key: the newest pair of a key is the one found. -/
abbrev Details := List (Column × Int)

structure MeterInfo where
  manufacturer : Bytes
  firmwareVersion : Bytes
  deriving DecidableEq, Repr

/-- A row of `meter_details`. -/
structure MeterRow where
  gatewayId : Bytes
  meterAddress : Bytes
  manufacturer : Bytes
  firmwareVersion : Bytes
  deriving DecidableEq, Repr

def MeterRow.info (row : MeterRow) : MeterInfo :=
  { manufacturer := row.manufacturer, firmwareVersion := row.firmwareVersion }

/-- A row of `meter_supported_attributes`. -/
structure ScalerRow where
  manufacturer : Bytes
  firmwareVersion : Bytes
  attributeId : Bytes
  supportedIndex : Nat
  scalarValue : Int
  deriving DecidableEq, Repr

def ScalerRow.column (row : ScalerRow) : Column := (row.attributeId, UInt8.ofNat row.supportedIndex)

/-- The exponent of one scaled column of an inserted row, with the table of scalers of that time. -/
structure Stored where
  meterSerialNo : Bytes
  column : Column
  exponent : Int
  table : List ScalerRow
  deriving DecidableEq, Repr

structure State where
  gatewayId : Bytes
  meterDetails : List MeterRow
  supportedAttributes : List ScalerRow
  manufactureDetails : Details := []
  manufacturerScalarMap : Bytes -> Option Details := fun _ => none
  meterInfoMap : Bytes -> Option MeterInfo := fun _ => none
  -- the scaler of each index of the profiles that are being pulled
  profiles : Profile -> UInt8 -> Option Int := fun _ _ => none
  stored : List Stored := []

/-- The queries of one step, of which any may fail. -/
inductive Query where
  | manufacturerOfMeter
  | scalarsOfManufacturer
  | metersOfManufacturer
  | countOfScalars
  | insertOfScalar (index : Nat)
  deriving DecidableEq, Repr

inductive Event where
  | loadScalars (meterSerialNo : Bytes) (failing : List Query)
  | scalarPage (profile : Profile) (manufacturer firmwareVersion data : Bytes) (failing : List Query)
  -- the insert of a push or of a pull
  | insert (profile : Profile) (meterSerialNo : Bytes) (inserted : Bool)
  | updateOdmDb (profile : Profile) (meterSerialNo : Bytes) (inserted : Bool) (failing : List Query)
  deriving DecidableEq, Repr

def addManufacturer (manufacturer : Bytes) (values : Details) (state : State) : State :=
  { state with
    manufacturerScalarMap := Function.update state.manufacturerScalarMap manufacturer (some values) }

def addMeter (meterSerialNo : Bytes) (info : MeterInfo) (state : State) : State :=
  { state with meterInfoMap := Function.update state.meterInfoMap meterSerialNo (some info) }

def getMeterDetailsFromDb (info : MeterInfo) (failing : List Query) (state : State) : State :=
  if Query.metersOfManufacturer ∈ failing then state
  else
    (state.meterDetails.filter fun row => row.info = info && row.gatewayId = state.gatewayId).foldl
      (fun state row => addMeter row.meterAddress info state) state

/-- The row of the meter, which is looked up only while the meter is not in the map. -/
def meterToLoad (meterSerialNo : Bytes) (failing : List Query) (state : State) : Option MeterRow :=
  if (state.meterInfoMap meterSerialNo).isSome then none
  else if Query.manufacturerOfMeter ∈ failing then none
  else state.meterDetails.find? fun row =>
    row.gatewayId = state.gatewayId && row.meterAddress = meterSerialNo

/-- The firmware version plays no part in the query. -/
def scalarsOf (manufacturer : Bytes) (table : List ScalerRow) : List ScalerRow :=
  (table.filter fun row => row.manufacturer = manufacturer).insertionSort
    fun first second => first.supportedIndex ≤ second.supportedIndex

def collect (details : Details) (rows : List ScalerRow) : Details :=
  rows.foldl (fun details row => (row.column, row.scalarValue) :: details) details

def loadScalerDetailsFromDb (meterSerialNo : Bytes) (failing : List Query) (state : State) : State :=
  match meterToLoad meterSerialNo failing state with
  | none => state
  | some row =>
    if Query.scalarsOfManufacturer ∈ failing then state
    else
      let details := collect state.manufactureDetails
        (scalarsOf row.manufacturer state.supportedAttributes)
      let state := { state with manufactureDetails := details }
      let state := if details.isEmpty then state else addManufacturer row.manufacturer details state
      getMeterDetailsFromDb row.info failing state

def getScalarValue (state : State) (meterSerialNo : Bytes) (column : Column) : Int :=
  match state.meterInfoMap meterSerialNo with
  | none => 0
  | some info =>
    match state.manufacturerScalarMap info.manufacturer with
    | none => 0
    | some values => (values.lookup column).getD 0

/-- The indexes and scalers of the records of a page; the offset is one byte wide. -/
def scalarRecords (data : Bytes) : Nat -> UInt8 -> List (UInt8 × Int)
  | 0, _ => []
  | count + 1, offset =>
    let index := byteAt data offset.toNat
    if byteAt data (offset.toNat + 1 + 6) = 0x86 then
      (index, 0) :: scalarRecords data count (offset + 8)
    else
      (index, (byteAt data (offset.toNat + 9)).toInt8.toInt) :: scalarRecords data count (offset + 13)

def takeRecords (profile : Profile) (records : List (UInt8 × Int)) (state : State) : State :=
  records.foldl (fun state record =>
    { state with
      manufactureDetails := ((profile.attributeId, record.1), record.2) :: state.manufactureDetails
      profiles := Function.update state.profiles profile
        (Function.update (state.profiles profile) record.1 (some record.2)) }) state

/-- `INSERT .. ON DUPLICATE KEY UPDATE`: the schema with the key is not part of the source. -/
def insertOrUpdate (clashes : ScalerRow -> ScalerRow -> Bool) (row : ScalerRow) :
    List ScalerRow -> List ScalerRow
  | [] => [row]
  | old :: rest =>
    if clashes old row then
      { old with scalarValue := row.scalarValue, firmwareVersion := row.firmwareVersion } :: rest
    else old :: insertOrUpdate clashes row rest

def checkForScalerBeforeInsert (info : MeterInfo) (profile : Profile) (failing : List Query)
    (table : List ScalerRow) : Bool :=
  !decide (Query.countOfScalars ∈ failing) && table.any fun row =>
    row.manufacturer = info.manufacturer && row.firmwareVersion = info.firmwareVersion &&
      row.attributeId = profile.attributeId

/-- The number of indexes in the map of a profile. -/
def size (scalar : UInt8 -> Option Int) : Nat :=
  (List.range 256).countP fun index => (scalar (UInt8.ofNat index)).isSome

-- the loop counts the indexes up to the number of them, so an index behind a gap may be left out
def storeScalarProfileDb (clashes : ScalerRow -> ScalerRow -> Bool) (profile : Profile)
    (scalar : UInt8 -> Option Int) (info : MeterInfo) (failing : List Query)
    (table : List ScalerRow) : List ScalerRow :=
  if checkForScalerBeforeInsert info profile failing table then table
  else
    (List.range (size scalar)).foldl (fun table index =>
      match scalar (UInt8.ofNat index) with
      | none => table
      | some value =>
        if Query.insertOfScalar index ∈ failing then table
        else insertOrUpdate clashes
          { manufacturer := info.manufacturer, firmwareVersion := info.firmwareVersion
            attributeId := profile.attributeId, supportedIndex := index, scalarValue := value }
          table) table

def isLastPage (data : Bytes) : Bool := byteAt data 7 = 0

def parseScalarProfile (clashes : ScalerRow -> ScalerRow -> Bool) (profile : Profile)
    (info : MeterInfo) (data : Bytes) (failing : List Query) (state : State) : State :=
  let state := takeRecords profile (scalarRecords data (byteAt data 8).toNat 9) state
  if isLastPage data then
    let state := { state with
      supportedAttributes := storeScalarProfileDb clashes profile (state.profiles profile) info
        failing state.supportedAttributes }
    let state := addManufacturer info.manufacturer state.manufactureDetails state
    let state := getMeterDetailsFromDb info failing state
    { state with profiles := Function.update state.profiles profile fun _ => none }
  else state

/-- The row of the insert: every scaled column of the profile is multiplied by ten to the value. -/
def insertProfileData (profile : Profile) (meterSerialNo : Bytes) (inserted : Bool) (state : State) :
    State :=
  if inserted then
    { state with
      stored := state.stored ++ profile.scaledColumns.map fun index =>
        { meterSerialNo := meterSerialNo, column := (profile.attributeId, index)
          exponent := getScalarValue state meterSerialNo (profile.attributeId, index)
          table := state.supportedAttributes } }
  else state

/-- The counter of the store is one byte wide and never reaches the size of a full map. -/
def storeEnds (profile : Profile) (info : MeterInfo) (data : Bytes) (failing : List Query)
    (state : State) : Bool :=
  let state := takeRecords profile (scalarRecords data (byteAt data 8).toNat 9) state
  !isLastPage data || checkForScalerBeforeInsert info profile failing state.supportedAttributes ||
    size (state.profiles profile) < 256

def step (clashes : ScalerRow -> ScalerRow -> Bool) : Step State Event
  | state, .loadScalars meterSerialNo failing =>
    some (loadScalerDetailsFromDb meterSerialNo failing state)
  | state, .scalarPage profile manufacturer firmwareVersion data failing =>
    let info : MeterInfo := { manufacturer := manufacturer, firmwareVersion := firmwareVersion }
    if storeEnds profile info data failing state then
      some (parseScalarProfile clashes profile info data failing state)
    else none
  | state, .insert profile meterSerialNo inserted =>
    some (insertProfileData profile meterSerialNo inserted state)
  | state, .updateOdmDb profile meterSerialNo inserted failing =>
    some (insertProfileData profile meterSerialNo inserted
      (loadScalerDetailsFromDb meterSerialNo failing state))

def start (gatewayId : Bytes) (meterDetails : List MeterRow) (table : List ScalerRow) : State :=
  { gatewayId := gatewayId, meterDetails := meterDetails, supportedAttributes := table }

/-- The exponent is the scaler of the meter's manufacturer and firmware version in the table. -/
def Stored.Right (state : State) (stored : Stored) : Prop :=
  ∃ meter ∈ state.meterDetails, meter.gatewayId = state.gatewayId /\
    meter.meterAddress = stored.meterSerialNo /\
      ∃ row ∈ stored.table, row.manufacturer = meter.manufacturer /\
        row.firmwareVersion = meter.firmwareVersion /\ row.attributeId = stored.column.1 /\
          row.supportedIndex = stored.column.2.toNat /\ row.scalarValue = stored.exponent

theorem addMeters_map (info : MeterInfo) (rows : List MeterRow) (state : State) :
    rows.foldl (fun state row => addMeter row.meterAddress info state) state =
      { state with
        meterInfoMap := fun serial =>
          if serial ∈ rows.map (fun row => row.meterAddress) then some info
          else state.meterInfoMap serial } := by
  induction rows generalizing state with
  | nil => simp
  | cons row rest ih =>
    rw [List.foldl_cons, ih]
    simp only [addMeter, List.map_cons, List.mem_cons]
    congr 1
    funext serial
    by_cases later : serial ∈ rest.map fun row => row.meterAddress
    next => simp [later]
    next => by_cases same : serial = row.meterAddress <;> simp [later, same]

/-- The meters that the last query of a load or of a pull puts in the map. -/
def Added (state : State) (info : MeterInfo) (failing : List Query) (serial : Bytes) : Prop :=
  Query.metersOfManufacturer ∉ failing /\ ∃ row ∈ state.meterDetails, row.info = info /\
    row.gatewayId = state.gatewayId /\ row.meterAddress = serial

open Classical in
theorem getMeterDetailsFromDb_map (info : MeterInfo) (failing : List Query) (state : State) :
    getMeterDetailsFromDb info failing state =
      { state with
        meterInfoMap := fun serial =>
          if Added state info failing serial then some info else state.meterInfoMap serial } := by
  rw [getMeterDetailsFromDb]
  split
  next failed => simp [Added, failed]
  next answered =>
    rw [addMeters_map]
    congr 1
    funext serial
    have same : serial ∈ (state.meterDetails.filter fun row =>
          row.info = info && row.gatewayId = state.gatewayId).map (fun row => row.meterAddress) <->
        Added state info failing serial := by
      simp [Added, answered, and_assoc]
    simp only [same]

theorem lookup_found (pairs rest : Details) (column : Column) (value : Int)
    (present : ∃ pair ∈ pairs, pair.1 = column)
    (only : ∀ pair ∈ pairs, pair.1 = column -> pair.2 = value) :
    (pairs ++ rest).lookup column = some value := by
  induction pairs with
  | nil => simp at present
  | cons pair pairs ih =>
    obtain ⟨key, own⟩ := pair
    rw [List.cons_append, List.lookup_cons]
    by_cases same : column = key
    next =>
      have known : own = value := only (key, own) List.mem_cons_self same.symm
      simp [same, known]
    next =>
      have other : ∃ pair ∈ pairs, pair.1 = column := by
        obtain ⟨pair, inside, found⟩ := present
        rcases List.mem_cons.mp inside with rfl | behind
        · exact absurd found.symm same
        · exact ⟨pair, behind, found⟩
      have different : (column == key) = false := by simpa using same
      rw [different]
      exact ih other fun pair inside => only pair (List.mem_cons_of_mem _ inside)

theorem collect_pairs (details : Details) (rows : List ScalerRow) :
    collect details rows = (rows.map fun row => (row.column, row.scalarValue)).reverse ++ details := by
  simp [collect]

theorem mem_scalarsOf (manufacturer : Bytes) (table : List ScalerRow) (row : ScalerRow) :
    row ∈ scalarsOf manufacturer table <-> row ∈ table /\ row.manufacturer = manufacturer := by
  simp [scalarsOf]

/-- A scaler that a writer can need: of a scaled column and of a meter of the gateway. -/
def InUse (state : State) (row : ScalerRow) : Prop :=
  (exists profile : Profile, row.attributeId = profile.attributeId /\
    ∃ index ∈ profile.scaledColumns, row.supportedIndex = index.toNat) /\
  ∃ meter ∈ state.meterDetails, meter.gatewayId = state.gatewayId /\
    meter.manufacturer = row.manufacturer /\ meter.firmwareVersion = row.firmwareVersion

instance Stored.Right.decidable (state : State) (stored : Stored) : Decidable (stored.Right state) :=
  inferInstanceAs (Decidable (∃ meter ∈ state.meterDetails, _))

/-- No row of the manufacturer gives a column another scaler than a row in use does. -/
def Coherent (state : State) (manufacturer : Bytes) : Prop :=
  ∀ first ∈ state.supportedAttributes, ∀ second ∈ state.supportedAttributes, InUse state first ->
    first.manufacturer = manufacturer -> second.manufacturer = manufacturer ->
      first.column = second.column -> first.scalarValue = second.scalarValue

/-- The map gives the scaler of every row of the manufacturer that is in use. -/
def Held (state : State) (table : List ScalerRow) (manufacturer : Bytes) (details : Details) : Prop :=
  ∀ row ∈ table, InUse state row -> row.manufacturer = manufacturer ->
    details.lookup row.column = some row.scalarValue

/-- The table has a scaler for every column that the writers of the profile scale. -/
def Covered (table : List ScalerRow) (info : MeterInfo) (profile : Profile) : Prop :=
  ∀ index ∈ profile.scaledColumns, ∃ row ∈ table, row.manufacturer = info.manufacturer /\
    row.firmwareVersion = info.firmwareVersion /\ row.attributeId = profile.attributeId /\
      row.supportedIndex = index.toNat

/-- What a load that reads the scalers of a meter finds. -/
def Loadable (meterSerialNo : Bytes) (failing : List Query) (state : State) : Prop :=
  ∀ row, meterToLoad meterSerialNo failing state = some row ->
    Query.scalarsOfManufacturer ∉ failing -> Coherent state row.manufacturer

/-- The meter is in the map, or the load in front of the insert puts it there. -/
def Loaded (meterSerialNo : Bytes) (failing : List Query) (state : State) (info : MeterInfo) : Prop :=
  state.meterInfoMap meterSerialNo = some info \/
    ∃ row, meterToLoad meterSerialNo failing state = some row /\ row.info = info /\
      Query.scalarsOfManufacturer ∉ failing /\ Query.metersOfManufacturer ∉ failing

def Allowed (clashes : ScalerRow -> ScalerRow -> Bool) (state : State) : Event -> Prop
  | .loadScalars meterSerialNo failing => Loadable meterSerialNo failing state
  | .scalarPage profile manufacturer firmwareVersion data failing =>
    isLastPage data = true ->
      let info : MeterInfo := { manufacturer := manufacturer, firmwareVersion := firmwareVersion }
      let taken := takeRecords profile (scalarRecords data (byteAt data 8).toNat 9) state
      let table := storeScalarProfileDb clashes profile (taken.profiles profile) info failing
        state.supportedAttributes
      Held state table manufacturer taken.manufactureDetails /\
        ∀ row ∈ table, InUse state row -> row.manufacturer ≠ manufacturer ->
          row ∈ state.supportedAttributes
  | .insert profile meterSerialNo inserted =>
    inserted = true -> exists info, state.meterInfoMap meterSerialNo = some info /\
      Covered state.supportedAttributes info profile
  | .updateOdmDb profile meterSerialNo inserted failing =>
    Loadable meterSerialNo failing state /\
      (inserted = true -> exists info, Loaded meterSerialNo failing state info /\
        Covered state.supportedAttributes info profile)

theorem collect_held (state : State) (manufacturer : Bytes) (coherent : Coherent state manufacturer) :
    Held state state.supportedAttributes manufacturer
      (collect state.manufactureDetails (scalarsOf manufacturer state.supportedAttributes)) := by
  intro row inside needed own
  rw [collect_pairs]
  apply lookup_found
  next =>
    refine ⟨(row.column, row.scalarValue), ?_, rfl⟩
    simp only [List.mem_reverse, List.mem_map]
    exact ⟨row, (mem_scalarsOf manufacturer _ row).mpr ⟨inside, own⟩, rfl⟩
  next =>
    intro pair collected same
    simp only [List.mem_reverse, List.mem_map] at collected
    obtain ⟨other, listed, rfl⟩ := collected
    obtain ⟨present, alike⟩ := (mem_scalarsOf manufacturer _ other).mp listed
    exact (coherent row inside other present needed own alike same.symm).symm

/-- The cache gives a manufacturer's columns the scalers of the table. -/
def Served (state : State) (manufacturer : Bytes) : Prop :=
  ∀ row ∈ state.supportedAttributes, InUse state row -> row.manufacturer = manufacturer ->
    exists values, state.manufacturerScalarMap manufacturer = some values /\
      values.lookup row.column = some row.scalarValue

structure Faithful (state : State) : Prop where
  known : ∀ serial info, state.meterInfoMap serial = some info ->
    ∃ meter ∈ state.meterDetails, meter.gatewayId = state.gatewayId /\
      meter.meterAddress = serial /\ meter.info = info
  served : ∀ serial info, state.meterInfoMap serial = some info -> Served state info.manufacturer
  right : ∀ stored ∈ state.stored, stored.Right state

theorem faithful_start (gatewayId : Bytes) (meterDetails : List MeterRow) (table : List ScalerRow) :
    Faithful (start gatewayId meterDetails table) where
  known serial info cached := by simp [start] at cached
  served serial info cached := by simp [start] at cached
  right stored inside := by simp [start] at inside

theorem faithful_getMeterDetailsFromDb (info : MeterInfo) (failing : List Query) (state : State)
    (faithful : Faithful state) (served : Served state info.manufacturer) :
    Faithful (getMeterDetailsFromDb info failing state) := by
  rw [getMeterDetailsFromDb_map]
  constructor
  case known =>
    intro serial cached found
    simp only at found
    split at found
    next added =>
      obtain ⟨-, meter, inside, same, gateway, address⟩ := added
      cases found
      exact ⟨meter, inside, gateway, address, same⟩
    next => exact faithful.known serial cached found
  case served =>
    intro serial cached found
    simp only at found
    split at found
    next =>
      cases found
      exact served
    next => exact faithful.served serial cached found
  case right => exact faithful.right

theorem faithful_addManufacturer (manufacturer : Bytes) (values : Details) (table : List ScalerRow)
    (state : State) (faithful : Faithful state) (held : Held state table manufacturer values)
    (others : ∀ row ∈ table, InUse state row -> row.manufacturer ≠ manufacturer ->
      row ∈ state.supportedAttributes) :
    Faithful (addManufacturer manufacturer values { state with supportedAttributes := table }) where
  known := faithful.known
  served serial info cached := by
    intro row inside needed own
    by_cases same : info.manufacturer = manufacturer
    next => exact ⟨values, by simp [addManufacturer, same], held row inside needed (own.trans same)⟩
    next =>
      have before := faithful.served serial info cached row
        (others row inside needed (own ▸ same)) needed own
      simpa [addManufacturer, same] using before
  right := faithful.right

theorem served_addManufacturer (manufacturer : Bytes) (values : Details) (state : State)
    (held : Held state state.supportedAttributes manufacturer values) :
    Served (addManufacturer manufacturer values state) manufacturer := by
  intro row inside needed own
  exact ⟨values, by simp [addManufacturer], held row inside needed own⟩

theorem faithful_load (meterSerialNo : Bytes) (failing : List Query) (state : State)
    (faithful : Faithful state) (loadable : Loadable meterSerialNo failing state) :
    Faithful (loadScalerDetailsFromDb meterSerialNo failing state) := by
  rw [loadScalerDetailsFromDb]
  split
  next => exact faithful
  next row found =>
    split
    next => exact faithful
    next answered =>
      have held := collect_held state _ (loadable row found answered)
      generalize collect state.manufactureDetails _ = details at held
      have taken : Faithful { state with manufactureDetails := details } :=
        { known := faithful.known, served := faithful.served, right := faithful.right }
      apply faithful_getMeterDetailsFromDb
      next =>
        split
        next => exact taken
        next => exact faithful_addManufacturer _ _ _ _ taken held fun _ inside _ _ => inside
      next =>
        split
        next empty =>
          -- without a value collected there is no row of the manufacturer
          intro other inside needed own
          have nothing := held other inside needed own
          simp [List.isEmpty_iff.mp empty] at nothing
        next => exact served_addManufacturer _ _ _ held

theorem takeRecords_same (profile : Profile) (records : List (UInt8 × Int)) (state : State) :
    (takeRecords profile records state).supportedAttributes = state.supportedAttributes /\
      (forall row, InUse (takeRecords profile records state) row <-> InUse state row) /\
        (Faithful state -> Faithful (takeRecords profile records state)) := by
  induction records generalizing state with
  | nil => exact ⟨rfl, fun _ => Iff.rfl, id⟩
  | cons record rest ih =>
    rw [takeRecords, List.foldl_cons]
    obtain ⟨table, needed, kept⟩ := ih { state with
      manufactureDetails := ((profile.attributeId, record.1), record.2) :: state.manufactureDetails
      profiles := Function.update state.profiles profile
        (Function.update (state.profiles profile) record.1 (some record.2)) }
    exact ⟨table, needed, fun faithful => kept
      { known := faithful.known, served := faithful.served, right := faithful.right }⟩

theorem faithful_scalarPage (clashes : ScalerRow -> ScalerRow -> Bool) (profile : Profile)
    (info : MeterInfo) (data : Bytes) (failing : List Query) (state : State)
    (faithful : Faithful state)
    (allowed : Allowed clashes state
      (.scalarPage profile info.manufacturer info.firmwareVersion data failing)) :
    Faithful (parseScalarProfile clashes profile info data failing state) := by
  obtain ⟨table, needed, kept⟩ := takeRecords_same profile
    (scalarRecords data (byteAt data 8).toNat 9) state
  rw [parseScalarProfile]
  simp only [Allowed, Held, ← needed] at allowed
  generalize takeRecords profile _ state = taken at *
  have taken_faithful := kept faithful
  split
  next lastPage =>
    obtain ⟨held, others⟩ := allowed lastPage
    rw [← table] at held others
    have registered := faithful_addManufacturer _ _ _ taken taken_faithful held others
    have added := faithful_getMeterDetailsFromDb info failing _ registered
      (served_addManufacturer _ _ { taken with supportedAttributes := _ } held)
    exact { known := added.known, served := added.served, right := added.right }
  next => exact taken_faithful

theorem getScalarValue_right (state : State) (meterSerialNo : Bytes) (info : MeterInfo)
    (profile : Profile) (faithful : Faithful state)
    (cached : state.meterInfoMap meterSerialNo = some info)
    (covered : Covered state.supportedAttributes info profile) :
    ∀ index ∈ profile.scaledColumns,
      Stored.Right state
        { meterSerialNo := meterSerialNo, column := (profile.attributeId, index)
          exponent := getScalarValue state meterSerialNo (profile.attributeId, index)
          table := state.supportedAttributes } := by
  intro index scaled
  obtain ⟨meter, inside, gateway, address, rfl⟩ := faithful.known meterSerialNo info cached
  obtain ⟨row, present, own, version, profile_own, place⟩ := covered index scaled
  have needed : InUse state row := ⟨⟨profile, profile_own, index, scaled, place⟩, meter, inside,
    gateway, own.symm, version.symm⟩
  obtain ⟨values, registered, found⟩ := faithful.served meterSerialNo _ cached row present needed own
  have column : row.column = (profile.attributeId, index) := by
    simp [ScalerRow.column, profile_own, place]
  rw [column] at found
  refine ⟨meter, inside, gateway, address, row, present, own, version, profile_own, place, ?_⟩
  simp [getScalarValue, cached, registered, found]

theorem faithful_insert (profile : Profile) (meterSerialNo : Bytes) (inserted : Bool) (state : State)
    (faithful : Faithful state)
    (allowed : inserted = true -> exists info, state.meterInfoMap meterSerialNo = some info /\
      Covered state.supportedAttributes info profile) :
    Faithful (insertProfileData profile meterSerialNo inserted state) := by
  rw [insertProfileData]
  split
  next written =>
    obtain ⟨info, cached, covered⟩ := allowed written
    refine { known := faithful.known, served := faithful.served, right := ?_ }
    intro stored inside
    rcases List.mem_append.mp inside with before | new
    · exact faithful.right stored before
    · obtain ⟨index, scaled, rfl⟩ := List.mem_map.mp new
      exact getScalarValue_right state meterSerialNo info profile faithful cached covered index scaled
  next => exact faithful

theorem load_table (meterSerialNo : Bytes) (failing : List Query) (state : State) :
    (loadScalerDetailsFromDb meterSerialNo failing state).supportedAttributes =
      state.supportedAttributes := by
  rw [loadScalerDetailsFromDb]
  split
  next => rfl
  next =>
    split
    next => rfl
    next =>
      rw [getMeterDetailsFromDb_map]
      split <;> rfl

theorem load_cached (meterSerialNo : Bytes) (failing : List Query) (state : State) (info : MeterInfo)
    (loaded : Loaded meterSerialNo failing state info) :
    (loadScalerDetailsFromDb meterSerialNo failing state).meterInfoMap meterSerialNo = some info := by
  rw [loadScalerDetailsFromDb]
  rcases loaded with cached | ⟨row, found, rfl, scalars, meters⟩
  · have unread : meterToLoad meterSerialNo failing state = none := by simp [meterToLoad, cached]
    simp [unread, cached]
  · have row_known := found
    simp only [meterToLoad] at row_known
    split at row_known
    next => cases row_known
    next =>
      split at row_known
      next => cases row_known
      next =>
        have inside := List.mem_of_find?_eq_some row_known
        have same := List.find?_some row_known
        simp only [Bool.and_eq_true, decide_eq_true_eq] at same
        simp only [found, if_neg scalars, getMeterDetailsFromDb_map]
        apply if_pos
        refine ⟨meters, row, ?_, rfl, ?_, same.2⟩
        next => split <;> exact inside
        next => split <;> exact same.1

theorem step_faithful (clashes : ScalerRow -> ScalerRow -> Bool) (state next : State) (event : Event)
    (faithful : Faithful state) (allowed : Allowed clashes state event)
    (stepped : step clashes state event = some next) : Faithful next := by
  cases event with
  | loadScalars meterSerialNo failing =>
    cases stepped
    exact faithful_load meterSerialNo failing state faithful allowed
  | scalarPage profile manufacturer firmwareVersion data failing =>
    simp only [step] at stepped
    split at stepped
    next =>
      cases stepped
      exact faithful_scalarPage clashes profile ⟨manufacturer, firmwareVersion⟩ data failing state
        faithful allowed
    next => cases stepped
  | insert profile meterSerialNo inserted =>
    cases stepped
    exact faithful_insert profile meterSerialNo inserted state faithful allowed
  | updateOdmDb profile meterSerialNo inserted failing =>
    cases stepped
    apply faithful_insert
    next => exact faithful_load meterSerialNo failing state faithful allowed.1
    next =>
      intro written
      obtain ⟨info, loaded, covered⟩ := allowed.2 written
      rw [load_table]
      exact ⟨info, load_cached meterSerialNo failing state info loaded, covered⟩

theorem scalers_right_when_allowed (clashes : ScalerRow -> ScalerRow -> Bool) (gatewayId : Bytes)
    (meterDetails : List MeterRow) (table : List ScalerRow) (events : List Event) (last : State)
    (allowed : AllAllowed (step clashes) (Allowed clashes) (start gatewayId meterDetails table) events)
    (finished : run (step clashes) (start gatewayId meterDetails table) events = some last) :
    ∀ stored ∈ last.stored, stored.Right last :=
  (run_guarded_invariant (step clashes) (Allowed clashes) Faithful
    (fun state event next faithful permitted stepped =>
      step_faithful clashes state next event faithful permitted stepped)
    _ last events (faithful_start gatewayId meterDetails table) allowed finished).right

/-- Two meters of one manufacturer, the second with a newer firmware version. -/
def twoMeters : List MeterRow :=
  [{ gatewayId := [0x47], meterAddress := [0x31], manufacturer := [0x41], firmwareVersion := [0x46] },
    { gatewayId := [0x47], meterAddress := [0x32], manufacturer := [0x41], firmwareVersion := [0x4E] }]

/-- The scalers of the daily load of both firmware versions. -/
def dailyScalers (older newer : Int) : List ScalerRow :=
  (Profile.scaledColumns .dailyLoad).flatMap fun index =>
    [([0x46], older), ([0x4E], newer)].map fun version =>
      { manufacturer := [0x41], firmwareVersion := version.1, attributeId := Profile.attributeId .dailyLoad
        supportedIndex := index.toNat, scalarValue := version.2 }

def loadAndInsert : List Event := [.loadScalars [0x31] [], .insert .dailyLoad [0x31] true]

theorem scalers_right_when_loaded :
    exists last, run (step fun _ _ => false) (start [0x47] twoMeters (dailyScalers (-2) (-2)))
        loadAndInsert = some last /\ last.stored.length = 4 /\
      ∀ stored ∈ last.stored, stored.Right last := by
  let first := start [0x47] twoMeters (dailyScalers (-2) (-2))
  let last := insertProfileData .dailyLoad [0x31] true (loadScalerDetailsFromDb [0x31] [] first)
  have allowed : AllAllowed (step fun _ _ => false) (Allowed fun _ _ => false) first loadAndInsert := by
    refine ⟨?_, ?_, trivial⟩
    next =>
      intro row _ _ first inside second present _ _ _ _
      have alike : ∀ row ∈ dailyScalers (-2) (-2), row.scalarValue = -2 := by decide +kernel
      exact (alike first inside).trans (alike second present).symm
    next =>
      intro _
      refine ⟨{ manufacturer := [0x41], firmwareVersion := [0x46] }, by decide +kernel, ?_⟩
      simp only [Covered]
      decide +kernel
  exact ⟨last, rfl, by decide +kernel,
    scalers_right_when_allowed (fun _ _ => false) [0x47] twoMeters (dailyScalers (-2) (-2))
      loadAndInsert last allowed rfl⟩

/-- A push before anything is loaded is stored with the default; a load puts the scalers of the
newer firmware version in the place of those of the older. -/
theorem scalers_wrong :
    ¬ (forall (clashes : ScalerRow -> ScalerRow -> Bool) (gatewayId : Bytes)
        (meterDetails : List MeterRow) (table : List ScalerRow) (events : List Event) (last : State),
      run (step clashes) (start gatewayId meterDetails table) events = some last ->
        ∀ stored ∈ last.stored, stored.Right last) /\
    exists last, run (step fun _ _ => false) (start [0x47] twoMeters (dailyScalers (-2) (-3)))
        loadAndInsert = some last /\ ∀ stored ∈ last.stored, ¬ stored.Right last := by
  constructor
  next =>
    intro claimed
    have all := claimed (fun _ _ => false) [0x47] twoMeters (dailyScalers (-2) (-3))
      [.insert .dailyLoad [0x31] true] _ rfl
    exact absurd all (by decide +kernel)
  next =>
    let last := insertProfileData .dailyLoad [0x31] true
      (loadScalerDetailsFromDb [0x31] [] (start [0x47] twoMeters (dailyScalers (-2) (-3))))
    exact ⟨last, rfl, by decide +kernel⟩

end Hes.Scalers
