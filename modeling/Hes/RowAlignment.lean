import Hes.StoredRows

set_option autoImplicit false

namespace Hes.RowAlignment

open Prog Client OdmProfiles

/-- A record as a profile parser takes it off a page: its index and what the value is made of. -/
abbrev Record := UInt8 × DlmsContent

abbrev Entry := List Record

structure Page where
  data : Bytes
  length : Nat

section Pages

def decodedRecord (data : Bytes) (offset : Nat) : Record :=
  let dataType := byteAt data (offset + 2)
  let (dataOff, fieldLen) := logDlmsDataType data offset dataType
  (byteAt data offset, extractDlmsValue data (offset + dataOff) dataType fieldLen)

def Page.decoded (page : Page) : List Record :=
  (recordOffsets page.data page.length (byteAt page.data 8).toNat 9).map (decodedRecord page.data)

/-- Pages of a profile, and the captured entries that their records are of. -/
structure Capture where
  pages : List Page
  entries : List Entry
  divided : entries.flatten = pages.flatMap Page.decoded

def parsePages (store : Store) (pages : List Page) (profiles : OdmProfiles) : OdmProfiles :=
  pages.foldl (fun profiles page => parseRecords store page.data page.length profiles) profiles

def pushRecord (store : Store) (profiles : OdmProfiles) (record : Record) : OdmProfiles :=
  if record.2.type ≠ 0 then profiles.pushBack store record.1 record.2 none else profiles

theorem parseRecords_decoded (store : Store) (page : Page) (profiles : OdmProfiles) :
    parseRecords store page.data page.length profiles =
      page.decoded.foldl (pushRecord store) profiles := by
  rw [parseRecords, Page.decoded, List.foldl_map]
  rfl

theorem parsePages_entries (store : Store) (capture : Capture) (profiles : OdmProfiles) :
    parsePages store capture.pages profiles =
      capture.entries.flatten.foldl (pushRecord store) profiles := by
  rw [capture.divided, List.foldl_flatMap, parsePages]
  congr 1
  funext profiles page
  exact parseRecords_decoded store page profiles

def pushed (store : Store) (serving : Origin) (record : Record) : Stored :=
  { store := store, index := record.1, content := record.2, origin := serving }

theorem foldl_pushRecord (store : Store) (records : List Record) (profiles : OdmProfiles) :
    records.foldl (pushRecord store) profiles =
      { profiles with values := profiles.values ++
          (records.filter fun record => record.2.type ≠ 0).map (pushed store profiles.serving) } := by
  induction records generalizing profiles with
  | nil => simp
  | cons record rest ih =>
    rw [List.foldl_cons, ih, pushRecord]
    by_cases valued : record.2.type = 0
    next => simp [valued]
    next => simp [valued, pushBack, pushed]

end Pages

section Columns

variable (index : UInt8)

/-- What an entry has for a column; a record of the type NONE is no value. -/
def valuesOf (entry : Entry) : List DlmsContent :=
  (entry.filter fun record => record.2.type ≠ 0 && record.1 = index).map Prod.snd

/-- The values of a column, each under the number of its entry. -/
def tagged : Nat -> List Entry -> List (Nat × DlmsContent)
  | _, [] => []
  | number, entry :: rest => (valuesOf index entry).map (number, ·) ++ tagged (number + 1) rest

/-- The entries that the values of a column come from, in the order of the column. -/
def sources (entries : List Entry) : List Nat := (tagged index 0 entries).map Prod.fst

theorem tagged_contents (number : Nat) (entries : List Entry) :
    (tagged index number entries).map Prod.snd = valuesOf index entries.flatten := by
  induction entries generalizing number with
  | nil => rfl
  | cons entry rest ih =>
    have parts : valuesOf index (entry ++ rest.flatten) =
        valuesOf index entry ++ valuesOf index rest.flatten := by simp [valuesOf]
    rw [tagged, List.map_append, ih, List.flatten_cons, parts]
    simp [Function.comp_def]

theorem columnOf_pushed (store : Store) (capture : Capture) (profiles : OdmProfiles)
    (cleared : ∀ stored ∈ profiles.values, stored.store ≠ store) :
    columnOf (parsePages store capture.pages profiles).values store index =
      (tagged index 0 capture.entries).map fun value =>
        pushed store profiles.serving (index, value.2) := by
  have before : columnOf profiles.values store index = [] := by
    rw [columnOf, List.filter_eq_nil_iff]
    intro stored among
    simp [cleared stored among]
  have contents : (tagged index 0 capture.entries).map (fun value => pushed store profiles.serving
      (index, value.2)) = (valuesOf index capture.entries.flatten).map fun content =>
        pushed store profiles.serving (index, content) := by
    rw [<- tagged_contents index 0, List.map_map]
    rfl
  -- nothing of the column is there before, so what is pushed is the column
  rw [contents, parsePages_entries, foldl_pushRecord]
  rw [columnOf] at before ⊢
  rw [List.filter_append, before, List.nil_append, valuesOf, List.map_map, List.filter_map,
    List.filter_filter]
  have same : (fun record : Record => ((fun stored : Stored => decide (stored.store = store) &&
      decide (stored.index = index)) ∘ pushed store profiles.serving) record &&
        decide (record.2.type ≠ 0)) =
        fun record => decide (record.2.type ≠ 0) && decide (record.1 = index) := by
    funext record
    by_cases named : record.1 = index <;> simp [pushed, named]
  rw [same]
  apply List.map_congr_left
  intro record among
  have named : record.2.type ≠ 0 /\ record.1 = index := by simpa using (List.mem_filter.mp among).2
  rw [<- named.2]
  rfl

end Columns

section Rows

/-- What a row is read by: its query, its number and the values that are held for it. -/
def heading (row : Row) : Query × Nat × List Stored := (row.query, row.turn, row.held)

theorem executeRows_rows (query : Query) (held : List Stored) (turns : List Nat) (client : Client) :
    exists after rows, executeRows query held turns client = (some (), after) /\
      after.odm.rows = client.odm.rows ++ rows /\
      rows.map heading = turns.map fun turn => (query, turn, held) := by
  induction turns generalizing client with
  | nil => exact ⟨client, [], rfl, by simp, rfl⟩
  | cons turn turns ih =>
    obtain ⟨inserted, between, first, same⟩ : exists inserted between,
        executeQuery query held turn client = (some inserted, between) /\ exists row,
          between.odm.rows = client.odm.rows ++ [row] /\ heading row = (query, turn, held) :=
      ⟨_, _, rfl, _, rfl, rfl⟩
    obtain ⟨row, added, named⟩ := same
    obtain ⟨after, rows, ran, behind, headings⟩ := ih between
    refine ⟨after, row :: rows, ?_, ?_, ?_⟩
    next => rw [executeRows, ran_bind first, ran]
    next => rw [behind, added, List.append_assoc, List.singleton_append]
    next => rw [List.map_cons, List.map_cons, headings, named]

theorem processLoadCase_rows (downloadDataType : UInt8) (query : Query)
    (defaults : List (UInt8 × UInt8)) (client : Client) :
    let held := (validateForDb query.store defaults client.profiles).values
    exists rows,
      (processLoadCase downloadDataType query defaults client).2.odm.rows = client.odm.rows ++ rows /\
      rows.map heading = (List.range (columnOf held query.store 0x00).length).map
        fun turn => (query, turn, held) := by
  intro held
  let validated := (validateProfiles query.store defaults client).2
  let told := (updateOwnStatus .success 1 validated).2
  have validation : validateProfiles query.store defaults client = (some held, validated) := rfl
  have status : updateOwnStatus .success 1 validated = (some (), told) := rfl
  obtain ⟨after, rows, ran, added, headings⟩ := executeRows_rows query held
    (List.range (columnOf held query.store 0x00).length) told
  refine ⟨rows, ?_, headings⟩
  rw [processLoadCase, ran_bind validation, ran_bind status, ran_bind ran]
  exact added

end Rows

section Cells

/-- The entry that a row is of, for one of its columns: behind the end there is the default of an
empty column, or nothing is read since the size is checked. -/
def Cell (column : List Nat) (checked : Prop) (turn entry : Nat) : Prop :=
  match column[turn]? with
  | some source => source = entry
  | none => (column = [] /\ turn = 0) \/ checked

theorem cells_aligned_iff (clock column : List Nat) (checked : Prop) [Decidable checked]
    (rows : clock ≠ []) :
    (forall turn entry, clock[turn]? = some entry -> Cell column checked turn entry) <->
      clock <+: column \/ if checked then column <+: clock else column = [] /\ clock.length = 1 := by
  have first := List.length_pos_iff.mpr rows
  constructor
  next =>
    intro cells
    have cell (turn : Nat) (inside : turn < clock.length) : Cell column checked turn clock[turn] :=
      cells turn _ (List.getElem?_eq_getElem inside)
    have same (turn : Nat) (row : turn < clock.length) (inside : turn < column.length) :
        column[turn] = clock[turn] := by
      have known := cell turn row
      rwa [Cell, List.getElem?_eq_getElem inside] at known
    have behind (turn : Nat) (row : turn < clock.length) (beyond : column.length ≤ turn) :
        (column = [] /\ turn = 0) \/ checked := by
      have known := cell turn row
      rwa [Cell, List.getElem?_eq_none beyond] at known
    -- the shorter of the two ends first; behind it a cell needs its default or its check
    by_cases long : clock.length ≤ column.length
    next =>
      apply Or.inl
      rw [List.prefix_iff_getElem?]
      intro turn row
      rw [List.getElem?_eq_getElem (by omega), same turn row]
    next =>
      apply Or.inr
      split
      next =>
        rw [List.prefix_iff_getElem?]
        intro turn inside
        rw [List.getElem?_eq_getElem (by omega), same turn _ inside]
      next unchecked =>
        have empty := (behind column.length (by omega) (Nat.le_refl _)).resolve_right unchecked
        refine ⟨empty.1, ?_⟩
        by_contra several
        have second := (behind 1 (by omega) (by simp [empty.1])).resolve_right unchecked
        omega
  next =>
    rintro (longer | shorter) turn entry row
    next =>
      have inside := (List.getElem?_eq_some_iff.mp row).1
      rw [Cell, List.prefix_iff_getElem?.mp longer turn inside]
      exact (List.getElem?_eq_some_iff.mp row).2
    next =>
      have inside := (List.getElem?_eq_some_iff.mp row).1
      unfold Cell
      split
      next source at_ =>
        have small := (List.getElem?_eq_some_iff.mp at_).1
        split at shorter
        next =>
          have same := List.prefix_iff_getElem?.mp shorter turn small
          rw [row] at same
          rw [(List.getElem?_eq_some_iff.mp at_).2] at same
          exact (Option.some.inj same).symm
        next =>
          rw [shorter.1] at small
          simp at small
      next =>
        split at shorter
        next checked => exact .inr checked
        next => exact .inl ⟨shorter.1, by omega⟩

end Cells

/-- The profiles that are written with one row for each value of the clock. -/
inductive Load where
  | billing
  | dailyLoad
  | blockLoad
  deriving DecidableEq, Repr

namespace Load

def query : Load -> Query
  | .billing => bhQuery
  | .dailyLoad => dlpQuery
  | .blockLoad => blpQuery

def defaults : Load -> List (UInt8 × UInt8)
  | .billing => bhDefaults
  | .dailyLoad => dlpDefaults
  | .blockLoad => blpDefaults

/-- The columns whose size is looked at before they are read. -/
def sizeChecked : Load -> List UInt8
  | .billing => [0x00, 0x15, 0x17]
  | .dailyLoad | .blockLoad => []

def process : Load -> Prog Client Unit
  | .billing => processBhpCase
  | .dailyLoad => processDlpCase
  | .blockLoad => processBlpCase

variable (load : Load)

def insertedRows (client : Client) : List Row :=
  (load.process client).2.odm.rows.drop client.odm.rows.length

theorem insertedRows_headings (client : Client) :
    let held := (validateForDb load.query.store load.defaults client.profiles).values
    (load.insertedRows client).map heading =
      (List.range (columnOf held load.query.store 0x00).length).map
        fun turn => (load.query, turn, held) := by
  have process : exists type, load.process = processLoadCase type load.query load.defaults := by
    cases load <;> exact ⟨_, rfl⟩
  obtain ⟨type, process⟩ := process
  obtain ⟨rows, added, headings⟩ := processLoadCase_rows type load.query load.defaults client
  rw [insertedRows, process, added, List.drop_left]
  exact headings

theorem defaults_column : ∀ index ∈ load.query.columns,
    exists type, load.defaults.lookup index = some type := by
  have every : ∀ load ∈ [Load.billing, .dailyLoad, .blockLoad],
      ∀ index ∈ load.query.columns, (load.defaults.lookup index).isSome = true := by
    decide +kernel
  intro index among
  exact Option.isSome_iff_exists.mp (every load (by cases load <;> simp) index among)

theorem clock_column : 0x00 ∈ load.query.columns := by
  cases load <;> decide

end Load

section Alignment

variable (load : Load) (entries : List Entry)

/-- A column of a row is a value of the entry, or the default of a column that no entry has. -/
def Taken (row : Row) (entry : Nat) (index : UInt8) : Prop :=
  match (columnOf row.held row.query.store index)[row.turn]? with
  | some stored => tagged index 0 entries = [] \/
      (tagged index 0 entries)[row.turn]? = some (entry, stored.content)
  | none => index ∈ load.sizeChecked

/-- All columns of a row are of one captured entry, and each is read below its size. -/
def OfOneEntry (row : Row) : Prop :=
  exists entry, ∀ index ∈ row.query.columns, Taken load entries row entry index

/-- With no clock at all there is one row, of the entry that every column starts with. Otherwise
every column starts with the entries that have a clock; a column that no entry has is filled for
one row, and one whose size is checked may end before the clock does. -/
def Aligned : Prop :=
  if sources 0x00 entries = [] then
    exists entry, ∀ index ∈ load.query.columns,
      ∀ first ∈ (sources index entries).head?, first = entry
  else ∀ index ∈ load.query.columns, sources 0x00 entries <+: sources index entries \/
    if index ∈ load.sizeChecked then sources index entries <+: sources 0x00 entries
    else sources index entries = [] /\ (sources 0x00 entries).length = 1

/-- Nothing of the profile is left when the first page comes. -/
def Cleared (profiles : OdmProfiles) : Prop :=
  ∀ stored ∈ profiles.values, stored.store ≠ load.query.store

section Held

variable (capture : Capture) (client : Client) (cleared : Cleared load client.profiles)

def heldOf : List Stored :=
  (validateForDb load.query.store load.defaults
    (parsePages load.query.store capture.pages client.profiles)).values

include cleared

theorem columnOf_held (index : UInt8) (among : index ∈ load.query.columns) : exists filler,
    columnOf (heldOf load capture client) load.query.store index =
      if tagged index 0 capture.entries = [] then [filler]
      else (tagged index 0 capture.entries).map fun value =>
        pushed load.query.store client.profiles.serving (index, value.2) := by
  obtain ⟨type, default⟩ := load.defaults_column index among
  refine ⟨StoredRows.fillerOf load.query.store index type, ?_⟩
  rw [heldOf, StoredRows.columnOf_validated, columnOf_pushed index _ capture client.profiles cleared,
    default]
  simp only [List.map_eq_nil_iff]
  rfl

theorem clock_length : (columnOf (heldOf load capture client) load.query.store 0x00).length =
    max 1 (sources 0x00 capture.entries).length := by
  obtain ⟨filler, column⟩ := columnOf_held load capture client cleared 0x00 load.clock_column
  rw [column, sources, List.length_map]
  split
  next none => simp [none]
  next some =>
    have first := List.length_pos_iff.mpr some
    rw [List.length_map]
    omega

theorem taken_iff (row : Row) (turn entry : Nat)
    (named : heading row = (load.query, turn, heldOf load capture client)) (index : UInt8)
    (among : index ∈ load.query.columns) : Taken load capture.entries row entry index <->
      Cell (sources index capture.entries) (index ∈ load.sizeChecked) turn entry := by
  obtain ⟨filler, column⟩ := columnOf_held load capture client cleared index among
  simp only [heading, Prod.mk.injEq] at named
  obtain ⟨query, number, held⟩ := named
  rw [Taken, query, number, held, column, Cell, sources]
  by_cases empty : tagged index 0 capture.entries = []
  next =>
    rw [if_pos empty, empty]
    cases turn <;> simp
  next =>
    rw [if_neg empty]
    cases at_ : (tagged index 0 capture.entries)[turn]? <;> simp [at_, empty, pushed, Prod.ext_iff]

theorem rows_cells_iff :
    let parsed := { client with profiles := parsePages load.query.store capture.pages client.profiles }
    (∀ row ∈ load.insertedRows parsed, OfOneEntry load capture.entries row) <->
      ∀ turn < max 1 (sources 0x00 capture.entries).length, exists entry,
        ∀ index ∈ load.query.columns,
          Cell (sources index capture.entries) (index ∈ load.sizeChecked) turn entry := by
  intro parsed
  have headings := load.insertedRows_headings parsed
  change _ = List.map (fun turn => (load.query, turn, heldOf load capture client))
    (List.range (columnOf (heldOf load capture client) load.query.store 0x00).length) at headings
  rw [clock_length load capture client cleared] at headings
  have of_one (row : Row) (turn : Nat)
      (named : heading row = (load.query, turn, heldOf load capture client)) :
      OfOneEntry load capture.entries row <-> exists entry, ∀ index ∈ load.query.columns,
        Cell (sources index capture.entries) (index ∈ load.sizeChecked) turn entry := by
    have query : row.query = load.query := (Prod.mk.inj named).1
    rw [OfOneEntry, query]
    apply exists_congr
    intro entry
    apply forall₂_congr
    intro index among
    exact taken_iff load capture client cleared row turn entry named index among
  constructor
  next =>
    intro rows turn small
    have among : (load.query, turn, heldOf load capture client) ∈
        (load.insertedRows parsed).map heading := by
      rw [headings]
      exact List.mem_map.mpr ⟨turn, List.mem_range.mpr small, rfl⟩
    obtain ⟨row, inserted, named⟩ := List.mem_map.mp among
    exact (of_one row turn named).mp (rows row inserted)
  next =>
    intro cells row inserted
    have among : heading row ∈ (load.insertedRows parsed).map heading :=
      List.mem_map_of_mem inserted
    rw [headings] at among
    obtain ⟨turn, small, named⟩ := List.mem_map.mp among
    exact (of_one row turn named.symm).mpr (cells turn (List.mem_range.mp small))

end Held

theorem cell_first (column : List Nat) (checked : Prop) (entry : Nat) :
    Cell column checked 0 entry <-> ∀ first ∈ column.head?, first = entry := by
  cases column <;> simp [Cell]

theorem cells_clock_iff (rows : sources 0x00 entries ≠ []) :
    (∀ turn < (sources 0x00 entries).length, exists entry, ∀ index ∈ load.query.columns,
        Cell (sources index entries) (index ∈ load.sizeChecked) turn entry) <->
      ∀ index ∈ load.query.columns, sources 0x00 entries <+: sources index entries \/
        if index ∈ load.sizeChecked then sources index entries <+: sources 0x00 entries
        else sources index entries = [] /\ (sources 0x00 entries).length = 1 := by
  simp only [← cells_aligned_iff _ _ _ rows]
  constructor
  next =>
    -- the clock's own cell names the entry of the row
    intro cells index among turn entry row
    obtain ⟨source, taken⟩ := cells turn (List.getElem?_eq_some_iff.mp row).1
    have clock := taken 0x00 load.clock_column
    rw [Cell, row] at clock
    exact clock ▸ taken index among
  next =>
    intro cells turn small
    exact ⟨_, fun index among => cells index among turn _ (List.getElem?_eq_getElem small)⟩

/-- Every row that a load profile is written with is of one captured entry, and reads each column
below its size, exactly when the columns of the entries are aligned. -/
theorem rows_of_one_entry_iff (capture : Capture) (client : Client)
    (cleared : Cleared load client.profiles) :
    let parsed := { client with profiles := parsePages load.query.store capture.pages client.profiles }
    (∀ row ∈ load.insertedRows parsed, OfOneEntry load capture.entries row) <->
      Aligned load capture.entries := by
  apply (rows_cells_iff load capture client cleared).trans
  rw [Aligned]
  by_cases rows : sources 0x00 capture.entries = []
  next =>
    rw [if_pos rows, rows]
    simp [cell_first]
  next =>
    have first := List.length_pos_iff.mpr rows
    rw [if_neg rows, max_eq_right (by omega)]
    exact cells_clock_iff load capture.entries rows

theorem sources_whole (index : UInt8) (number : Nat)
    (whole : ∀ entry ∈ entries, (valuesOf index entry).length = 1) :
    (tagged index number entries).map Prod.fst = List.range' number entries.length := by
  induction entries generalizing number with
  | nil => rfl
  | cons entry rest ih =>
    obtain ⟨value, one⟩ := List.length_eq_one_iff.mp (whole entry List.mem_cons_self)
    have behind := ih (number + 1) fun other among => whole other (List.mem_cons_of_mem entry among)
    rw [tagged, one, List.map_append, behind, List.length_cons, List.range'_succ]
    rfl

theorem whole_aligned (whole : ∀ entry ∈ entries, ∀ index ∈ load.query.columns,
    (valuesOf index entry).length = 1) : Aligned load entries := by
  -- entries that have every column once are written row by row
  have same (index : UInt8) (among : index ∈ load.query.columns) :
      sources index entries = List.range' 0 entries.length :=
    sources_whole entries index 0 fun entry inside => whole entry inside index among
  have clock := same 0x00 load.clock_column
  unfold Aligned
  split
  next rows =>
    refine ⟨0, fun index among first at_ => ?_⟩
    rw [same index among, ← clock, rows] at at_
    simp at at_
  next =>
    intro index among
    exact .inl (by rw [same index among, clock])

end Alignment

def pageOf (records : List Bytes) : Page where
  data := [0x2D, 0x00, 0x09, 0x00, 0x0E, 0x03, 0x00, 0x00, UInt8.ofNat records.length] ++
    records.flatten
  length := 9 + records.flatten.length

def clockOf (day : UInt8) : Bytes := [0x00, 0x00, 0x19, 0x2E, 0x7A, day, 0x00]

def energyOf (index value : UInt8) : Bytes := [index, 0x00, 0x06, 0x00, 0x00, 0x00, value]

/-- Two days, with these energies of the first one. -/
def twoDays (indexes : List UInt8) : Page :=
  pageOf (clockOf 1 :: indexes.map (energyOf · 5) ++ clockOf 2 :: [1, 2, 3, 4].map (energyOf · 7))

def wholeDays : Capture where
  pages := [twoDays [1, 2, 3, 4]]
  entries := [(twoDays [1, 2, 3, 4]).decoded.take 5, (twoDays [1, 2, 3, 4]).decoded.drop 5]
  divided := by simp

/-- The first day has no apparent energy exported. -/
def missingExport : Capture where
  pages := [twoDays [1, 3, 4]]
  entries := [(twoDays [1, 3, 4]).decoded.take 4, (twoDays [1, 3, 4]).decoded.drop 4]
  divided := by simp

def parsedDays (capture : Capture) : Client := { profiles := parsePages .dlp capture.pages {} }

theorem whole_days_of_one_entry : (Load.dailyLoad.insertedRows (parsedDays wholeDays)).length = 2 /\
    ∀ row ∈ Load.dailyLoad.insertedRows (parsedDays wholeDays),
      OfOneEntry .dailyLoad wholeDays.entries row := by
  have aligned : Aligned .dailyLoad wholeDays.entries := whole_aligned _ _ (by decide +kernel)
  exact ⟨by decide +kernel,
    (rows_of_one_entry_iff .dailyLoad wholeDays {} (by simp [Cleared])).mpr aligned⟩

/-- The apparent energy of the second day is written with the first day's clock. -/
theorem missing_export_mixes_days :
    sources 0x00 missingExport.entries = [0, 1] /\ sources 0x02 missingExport.entries = [1] /\
    ¬ ∀ row ∈ Load.dailyLoad.insertedRows (parsedDays missingExport),
      OfOneEntry .dailyLoad missingExport.entries row := by
  have clock : sources 0x00 missingExport.entries = [0, 1] := by decide +kernel
  have energy : sources 0x02 missingExport.entries = [1] := by decide +kernel
  refine ⟨clock, energy, fun rows => ?_⟩
  have cells := (rows_cells_iff .dailyLoad missingExport {} (by simp [Cleared])).mp rows
  obtain ⟨entry, taken⟩ := cells 0 (by omega)
  have first := taken 0x00 (by decide)
  have second := taken 0x02 (by decide)
  rw [clock] at first
  rw [energy] at second
  exact absurd (first.trans second.symm) (by decide)

end Hes.RowAlignment
