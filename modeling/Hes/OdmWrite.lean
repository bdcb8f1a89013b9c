import Hes.Respond

set_option autoImplicit false

namespace Hes

open Prog Mqtt OdmProfiles

def Reading.read (reading : Reading) (column : List Stored) (turn : Nat) : Option Stored :=
  match reading with
  | .first => column.head?
  | .last => column.getLast?
  | .each => column[turn]?

/-- The values a query reads from what is held, for its row number `turn`. -/
def Query.read (query : Query) (held : List Stored) (turn : Nat) : List Stored :=
  query.columns.filterMap fun index =>
    query.reading.read (columnOf held query.store index) turn

namespace Client

def updateDlmsOnDemandRequestStatus (requestId : Int) (status : RequestStatus) (errorCode : Nat) :
    Prog Client Unit :=
  setOdm fun odm => { odm with updates := odm.updates ++
    [{ requestId := requestId, status := status, errorCode := errorCode }] }

/-- The status of the request the parameters of the database name. -/
def updateOwnStatus (status : RequestStatus) (errorCode : Nat) : Prog Client Unit := do
  let requestId <- observe fun client => client.odm.dbParameter.reqId
  updateDlmsOnDemandRequestStatus requestId status errorCode

def queryResult : Prog Client Bool := fun client =>
  (some (client.inputs.query client.counters.queried),
    { client with counters := { client.counters with queried := client.counters.queried + 1 } })

def executeQuery (query : Query) (held : List Stored) (turn : Nat) : Prog Client Bool := do
  let inserted <- queryResult
  setOdm fun odm => { odm with rows := odm.rows ++
    [{ serving := odm.serving, parameters := odm.dbParameter, query := query, turn := turn,
       values := query.read held turn, held := held, inserted := inserted }] }
  return inserted

def clearProfile (downloadDataType : UInt8) : Prog Client Unit :=
  onProfiles fun profiles => ((), clearProfileForType downloadDataType profiles)

def heldValues : Prog Client (List Stored) := observe fun client => client.profiles.values

def validateProfiles (store : Store) (defaults : List (UInt8 × UInt8)) :
    Prog Client (List Stored) :=
  onProfiles fun profiles =>
    let validated := validateForDb store defaults profiles
    (validated.values, validated)

def float32 (indexes : List UInt8) : List (UInt8 × UInt8) := indexes.map fun index => (index, 0x17)

def namePlateDefaults : List (UInt8 × UInt8) :=
  [(0x00, 0x0A), (0x01, 0x0A), (0x02, 0x0A), (0x03, 0x0A), (0x04, 0x11), (0x05, 0x0A),
   (0x06, 0x0A), (0x07, 0x12)]

def ipDefaults : List (UInt8 × UInt8) :=
  (0x00, 0x09) :: float32 [0x01, 0x02, 0x03, 0x04, 0x05, 0x06, 0x07, 0x08, 0x09, 0x0A, 0x0C,
    0x0E, 0x0F, 0x10, 0x11, 0x12, 0x13] ++ [(0x14, 0x03), (0x15, 0x17)]

def bhDefaults : List (UInt8 × UInt8) :=
  (0x00, 0x09) :: float32 [0x01, 0x02, 0x0B, 0x19, 0x1A, 0x14, 0x16] ++
    [(0x15, 0x09), (0x17, 0x09)] ++ float32 [0x03, 0x04, 0x05, 0x06, 0x07, 0x08, 0x09, 0x0A,
    0x0C, 0x0D, 0x0E, 0x0F, 0x10, 0x11, 0x12, 0x13, 0x18]

def dlpDefaults : List (UInt8 × UInt8) := (0x00, 0x09) :: float32 [0x01, 0x02, 0x03, 0x04]

def blpDefaults : List (UInt8 × UInt8) :=
  (0x00, 0x09) :: float32 [0x01, 0x02, 0x03, 0x04, 0x05, 0x06]

def electricEventDefaults : List (UInt8 × UInt8) :=
  [(0x00, 0x09), (0x01, 0x11)] ++ float32 [0x02, 0x03, 0x04, 0x05] ++ [(0x06, 0x18)]

def plainEventDefaults : List (UInt8 × UInt8) := [(0x00, 0x09), (0x01, 0x11)]

def controlEventDefaults : List (UInt8 × UInt8) := [(0x00, 0x06), (0x01, 0x11)]

def namePlateQuery : Query :=
  { table := "name_plate_data", store := .namePlate, reading := .first
    columns := [0x00, 0x01, 0x02, 0x03, 0x04, 0x05, 0x06, 0x07] }

def ipQuery : Query :=
  { table := "dlms_ip_push_data", store := .ip, reading := .first
    columns := [0x00, 0x01, 0x02, 0x03, 0x04, 0x05, 0x06, 0x07, 0x08, 0x09, 0x0A, 0x0B, 0x0C,
      0x0D, 0x0E, 0x0F, 0x10, 0x11, 0x12, 0x13, 0x14, 0x15] }

def rfParamQuery : Query :=
  { table := "rf_param_info", store := .ip, reading := .last
    columns := [0xF1, 0x00, 0xF0, 0xF2, 0xF4, 0xF3] }

def bhQuery : Query :=
  { table := "dlms_history_data", store := .bh, reading := .each
    columns := [0x00, 0x01, 0x02, 0x03, 0x04, 0x05, 0x06, 0x07, 0x08, 0x09, 0x0A, 0x0B, 0x0C,
      0x0D, 0x0E, 0x0F, 0x10, 0x11, 0x12, 0x13, 0x14, 0x16, 0x15, 0x17, 0x19, 0x1A, 0x18] }

def dlpQuery : Query :=
  { table := "dlms_daily_load_push_profile", store := .dlp, reading := .each
    columns := [0x00, 0x01, 0x02, 0x03, 0x04] }

def blpQuery : Query :=
  { table := "dlms_block_load_push_profile", store := .blp, reading := .each
    columns := [0x00, 0x01, 0x02, 0x03, 0x04, 0x05] }

def allEventsQuery : Query :=
  { table := "dlms_all_tamper", store := .eventData, reading := .last
    columns := [0x00, 0x01, 0x02, 0x03, 0x04, 0x05, 0x06] }

def electricEventQuery (table : String) (store : Store) : Query :=
  { table := table, store := store, reading := .last
    columns := [0x00, 0x01, 0x02, 0x03, 0x04, 0x05, 0x06] }

def plainEventQuery (table : String) (store : Store) : Query :=
  { table := table, store := store, reading := .last, columns := [0x00, 0x01] }

def parameterQuery (subCommand : UInt8) : Query :=
  { table := "programmable_parameter_data", store := .singleObisData, reading := .last
    columns := [subCommand] }

def emptyQuery : Query :=
  { table := "", store := .singleObisData, reading := .last, columns := [] }

def processNpCase : Prog Client Unit := do
  let held <- validateProfiles .namePlate namePlateDefaults
  updateOwnStatus .success 1
  clearProfile 0
  let _ <- executeQuery namePlateQuery held 0

def processIpCase : Prog Client Unit := do
  let held <- validateProfiles .ip ipDefaults
  updateOwnStatus .success 1
  let _ <- executeQuery rfParamQuery held 0
  clearProfile 1
  let _ <- executeQuery ipQuery held 0

/-- One row for every value of the first column. -/
def executeRows (query : Query) (held : List Stored) : List Nat -> Prog Client Unit
  | [] => pure ()
  | turn :: turns => do
    let _ <- executeQuery query held turn
    executeRows query held turns

/-- Billing history, daily load and block load: all rows, then the profile is cleared. -/
def processLoadCase (downloadDataType : UInt8) (query : Query)
    (defaults : List (UInt8 × UInt8)) : Prog Client Unit := do
  let held <- validateProfiles query.store defaults
  updateOwnStatus .success 1
  executeRows query held (List.range (columnOf held query.store 0x00).length)
  clearProfile downloadDataType

def processBhpCase := processLoadCase 2 bhQuery bhDefaults

def processDlpCase := processLoadCase 3 dlpQuery dlpDefaults

def processBlpCase := processLoadCase 4 blpQuery blpDefaults

def processAllEventsCase : Prog Client Unit := do
  updateOwnStatus .success 1
  let held <- heldValues
  clearProfile 5
  let _ <- executeQuery allEventsQuery held 0

/-- The end of `update_odm_db`: the profile is cleared only when the insert succeeds. -/
def insertAndClear (downloadDataType : UInt8) (query : Query) (held : List Stored) :
    Prog Client Unit := do
  let inserted <- executeQuery query held 0
  if inserted then clearProfile downloadDataType

def processEventCase (downloadDataType : UInt8) (query : Query)
    (defaults : List (UInt8 × UInt8)) : Prog Client Unit := do
  let held <- validateProfiles query.store defaults
  updateOwnStatus .success 1
  insertAndClear downloadDataType query held

def processParameterCase (downloadDataType : UInt8) (query : Query) : Prog Client Unit := do
  let held <- heldValues
  insertAndClear downloadDataType query held

/-- A ping writes to its own table; its type clears no profile. -/
def updateInsertPingRequest (downloadDataType : UInt8) (status : RequestStatus) :
    Prog Client Unit := do
  let requestId <- observe fun client => client.odm.dbParameter.reqId
  setOdm fun odm => { odm with updates := odm.updates ++
    [{ requestId := requestId, status := status, ping := true }] }
  let inserted <- queryResult
  if inserted then clearProfile downloadDataType

def updateOdmDb (downloadDataType : UInt8) : Prog Client Unit :=
  match downloadDataType with
  | 0 => processNpCase
  | 1 => processIpCase
  | 2 => processBhpCase
  | 3 => processDlpCase
  | 4 => processBlpCase
  | 5 => processAllEventsCase
  | 6 => processEventCase 6 (electricEventQuery "voltage_tamper_data" .voltageEvent)
      electricEventDefaults
  | 7 => processEventCase 7 (electricEventQuery "current_tamper_data" .currentEvent)
      electricEventDefaults
  | 8 => processEventCase 8 (plainEventQuery "power_failure_tamper_data" .powerEvent)
      plainEventDefaults
  | 9 => processEventCase 9 (plainEventQuery "transaction_tamper_data" .transactionEvent)
      plainEventDefaults
  | 10 => processEventCase 10 (electricEventQuery "other_utility_based_tamper_data" .otherEvent)
      electricEventDefaults
  | 11 => processEventCase 11 (plainEventQuery "non_roll_over_tamper_data" .nonRollOverEvent)
      plainEventDefaults
  | 12 => processEventCase 12 (plainEventQuery "control_events_tamper_data" .controlEvent)
      controlEventDefaults
  | 13 => updateInsertPingRequest 13 .success
  | 14 => updateInsertPingRequest 14 .success
  | 15 => processParameterCase 15 (parameterQuery 0x02)
  | 16 => processParameterCase 16 (parameterQuery 0x02)
  | 17 => processParameterCase 17 (parameterQuery 0x01)
  | 18 => processParameterCase 18 (parameterQuery 0x01)
  | 19 => processParameterCase 19 (parameterQuery 0x01)
  | 20 => processParameterCase 20 (parameterQuery 0x01)
  | 21 => processParameterCase 21 (parameterQuery 0x08)
  | 22 => processParameterCase 22 (parameterQuery 0x08)
  | 23 => processParameterCase 23 (parameterQuery 0x09)
  | 24 => processParameterCase 24 (parameterQuery 0x09)
  | 25 => processParameterCase 25 (parameterQuery 0x07)
  | 26 => processParameterCase 26 emptyQuery
  | 29 => processParameterCase 29 emptyQuery
  | 30 => processParameterCase 30 emptyQuery
  | _ => pure ()

def SameGateway (before after : Client) : Prop := after.gateway = before.gateway

theorem SameGateway.refl (client : Client) : SameGateway client client := rfl

theorem SameGateway.trans (first second third : Client) (before : SameGateway first second)
    (behind : SameGateway second third) : SameGateway first third := Eq.trans behind before

/-- The status updates of the request the parameters of the database name. -/
structure Reported (statuses : List RequestStatus) (before after : Client) : Prop where
  updates : after.odm.updates = before.odm.updates ++ statuses.map fun status =>
    { requestId := before.odm.dbParameter.reqId, status := status, errorCode := 1 }
  dbParameter : after.odm.dbParameter = before.odm.dbParameter

theorem Reported.refl (client : Client) : Reported [] client client := ⟨by simp, rfl⟩

theorem Reported.trans (earlier later : List RequestStatus) (first second third : Client)
    (before : Reported earlier first second) (behind : Reported later second third) :
    Reported (earlier ++ later) first third :=
  ⟨by simp [behind.updates, before.updates, before.dbParameter],
    behind.dbParameter.trans before.dbParameter⟩

/-- The moves of the database part that tell nothing about a request. -/
structure RowFrame (rel : Client -> Client -> Prop) : Prop where
  refl : forall client, rel client client
  trans : forall first second third, rel first second -> rel second third -> rel first third
  profiles : forall client profiles, rel client { client with profiles := profiles }
  queried : forall client queried, rel client { client with counters :=
    { client.counters with queried := queried } }
  rows : forall client rows, rel client { client with odm := { client.odm with rows := rows } }

theorem reported_rowFrame : RowFrame (Reported []) :=
  ⟨Reported.refl, Reported.trans [] [], fun _ _ => ⟨by simp, rfl⟩, fun _ _ => ⟨by simp, rfl⟩,
    fun _ _ => ⟨by simp, rfl⟩⟩

section Rows

variable {rel : Client -> Client -> Prop}

theorem queryResult_always (frame : RowFrame rel) : Always rel queryResult :=
  fun client => ⟨_, _, rfl, frame.queried client _⟩

theorem executeQuery_always (frame : RowFrame rel) (query : Query) (held : List Stored)
    (turn : Nat) : Always rel (executeQuery query held turn) := by
  refine always_bind frame.trans (queryResult_always frame) fun inserted => ?_
  exact always_bind frame.trans (always_update _ fun client => frame.rows client _)
    fun _ => always_pure frame.refl inserted

theorem clearProfile_always (frame : RowFrame rel) (downloadDataType : UInt8) :
    Always rel (clearProfile downloadDataType) :=
  fun client => ⟨_, _, rfl, frame.profiles client _⟩

theorem validateProfiles_always (frame : RowFrame rel) (store : Store)
    (defaults : List (UInt8 × UInt8)) : Always rel (validateProfiles store defaults) :=
  fun client => ⟨_, _, rfl, frame.profiles client _⟩

theorem executeRows_always (frame : RowFrame rel) (query : Query) (held : List Stored)
    (turns : List Nat) : Always rel (executeRows query held turns) := by
  induction turns with
  | nil => exact always_pure frame.refl ()
  | cons turn turns ih =>
    exact always_bind frame.trans (executeQuery_always frame query held turn) fun _ => ih

theorem insertAndClear_always (frame : RowFrame rel) (downloadDataType : UInt8)
    (query : Query) (held : List Stored) :
    Always rel (insertAndClear downloadDataType query held) := by
  refine always_bind frame.trans (executeQuery_always frame query held 0) fun inserted => ?_
  split
  next => exact clearProfile_always frame downloadDataType
  next => exact always_pure frame.refl ()

theorem processParameterCase_always (frame : RowFrame rel) (downloadDataType : UInt8)
    (query : Query) : Always rel (processParameterCase downloadDataType query) :=
  always_bind frame.trans (always_observe frame.refl _)
    fun held => insertAndClear_always frame downloadDataType query held

end Rows

section Statuses

variable {silent told : Client -> Client -> Prop}

/-- A relation of one status update: what is silent in front of it or behind it adds nothing. -/
structure StatusFrame (silent told : Client -> Client -> Prop) : Prop where
  rows : RowFrame silent
  before : forall first second third, silent first second -> told second third -> told first third
  behind : forall first second third, told first second -> silent second third -> told first third
  status : Always told (updateOwnStatus .success 1)

theorem reported_statusFrame : StatusFrame (Reported []) (Reported [.success]) :=
  ⟨reported_rowFrame, Reported.trans [] [.success], Reported.trans [.success] [],
    fun _ => ⟨_, _, rfl, rfl, rfl⟩⟩

theorem processNpCase_always (frame : StatusFrame silent told) : Always told processNpCase := by
  refine always_bind frame.before (validateProfiles_always frame.rows _ _) fun held => ?_
  refine always_bind frame.behind frame.status fun _ => ?_
  refine always_bind frame.rows.trans (clearProfile_always frame.rows 0) fun _ => ?_
  exact always_bind frame.rows.trans (executeQuery_always frame.rows _ held 0)
    fun _ => always_pure frame.rows.refl ()

theorem processIpCase_always (frame : StatusFrame silent told) : Always told processIpCase := by
  refine always_bind frame.before (validateProfiles_always frame.rows _ _) fun held => ?_
  refine always_bind frame.behind frame.status fun _ => ?_
  refine always_bind frame.rows.trans (executeQuery_always frame.rows _ held 0) fun _ => ?_
  refine always_bind frame.rows.trans (clearProfile_always frame.rows 1) fun _ => ?_
  exact always_bind frame.rows.trans (executeQuery_always frame.rows _ held 0)
    fun _ => always_pure frame.rows.refl ()

theorem processLoadCase_always (frame : StatusFrame silent told) (downloadDataType : UInt8)
    (query : Query) (defaults : List (UInt8 × UInt8)) :
    Always told (processLoadCase downloadDataType query defaults) := by
  refine always_bind frame.before (validateProfiles_always frame.rows _ _) fun held => ?_
  refine always_bind frame.behind frame.status fun _ => ?_
  exact always_bind frame.rows.trans (executeRows_always frame.rows query held _)
    fun _ => clearProfile_always frame.rows downloadDataType

theorem processAllEventsCase_always (frame : StatusFrame silent told) :
    Always told processAllEventsCase := by
  refine always_bind frame.behind frame.status fun _ => ?_
  refine always_bind frame.rows.trans (always_observe frame.rows.refl _) fun held => ?_
  refine always_bind frame.rows.trans (clearProfile_always frame.rows 5) fun _ => ?_
  exact always_bind frame.rows.trans (executeQuery_always frame.rows _ held 0)
    fun _ => always_pure frame.rows.refl ()

theorem processEventCase_always (frame : StatusFrame silent told) (downloadDataType : UInt8)
    (query : Query) (defaults : List (UInt8 × UInt8)) :
    Always told (processEventCase downloadDataType query defaults) := by
  refine always_bind frame.before (validateProfiles_always frame.rows _ _) fun held => ?_
  exact always_bind frame.behind frame.status
    fun _ => insertAndClear_always frame.rows downloadDataType query held

end Statuses

theorem updateOdmDb_told {silent told : Client -> Client -> Prop}
    (frame : StatusFrame silent told) (downloadDataType : UInt8) (type : downloadDataType ≤ 12) :
    Always told (updateOdmDb downloadDataType) := by
  -- the profile and event types report success before they insert
  unfold updateOdmDb
  split
  next => exact processNpCase_always frame
  next => exact processIpCase_always frame
  next => exact processLoadCase_always frame 2 _ _
  next => exact processLoadCase_always frame 3 _ _
  next => exact processLoadCase_always frame 4 _ _
  next => exact processAllEventsCase_always frame
  iterate 7 next => exact processEventCase_always frame _ _ _
  all_goals first
    | exact absurd type (by decide)
    | grind

/-- The types from 15 on report nothing, whatever the insert does. -/
theorem updateOdmDb_silent {silent : Client -> Client -> Prop} (frame : RowFrame silent)
    (downloadDataType : UInt8) (type : 15 ≤ downloadDataType) :
    Always silent (updateOdmDb downloadDataType) := by
  unfold updateOdmDb
  split
  all_goals first
    | exact absurd type (by decide)
    | exact processParameterCase_always frame _ _
    | exact always_pure frame.refl ()

/-- The moves of the database part, status updates among them. -/
structure DatabaseFrame (rel : Client -> Client -> Prop) : Prop extends RowFrame rel where
  updates : forall client updates, rel client { client with odm := { client.odm with updates := updates } }

theorem DatabaseFrame.statuses {rel : Client -> Client -> Prop} (frame : DatabaseFrame rel) :
    StatusFrame rel rel :=
  ⟨frame.toRowFrame, frame.trans, frame.trans, fun client => ⟨_, _, rfl, frame.updates client _⟩⟩

theorem updateInsertPingRequest_always {rel : Client -> Client -> Prop} (frame : DatabaseFrame rel)
    (downloadDataType : UInt8) (status : RequestStatus) :
    Always rel (updateInsertPingRequest downloadDataType status) := by
  refine always_bind frame.trans (always_observe frame.refl _) fun requestId => ?_
  refine always_bind frame.trans (always_update _ fun client => frame.updates client _) fun _ => ?_
  refine always_bind frame.trans (queryResult_always frame.toRowFrame) fun inserted => ?_
  split
  next => exact clearProfile_always frame.toRowFrame downloadDataType
  next => exact always_pure frame.refl ()

theorem updateOdmDb_always {rel : Client -> Client -> Prop} (frame : DatabaseFrame rel)
    (downloadDataType : UInt8) : Always rel (updateOdmDb downloadDataType) := by
  by_cases profile : downloadDataType ≤ 12
  next => exact updateOdmDb_told frame.statuses downloadDataType profile
  next =>
    by_cases parameter : 15 ≤ downloadDataType
    next => exact updateOdmDb_silent frame.toRowFrame downloadDataType parameter
    next =>
      have ping : downloadDataType = 13 \/ downloadDataType = 14 := by
        rw [UInt8.le_iff_toNat_le] at profile parameter
        simp only [<- UInt8.toNat_inj]
        simp at profile parameter ⊢
        omega
      rcases ping with rfl | rfl
      next => exact updateInsertPingRequest_always frame 13 .success
      next => exact updateInsertPingRequest_always frame 14 .success

theorem sameGateway_database : DatabaseFrame SameGateway where
  refl := SameGateway.refl
  trans := SameGateway.trans
  profiles := fun _ _ => rfl
  queried := fun _ _ => rfl
  rows := fun _ _ => rfl
  updates := fun _ _ => rfl

theorem updateInsertPingRequest_sameGateway (downloadDataType : UInt8) (status : RequestStatus) :
    Always SameGateway (updateInsertPingRequest downloadDataType status) :=
  updateInsertPingRequest_always sameGateway_database downloadDataType status

theorem updateOdmDb_sameGateway (downloadDataType : UInt8) :
    Always SameGateway (updateOdmDb downloadDataType) :=
  updateOdmDb_always sameGateway_database downloadDataType

end Client

end Hes
