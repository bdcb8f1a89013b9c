import Hes.OdmRequest

set_option autoImplicit false

namespace Hes

namespace Mqtt

open Text

/-- The last status of a request that did not go to the table of the pings. -/
def lastStatus (requestId : Int) (updates : List StatusUpdate) : Option RequestStatus :=
  (updates.filter fun update => update.requestId = requestId && !update.ping).getLast?.map
    StatusUpdate.status

theorem lastStatus_own (updates : List StatusUpdate) (update : StatusUpdate)
    (own : update.ping = false) :
    lastStatus update.requestId (updates ++ [update]) = some update.status := by
  simp [lastStatus, own]

theorem lastStatus_other (requestId : Int) (updates : List StatusUpdate) (update : StatusUpdate)
    (other : update.requestId ≠ requestId) :
    lastStatus requestId (updates ++ [update]) = lastStatus requestId updates := by
  simp [lastStatus, other]

/-- Every update of a rejection and the request itself go by the id of the command. -/
def Prepared.OwnedBy (requestId : Int) : Prepared -> Prop
  | .rejected updates => exists earlier,
      updates = earlier ++ [{ requestId := requestId, status := .failedInvalidRequest }]
  | .request built => built.requestId = requestId

theorem buildRequest_id (parts : List Bytes) (requestId : Int) (downloadType : UInt8)
    (gateway dest : Bytes) (request : OdmRequest)
    (built : buildRequest parts requestId downloadType gateway dest = .ok request) :
    request.requestId = requestId := by
  unfold buildRequest at built
  dsimp only at built
  split at built
  next =>
    obtain ⟨text, _, count, _, made⟩ := by simpa only [ok_bind] using built
    exact (Except.ok.inj made) ▸ rfl
  next =>
    obtain ⟨frame, _, made⟩ := (ok_bind _ _ _).mp built
    exact (Except.ok.inj made) ▸ rfl

theorem prepareRequest_owned (parts : List Bytes) (requestId : Int) (gateway dest : Bytes)
    (prepared : Prepared) (built : prepareRequest parts requestId gateway dest = .ok prepared) :
    prepared.OwnedBy requestId := by
  simp only [prepareRequest, ok_bind] at built
  obtain ⟨text, _, code, _, rest⟩ := built
  have own (downloadType : UInt8) (request : OdmRequest)
      (made : buildRequest parts requestId downloadType gateway dest = .ok request)
      (same : Prepared.request request = prepared) : prepared.OwnedBy requestId :=
    same ▸ buildRequest_id parts requestId downloadType gateway dest request made
  split at rest
  next =>
    simp only [ok_bind] at rest
    obtain ⟨_, _, request, made, same⟩ := rest
    exact own _ request made (Except.ok.inj same)
  next =>
    simp only [ok_bind] at rest
    obtain ⟨request, made, same⟩ := rest
    exact own _ request made (Except.ok.inj same)

theorem prepareOdm_owned (lookup : PathLookup) (cmd : Bytes) (prepared : Prepared)
    (requestId : Int) (named : requestIdOf (split colon cmd) = .ok requestId)
    (built : prepareOdm lookup cmd = .ok prepared) : prepared.OwnedBy requestId := by
  simp only [prepareOdm, ok_bind, named, Except.ok.injEq, exists_eq_left'] at built
  obtain ⟨hopText, _, hopCount, _, gateway, _, dest, _, rest⟩ := built
  split at rest
  next updates rejected => exact Except.ok.inj rest ▸ ⟨updates, rfl⟩
  next => exact prepareRequest_owned _ requestId gateway dest prepared rest

end Mqtt

open Prog Text Mqtt

/-- The request is in process: its last status is not a terminal one. -/
def Odm.Unfinished (requestId : Int) (odm : Odm) : Prop :=
  ∃ status ∈ lastStatus requestId odm.updates, status.terminal = false

structure Odm.Pending (requestId : Int) (odm : Odm) : Prop where
  unfinished : odm.Unfinished requestId
  own : odm.dbParameter.reqId = requestId

def Odm.Told (requestId : Int) (status : RequestStatus) (odm : Odm) : Prop :=
  lastStatus requestId odm.updates = some status

namespace Client

/-- A command taken from the front of the queue: how its request was left, none when the command
was rejected before, and the updates there were when it left the queue. -/
structure Handled where
  requestId : Int
  served : Option (UInt8 × Exit)
  popped : Bool
  updates : List StatusUpdate
  deriving DecidableEq, Repr

/-- The queues as `process_ondemand_request` meets them: the commands in front of a pending
CANCEL, and those behind it. -/
structure OndemandCall where
  syncTurns : Nat := 0
  cancelled : List Bytes := []
  failed : List Bytes := []
  commands : List Bytes := []
  behind : List Bytes := []
  deriving DecidableEq, Repr

-- what throws is outside any try block, so the process ends there
def orTerminate {A : Type} : Result A -> Prog Client A
  | .ok value => pure value
  | .error _ => waiting

def nextLookup : Prog Client PathLookup := fun client =>
  (some (client.inputs.lookup client.counters.lookedUp),
    { client with counters :=
        { client.counters with lookedUp := client.counters.lookedUp + 1 } })

def appendUpdates (updates : List StatusUpdate) : Prog Client Unit :=
  setOdm fun odm => { odm with updates := odm.updates ++ updates }

def takenUpdates : Prog Client (List StatusUpdate) := observe fun client => client.odm.updates

/-- The request of a command, or the updates it is rejected with. -/
def processPrepared (fuel : Nat) : Prepared -> Prog Client (Option (UInt8 × Exit))
  | .rejected updates => do
    appendUpdates updates
    return none
  | .request request => do
    let exit <- serveRequest fuel request
    return some (request.downloadType, exit)

def processOdmCommand (fuel : Nat) (cmd : Bytes) : Prog Client (Int × Option (UInt8 × Exit)) := do
  let requestId <- orTerminate (requestIdOf (split colon cmd))
  updateDlmsOnDemandRequestStatus requestId .inProgress 0
  let lookup <- nextLookup
  let prepared <- orTerminate (prepareOdm lookup cmd)
  let served <- processPrepared fuel prepared
  return (requestId, served)

/-- `handle_client` behind its loop: what is left in the queue is reported as disconnected. -/
def sweepOdm : List Bytes -> Prog Client Unit
  | [] => pure ()
  | cmd :: rest => do
    let requestId <- orTerminate (requestIdOf (split colon cmd))
    updateDlmsOnDemandRequestStatus requestId .gwDisconnected 0
    sweepOdm rest

/-- A rejected command is popped whatever the status; the others stay when it is disconnected. -/
def staysQueued (served : Option (UInt8 × Exit)) (status : Status) : Bool :=
  served.isSome && status = .disconnected

def processOdmQueue (fuel : Nat) (behind : List Bytes) : List Bytes -> Prog Client (List Handled)
  | [] => pure []
  | cmd :: rest => do
    let (requestId, served) <- processOdmCommand fuel cmd
    let status <- observe fun client => client.gateway.status
    if staysQueued served status then
      sweepOdm (cmd :: rest ++ behind)
      let updates <- takenUpdates
      return [{ requestId := requestId, served := served, popped := false, updates := updates }]
    else
      let updates <- takenUpdates
      let later <- processOdmQueue fuel behind rest
      return { requestId := requestId, served := served, popped := true, updates := updates } ::
        later

/-- While the NMS is active the client only receives. -/
def awaitNms : Nat -> Prog Client Unit
  | 0 => pure ()
  | turns + 1 => do
    let _ <- receiveDataAndValidateResponse
    awaitNms turns

def reportAll (report : Bytes -> Result StatusUpdate) : List Bytes -> Prog Client Unit
  | [] => pure ()
  | entry :: rest => do
    let update <- orTerminate (report entry)
    appendUpdates [update]
    reportAll report rest

-- the FUOTA queue is processed in front of the commands and reports to tables of its own
def processOndemandRequest (fuel : Nat) (call : OndemandCall) : Prog Client (List Handled) := do
  awaitNms call.syncTurns
  reportAll cancelledRequest call.cancelled
  reportAll failedRequest call.failed
  processOdmQueue fuel call.behind call.commands

def Handled.isPing (handled : Handled) : Bool :=
  match handled.served with
  | some (downloadType, _) => downloadType = 13 || downloadType = 14
  | none => false

/-- The request ended with a status of its own, or its command was left for the sweep. -/
def Handled.Ended (handled : Handled) : Prop :=
  match handled.served with
  | none => True
  | some (_, .sendFailed) => False
  | some (downloadType, .answered) => downloadType ≤ 12 \/ handled.popped = false
  | some (_, .reported _) => True

instance (handled : Handled) : Decidable handled.Ended := by
  unfold Handled.Ended
  split <;> infer_instance

def Handled.Terminal (handled : Handled) : Prop :=
  ∃ status ∈ lastStatus handled.requestId handled.updates, status.terminal = true

instance (handled : Handled) : Decidable handled.Terminal := by
  unfold Handled.Terminal
  infer_instance

/-- What is known of a request by the way it was left. -/
def LeftBy (requestId : Int) (downloadDataType : UInt8) : Exit -> Client -> Prop
  | .sendFailed => fun client => client.odm.Unfinished requestId /\ SendFailed client
  | .answered => fun client =>
    (downloadDataType ≤ 12 -> client.odm.Told requestId .success) /\
      (15 ≤ downloadDataType -> client.odm.Unfinished requestId)
  | .reported status => fun client => status.terminal = true /\ client.odm.Told requestId status

abbrev InProcess (requestId : Int) (client : Client) : Prop := client.odm.Pending requestId

/-- Everything but the updates and the parameters is free. -/
theorem inProcess_frame (requestId : Int) :
    ReceiveFrame fun before after => InProcess requestId before -> InProcess requestId after where
  refl _ pending := pending
  trans _ _ _ before behind pending := behind (before pending)
  control _ _ pending := pending
  counters _ _ pending := pending
  assign _ pending := pending
  send _ _ _ pending := pending
  profiles _ _ _ pending := pending
  pull _ _ _ pending := pending

theorem told_last (requestId : Int) (status : RequestStatus) (errorCode : Nat)
    (client : Client) : (told requestId status errorCode client).odm.Told requestId status :=
  lastStatus_own client.odm.updates
    { requestId := requestId, status := status, errorCode := errorCode } rfl

theorem updateOdmDb_left (requestId : Int) (downloadDataType : UInt8) :
    Returns (InProcess requestId) (updateOdmDb downloadDataType)
      fun _ => LeftBy requestId downloadDataType .answered := by
  -- the profile types report success under the id of the request, the later types nothing
  by_cases profile : downloadDataType ≤ 12
  next =>
    refine (updateOdmDb_told reported_statusFrame downloadDataType profile).triple ?_
    intro before after pending reported
    refine ⟨fun _ => ?_, fun parameter => absurd (UInt8.le_trans parameter profile) (by decide)⟩
    have told := lastStatus_own before.odm.updates
      { requestId := before.odm.dbParameter.reqId, status := .success, errorCode := 1 } rfl
    rw [Odm.Told, reported.updates]
    simpa [pending.own] using told
  next =>
    by_cases parameter : 15 ≤ downloadDataType
    next =>
      refine (updateOdmDb_silent reported_rowFrame downloadDataType parameter).triple ?_
      intro before after pending reported
      refine ⟨fun small => absurd small profile, fun _ => ?_⟩
      have same : after.odm.updates = before.odm.updates := by simpa using reported.updates
      rw [Odm.Unfinished, same]
      exact pending.unfinished
    next =>
      exact (returns_trivial _ _).weaken (fun _ known => known) fun _ _ _ =>
        ⟨fun small => absurd small profile, fun large => absurd large parameter⟩

theorem inProcess_contract (requestId : Int) (downloadDataType : UInt8)
    (type : downloadDataType ≠ 13) :
    OdmContract requestId downloadDataType (fun _ => True) (InProcess requestId)
      (LeftBy requestId downloadDataType) where
  moves := inProcess_frame requestId
  waits _ _ := trivial
  retried client pending :=
    ⟨⟨.retryInProgress, told_last requestId .retryInProgress 0 client, rfl⟩, pending.own⟩
  sendFailed _ pending failed := ⟨pending.unfinished, failed⟩
  reported status errorCode client terminal _ :=
    ⟨terminal, told_last requestId status errorCode client⟩
  cleared _ _ _ known := known
  written := updateOdmDb_left requestId downloadDataType
  answered _ _ known := known
  pinged ping := absurd ping type

theorem processOdmRequest_left (requestId : Int) (downloadDataType : UInt8) (fuel : Nat)
    (buf : Bytes) (type : downloadDataType ≠ 13) :
    Returns (InProcess requestId) (processOdmRequest fuel buf requestId downloadDataType)
      fun exit => LeftBy requestId downloadDataType exit := by
  have contract := inProcess_contract requestId downloadDataType type
  have frame := (inProcess_frame requestId).toFrame
  refine triple_bind (fun _ => InProcess requestId)
    (triple_update _ fun _ pending => ⟨pending.unfinished, pending.own⟩) fun _ => ?_
  refine triple_bind _ (exchange_left contract (InProcess requestId) frame (fun _ _ => trivial)
    contract.sendFailed buf (fun _ pending _ _ => pending) (fun _ pending _ => pending) fuel)
    fun exit => ?_
  refine triple_bind (fun _ => LeftBy requestId downloadDataType exit)
    (triple_update _ fun client left => ?_) fun _ => triple_pure _ fun _ left => left
  cases exit with
  | sendFailed => exact ⟨left.1, left.2.failed, left.2.connected⟩
  | answered => exact left
  | reported status => exact left

theorem serveRequest_left (fuel : Nat) (request : OdmRequest) (type : request.downloadType ≠ 13) :
    Returns (fun client => client.odm.Unfinished request.requestId) (serveRequest fuel request)
      fun exit => LeftBy request.requestId request.downloadType exit := by
  refine triple_bind (fun _ => InProcess request.requestId)
    (triple_update _ fun _ unfinished => ⟨unfinished, rfl⟩) fun _ => ?_
  rw [if_neg type]
  exact triple_bind _ (control_keeps (inProcess_contract request.requestId _ type) _)
    fun _ => processOdmRequest_left request.requestId _ fuel request.packet type

theorem orTerminate_ok {A : Type} (result : Result A) (pre : Client -> Prop) :
    Returns pre (orTerminate result) fun value client => result = .ok value /\ pre client := by
  cases result with
  | ok value => exact triple_pure value fun _ known => ⟨rfl, known⟩
  | error fault => exact triple_waiting fun _ _ => trivial

/-- What is known of a command when it is about to leave the front of the queue. -/
def Processed (requestId : Int) (served : Option (UInt8 × Exit)) (client : Client) : Prop :=
  match served with
  | none => client.odm.Told requestId .failedInvalidRequest
  | some (downloadType, exit) => downloadType ≠ 13 -> LeftBy requestId downloadType exit client

theorem processPrepared_processed (fuel : Nat) (requestId : Int) (prepared : Prepared)
    (own : prepared.OwnedBy requestId) :
    Returns (fun client => client.odm.Unfinished requestId) (processPrepared fuel prepared)
      fun served client => Processed requestId served client := by
  cases prepared with
  | rejected updates =>
    obtain ⟨earlier, rfl⟩ := own
    refine triple_bind (fun _ client => client.odm.Told requestId .failedInvalidRequest)
      (triple_update _ fun client _ => ?_) fun _ => triple_pure _ fun _ told => told
    have told := lastStatus_own (client.odm.updates ++ earlier)
      { requestId := requestId, status := .failedInvalidRequest } rfl
    simpa [Odm.Told] using told
  | request request =>
    obtain rfl : request.requestId = requestId := own
    by_cases type : request.downloadType = 13
    next =>
      exact triple_bind _ (returns_trivial _ _)
        fun exit => triple_pure _ fun _ _ different => absurd type different
    next =>
      exact triple_bind _ (serveRequest_left fuel request type)
        fun exit => triple_pure _ fun _ left _ => left

theorem nextLookup_quiet (known : Odm -> Prop) : Returns (fun client => known client.odm) nextLookup
    fun _ client => known client.odm :=
  fun _ holds => holds

theorem tell_told (requestId : Int) (status : RequestStatus) (errorCode : Nat)
    (pre : Client -> Prop) :
    Returns pre (updateDlmsOnDemandRequestStatus requestId status errorCode)
      fun _ client => client.odm.Told requestId status :=
  triple_update _ fun client _ => told_last requestId status errorCode client

theorem processOdmCommand_processed (fuel : Nat) (cmd : Bytes) (pre : Client -> Prop) :
    Returns pre (processOdmCommand fuel cmd) fun result client =>
      requestIdOf (split colon cmd) = .ok result.1 /\ Processed result.1 result.2 client := by
  refine triple_bind _ (orTerminate_ok _ pre) fun requestId => triple_known fun named => ?_
  refine triple_bind _ (tell_told requestId .inProgress 0 pre) fun _ => ?_
  refine triple_bind (fun _ client => client.odm.Unfinished requestId) ?_ fun lookup => ?_
  next =>
    exact (nextLookup_quiet (Odm.Told requestId .inProgress)).weaken
      (fun _ told => told) fun _ _ told => ⟨.inProgress, told, rfl⟩
  refine triple_bind _ (orTerminate_ok (prepareOdm lookup cmd) _)
    fun prepared => triple_known fun built => ?_
  have own := prepareOdm_owned lookup cmd prepared requestId named built
  exact triple_bind _ (processPrepared_processed fuel requestId prepared own)
    fun served => triple_pure (requestId, served) fun _ processed => ⟨named, processed⟩

theorem sweepOdm_told (requestId : Int) (cmds : List Bytes) :
    Returns (fun client => client.odm.Told requestId .gwDisconnected) (sweepOdm cmds)
      fun _ client => client.odm.Told requestId .gwDisconnected := by
  induction cmds with
  | nil => exact triple_pure () fun _ told => told
  | cons cmd rest ih =>
    refine triple_bind _ (orTerminate_ok _ _) fun other => triple_known fun _ => ?_
    refine triple_bind (fun _ client => client.odm.Told requestId .gwDisconnected)
      (triple_update _ fun client told => ?_) fun _ => ih
    by_cases same : other = requestId
    next =>
      exact same ▸ lastStatus_own client.odm.updates
        { requestId := other, status := .gwDisconnected } rfl
    next => exact (lastStatus_other requestId client.odm.updates _ same).trans told

/-- The command at the front of what is swept ends as disconnected. -/
theorem sweepOdm_front (requestId : Int) (cmd : Bytes) (rest : List Bytes)
    (named : requestIdOf (split colon cmd) = .ok requestId) (pre : Client -> Prop) :
    Returns pre (sweepOdm (cmd :: rest)) fun _ client => client.odm.Told requestId .gwDisconnected := by
  refine triple_bind _ (orTerminate_ok _ pre) fun other => triple_known fun found => ?_
  obtain rfl : requestId = other := Except.ok.inj (named.symm.trans found)
  exact triple_bind _ (tell_told requestId .gwDisconnected 0 pre)
    fun _ => sweepOdm_told requestId rest

theorem told_terminal (handled : Handled) (status : RequestStatus) (client : Client)
    (taken : handled.updates = client.odm.updates)
    (told : client.odm.Told handled.requestId status) :
    handled.Terminal <-> status.terminal = true := by
  simp only [Handled.Terminal, taken, show lastStatus _ _ = some status from told, Option.mem_def,
    Option.some.injEq, exists_eq_left']

theorem unfinished_not_terminal (handled : Handled) (client : Client)
    (taken : handled.updates = client.odm.updates)
    (unfinished : client.odm.Unfinished handled.requestId) : ¬ handled.Terminal := by
  obtain ⟨status, told, open'⟩ := unfinished
  rw [told_terminal handled status client taken told, open']
  decide

/-- A command that is popped ends with what its request was left with. -/
theorem popped_terminal (handled : Handled) (client : Client) (popped : handled.popped = true)
    (taken : handled.updates = client.odm.updates)
    (processed : Processed handled.requestId handled.served client)
    (notPing : handled.isPing = false) : handled.Terminal <-> handled.Ended := by
  unfold Processed at processed
  unfold Handled.isPing at notPing
  unfold Handled.Ended
  split at processed
  next rejected =>
    rw [told_terminal handled _ client taken processed]
    simp [rejected, RequestStatus.terminal]
  next downloadType exit served =>
    simp only [served, Bool.or_eq_false_iff, decide_eq_false_iff_not] at notPing
    have left := processed notPing.1
    rw [served]
    cases exit with
    | sendFailed => simpa using unfinished_not_terminal handled client taken left.1
    | reported status =>
      rw [told_terminal handled status client taken left.2]
      simpa using left.1
    | answered =>
      by_cases profile : downloadType ≤ 12
      next =>
        rw [told_terminal handled _ client taken (left.1 profile)]
        simp [profile, RequestStatus.terminal]
      next =>
        have later : 15 ≤ downloadType := by
          rw [UInt8.le_iff_toNat_le] at profile ⊢
          simp only [← UInt8.toNat_inj] at notPing
          simp at profile notPing ⊢
          omega
        have := unfinished_not_terminal handled client taken (left.2 later)
        simp [profile, popped, this]

/-- A command that stays in the queue is swept, and its request was not left by a failed send. -/
theorem swept_terminal (handled : Handled) (client swept : Client)
    (popped : handled.popped = false) (status : client.gateway.status = .disconnected)
    (served : handled.served.isSome = true)
    (processed : Processed handled.requestId handled.served client)
    (taken : handled.updates = swept.odm.updates)
    (told : swept.odm.Told handled.requestId .gwDisconnected)
    (notPing : handled.isPing = false) : handled.Terminal <-> handled.Ended := by
  rw [told_terminal handled _ swept taken told]
  obtain ⟨⟨downloadType, exit⟩, known⟩ := Option.isSome_iff_exists.mp served
  simp only [Handled.isPing, known, Bool.or_eq_false_iff, decide_eq_false_iff_not] at notPing
  simp only [Processed, known] at processed
  simp only [Handled.Ended, known]
  cases exit with
  | sendFailed =>
    have connected := (processed notPing.1).2.connected
    simp [status] at connected
  | answered => simp [RequestStatus.terminal, popped]
  | reported status => simp [RequestStatus.terminal]

def Accounted (handled : List Handled) : Prop :=
  ∀ entry ∈ handled, entry.isPing = false -> (entry.Terminal <-> entry.Ended)

theorem processOdmQueue_accounted (fuel : Nat) (behind commands : List Bytes)
    (pre : Client -> Prop) :
    Returns pre (processOdmQueue fuel behind commands) fun handled _ => Accounted handled := by
  induction commands generalizing pre with
  | nil => exact triple_pure [] fun _ _ entry inside => absurd inside (by simp)
  | cons cmd rest ih =>
    refine triple_bind _ (processOdmCommand_processed fuel cmd pre) fun result => ?_
    refine triple_known fun named => ?_
    obtain ⟨requestId, served⟩ := result
    refine triple_bind (fun status client => client.gateway.status = status /\
      Processed requestId served client) (triple_observe _ fun _ known => ⟨rfl, known⟩)
      fun status => ?_
    split
    next stays =>
      simp only [staysQueued, Bool.and_eq_true, decide_eq_true_eq] at stays
      refine returns_of_returned fun client handled last known returned => ?_
      obtain ⟨_, swept, ran, later⟩ := (returned_bind _ _ _ _ _).mp returned
      have told := (sweepOdm_front requestId cmd (rest ++ behind) named fun _ => True).returned
        trivial ran
      obtain ⟨updates, after, took, ended⟩ := (returned_bind _ _ _ _ _).mp later
      simp only [takenUpdates, returned_observe] at took
      obtain ⟨rfl, rfl⟩ := (returned_pure _ _ _ _).mp ended
      intro entry inside notPing
      obtain rfl := List.mem_singleton.mp inside
      exact swept_terminal _ client swept rfl (known.1.trans stays.2) stays.1 known.2 took.1.symm
        told notPing
    next =>
      refine returns_of_returned fun client handled last known returned => ?_
      obtain ⟨updates, after, took, later⟩ := (returned_bind _ _ _ _ _).mp returned
      simp only [takenUpdates, returned_observe] at took
      obtain ⟨others, final, ran, ended⟩ := (returned_bind _ _ _ _ _).mp later
      obtain ⟨rfl, rfl⟩ := (returned_pure _ _ _ _).mp ended
      intro entry inside notPing
      rcases List.mem_cons.mp inside with rfl | inRest
      next => exact popped_terminal _ client rfl took.1.symm known.2 notPing
      next => exact (ih fun _ => True).returned trivial ran entry inRest notPing

/-- Every command that leaves the front of the queue ends with a terminal status exactly when its
request is not left by a failed `send`, and an answered one is of a profile type or is swept. -/
theorem ondemand_terminal_iff (fuel : Nat) (call : OndemandCall) (client last : Client)
    (handled : List Handled)
    (returned : processOndemandRequest fuel call client = (some handled, last)) :
    ∀ entry ∈ handled, entry.isPing = false -> (entry.Terminal <-> entry.Ended) := by
  have served : Returns (fun _ => True) (processOndemandRequest fuel call)
      fun handled _ => Accounted handled := by
    refine triple_bind _ (returns_trivial _ _) fun _ => ?_
    refine triple_bind _ (returns_trivial _ _) fun _ => ?_
    refine triple_bind _ (returns_trivial _ _) fun _ => ?_
    exact processOdmQueue_accounted fuel call.behind call.commands _
  exact served.returned trivial returned

/-- An instantaneous profile of the gateway's own meter. -/
def sampleCommand : Bytes :=
  ascii "7:3CC1F60100000001:0:3CC1F60100000001:01:2B07010E01000042"

def sampleHeader : Bytes := [0x2E, 0x18, 0x07, 0, 0, 0x00, 0x01, 0, 0, 0, 1, 0, 0, 0, 0, 0, 1]

def sampleRequest : OdmRequest :=
  { requestId := 7, downloadType := 1, gatewayId := ascii "3CC1F60100000001"
    meterMacAddress := ascii "3CC1F60100000001", meterSerialNo := ascii "00000001"
    packet := sampleHeader ++ [0x2B, 0x07, 0x01, 0x0E, 0x01, 0x00, 0x00, 0x42]
    pmeshHeader := sampleHeader }

theorem sampleCommand_id : requestIdOf (split colon sampleCommand) = .ok 7 := by decide +kernel

theorem sampleCommand_prepared (lookup : PathLookup) :
    prepareOdm lookup sampleCommand = .ok (.request sampleRequest) := by
  cases lookup <;> decide +kernel

-- the parsed request stands in for its text, which a run would read again at every byte
theorem sampleCommand_run (fuel : Nat) :
    processOndemandRequest fuel { commands := [sampleCommand] } = do
      updateDlmsOnDemandRequestStatus 7 .inProgress 0
      let _ <- nextLookup
      let exit <- serveRequest fuel sampleRequest
      let status <- observe fun client => client.gateway.status
      if staysQueued (some (1, exit)) status then
        updateDlmsOnDemandRequestStatus 7 .gwDisconnected 0
        let updates <- takenUpdates
        return [{ requestId := 7, served := some (1, exit), popped := false, updates := updates }]
      else
        let updates <- takenUpdates
        return [{ requestId := 7, served := some (1, exit), popped := true, updates := updates }] := by
  simp only [processOndemandRequest, processOdmQueue, processOdmCommand, sampleCommand_id,
    sampleCommand_prepared, processPrepared, awaitNms, reportAll, sweepOdm, orTerminate,
    List.append_nil, pure_bind, bind_assoc]
  rfl

/-- A gateway that does not answer: the command is swept behind the status of its request. -/
theorem ondemand_terminal_iff_silent :
    Handled.Terminal { requestId := 7, served := some (1, .reported .failedNoGwResponse)
                       popped := false
                       updates := [{ requestId := 7, status := .inProgress },
                         { requestId := 7, status := .failedNoGwResponse },
                         { requestId := 7, status := .gwDisconnected }] } := by
  have accounted := ondemand_terminal_iff 3 { commands := [sampleCommand] } {} _
    [{ requestId := 7, served := some (1, .reported .failedNoGwResponse), popped := false
       updates := [{ requestId := 7, status := .inProgress },
         { requestId := 7, status := .failedNoGwResponse },
         { requestId := 7, status := .gwDisconnected }] }]
    (returned_of_fst _ _ _ (by rw [sampleCommand_run]; decide +kernel))
  exact (accounted _ (List.mem_singleton_self _) rfl).mpr trivial

/-- The first `send` fails: the accepted command is popped with its request still in progress. -/
theorem failed_send_left_in_progress :
    (produce (ascii "3CC1F60100000001") {} sampleCommand).map Prod.fst = .ok (.odm sampleCommand) /\
      (processOndemandRequest 3 { commands := [sampleCommand] }
        { inputs := { send := fun _ => -1 } }).1 =
        some [{ requestId := 7, served := some (1, .sendFailed), popped := true
                updates := [{ requestId := 7, status := .inProgress }] }] /\
      lastStatus 7 [{ requestId := 7, status := .inProgress }] = some .inProgress := by
  refine ⟨by decide +kernel, ?_, by decide⟩
  rw [sampleCommand_run]
  decide +kernel

end Client

end Hes
