import Hes.Fuota.History
import Hes.Fuota.SyncTime

set_option autoImplicit false

namespace Hes.Fuota

open Prog Text Mqtt Transition
open SyncTime (unsilencing commandWritten remaining wellFormed)

/-- The request that the status closes: 21 is the success, and error code 0 is final. -/
def closes : Event -> Option Int
  | .updated requestId status errorCode =>
    if (status = 21 && errorCode = 1) || errorCode = 0 then some requestId else none
  | _ => none

def isUnsilence (command : Bytes) : Bool :=
  [0, 1, 2, 3].any fun step => unsilenceCommand step = some command

/-- The request that an event serves: its status is updated, or a command is transmitted for it that
does not unsilence the network. -/
def serves : Event -> Option Int
  | .updated requestId _ _ => some requestId
  | .sent sent =>
    if unsilencing sent.state && isUnsilence sent.built.command then none else some sent.requestId
  | .imageSent requestId _ => some requestId
  | _ => none

/-- The status that was final is replaced, or its request is served further. -/
def Disturbs (final later : Event) : Prop :=
  exists requestId, closes final = some requestId /\ serves later = some requestId /\ later ≠ final

def Sticks (log : List Event) : Prop := log.Pairwise fun final later => ¬ Disturbs final later

def Over (log : List Event) (requestId : Int) : Prop := ∃ event ∈ log, closes event = some requestId

instance (log : List Event) (requestId : Int) : Decidable (Over log requestId) :=
  inferInstanceAs (Decidable (∃ event ∈ log, closes event = some requestId))

-- what a step of the machine goes wrong by
section Conditions

/-- The request of the first command, where `continueWith` takes it up. -/
def nextRequest (queue : List Bytes) : Option Int :=
  queue.head?.bind fun command =>
    let parts := split colon command
    if parts.length < 7 then none else (stoi (part parts 0)).toOption

/-- The request that `processFuotaQueue` takes up. -/
def takenRequest (fuota : Fuota) : Option Int :=
  (nextRequest (remaining fuota)).filter fun _ =>
    (remaining fuota).head?.any fun command => wellFormed (split colon command)

/-- The guard of the status updates knows that the request is over. -/
def guarded (fuota : Fuota) : Bool :=
  (fuota.statics.lastStatusMap fuota.client.requestId).map Prod.snd = some 0

/-- Every route fits into a frame. -/
def ShortRoutes (inputs : Inputs) : Prop :=
  forall index meters, inputs.meters index = some meters -> ∀ meter ∈ meters, meter.hopCount ≤ 32

/-- What is framed for the network from here on are its unsilence commands. -/
structure Quiet (fuota : Fuota) : Prop where
  route : fuota.machine.useAlternateFuotaRoute = false
  routes : ShortRoutes fuota.inputs
  hopCount : toUInt8 fuota.client.hopCount ≤ 32

/-- The states whose reply, refused for the last time, ends the request with error code 0. -/
def endsFinal (state : FuotaState) : Bool :=
  state = .newFwimageCrcCalculate || state = .activateNewFwimage || state = .sendActivateCmd ||
    state = .readAndCompareFwVersion

/-- The reply is refused for the last time: the request is given up. -/
def givesUp (fuota : Fuota) (data : Bytes) : Bool :=
  !accepts fuota.machine.ondemandFuotaState data &&
    match fuota.machine.ondemandFuotaState with
    | .sectorRead | .fwimageOfSectorCount | .eraseFlash | .fwImageEndofPageTransfer
    | .activateNewFwimage | .sendActivateCmd | .readAndCompareFwVersion =>
      3 ≤ fuota.machine.cntx.retryCount
    | .newFwimageCrcCalculate => 2 ≤ fuota.machine.cntx.retryCount
    | _ => false

/-- The gateway is unsilenced, or does not answer as it should. -/
def finishes (fuota : Fuota) (data : Bytes) : Bool :=
  if accepts .gatewayPathUnsilence data then
    !(stepDone data && fuota.machine.fuotaGatewayUnsilenceState < atEnableFlashexit)
  else byteAt data 2 ≠ meshCommissionPacketType

/-- Up to the exchange for its subpage, what a turn of the upload does; without a subpage it ends. -/
def beginSubpage : Prog Fuota (Option ImageFrame) := do
  let fuota <- observe id
  let sectorValue := fuota.firmware.sectorValue
  let headerLen := fuota.upload.fuotaCmdHeaderLen
  if fuota.upload.pageCount < maxPageCount fuota.firmware.totalFirmwaresize sectorValue then
    let lastSubpage : Bool := fuota.upload.subpageCount.toNat = maxSubPageCount sectorValue headerLen - 1
    let position <- filePosition
    let payload <- fread (if lastSubpage then minPayloadSize sectorValue headerLen
      else maxPayloadSize headerLen)
    if payload = [] then return none
    else
      buildSubpage payload lastSubpage
      let upload <- observe fun fuota => fuota.upload
      updateStatus 11 1
      return some {
        headerLen := upload.fuotaCmdHeaderLen
        bytes := slice upload.imageTfCommand 0 ((upload.fuotaCmdHeaderLen + 8 + payload.length) % 256)
        position := position
        lastSubpage := lastSubpage }
  else return none

/-- The machine whenever the image frame of one subpage is about to be written. -/
def attempts (fuota : Fuota) : List Fuota :=
  match beginSubpage fuota with
  | (some (some frame), begun) =>
    (entered (fun _ => exchangeTurn frame) begun.inputs.fuel () begun).map Prod.snd
  | _ => []

/-- And that of every subpage, from the start of the loop on. -/
def exchanges (fuota : Fuota) : List Fuota :=
  (entered uploadTurn fuota.inputs.fuel () fuota).flatMap fun turn => attempts turn.2

/-- The image frame is written, and the read of its reply fails. -/
def replyLost (fuota : Fuota) : Bool :=
  fuota.upload.fuotaImagetfRetryCount < maxFuotaRetries && fuota.inputs.write fuota.counters.writes &&
    fuota.inputs.arrival fuota.counters.arrivals = .failed

/-- A reply for a request that is not over. -/
structure Served (fuota : Fuota) (data : Bytes) : Prop where
  -- the success is stored before the versions are compared
  activated : fuota.machine.ondemandFuotaState = .sendActivateCmd -> accepts .sendActivateCmd data = false
  uploaded : fuota.machine.ondemandFuotaState = .eraseFlash -> accepts .eraseFlash data = true ->
    ShortRoutes fuota.inputs /\ toUInt8 fuota.client.hopCount ≤ 32 /\
      ∀ exchange ∈ exchanges (startUpload (replyEraseFlash data fuota).2).2, replyLost exchange = false
  refused : fuota.machine.ondemandFuotaState = .networkUnsilence ->
    accepts .networkUnsilence data = false -> byteAt data 2 = meshCommissionPacketType -> Quiet fuota
  ended : givesUp fuota data = true -> endsFinal fuota.machine.ondemandFuotaState = true ->
    (fuota.client.rfMeterFuota = [] -> Quiet fuota) /\
      (∀ command ∈ fuota.client.rfMeterFuota.head?, 7 ≤ (split colon command).length) /\
        nextRequest fuota.client.rfMeterFuota ≠ some fuota.client.requestId
  continued : givesUp fuota data = true \/
      fuota.machine.ondemandFuotaState = .readAndCompareFwVersion /\
        accepts .readAndCompareFwVersion data = true ->
    forall next, nextRequest fuota.client.rfMeterFuota = some next -> ¬ Over fuota.log next

/-- A reply for a request that is over: the machine goes on with the unsilence sequences alone. -/
def Rests (fuota : Fuota) (data : Bytes) : Prop :=
  match fuota.machine.ondemandFuotaState with
  | .idle | .unset => True
  | .rollbackToNormalCommMode => fuota.client.rfMeterFuota = []
  | .gatewayPathSilence | .targetNodeSilence | .networkSilence =>
    accepts fuota.machine.ondemandFuotaState data = false /\ fuota.machine.cntxActive = false
  | .networkUnsilence =>
    Quiet fuota /\ (accepts .networkUnsilence data = true \/
      byteAt data 2 = meshCommissionPacketType -> guarded fuota = true)
  | .targetNodeUnsilence => Quiet fuota
  | .gatewayPathUnsilence =>
    Quiet fuota /\ (finishes fuota data = true -> fuota.client.rfMeterFuota = [])
  | _ => False

/-- The timeout has nothing to do, or repeats an unsilence command. -/
def Repeats (fuota : Fuota) : Prop :=
  fuota.client.timeoutState ≠ .timerFuotaResponse \/ fuota.machine.waitingForResponse = false \/
    fuota.machine.cntx.retryCount < fuota.machine.cntx.maxRetries /\
      unsilencing fuota.machine.ondemandFuotaState = true /\
        isUnsilence (commandWritten fuota.machine fuota.radio) = true

def resumes (fuota : Fuota) (path name : Bytes) : Bool :=
  name ≠ [] && (fuota.inputs.files (path ++ ascii "/" ++ name)).isSome &&
    fuota.inputs.fopen fuota.counters.fopens

/-- A request that is over is neither taken up nor served again. -/
def Allowed (fuota : Fuota) (action : Action) : Prop :=
  match action with
  | .queue => ∀ next ∈ takenRequest fuota, ¬ Over fuota.log next
  | .reply data =>
    if Over fuota.log fuota.client.requestId then Rests fuota data else Served fuota data
  | .pollTimeout => Over fuota.log fuota.client.requestId -> Repeats fuota
  | .resume path name => Over fuota.log fuota.client.requestId -> resumes fuota path name = false
  | .packet | .enqueue _ | .cancel _ => True

end Conditions

section Histories

/-- Nothing serves a request behind its final status. -/
def Settled (log : List Event) : Prop :=
  log.Pairwise fun final later => forall requestId, closes final = some requestId ->
    serves later ≠ some requestId

theorem settled_sticks {log : List Event} (settled : Settled log) : Sticks log := by
  apply settled.imp
  rintro final later untouched ⟨requestId, closed, served, _⟩
  exact untouched requestId closed served

theorem closes_serves {event : Event} {requestId : Int} (closed : closes event = some requestId) :
    serves event = some requestId := by
  cases event with
  | updated id status errorCode =>
    simp only [closes] at closed
    split at closed
    next => simpa [serves] using closed
    next => simp at closed
  | _ => simp [closes] at closed

theorem over_append (log events : List Event) (requestId : Int) :
    Over (log ++ events) requestId <->
      Over log requestId \/ ∃ event ∈ events, closes event = some requestId := by
  simp [Over, or_and_right, exists_or]

/-- Only requests that are not over are served. -/
theorem settled_append (log events : List Event) (settled : Settled log) (behind : Settled events)
    (unclosed : ∀ event ∈ events, forall requestId, serves event = some requestId -> ¬ Over log requestId) :
    Settled (log ++ events) := by
  apply List.pairwise_append.mpr
  refine ⟨settled, behind, ?_⟩
  intro final before later inside requestId closed served
  exact unclosed later inside requestId served ⟨final, before, closed⟩

/-- The request is served, and does not come to its end. -/
structure Serves (requestId : Int) (event : Event) : Prop where
  unclosed : closes event = none
  own : forall served, serves event = some served -> served = requestId

theorem unclosed_settled {events : List Event} (unclosed : ∀ event ∈ events, closes event = none) :
    Settled events := by
  apply List.Pairwise.imp_of_mem (R := fun _ _ => True)
  next =>
    intro final later before _ _ requestId closed
    simp [unclosed final before] at closed
  next => exact List.pairwise_of_forall fun _ _ => trivial

def Resting (event : Event) : Prop := serves event = none

theorem Resting.unclosed {event : Event} (resting : Resting event) : closes event = none := by
  cases closed : closes event with
  | none => rfl
  | some requestId =>
    have served : none = some requestId := resting.symm.trans (closes_serves closed)
    cases served

theorem Resting.own {event : Event} (resting : serves event = none) (requestId : Int) :
    Serves requestId event where
  unclosed := Resting.unclosed resting
  own served known := by
    have both : none = some served := resting.symm.trans known
    cases both

/-- The history is in order, and the request of the machine is not over. -/
structure Live (fuota : Fuota) : Prop where
  settled : Settled fuota.log
  unclosed : ¬ Over fuota.log fuota.client.requestId

def Serving (before after : Fuota) : Prop :=
  after.client.requestId = before.client.requestId /\ Logs (Serves before.client.requestId) before after

theorem logs_mono {first second : Event -> Prop} (weaker : forall event, first event -> second event)
    {before after : Fuota} (logs : Logs first before after) : Logs second before after := by
  obtain ⟨events, logged, known⟩ := logs
  exact ⟨events, logged, fun event inside => weaker event (known event inside)⟩

theorem unclosed_over {before after : Fuota} (logs : Logs (fun event => closes event = none) before after)
    (requestId : Int) : Over after.log requestId <-> Over before.log requestId := by
  obtain ⟨events, logged, unclosed⟩ := logs
  rw [logged, over_append]
  constructor
  next =>
    rintro (past | ⟨event, inside, closed⟩)
    next => exact past
    next => simp [unclosed event inside] at closed
  next => exact Or.inl

theorem Serving.live {before after : Fuota} (serving : Serving before after) (live : Live before) :
    Live after := by
  obtain ⟨same, logs⟩ := serving
  have past := unclosed_over (logs_mono (fun _ serves => serves.unclosed) logs)
  obtain ⟨events, logged, served⟩ := logs
  constructor
  next =>
    rw [logged]
    apply settled_append _ _ live.settled
    next => exact unclosed_settled fun event inside => (served event inside).unclosed
    next =>
      intro event inside requestId known
      rw [(served event inside).own requestId known]
      exact live.unclosed
  next =>
    rw [same, past]
    exact live.unclosed

theorem resting_settled {before after : Fuota} (logs : Logs Resting before after)
    (settled : Settled before.log) : Settled after.log := by
  obtain ⟨events, logged, resting⟩ := logs
  rw [logged]
  apply settled_append _ _ settled
  next => exact unclosed_settled fun event inside => (resting event inside).unclosed
  next =>
    intro event inside requestId known
    have both : none = some requestId := (resting event inside).symm.trans known
    cases both

theorem told_settled (requestStatus errorCode : Nat) (fuota : Fuota) (live : Live fuota) :
    Settled (updateStatus requestStatus errorCode fuota).2.log := by
  simp only [updateStatus, ondemandFuotaUpdateStatus, observe, update, bind]
  split
  next => exact live.settled
  next =>
    apply settled_append _ _ live.settled (List.pairwise_singleton _ _)
    intro event inside requestId known
    rw [List.mem_singleton] at inside
    subst inside
    have own : fuota.client.requestId = requestId := by simpa [serves] using known
    exact own ▸ live.unclosed

end Histories

section Frames

theorem serving_refl (fuota : Fuota) : Serving fuota fuota := ⟨rfl, logs_refl fuota⟩

theorem serving_trans (first second third : Fuota) (before : Serving first second)
    (behind : Serving second third) : Serving first third :=
  ⟨behind.1.trans before.1, logs_trans first second third before.2 (before.1 ▸ behind.2)⟩

/-- The machine serves its request, and does not begin to upload. -/
structure Working (before after : Fuota) : Prop where
  serving : Serving before after
  state : after.machine.ondemandFuotaState = .fwImageTransfer ->
    before.machine.ondemandFuotaState = .fwImageTransfer

def Works (requestId : Int) (event : Event) : Prop :=
  Serves requestId event /\ event ≠ .assigned .fwImageTransfer

theorem working_frame : Frame Working Works where
  refl fuota := ⟨serving_refl fuota, id⟩
  trans first second third before behind :=
    ⟨serving_trans first second third before.serving behind.serving,
      fun state => before.state (behind.state state)⟩
  silent before after unmoved same :=
    ⟨⟨unmoved.requestId, logs_same same⟩, fun state => unmoved.state ▸ state⟩
  event before after event unmoved known logged :=
    ⟨⟨unmoved.requestId, logs_event event known.1 logged⟩, fun state => unmoved.state ▸ state⟩
  machine fuota machine same := ⟨⟨rfl, logs_same rfl⟩, fun state => same ▸ state⟩
  assign fuota state known :=
    ⟨⟨rfl, logs_event (.assigned state) known.1 rfl⟩, fun uploading => by
      have same : state = .fwImageTransfer := uploading
      exact absurd (congrArg Event.assigned same) known.2⟩

theorem serves_sends : Sends Serves where
  sent requestId sent own := by
    constructor
    next => rfl
    next =>
      intro served known
      simp only [serves] at known
      split at known
      next => simp at known
      next => rw [← own, Option.some.inj known]
  updated requestId status unclosed := by
    constructor
    next => simp [closes, unclosed]
    next =>
      intro served known
      exact (Option.some.inj known).symm

theorem works_visits : Visits Works where
  sent requestId sent own := ⟨serves_sends.sent requestId sent own, by simp⟩
  updated requestId status unclosed := ⟨serves_sends.updated requestId status unclosed, by simp⟩
  assigned requestId state other := ⟨Resting.own rfl requestId, by simpa using other⟩
  dequeued requestId command := ⟨Resting.own rfl requestId, by simp⟩
  opened requestId path := ⟨Resting.own rfl requestId, by simp⟩
  acknowledged requestId node command := ⟨Resting.own rfl requestId, by simp⟩
  recorded requestId node status := ⟨Resting.own rfl requestId, by simp⟩

/-- The machine uploads: it stays where it is. -/
structure Transferring (before after : Fuota) : Prop where
  unmoved : Unmoved before after
  logs : Logs (Serves before.client.requestId) before after

theorem unmoved_refl (fuota : Fuota) : Unmoved fuota fuota := ⟨rfl, rfl, rfl, rfl, rfl⟩

theorem unmoved_trans (first second third : Fuota) (before : Unmoved first second)
    (behind : Unmoved second third) : Unmoved first third where
  inputs := behind.inputs.trans before.inputs
  requestId := behind.requestId.trans before.requestId
  hopCount := behind.hopCount.trans before.hopCount
  state := behind.state.trans before.state
  route := behind.route.trans before.route

theorem transferring_frame : SendFrame Transferring Serves where
  refl fuota := ⟨unmoved_refl fuota, logs_refl fuota⟩
  trans first second third before behind :=
    ⟨unmoved_trans first second third before.unmoved behind.unmoved,
      logs_trans first second third before.logs (before.unmoved.requestId ▸ behind.logs)⟩
  silent _ _ unmoved same := ⟨unmoved, logs_same same⟩
  event _ _ event unmoved known logged := ⟨unmoved, logs_event event known logged⟩

theorem Transferring.serving {before after : Fuota} (uploading : Transferring before after) :
    Serving before after := ⟨uploading.unmoved.requestId, uploading.logs⟩

end Frames

section Unsilencing

/-- The network is being unsilenced, and only unsilence commands are framed for it. -/
structure QuietlyUnsilencing (fuota : Fuota) : Prop extends Quiet fuota where
  state : unsilencing fuota.machine.ondemandFuotaState = true

/-- The routes of the nodes are known as well. -/
structure Routed (fuota : Fuota) : Prop extends QuietlyUnsilencing fuota where
  known : ∀ meter ∈ fuota.radio.gatewayRouteInfo, meter.hopCount ≤ 32

/-- A leaf is addressed. -/
structure Addressed (fuota : Fuota) : Prop extends Routed fuota where
  disable : fuota.machine.useAlternateFuotarouteDisable = true
  near : fuota.radio.currentFuotaRoute.hopCount ≤ 32

/-- A step of its sequence is done. -/
structure Stepping (fuota : Fuota) : Prop extends Addressed fuota where
  step : fuota.machine.networkSilenceState ≤ atEnableFlashexit

/-- The frame in the buffer carries an unsilence command. -/
structure Framed (fuota : Fuota) : Prop extends Stepping fuota where
  built : isUnsilence fuota.radio.built.command = true

/-- No request is served, up to where `known` holds. -/
def Quietly (known : Fuota -> Prop) (before after : Fuota) : Prop :=
  known after /\ Logs Resting before after

def Keeps (known : Fuota -> Prop) (before after : Fuota) : Prop :=
  known before -> Quietly known before after

variable {known : Fuota -> Prop}

theorem keeps_refl (fuota : Fuota) : Keeps known fuota fuota := fun held => ⟨held, logs_refl fuota⟩

theorem keeps_trans (first second third : Fuota) (before : Keeps known first second)
    (behind : Keeps known second third) : Keeps known first third := by
  intro held
  obtain ⟨middle, logged⟩ := before held
  obtain ⟨last, continued⟩ := behind middle
  exact ⟨last, logs_trans first second third logged continued⟩

theorem keeps_bind {A B : Type} {first : Prog Fuota A} {next : A -> Prog Fuota B}
    (before : Respects (Keeps known) first) (behind : forall value, Respects (Keeps known) (next value)) :
    Respects (Keeps known) (first >>= next) := respects_bind keeps_trans before behind

/-- The rule for one state, with what is known in between. -/
theorem quietly_bind {A B : Type} {first : Prog Fuota A} {next : A -> Prog Fuota B} {fuota : Fuota}
    (before : Quietly known fuota (first fuota).2)
    (behind : forall value after, first fuota = (some value, after) -> known after ->
      Quietly known after (next value after).2) : Quietly known fuota ((first >>= next) fuota).2 := by
  simp only [bind]
  cases ran : first fuota with
  | mk outcome after =>
    rw [ran] at before
    cases outcome with
    | none => exact before
    | some value =>
      obtain ⟨held, logged⟩ := before
      obtain ⟨last, continued⟩ := behind value after ran held
      exact ⟨last, logs_trans fuota after _ logged continued⟩

theorem keeps_pure {A : Type} (value : A) : Respects (Keeps known) (pure value : Prog Fuota A) :=
  respects_pure keeps_refl value

theorem keeps_observe {A : Type} (view : Fuota -> A) : Respects (Keeps known) (observe view) :=
  respects_observe keeps_refl view

theorem isUnsilence_step (step : Nat) (command : Bytes) (known : unsilenceCommand step = some command) :
    isUnsilence command = true := by
  match step, known with
  | 0, known | 1, known | 2, known | 3, known => simp [isUnsilence, known]

theorem unsilenceCommand_some (step : Nat) (inside : step ≤ atEnableFlashexit) :
    exists command, unsilenceCommand step = some command := by
  match step, inside with
  | 0, _ | 1, _ | 2, _ | 3, _ => exact ⟨_, rfl⟩

/-- A command is built and transmitted: an unsilence command where that is what is framed. -/
theorem buildAndStoreFuotaCmd_rests (fuota : Fuota)
    (state : unsilencing fuota.machine.ondemandFuotaState = true)
    (command : isUnsilence (commandWritten fuota.machine fuota.radio) = true) :
    Logs Resting fuota (buildAndStoreFuotaCmd fuota).2 := by
  obtain ⟨sent, logged, place, _, sentCommand⟩ := SyncTime.buildAndStoreFuotaCmd_log fuota
  exact logs_event (.sent sent) (by simp [Resting, serves, place, state, sentCommand, command]) logged

/-- What building and transmitting a command leaves. -/
structure Stored (before after : Fuota) : Prop where
  unmoved : Unmoved before after
  disable : after.machine.useAlternateFuotarouteDisable = before.machine.useAlternateFuotarouteDisable
  step : after.machine.networkSilenceState = before.machine.networkSilenceState
  known : after.radio.gatewayRouteInfo = before.radio.gatewayRouteInfo
  near : after.radio.currentFuotaRoute = before.radio.currentFuotaRoute
  built : after.radio.built.command = commandWritten before.machine before.radio

theorem buildNetworkCommand_ran (fuota : Fuota) : exists radio,
    buildNetworkCommand fuota = (some (), { fuota with radio := radio }) /\
      radio.gatewayRouteInfo = fuota.radio.gatewayRouteInfo /\
      radio.currentFuotaRoute = fuota.radio.currentFuotaRoute /\
      radio.built.command = commandWritten fuota.machine fuota.radio := by
  unfold commandWritten buildNetworkCommand
  rw [ran_bind (show observe _ fuota = (some _, fuota) from rfl)]
  cases known : networkCommand fuota.machine with
  | none => exact ⟨fuota.radio, rfl, rfl, rfl, by simp⟩
  | some command =>
    refine ⟨_, rfl, ?_⟩
    by_cases far : fuota.radio.currentFuotaRoute.hopCount > 32 <;> simp [headerInit, placeFrame, far]

theorem buildAndStoreFuotaCmd_stored (fuota : Fuota) :
    Stored fuota (buildAndStoreFuotaCmd fuota).2 := by
  obtain ⟨radio, ran, known, near, built⟩ := buildNetworkCommand_ran fuota
  rw [buildAndStoreFuotaCmd, ran_bind ran]
  rw [ran_bind (show writeFrame { fuota with radio := radio } =
    (some (fuota.inputs.write fuota.counters.writes), _) from rfl)]
  split
  next => exact ⟨⟨rfl, rfl, rfl, rfl, rfl⟩, rfl, rfl, known, near, built⟩
  next => exact ⟨⟨rfl, rfl, rfl, rfl, rfl⟩, rfl, rfl, known, near, built⟩

theorem stepping_command (fuota : Fuota) (addressed : Stepping fuota) :
    isUnsilence (commandWritten fuota.machine fuota.radio) = true := by
  obtain ⟨command, known⟩ := unsilenceCommand_some _ addressed.step
  have near : ¬ fuota.radio.currentFuotaRoute.hopCount > 32 := UInt8.not_lt.mpr addressed.near
  have written : commandWritten fuota.machine fuota.radio = command := by
    simp [commandWritten, near, networkCommand, addressed.route, addressed.disable, known]
  rw [written]
  exact isUnsilence_step _ command known

theorem Unmoved.unsilencing {before after : Fuota} (unmoved : Unmoved before after)
    (unsilencing : QuietlyUnsilencing before) : QuietlyUnsilencing after where
  route := unmoved.route.trans unsilencing.route
  routes := unmoved.inputs ▸ unsilencing.routes
  hopCount := unmoved.hopCount ▸ unsilencing.hopCount
  state := unmoved.state ▸ unsilencing.state

theorem Stored.stepping {before after : Fuota} (stored : Stored before after)
    (stepping : Stepping before) : Stepping after where
  toQuietlyUnsilencing := stored.unmoved.unsilencing stepping.toQuietlyUnsilencing
  known := stored.known ▸ stepping.known
  disable := stored.disable.trans stepping.disable
  near := stored.near ▸ stepping.near
  step := stored.step ▸ stepping.step

theorem writeFrame_keeps : Respects (Keeps Framed) writeFrame := by
  intro fuota framed
  have after : Framed (writeFrame fuota).2 :=
    { framed with }
  refine ⟨after, logs_event (.sent _) ?_ rfl⟩
  simp [Resting, serves, framed.state, framed.built]

theorem waitForSocketResponse_keeps : Respects (Keeps Framed) waitForSocketResponse :=
  waitForSocketResponse_respects keeps_refl keeps_trans writeFrame_keeps
    fun _ framed => ⟨{ framed with }, logs_same rfl⟩

theorem executeStep_keeps (attempts : Nat) : Respects (Keeps Stepping) (executeStep attempts) := by
  induction attempts with
  | zero => exact keeps_pure false
  | succ attempts ih =>
    intro fuota stepping
    have command := stepping_command fuota stepping
    have stored := buildAndStoreFuotaCmd_stored fuota
    have rests := buildAndStoreFuotaCmd_rests fuota stepping.state command
    have again : Stepping (buildAndStoreFuotaCmd fuota).2 := stored.stepping stepping
    obtain ⟨written, ran⟩ := SyncTime.buildAndStoreFuotaCmd_returns fuota
    have answered : Quietly Stepping (buildAndStoreFuotaCmd fuota).2
        (waitForSocketResponse (buildAndStoreFuotaCmd fuota).2).2 := by
      obtain ⟨framed, waited⟩ := waitForSocketResponse_keeps _ { again with built := stored.built ▸ command }
      exact ⟨framed.toStepping, waited⟩
    rw [executeStep]
    apply quietly_bind ⟨again, rests⟩
    intro written after ran _
    have same : (buildAndStoreFuotaCmd fuota).2 = after := by rw [ran]
    rw [same] at again answered
    split
    next =>
      apply quietly_bind answered
      intro success heard _ held
      split
      next => exact ⟨{ held with }, logs_event (.acknowledged _ _) rfl rfl⟩
      next => exact ih heard held
    next => exact ih after again

theorem executeFuotasequence_keeps (states : List Nat) (inside : ∀ state ∈ states, state ≤ atEnableFlashexit) :
    Respects (Keeps Addressed) (executeFuotasequence states) := by
  induction states with
  | nil => exact keeps_pure true
  | cons state rest ih =>
    intro fuota addressed
    have stepping : Stepping (setMachine (fun machine =>
        { machine with networkSilenceState := state }) fuota).2 :=
      { addressed with step := inside state (by simp) }
    obtain ⟨done, logged⟩ := executeStep_keeps 3 _ stepping
    apply quietly_bind ⟨{ addressed with }, logs_same rfl⟩
    intro _ begun ran _
    obtain rfl : _ = begun := congrArg Prod.snd ran
    apply quietly_bind ⟨done.toAddressed, logged⟩
    intro answered after _ held
    split
    next => exact ih (fun state behind => inside state (List.mem_cons_of_mem _ behind)) after held
    next => exact ⟨held, logs_refl after⟩

theorem computeRouterPath_short (routes : List MeterVitalInfo) (targetMac : Bytes) (route : RouterPath)
    (short : ∀ meter ∈ routes, meter.hopCount ≤ 32)
    (found : computeRouterPath routes targetMac = some route) : route.hopCount ≤ 32 := by
  obtain ⟨entry, present, same⟩ := Option.map_eq_some_iff.mp found
  rw [← same]
  exact short entry (List.mem_of_find?_eq_some present)

theorem sendFuotaDisableToLeafNodes_keeps (leaf : MeterVitalInfo) :
    Respects (Keeps Routed) (sendFuotaDisableToLeafNodes leaf) := by
  intro fuota routed
  rw [sendFuotaDisableToLeafNodes]
  cases found : computeRouterPath fuota.radio.gatewayRouteInfo leaf.meterMacAddress with
  | none =>
    have ran : addressLeaf leaf fuota = (some false, { fuota with
        radio := { fuota.radio with currentFuotaTargetMac := leaf.meterMacAddress } }) := by
      simp [addressLeaf, setRadio, observe, update, bind, pure, found]
    rw [ran_bind ran]
    exact ⟨{ routed with }, logs_same rfl⟩
  | some route =>
    let path : RouterPath :=
      { paths := slice route.paths 0 (min route.hopCount.toNat maxRouteHops * 4), hopCount := route.hopCount }
    let placed : Fuota := { fuota with
      radio := { fuota.radio with
        currentFuotaTargetMac := leaf.meterMacAddress, currentFuotaRoute := path } }
    have ran : addressLeaf leaf fuota = (some true, placed) := by
      simp [addressLeaf, setRadio, observe, update, bind, pure, found, path, placed]
    have near : route.hopCount ≤ 32 := computeRouterPath_short _ _ route routed.known found
    have sequence : Respects (Keeps Addressed) executeFuotaSequenceForUnsilenceNetwork :=
      executeFuotasequence_keeps sequenceSteps (by decide)
    rw [ran_bind ran, if_pos rfl]
    change Quietly Routed placed _
    apply quietly_bind ⟨{ routed with }, logs_same rfl⟩
    intro _ begun disabled _
    have addressed : Addressed begun := by
      rw [← show _ = begun from congrArg Prod.snd disabled]
      exact { routed with disable := rfl, near := near }
    obtain ⟨done, logged⟩ := sequence begun addressed
    apply quietly_bind ⟨done.toRouted, logged⟩
    exact fun success after _ held => ⟨{ held with }, logs_same rfl⟩

theorem disableLeaf_keeps (leaf : MeterVitalInfo) : Respects (Keeps Routed) (disableLeaf leaf) := by
  apply keeps_bind (sendFuotaDisableToLeafNodes_keeps leaf)
  intro success
  have recorded (status : Nat) : Respects (Keeps Routed)
      (insertUpdateUnsilencedMeter leaf.meterMacAddress status leaf.hopCount) :=
    fun _ held => ⟨{ held with }, logs_event (.recorded _ _) rfl rfl⟩
  split
  next => exact recorded 0
  next => exact recorded 1

theorem processRffuotaDisableSequence_keeps (ondemandMac : Bytes) :
    Respects (Keeps QuietlyUnsilencing) (processRffuotaDisableSequence ondemandMac) := by
  intro fuota unsilencing
  have counted : QuietlyUnsilencing (getGatewayUndernodes fuota).2 := { unsilencing with }
  cases found : fuota.inputs.meters fuota.counters.metersRead with
  | none =>
    have ran : undernodes fuota = (none, (getGatewayUndernodes fuota).2) := by
      simp [undernodes, getGatewayUndernodes, bind, found, waiting]
    rw [processRffuotaDisableSequence, waited_bind ran]
    exact ⟨counted, logs_same rfl⟩
  | some meters =>
    have ran : undernodes fuota = (some meters, (getGatewayUndernodes fuota).2) := by
      simp [undernodes, getGatewayUndernodes, bind, found, pure]
    rw [processRffuotaDisableSequence, ran_bind ran]
    have short := unsilencing.routes _ meters found
    split
    next => exact ⟨counted, logs_same rfl⟩
    next =>
      let routed : Fuota := (setGatewayRouteInfo meters (getGatewayUndernodes fuota).2).2
      obtain ⟨left, logged⟩ := forEach_respects keeps_refl keeps_trans disableLeaf disableLeaf_keeps
        (filterOutOnDemand (detectLeafNodes meters) ondemandMac) routed { counted with known := short }
      have visited : Quietly QuietlyUnsilencing (getGatewayUndernodes fuota).2
          (visitLeaves disableLeaf meters ondemandMac (getGatewayUndernodes fuota).2).2 :=
        ⟨left.toQuietlyUnsilencing, logged⟩
      apply quietly_bind visited
      exact fun _ after _ held => ⟨{ held with state := rfl }, logs_event (.assigned _) rfl rfl⟩

theorem buildAndStoreFuotaCmd_quietly (fuota : Fuota) (unsilencing : QuietlyUnsilencing fuota)
    (built : isUnsilence fuota.radio.built.command = true) :
    Quietly QuietlyUnsilencing fuota (buildAndStoreFuotaCmd fuota).2 := by
  constructor
  next => exact (buildAndStoreFuotaCmd_stored fuota).unmoved.unsilencing unsilencing
  next =>
    apply buildAndStoreFuotaCmd_rests fuota unsilencing.state
    unfold commandWritten
    split
    next => exact built
    next =>
      cases framed : networkCommand fuota.machine with
      | none => exact built
      | some command =>
        simp only [networkCommand, unsilencing.route, Bool.false_eq_true, if_false] at framed
        split at framed
        next => exact isUnsilence_step _ command framed
        next => cases framed

theorem sendFramed_quietly (fuota : Fuota) (unsilencing : QuietlyUnsilencing fuota)
    (built : isUnsilence fuota.radio.built.command = true) :
    Quietly QuietlyUnsilencing fuota ((buildAndStoreFuotaCmd >>= fun _ => pure ()) fuota).2 := by
  apply quietly_bind (buildAndStoreFuotaCmd_quietly fuota unsilencing built)
  exact fun _ after _ held => ⟨held, logs_refl after⟩

theorem prepareToUnsilenceTheGatewayNode_keeps :
    Respects (Keeps QuietlyUnsilencing) prepareToUnsilenceTheGatewayNode := by
  intro fuota unsilencing
  unfold prepareToUnsilenceTheGatewayNode
  rw [ran_bind (show observe _ fuota = (some _, fuota) from rfl)]
  cases known : unsilenceCommand fuota.machine.fuotaGatewayUnsilenceState with
  | none => exact ⟨unsilencing, logs_refl fuota⟩
  | some command =>
    obtain ⟨radio, framed, _, built⟩ :=
      SyncTime.framePmeshOtaCmdHeader_run meshCommissionPacketType command fuota
    dsimp only
    rw [ran_bind framed]
    exact sendFramed_quietly { fuota with radio := radio } { unsilencing with }
      (built ▸ isUnsilence_step _ command known)

theorem framePmeshFuotaCmdHeaderForTargetNode_run (packetType : UInt8) (command : Bytes) (fuota : Fuota)
    (near : toUInt8 fuota.client.hopCount ≤ 32) : exists radio,
      framePmeshFuotaCmdHeaderForTargetNode packetType command fuota =
        (some (), { fuota with radio := radio }) /\ radio.built.command = command := by
  refine ⟨_, rfl, ?_⟩
  simp [UInt8.not_lt.mpr near, placeFrame]

theorem prepareToUnsilenceTheTargetNode_keeps :
    Respects (Keeps QuietlyUnsilencing) prepareToUnsilenceTheTargetNode := by
  intro fuota unsilencing
  unfold prepareToUnsilenceTheTargetNode
  rw [ran_bind (show observe _ fuota = (some _, fuota) from rfl)]
  cases known : unsilenceCommand fuota.machine.fuotaTargetnodeUnsilenceState with
  | none => exact ⟨unsilencing, logs_refl fuota⟩
  | some command =>
    obtain ⟨radio, framed, built⟩ := framePmeshFuotaCmdHeaderForTargetNode_run meshCommissionPacketType
      command fuota unsilencing.hopCount
    dsimp only
    rw [sendToTarget, ran_bind framed]
    exact sendFramed_quietly { fuota with radio := radio } { unsilencing with }
      (built ▸ isUnsilence_step _ command known)

theorem sendNetworkUnsilence_keeps : Respects (Keeps QuietlyUnsilencing) sendNetworkUnsilence := by
  have changed (change : Radio -> Radio) : Respects (Keeps QuietlyUnsilencing) (setRadio change) :=
    fun _ held => ⟨{ held with }, logs_same rfl⟩
  apply keeps_bind fun _ held => ⟨{ held with }, logs_same rfl⟩
  intro empty
  split
  next =>
    apply keeps_bind (changed _)
    intro _
    apply keeps_bind fun _ held => ⟨{ held with state := rfl }, logs_event (.assigned _) rfl rfl⟩
    exact fun _ => prepareToUnsilenceTheGatewayNode_keeps
  next =>
    have counted : Respects (Keeps QuietlyUnsilencing) undernodes := by
      apply keeps_bind fun _ held => ⟨{ held with }, logs_same rfl⟩
      intro found
      cases found with
      | some meters => exact keeps_pure meters
      | none => exact respects_waiting keeps_refl
    apply keeps_bind counted
    intro meters
    apply keeps_bind (changed _)
    intro _
    apply keeps_bind (changed _)
    intro _
    apply keeps_bind (keeps_observe _)
    exact fun _ => processRffuotaDisableSequence_keeps _

end Unsilencing

section Completion

/-- The states in which no command is sent. -/
def rolledBack (state : FuotaState) : Bool :=
  state = .rollbackToNormalCommMode || state = .idle || state = .unset

/-- The next command may be sent. -/
def MaySend (fuota : Fuota) : Prop :=
  Settled fuota.log /\ (¬ Over fuota.log fuota.client.requestId /\
      fuota.machine.ondemandFuotaState ≠ .fwImageTransfer \/
    QuietlyUnsilencing fuota \/ rolledBack fuota.machine.ondemandFuotaState = true)

/-- The next command may be sent where the program returns. -/
def Leaves (prog : Prog Fuota Unit) (fuota : Fuota) : Prop :=
  match prog fuota with
  | (some _, after) => MaySend after
  | (none, after) => Settled after.log

theorem Live.maySend {fuota : Fuota} (live : Live fuota)
    (state : fuota.machine.ondemandFuotaState ≠ .fwImageTransfer) : MaySend fuota :=
  ⟨live.settled, Or.inl ⟨live.unclosed, state⟩⟩

theorem leaves_of_maySend {prog : Prog Fuota Unit} {fuota : Fuota} (maySend : MaySend (prog fuota).2) :
    Leaves prog fuota := by
  unfold Leaves
  cases ran : prog fuota with
  | mk outcome after =>
    rw [ran] at maySend
    cases outcome with
    | none => exact maySend.1
    | some _ => exact maySend

theorem Working.leaves {prog : Prog Fuota Unit} {fuota : Fuota} (working : Working fuota (prog fuota).2)
    (live : Live fuota) (state : fuota.machine.ondemandFuotaState ≠ .fwImageTransfer) :
    Leaves prog fuota :=
  leaves_of_maySend ((working.serving.live live).maySend fun uploading => state (working.state uploading))

theorem settled_events {fuota after : Fuota} (events : List Event)
    (logged : after.log = fuota.log ++ events) (resting : ∀ event ∈ events, Resting event)
    (settled : Settled fuota.log) : Settled after.log :=
  resting_settled ⟨events, logged, resting⟩ settled

theorem continueWith_leaves (command : Bytes) (fuota : Fuota) (settled : Settled fuota.log)
    (next : forall requestId, nextRequest [command] = some requestId -> ¬ Over fuota.log requestId)
    (unparsed : (split colon command).length < 7 -> MaySend fuota) : Leaves (continueWith command) fuota := by
  let kept : Fuota := { fuota with machine := { fuota.machine with cmdBytes := command } }
  have begun : setMachine (fun machine => { machine with cmdBytes := command }) fuota = (some (), kept) := rfl
  unfold Leaves
  rw [continueWith, ran_bind begun]
  by_cases short : (split colon command).length < 7
  next =>
    have parsed : parseAndUpdateFuotaRequest command kept = (some false, kept) := by
      simp [parseAndUpdateFuotaRequest, short, pure]
    rw [ran_bind parsed]
    obtain ⟨_, live | unsilencing | rolled⟩ := unparsed short
    next => exact ⟨settled, Or.inl live⟩
    next => exact ⟨settled, Or.inr (Or.inl { unsilencing with })⟩
    next => exact ⟨settled, Or.inr (Or.inr rolled)⟩
  next =>
    cases known : stoi (part (split colon command) 0) with
    | error failure =>
      have stopped : parseAndUpdateFuotaRequest command kept = (none, kept) := by
        simp [parseAndUpdateFuotaRequest, short, orStop, known, bind, waiting]
      rw [waited_bind stopped]
      exact settled
    | ok requestId =>
      have parsed : exists after, parseAndUpdateFuotaRequest command kept = (some true, after) /\
          after.client.requestId = requestId /\ after.log = fuota.log := by
        simp [parseAndUpdateFuotaRequest, short, orStop, known, bind, pure, setClient, setFirmware, update,
          kept]
      obtain ⟨after, ran, same, logged⟩ := parsed
      rw [ran_bind ran]
      have taken : nextRequest [command] = some requestId := by
        simp [nextRequest, short, known, Except.toOption]
      have grown : Logs Resting fuota
          { after with log := after.log ++ [.dequeued command] ++ [.assigned .openFile] } :=
        ⟨[.dequeued command, .assigned .openFile], by simp [logged], by simp [Resting, serves]⟩
      refine ⟨resting_settled grown settled,
        Or.inl ⟨?_, show FuotaState.openFile ≠ .fwImageTransfer by decide⟩⟩
      have past := unclosed_over (logs_mono (fun _ resting => Resting.unclosed resting) grown) requestId
      change ¬ Over (after.log ++ [.dequeued command] ++ [.assigned .openFile]) after.client.requestId
      rw [same]
      exact mt past.mp (next requestId taken)

theorem handleFuotaCompletion_leaves (fuota : Fuota) (settled : Settled fuota.log)
    (next : forall requestId, nextRequest fuota.client.rfMeterFuota = some requestId ->
      ¬ Over fuota.log requestId)
    (unparsed : (∃ command ∈ fuota.client.rfMeterFuota.head?, (split colon command).length < 7) ->
      MaySend fuota)
    (emptied : fuota.client.rfMeterFuota = [] -> MaySend (sendNetworkUnsilence
      (setState .networkUnsilence fuota).2).2) : Leaves handleFuotaCompletion fuota := by
  cases queue : fuota.client.rfMeterFuota with
  | nil =>
    have front : dequeueFuota fuota = (some none, fuota) := by simp [dequeueFuota, queue]
    apply leaves_of_maySend
    rw [handleFuotaCompletion, ran_bind front]
    exact emptied queue
  | cons command rest =>
    let shorter : Fuota := { fuota with client := { fuota.client with rfMeterFuota := rest } }
    have front : dequeueFuota fuota = (some (some command), shorter) := by
      simp [dequeueFuota, queue, shorter]
    unfold Leaves
    rw [handleFuotaCompletion, ran_bind front]
    apply continueWith_leaves command shorter settled
    next =>
      intro requestId taken
      exact next requestId (by simpa [queue, nextRequest] using taken)
    next =>
      intro short
      obtain ⟨_, live | unsilencing | rolled⟩ := unparsed ⟨command, by simp [queue], short⟩
      next => exact ⟨settled, Or.inl live⟩
      next => exact ⟨settled, Or.inr (Or.inl { unsilencing with })⟩
      next => exact ⟨settled, Or.inr (Or.inr rolled)⟩

theorem completed_live (fuota : Fuota) (live : Live fuota)
    (state : fuota.machine.ondemandFuotaState ≠ .fwImageTransfer)
    (next : forall requestId, nextRequest fuota.client.rfMeterFuota = some requestId ->
      ¬ Over fuota.log requestId) : Leaves handleFuotaCompletion fuota := by
  apply handleFuotaCompletion_leaves fuota live.settled next
  next => exact fun _ => live.maySend state
  next =>
    intro _
    have unsilences : Working fuota
        ((setState .networkUnsilence >>= fun _ => sendNetworkUnsilence) fuota).2 :=
      respects_bind working_frame.trans
        (assigned_respects working_frame works_visits.toProceeds _ (by decide))
        (fun _ => sendNetworkUnsilence_respects working_frame works_visits) fuota
    exact (unsilences.serving.live live).maySend fun uploading => state (unsilences.state uploading)

theorem completed_over (fuota : Fuota) (settled : Settled fuota.log)
    (quiet : fuota.client.rfMeterFuota = [] -> Quiet fuota)
    (parsed : ∀ command ∈ fuota.client.rfMeterFuota.head?, 7 ≤ (split colon command).length)
    (next : forall requestId, nextRequest fuota.client.rfMeterFuota = some requestId ->
      ¬ Over fuota.log requestId) : Leaves handleFuotaCompletion fuota := by
  -- behind its final status, a request is completed by what unsilences the network alone
  apply handleFuotaCompletion_leaves fuota settled next
  next =>
    rintro ⟨command, front, short⟩
    exact absurd (parsed command front) (by omega)
  next =>
    intro queue
    obtain ⟨unsilencing, logged⟩ := sendNetworkUnsilence_keeps (setState .networkUnsilence fuota).2
      { quiet queue with state := rfl }
    refine ⟨resting_settled logged ?_, Or.inr (Or.inl unsilencing)⟩
    exact settled_events [.assigned .networkUnsilence] rfl (by simp [Resting, serves]) settled

end Completion

end Hes.Fuota
