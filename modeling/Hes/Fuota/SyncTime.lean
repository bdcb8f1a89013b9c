import Hes.Fuota.Machine

set_option autoImplicit false

namespace Hes.Fuota.SyncTime

open Prog Text Mqtt Transition

/-- The gateway's row of `hes_nms_sync_time`. -/
structure Row where
  gatewayAquiredByNms : Bool := false
  gatewayAquiredByHes : Bool := false
  deriving DecidableEq, Repr

-- whether the database carries out the two queries of one call
structure Answers where
  selected : Bool := true
  written : Bool := true
  deriving DecidableEq, Repr

def insertUpdateHesNmsSyncTime (status : Bool) (answers : Answers) (row : Option Row) :
    Bool × Option Row :=
  if !answers.selected then (false, row)
  else
    match row with
    | some found =>
      if status && found.gatewayAquiredByNms then (false, row)
      else if answers.written then (true, some { found with gatewayAquiredByHes := status })
      else (false, row)
    | none => if answers.written then (true, some { gatewayAquiredByHes := status }) else (false, row)

/-- Where the thread of the client is: in `poll`, in `process_ondemand_request` before and behind
the FUOTA queue, or in a pull cycle; `stopped` when a call does not come back. -/
inductive Phase where
  | polling
  | acquiring
  | acquired
  | served
  | cycling
  | stopped
  deriving DecidableEq, Repr

structure Network where
  fuota : Fuota
  row : Option Row := none
  phase : Phase := .polling

inductive Event where
  | ondemand
  | acquire (answers : Answers)
  | giveUp
  | fuotaQueue
  | release (answers : Answers)
  | pollTimeout (due : Bool) (answers : Answers)
  | cycleEnd (answers : Answers)
  | received (data : Bytes)
  | packet
  | enqueue (command : Bytes)
  | cancel (ids : List Bytes)
  | nms (aquired : Bool)
  deriving DecidableEq, Repr

/-- The machine acts; the thread goes on in `next` where it comes back. -/
def Network.act (network : Network) (action : Action) (next : Phase) : Network :=
  match perform action network.fuota with
  | (some (), fuota) => { network with fuota := fuota, phase := next }
  | (none, fuota) => { network with fuota := fuota, phase := .stopped }

/-- The HES side is written with `status`; the thread goes on by the result. -/
def Network.sync (network : Network) (status : Bool) (answers : Answers) (done failed : Phase) :
    Network :=
  let (success, row) := insertUpdateHesNmsSyncTime status answers network.row
  { network with row := row, phase := if success then done else failed }

def Network.timeout (network : Network) (due : Bool) (answers : Answers) : Network :=
  match network.fuota.client.timeoutState with
  | .timerFuotaResponse => network.act .pollTimeout .polling
  -- `hes_start_cycle_activiy`, when a cycle is due and no command waits
  | .timerNone => if due then network.sync true answers .cycling .polling else network
  | .timerPgwidRx => { network with phase := .stopped }

def step : Step Network Event := fun network event =>
  match event, network.phase with
  | .nms aquired, _ =>
    some { network with row := some { network.row.getD {} with gatewayAquiredByNms := aquired } }
  | .enqueue command, phase => some (network.act (.enqueue command) phase)
  | .cancel ids, phase => some (network.act (.cancel ids) phase)
  | _, .stopped => none
  | .received data, phase => some (network.act (.reply data) phase)
  | .packet, phase => some (network.act .packet phase)
  | .ondemand, .polling => some { network with phase := .acquiring }
  | .acquire answers, .acquiring => some (network.sync true answers .acquired .acquiring)
  -- two minutes are over: the queue is processed all the same
  | .giveUp, .acquiring => some { network with phase := .acquired }
  | .fuotaQueue, .acquired => some (network.act .queue .served)
  | .release answers, .served => some (network.sync false answers .polling .polling)
  | .pollTimeout due answers, .polling => some (network.timeout due answers)
  | .cycleEnd answers, .cycling => some (network.sync false answers .polling .polling)
  | _, _ => none

def isSilence (command : Bytes) : Bool :=
  [0, 1, 2, 3].any fun state => silenceCommand state = some command

def unsilencing (state : FuotaState) : Bool :=
  state = .networkUnsilence || state = .targetNodeUnsilence || state = .gatewayPathUnsilence

/-- A silence command is transmitted; the unsilence states share its last two commands. -/
def silences (sent : Sent) : Bool :=
  sent.written && !unsilencing sent.state && isSilence sent.built.command

def sessionBehind (opened : Bool) (event : Fuota.Event) : Bool :=
  match event with
  | .sent sent => opened || silences sent
  | .assigned .rollbackToNormalCommMode | .assigned .idle => false
  | _ => opened

/-- A silence command was transmitted, and the machine has not rolled back since. -/
def inSession (log : List Fuota.Event) : Bool := log.foldl sessionBehind false

def held (row : Option Row) : Bool := row.any Row.gatewayAquiredByHes

def Network.Kept (network : Network) : Prop :=
  inSession network.fuota.log = true -> held network.row = true

/-- The queue behind `dropCompleted`. -/
def remaining (fuota : Fuota) : List Bytes :=
  if fuota.machine.pendingTerminalComplete then
    withoutRequest fuota.machine.pendingTerminalRequestId fuota.client.rfMeterFuota
  else fuota.client.rfMeterFuota

/-- The command in the transmit buffer when it is written: on an alternate route, and while the
leaves are unsilenced, a command for the network takes the place of the one that was framed. -/
def commandWritten (machine : Machine) (radio : Radio) : Bytes :=
  if radio.currentFuotaRoute.hopCount > 32 then radio.built.command
  else (networkCommand machine).getD radio.built.command

/-- The silence command that goes to the gateway. -/
def gatewayCommand (machine : Machine) (radio : Radio) : Option Bytes :=
  (silenceCommand machine.fuotaGatewaySilenceState).map fun command =>
    commandWritten machine { radio with built := { radio.built with command := command } }

/-- The request that is taken up begins with a silence command: its firmware file is opened. -/
def opensFirmware (fuota : Fuota) (name : Bytes) : Bool :=
  let path := fuota.inputs.currentPath ++ fuotaFolder ++ fuota.client.gatewayId ++ ascii "/" ++ name
  name ≠ [] && (fuota.inputs.files path).isSome && fuota.inputs.fopen fuota.counters.fopens &&
    fuota.inputs.write fuota.counters.writes &&
    (gatewayCommand fuota.machine fuota.radio).any isSilence

def wellFormed (parts : List Bytes) : Bool :=
  7 ≤ parts.length && (stoi (part parts 0)).toBool && (stoi (part parts 2)).toBool

def startsSession (fuota : Fuota) : Bool :=
  (remaining fuota).head?.any fun command =>
    wellFormed (split colon command) && opensFirmware fuota (part (split colon command) 6)

theorem inSession_append (log : List Fuota.Event) (event : Fuota.Event) :
    inSession (log ++ [event]) = sessionBehind (inSession log) event := by
  simp [inSession]

theorem buildAndStoreFuotaCmd_log (fuota : Fuota) : exists sent,
    (buildAndStoreFuotaCmd fuota).2.log = fuota.log ++ [.sent sent] /\
      sent.state = fuota.machine.ondemandFuotaState /\
      sent.written = fuota.inputs.write fuota.counters.writes /\
      sent.built.command = commandWritten fuota.machine fuota.radio := by
  unfold commandWritten buildAndStoreFuotaCmd buildNetworkCommand
  cases known : networkCommand fuota.machine with
  | none =>
    by_cases written : fuota.inputs.write fuota.counters.writes <;>
      simp [bind, pure, observe, update, writeFrame, nextWrite, known, written, setMachine, setClient]
  | some command =>
    by_cases far : fuota.radio.currentFuotaRoute.hopCount > 32 <;>
      by_cases written : fuota.inputs.write fuota.counters.writes <;>
        simp [bind, pure, observe, update, writeFrame, nextWrite, known, written, far, setMachine,
          setClient, frameFuotaCmdheaderForNetwork, headerInit, setRadio, placeFrame]

theorem framePmeshOtaCmdHeader_run (packetType : UInt8) (command : Bytes) (fuota : Fuota) :
    exists radio,
      framePmeshOtaCmdHeader packetType command fuota = (some (), { fuota with radio := radio }) /\
      radio.currentFuotaRoute = fuota.radio.currentFuotaRoute /\ radio.built.command = command :=
  ⟨_, rfl, rfl, rfl⟩

theorem buildAndStoreFuotaCmd_returns (fuota : Fuota) :
    exists written, (buildAndStoreFuotaCmd fuota).1 = some written := by
  unfold buildAndStoreFuotaCmd buildNetworkCommand
  cases known : networkCommand fuota.machine <;>
    by_cases written : fuota.inputs.write fuota.counters.writes <;>
      simp [bind, pure, observe, update, writeFrame, nextWrite, known, written, setMachine, setClient,
        frameFuotaCmdheaderForNetwork, setRadio]

theorem prepareGatewaySilenceCmd_session (fuota : Fuota)
    (state : fuota.machine.ondemandFuotaState = .gatewayPathSilence) :
    exists after, prepareGatewaySilenceCmd fuota = (some (), after) /\
      inSession after.log = (inSession fuota.log || fuota.inputs.write fuota.counters.writes &&
        (gatewayCommand fuota.machine fuota.radio).any isSilence) := by
  unfold prepareGatewaySilenceCmd gatewayCommand
  rw [ran_bind (show observe _ fuota = (some _, fuota) from rfl)]
  cases known : silenceCommand fuota.machine.fuotaGatewaySilenceState with
  | none => exact ⟨fuota, rfl, by simp⟩
  | some command =>
    obtain ⟨radio, framed, route, built⟩ :=
      framePmeshOtaCmdHeader_run meshCommissionPacketType command fuota
    let ready : Fuota := { fuota with radio := radio }
    obtain ⟨sent, logged, place, written, sentCommand⟩ := buildAndStoreFuotaCmd_log ready
    obtain ⟨result, returned⟩ := buildAndStoreFuotaCmd_returns ready
    have same : commandWritten fuota.machine radio = commandWritten fuota.machine
        { fuota.radio with built := { fuota.radio.built with command := command } } := by
      simp only [commandWritten, route, built]
    refine ⟨(buildAndStoreFuotaCmd ready).2, ?_, ?_⟩
    next =>
      dsimp only
      rw [ran_bind framed, ran_bind (returned_of_fst _ _ _ returned)]
      rfl
    next =>
      rw [logged, inSession_append]
      simp [sessionBehind, silences, place, written, sentCommand, ready, state, same, unsilencing]

theorem setState_session (state : FuotaState) (fuota : Fuota) :
    inSession (setState state fuota).2.log = sessionBehind (inSession fuota.log) (.assigned state) :=
  inSession_append _ _

theorem updateStatus_session (requestStatus errorCode : Nat) (fuota : Fuota) :
    exists after, updateStatus requestStatus errorCode fuota = (some (), after) /\
      inSession after.log = inSession fuota.log := by
  refine ⟨_, rfl, ?_⟩
  dsimp only
  split
  next => rfl
  next => exact inSession_append _ _

theorem openFirmware_session (path name content : Bytes) (fuota : Fuota)
    (file : fuota.inputs.files path = some content) :
    exists result after, openFirmware path name fuota = (some result, after) /\
      inSession after.log = (inSession fuota.log || (fuota.inputs.fopen fuota.counters.fopens &&
        fuota.inputs.write fuota.counters.writes &&
          (gatewayCommand fuota.machine fuota.radio).any isSilence)) := by
  let counters := { fuota.counters with fopens := fuota.counters.fopens + 1 }
  by_cases opens : fuota.inputs.fopen fuota.counters.fopens
  next =>
    let ready : Fuota := { fuota with
      counters := counters
      firmware := { fuota.firmware with
        foutaReadFd := some { content := content }, totalFirmwaresize := content.length % 2 ^ 32 }
      client := { fuota.client with firmwarePath := path, firmwareFilename := name }
      machine := { fuota.machine with ondemandFuotaState := .gatewayPathSilence }
      log := fuota.log ++ [.opened path] ++ [.assigned .gatewayPathSilence] }
    have opened : fopen path fuota = (some (some content), { fuota with counters := counters }) := by
      simp [fopen, opens, file, counters]
    have asked : openFirmware path name fuota =
        (prepareGatewaySilenceCmd >>= fun _ => pure (some path)) ready := by
      rw [openFirmware, ran_bind opened]
      rfl
    obtain ⟨after, sent, session⟩ := prepareGatewaySilenceCmd_session ready rfl
    refine ⟨some path, after, by rw [asked, ran_bind sent]; rfl, ?_⟩
    have before : inSession ready.log = inSession fuota.log := by
      simp only [ready, inSession_append, sessionBehind]
    have same : gatewayCommand ready.machine ready.radio = gatewayCommand fuota.machine fuota.radio :=
      rfl
    rw [session, before, same]
    simp [opens, ready, counters]
  next =>
    let closed : Fuota := { fuota with
      counters := counters, firmware := { fuota.firmware with foutaReadFd := none } }
    have refused : fopen path fuota = (some none, { fuota with counters := counters }) := by
      simp [fopen, opens, counters]
    have asked : openFirmware path name fuota = (updateStatus 1 1 >>= fun _ => pure none) closed := by
      rw [openFirmware, ran_bind refused]
      rfl
    obtain ⟨after, updated, session⟩ := updateStatus_session 1 1 closed
    refine ⟨none, after, by rw [asked, ran_bind updated]; rfl, ?_⟩
    simpa [opens, closed] using session

theorem openRequestedFirmware_session (name : Bytes) (fuota : Fuota) :
    exists result after, openRequestedFirmware name fuota = (some result, after) /\
      inSession after.log = (inSession fuota.log || opensFirmware fuota name) := by
  let folder := fuota.inputs.currentPath ++ fuotaFolder ++ fuota.client.gatewayId
  let path := folder ++ ascii "/" ++ name
  let pathed : Fuota := { fuota with
    firmware := { fuota.firmware with dcuFolder := folder, firmwarePath := path } }
  have looked : opensFirmware fuota name = (decide (name ≠ []) && (fuota.inputs.files path).isSome &&
    fuota.inputs.fopen fuota.counters.fopens && fuota.inputs.write fuota.counters.writes &&
      (gatewayCommand fuota.machine fuota.radio).any isSilence) := rfl
  rw [looked]
  by_cases unnamed : name = []
  next =>
    obtain ⟨after, updated, session⟩ := updateStatus_session 2 1 fuota
    refine ⟨none, after, ?_, by simp [session, unnamed]⟩
    rw [openRequestedFirmware, if_pos unnamed, ran_bind updated]
    rfl
  next =>
    have asked : openRequestedFirmware name fuota =
        (if (fuota.inputs.files path).isNone then updateStatus 0 1 >>= fun _ => pure none
          else openFirmware path name) pathed := by
      rw [openRequestedFirmware, if_neg unnamed]
      rfl
    rw [asked]
    by_cases missing : (fuota.inputs.files path).isNone
    next =>
      obtain ⟨after, updated, session⟩ := updateStatus_session 0 1 pathed
      refine ⟨none, after, by rw [if_pos missing, ran_bind updated]; rfl, ?_⟩
      simp [session, Option.isNone_iff_eq_none.mp missing, pathed]
    next =>
      obtain ⟨content, file⟩ := Option.ne_none_iff_exists'.mp (mt Option.isNone_iff_eq_none.mpr missing)
      obtain ⟨result, after, opened, session⟩ := openFirmware_session path name content pathed file
      refine ⟨result, after, by rw [if_neg missing, opened], ?_⟩
      simp [session, unnamed, file, pathed, Bool.and_assoc]

theorem sendOpenFile_session (fuota : Fuota) :
    exists after, sendOpenFile fuota = (some (), after) /\
      inSession after.log =
        (inSession fuota.log || opensFirmware fuota fuota.firmware.firmwareFile) := by
  obtain ⟨result, opened, tried, session⟩ :=
    openRequestedFirmware_session fuota.firmware.firmwareFile fuota
  refine ⟨(setState .gatewayPathSilence opened).2, ?_, ?_⟩
  next =>
    rw [sendOpenFile, ran_bind (show observe _ fuota = (some _, fuota) from rfl), ran_bind tried]
    rfl
  next => rw [setState_session, ← session]; rfl

theorem dropCompleted_run (fuota : Fuota) : exists machine,
    dropCompleted fuota = (some (), { fuota with
      client := { fuota.client with rfMeterFuota := remaining fuota }, machine := machine }) /\
      gatewayCommand machine fuota.radio = gatewayCommand fuota.machine fuota.radio := by
  unfold dropCompleted remaining
  by_cases pending : fuota.machine.pendingTerminalComplete
  next =>
    let cleared := { fuota.machine with
      pendingTerminalComplete := false, pendingTerminalRequestId := -1 }
    refine ⟨cleared, ?_, rfl⟩
    rw [ran_bind (show observe _ fuota = (some _, fuota) from rfl), if_pos pending, if_pos pending]
    rfl
  next =>
    refine ⟨fuota.machine, ?_, rfl⟩
    rw [ran_bind (show observe _ fuota = (some _, fuota) from rfl), if_neg pending, if_neg pending]
    rfl

/-- The machine behind a command that was taken up from the queue. -/
def takenUp (fuota : Fuota) (machine : Machine) (command : Bytes) (rest : List Bytes)
    (requestId hopCount : Int) : Fuota := { fuota with
  client := { fuota.client with rfMeterFuota := rest, requestId := requestId, hopCount := hopCount }
  firmware := { fuota.firmware with
    firmwarePath := part (split colon command) 5, firmwareFile := part (split colon command) 6 }
  machine := { machine with cmdBytes := command, ondemandFuotaState := .openFile }
  log := fuota.log ++ [.dequeued command] ++ [.assigned .openFile] }

theorem processFuotaQueue_ran (fuota : Fuota) : exists machine,
    gatewayCommand machine fuota.radio = gatewayCommand fuota.machine fuota.radio /\
    match remaining fuota with
    | [] => (processFuotaQueue fuota).2.log = fuota.log ++ [.assigned .rollbackToNormalCommMode]
    | command :: rest =>
      wellFormed (split colon command) = false /\ (processFuotaQueue fuota).2.log = fuota.log \/
        wellFormed (split colon command) = true /\ exists requestId hopCount,
          stoi (part (split colon command) 0) = .ok requestId /\
            processFuotaQueue fuota = sendOpenFile (takenUp fuota machine command rest requestId hopCount) := by
  obtain ⟨machine, dropped, commands⟩ := dropCompleted_run fuota
  refine ⟨machine, commands, ?_⟩
  rw [processFuotaQueue, ran_bind dropped]
  cases queue : remaining fuota with
  | nil => rfl
  | cons command rest =>
    have dequeued : dequeueFuota { fuota with
        client := { fuota.client with rfMeterFuota := command :: rest }, machine := machine } =
          (some (some command), { fuota with
            client := { fuota.client with rfMeterFuota := rest }, machine := machine }) := rfl
    let parts := split colon command
    let kept : Fuota := { fuota with
      client := { fuota.client with rfMeterFuota := rest }
      machine := { machine with cmdBytes := command } }
    rw [ran_bind dequeued]
    dsimp only
    rw [ran_bind (show setMachine _ _ = (some (), kept) from rfl)]
    by_cases short : parts.length < 7
    next =>
      have malformed : wellFormed parts = false := by simp [wellFormed, short]
      rw [if_pos short]
      exact Or.inl ⟨malformed, rfl⟩
    next =>
      rw [if_neg short]
      cases first : stoi (part parts 0) with
      | error fault =>
        have malformed : wellFormed parts = false := by simp [wellFormed, first, Except.toBool]
        rw [waited_bind (show orStop _ kept = (none, kept) from rfl)]
        exact Or.inl ⟨malformed, rfl⟩
      | ok requestId =>
        rw [ran_bind (show orStop _ kept = (some requestId, kept) from rfl)]
        cases third : stoi (part parts 2) with
        | error fault =>
          have malformed : wellFormed parts = false := by simp [wellFormed, third, Except.toBool]
          rw [waited_bind (show orStop _ kept = (none, kept) from rfl)]
          exact Or.inl ⟨malformed, rfl⟩
        | ok hopCount =>
          have complete : wellFormed parts = true := by
            simp [wellFormed, first, third, Except.toBool, Nat.not_lt.mp short]
          exact Or.inr ⟨complete, requestId, hopCount, rfl, rfl⟩

theorem processFuotaQueue_session (fuota : Fuota) (closed : inSession fuota.log = false) :
    inSession (processFuotaQueue fuota).2.log = startsSession fuota := by
  obtain ⟨machine, commands, outcome⟩ := processFuotaQueue_ran fuota
  unfold startsSession
  cases queue : remaining fuota with
  | nil =>
    rw [queue] at outcome
    rw [outcome, inSession_append, List.head?_nil, Option.any_none]
    rfl
  | cons command rest =>
    rw [queue] at outcome
    obtain ⟨malformed, same⟩ | ⟨complete, requestId, hopCount, _, opens⟩ := outcome
    next => simp [malformed, same, closed]
    next =>
      let name := part (split colon command) 6
      let ready := takenUp fuota machine command rest requestId hopCount
      obtain ⟨after, opened, session⟩ := sendOpenFile_session ready
      have before : inSession ready.log = false := by
        simp only [ready, takenUp, inSession_append, sessionBehind, closed]
      have same : opensFirmware ready name = opensFirmware fuota name := by
        unfold opensFirmware
        rw [← commands]
        rfl
      rw [opens, opened, session, before, Bool.false_or, List.head?_cons, Option.any_some, complete,
        Bool.true_and, ← same]
      rfl

/-- The database carries out the call that releases the HES side. -/
def Answers.carriedOut (answers : Answers) : Bool := answers.selected && answers.written

/-- A request is started with the HES side acquired, no release is written in a session, and what a
reply or a timeout makes the machine transmit opens no session while the HES side is free. -/
def Allowed (network : Network) (event : Event) : Prop :=
  match event, network.phase with
  | .fuotaQueue, .acquired => held network.row = true \/ startsSession network.fuota = false
  | .release answers, .served | .cycleEnd answers, .cycling =>
    inSession network.fuota.log = true -> answers.carriedOut = false
  | .received _, .stopped => True
  | .received data, _ =>
    held network.row = true \/ inSession (clientProcessRfFuotaData data network.fuota).2.log = false
  | .pollTimeout _ _, .polling => network.fuota.client.timeoutState = .timerFuotaResponse ->
      held network.row = true \/ inSession (pollTimeoutHandler network.fuota).2.log = false
  | _, _ => True

theorem act_kept (network : Network) (action : Action) (next : Phase) :
    (network.act action next).Kept <->
      (inSession (perform action network.fuota).2.log = true -> held network.row = true) := by
  unfold Network.act Network.Kept
  split
  next ran => simp [ran]
  next ran => simp [ran]

theorem open_or_held {opened acquired : Bool} :
    (opened = true -> acquired = true) <-> acquired = true \/ opened = false := by
  cases opened <;> cases acquired <;> simp

theorem acquire_held (answers : Answers) (row : Option Row) (before : held row = true) :
    held (insertUpdateHesNmsSyncTime true answers row).2 = true := by
  unfold insertUpdateHesNmsSyncTime
  split
  next => exact before
  next =>
    split
    next found =>
      split
      next => exact before
      next =>
        split
        next => simp [held]
        next => exact before
    next => simp [held] at before

theorem release_held (answers : Answers) (row : Option Row) (before : held row = true) :
    held (insertUpdateHesNmsSyncTime false answers row).2 = !answers.carriedOut := by
  cases row with
  | none => simp [held] at before
  | some found =>
    have acquired : found.gatewayAquiredByHes = true := by simpa [held] using before
    cases selected : answers.selected <;> cases written : answers.written <;>
      simp [insertUpdateHesNmsSyncTime, Answers.carriedOut, selected, written, held, acquired]

theorem normalCommunication_session (fuota : Fuota)
    (opened : inSession (normalCommunication fuota).2.log = true) : inSession fuota.log = true := by
  by_cases rolled : fuota.machine.ondemandFuotaState = .rollbackToNormalCommMode
  next =>
    have ended : (normalCommunication fuota).2.log = fuota.log ++ [.assigned .idle] := by
      simp [normalCommunication, getState, bind, observe, update, setClient, setState, rolled]
    rw [ended, inSession_append] at opened
    simp [sessionBehind] at opened
  next =>
    have same : (normalCommunication fuota).2 = fuota := by
      simp [normalCommunication, getState, bind, observe, pure, rolled]
    rwa [same] at opened

theorem sync_kept (network : Network) (status : Bool) (answers : Answers) (done failed : Phase) :
    (network.sync status answers done failed).Kept <-> (inSession network.fuota.log = true ->
      held (insertUpdateHesNmsSyncTime status answers network.row).2 = true) := Iff.rfl

theorem acquire_kept (network : Network) (kept : network.Kept) (answers : Answers)
    (done failed : Phase) : (network.sync true answers done failed).Kept :=
  (sync_kept _ _ _ _ _).mpr fun opened => acquire_held answers network.row (kept opened)

theorem release_kept (network : Network) (kept : network.Kept) (answers : Answers)
    (done failed : Phase) : (network.sync false answers done failed).Kept <->
      (inSession network.fuota.log = true -> answers.carriedOut = false) := by
  rw [sync_kept]
  constructor
  next =>
    intro after opened
    simpa [release_held answers network.row (kept opened)] using after opened
  next =>
    intro refused opened
    simp [release_held answers network.row (kept opened), refused opened]

theorem queue_kept (network : Network) (kept : network.Kept) (next : Phase) :
    (network.act .queue next).Kept <->
      held network.row = true \/ startsSession network.fuota = false := by
  rw [act_kept]
  by_cases acquired : held network.row = true
  next => simp [acquired]
  next =>
    have closed : inSession network.fuota.log = false := by
      cases opened : inSession network.fuota.log with
      | false => rfl
      | true => exact absurd (kept opened) acquired
    simp [perform, processFuotaQueue_session network.fuota closed, acquired]

theorem timeout_kept (network : Network) (kept : network.Kept) (due : Bool) (answers : Answers) :
    (network.timeout due answers).Kept <->
      (network.fuota.client.timeoutState = .timerFuotaResponse ->
        held network.row = true \/ inSession (pollTimeoutHandler network.fuota).2.log = false) := by
  unfold Network.timeout
  split
  next timer =>
    rw [act_kept, open_or_held]
    simp [timer, perform]
  next timer =>
    have unchanged : (if due then network.sync true answers .cycling .polling else network).Kept := by
      split
      next => exact acquire_kept network kept answers .cycling .polling
      next => exact kept
    simp [timer, unchanged]
  next timer => simpa [timer, Network.Kept] using kept

theorem step_kept (network next : Network) (event : Event) (kept : network.Kept)
    (stepped : step network event = some next) : next.Kept <-> Allowed network event := by
  cases event with
  | nms aquired =>
    obtain rfl : _ = next := by simpa [step] using stepped
    have same : held (some { network.row.getD {} with gatewayAquiredByNms := aquired }) =
        held network.row := by
      cases network.row <;> rfl
    simpa [Allowed, Network.Kept, same] using kept
  | enqueue command =>
    obtain rfl : _ = next := by simpa [step] using stepped
    rw [act_kept]
    simpa [Allowed, perform, enqueueFuota, setClient, update, Network.Kept] using kept
  | cancel ids =>
    obtain rfl : _ = next := by simpa [step] using stepped
    rw [act_kept]
    simpa [Allowed, perform, cancelFuota, setClient, update, Network.Kept] using kept
  | received data =>
    cases phase : network.phase <;>
      simp only [step, phase, Option.some.injEq, reduceCtorEq] at stepped <;>
      rw [← stepped, act_kept, open_or_held] <;> simp [Allowed, phase, perform]
  | packet =>
    cases phase : network.phase <;>
      simp only [step, phase, Option.some.injEq, reduceCtorEq] at stepped <;>
      rw [← stepped, act_kept] <;>
      simpa [Allowed, phase, perform] using fun opened =>
        kept (normalCommunication_session network.fuota opened)
  | ondemand =>
    cases phase : network.phase <;> simp only [step, phase, Option.some.injEq, reduceCtorEq] at stepped
    rw [← stepped]
    simpa [Allowed, phase, Network.Kept] using kept
  | acquire answers =>
    cases phase : network.phase <;> simp only [step, phase, Option.some.injEq, reduceCtorEq] at stepped
    rw [← stepped]
    simpa [Allowed, phase] using acquire_kept network kept answers .acquired .acquiring
  | giveUp =>
    cases phase : network.phase <;> simp only [step, phase, Option.some.injEq, reduceCtorEq] at stepped
    rw [← stepped]
    simpa [Allowed, phase, Network.Kept] using kept
  | fuotaQueue =>
    cases phase : network.phase <;> simp only [step, phase, Option.some.injEq, reduceCtorEq] at stepped
    rw [← stepped, queue_kept network kept]
    simp [Allowed, phase]
  | release answers =>
    cases phase : network.phase <;> simp only [step, phase, Option.some.injEq, reduceCtorEq] at stepped
    rw [← stepped, release_kept network kept]
    simp [Allowed, phase]
  | cycleEnd answers =>
    cases phase : network.phase <;> simp only [step, phase, Option.some.injEq, reduceCtorEq] at stepped
    rw [← stepped, release_kept network kept]
    simp [Allowed, phase]
  | pollTimeout due answers =>
    cases phase : network.phase <;> simp only [step, phase, Option.some.injEq, reduceCtorEq] at stepped
    rw [← stepped, timeout_kept network kept]
    simp [Allowed, phase]

theorem disabled_allowed (network : Network) (event : Event) (disabled : step network event = none) :
    Allowed network event := by
  cases event <;> cases phase : network.phase <;>
    first
    | (simp [step, phase] at disabled; done)
    | simp [Allowed, phase]

/-- The client waits in `poll`, and nothing has happened yet. -/
def begun (fuota : Fuota) (row : Option Row) : Network where
  fuota := { fuota with log := [] }
  row := row

def queuedRequest : Fuota where
  inputs := { files := fun _ => some [0x01] }
  client := {
    gatewayId := ascii "3CC1F60100000001"
    rfMeterFuota := [ascii "7:3CC1F60100000001:0:3CC1F60100000002:27:fw:image.bin"] }

def oneCall : List Event := [.ondemand, .acquire {}, .fuotaQueue, .release {}]

end Hes.Fuota.SyncTime
