import Hes.Fuota.BuilderFrames
import Hes.Fuota.ReplyAttempts

set_option autoImplicit false

namespace Hes.Fuota

open Prog Mqtt

section Routes

/-- The alternate routes of the node behind the last router of the frame, as the query answers. -/
def configuredRoutes (fuota : Fuota) : List AlternatePathInfo :=
  if byteAt fuota.radio.clientTxBuffer 12 = 0 then []
  else (fuota.inputs.alternates fuota.counters.alternatesRead).getD []

/-- A route of as many hops as the frame has, or else as many as the primary one, or the first. -/
def chosenRoute (sameHops : Bool) (fuota : Fuota) : Option AlternatePathInfo :=
  let routerCount := byteAt fuota.radio.clientTxBuffer 12
  let primary := primaryHopCount fuota.radio.gatewayRouteInfo
    (lastRouterMac fuota.radio.clientTxBuffer routerCount)
  if sameHops then (configuredRoutes fuota).find? fun path => path.hopCount = routerCount
  else ((configuredRoutes fuota).find? fun path => path.hopCount = primary).or
    (configuredRoutes fuota).head?

def AlternatePathInfo.route (path : AlternatePathInfo) : RouterPath :=
  { paths := slice path.routePath 0 (path.hopCount.toNat * 4), hopCount := path.hopCount }

theorem chosenRoute_configured (sameHops : Bool) (fuota : Fuota) (path : AlternatePathInfo)
    (chosen : chosenRoute sameHops fuota = some path) : path ∈ configuredRoutes fuota := by
  unfold chosenRoute at chosen
  dsimp only at chosen
  split at chosen
  next => exact List.mem_of_find?_eq_some chosen
  next =>
    rcases Option.or_eq_some_iff.mp chosen with near | ⟨_, first⟩
    next => exact List.mem_of_find?_eq_some near
    next => exact List.mem_of_head? first

end Routes

section Preparing

def NoFrame : Event -> Prop
  | .sent _ | .imageSent _ _ => False
  | _ => True

/-- What stays on the way to the next frame: all that it is not built from. -/
structure Told (before after : Fuota) : Prop where
  client : after.client = before.client
  inputs : after.inputs = before.inputs
  state : after.machine.ondemandFuotaState = before.machine.ondemandFuotaState
  waiting : after.machine.waitingForResponse = before.machine.waitingForResponse
  alternate : after.machine.useAlternateFuotaRoute = before.machine.useAlternateFuotaRoute
  step : after.machine.networkSilenceState = before.machine.networkSilenceState
  logged : Logs NoFrame before after

theorem told_refl (fuota : Fuota) : Told fuota fuota := ⟨rfl, rfl, rfl, rfl, rfl, rfl, logs_refl fuota⟩

theorem Told.trans {first second third : Fuota} (before : Told first second)
    (behind : Told second third) : Told first third where
  client := behind.client.trans before.client
  inputs := behind.inputs.trans before.inputs
  state := behind.state.trans before.state
  waiting := behind.waiting.trans before.waiting
  alternate := behind.alternate.trans before.alternate
  step := behind.step.trans before.step
  logged := logs_trans first second third before.logged behind.logged

theorem updateStatus_told (status errorCode : Nat) (fuota : Fuota) : exists after,
    updateStatus status errorCode fuota = (some (), after) /\ Told fuota after /\
      after.radio = fuota.radio /\ after.counters = fuota.counters /\
      after.machine.cntx = fuota.machine.cntx := by
  have logged : Logs NoFrame fuota (updateStatus status errorCode fuota).2 :=
    updateStatus_respects (logs_frame NoFrame).toSendFrame status errorCode (fun _ => trivial) fuota
  refine ⟨_, rfl, ?_⟩
  simp only [updateStatus, ondemandFuotaUpdateStatus, observe, update, bind] at logged
  dsimp only at logged ⊢
  split
  next => exact ⟨told_refl fuota, rfl, rfl, rfl⟩
  next fresh =>
    rw [if_neg fresh] at logged
    refine ⟨⟨rfl, rfl, ?_, ?_, ?_, ?_, logged⟩, rfl, rfl, ?_⟩
    all_goals split <;> split <;> rfl

/-- The transmit buffer behind the switch to a route: the length byte counts the new header and the
whole payload, and the command that was meant is still the one built last. -/
structure Rerouted (path : AlternatePathInfo) (payloadLen : Nat) (before after : Radio) : Prop where
  route : after.currentFuotaRoute = path.route
  length : byteAt after.clientTxBuffer 1 = UInt8.ofNat (12 + path.hopCount.toNat * 4 + payloadLen)
  command : after.built.command = before.built.command

theorem updateClientTxBufferWithRoute_reroutes (payload : Option Bytes) (payloadLen : Nat)
    (path : AlternatePathInfo) (fuota : Fuota) : exists radio,
    updateClientTxBufferWithRoute payload payloadLen
        { fuota with radio := takeRoute fuota.radio path } =
      (some (), { fuota with radio := radio }) /\ Rerouted path payloadLen fuota.radio radio := by
  refine ⟨_, rfl, rfl, ?_, rfl⟩
  simp only [headerInit, takeRoute, slice_length]
  rw [byteAt_overwrite, if_pos (by simp)]
  show UInt8.ofNat _ = UInt8.ofNat _
  congr 1
  omega

/-- The query for alternate routes was made; a failing one leaves the routes that were known. -/
def searched (fuota : Fuota) : Fuota :=
  { fuota with
    counters := { fuota.counters with alternatesRead := fuota.counters.alternatesRead + 1 }
    radio := { fuota.radio with
      alternatepaths := (fuota.inputs.alternates fuota.counters.alternatesRead).getD
        fuota.radio.alternatepaths } }

theorem getAlternateSourceRoute_ran (fuota : Fuota)
    (routers : byteAt fuota.radio.clientTxBuffer 12 ≠ 0) :
    getAlternateSourceRoute fuota = (some (decide (configuredRoutes fuota ≠ [])), searched fuota) := by
  unfold getAlternateSourceRoute searched configuredRoutes
  rw [if_neg routers]
  cases answered : fuota.inputs.alternates fuota.counters.alternatesRead with
  | none => simp
  | some paths => simp

theorem searched_alternates (fuota : Fuota) (routers : byteAt fuota.radio.clientTxBuffer 12 ≠ 0)
    (found : configuredRoutes fuota ≠ []) :
    (searched fuota).radio.alternatepaths = configuredRoutes fuota := by
  unfold configuredRoutes at found ⊢
  rw [if_neg routers] at found ⊢
  cases answered : fuota.inputs.alternates fuota.counters.alternatesRead with
  | none => simp [answered] at found
  | some paths => simp [searched, answered]

/-- Behind the search for a route, with the route that was taken. -/
def routed (sameHops : Bool) (fuota : Fuota) : Fuota :=
  match chosenRoute sameHops fuota with
  | some path => { searched fuota with radio := takeRoute (searched fuota).radio path }
  | none => searched fuota

theorem chosenRoute_none (sameHops : Bool) (fuota : Fuota) (none : configuredRoutes fuota = []) :
    chosenRoute sameHops fuota = .none := by
  cases sameHops <;> simp [chosenRoute, none]

theorem useAlternate_ran (chosen : Radio -> Option AlternatePathInfo) (fuota : Fuota) :
    useAlternate chosen fuota =
      match chosen fuota.radio with
      | some path => (some true, { fuota with radio := takeRoute fuota.radio path })
      | none => (some false, fuota) := by
  unfold useAlternate
  rw [ran_bind (show observe _ fuota = (some fuota.radio, fuota) from rfl)]
  cases chosen fuota.radio <;> rfl

/-- The search as both retries make it: the query, and a choice among its rows. -/
theorem search_ran (sameHops : Bool) (chosen : Radio -> Option AlternatePathInfo) (fuota : Fuota)
    (routers : byteAt fuota.radio.clientTxBuffer 12 ≠ 0)
    (picked : configuredRoutes fuota ≠ [] -> chosen (searched fuota).radio = chosenRoute sameHops fuota) :
    (getAlternateSourceRoute >>= fun found => if found then useAlternate chosen else pure false) fuota =
      (some (chosenRoute sameHops fuota).isSome, routed sameHops fuota) := by
  rw [ran_bind (getAlternateSourceRoute_ran fuota routers)]
  by_cases found : configuredRoutes fuota = []
  next =>
    have nothing := chosenRoute_none sameHops fuota found
    simp [found, routed, nothing, pure]
  next =>
    rw [if_pos (by simpa using found), useAlternate_ran, picked found, routed]
    cases chosenRoute sameHops fuota <;> rfl

theorem buildAlternateRoute_ran (fuota : Fuota) (routers : byteAt fuota.radio.clientTxBuffer 12 ≠ 0) :
    buildAlternateRoute (lastRouterMac fuota.radio.clientTxBuffer
        (byteAt fuota.radio.clientTxBuffer 12)) fuota =
      (some (chosenRoute false fuota).isSome, routed false fuota) := by
  apply search_ran false _ fuota routers
  intro found
  rw [searched_alternates fuota routers found]
  rfl

theorem buildAlternaterouteImageTransfer_ran (fuota : Fuota)
    (routers : byteAt fuota.radio.clientTxBuffer 12 ≠ 0) : exists told,
    Told fuota told /\ told.radio = fuota.radio /\ told.counters = fuota.counters /\
      told.machine.cntx = fuota.machine.cntx /\
      buildAlternaterouteImageTransfer (byteAt fuota.radio.clientTxBuffer 12) fuota =
        (some (chosenRoute true told).isSome, routed true told) := by
  obtain ⟨told, updated, same, radio, counters, cntx⟩ := updateStatus_told 22 1 fuota
  refine ⟨told, same, radio, counters, cntx, ?_⟩
  rw [buildAlternaterouteImageTransfer, ran_bind updated]
  rw [← radio] at routers ⊢
  apply search_ran true _ told routers
  intro found
  rw [searched_alternates told routers found]
  rfl

theorem chosenRoute_congr (sameHops : Bool) (first second : Fuota) (radio : second.radio = first.radio)
    (inputs : second.inputs = first.inputs) (counters : second.counters = first.counters) :
    chosenRoute sameHops second = chosenRoute sameHops first := by
  simp only [chosenRoute, configuredRoutes, radio, inputs, counters]

theorem routed_told (sameHops : Bool) (fuota : Fuota) : Told fuota (routed sameHops fuota) /\
    (routed sameHops fuota).machine = fuota.machine := by
  unfold routed
  split
  next => exact ⟨⟨rfl, rfl, rfl, rfl, rfl, rfl, logs_same rfl⟩, rfl⟩
  next => exact ⟨⟨rfl, rfl, rfl, rfl, rfl, rfl, logs_same rfl⟩, rfl⟩

/-- The switch to another route: where one was chosen the transmit buffer is rerouted, and the
retries start anew on one alternate fewer at least. -/
structure Prepared (sameHops : Bool) (payloadLen : Nat) (before after : Fuota) : Prop where
  told : Told before after
  rerouted : forall path, chosenRoute sameHops before = some path ->
    Rerouted path payloadLen before.radio after.radio
  retryCount : after.machine.cntx.retryCount = 0
  maxRetries : after.machine.cntx.maxRetries = before.machine.cntx.maxRetries
  alternateMaxcnt : after.machine.cntx.alternateMaxcnt = before.machine.cntx.alternateMaxcnt
  spent : before.machine.cntx.alternateRetry < after.machine.cntx.alternateRetry \/
    before.machine.cntx.alternateMaxcnt ≤ after.machine.cntx.alternateRetry \/
    before.machine.cntx.maxRetries ≤ after.machine.cntx.alternateRetry

/-- The retries are counted and the status told, before a route is looked for. -/
theorem counted_told (status : Nat) (fuota : Fuota) : exists told,
    (setCntx (fun cntx => { cntx with retryCount := 0, alternateRetry := cntx.alternateRetry + 1 }) >>=
        fun _ => updateStatus status 1) fuota = (some (), told) /\
      Told fuota told /\ told.radio = fuota.radio /\ told.counters = fuota.counters /\
      told.machine.cntx = { fuota.machine.cntx with
        retryCount := 0, alternateRetry := fuota.machine.cntx.alternateRetry + 1 } := by
  let counted : Fuota := { fuota with machine := { fuota.machine with
    cntx := { fuota.machine.cntx with
      retryCount := 0, alternateRetry := fuota.machine.cntx.alternateRetry + 1 } } }
  obtain ⟨told, updated, same, radio, counters, cntx⟩ := updateStatus_told status 1 counted
  have aside : Told fuota counted := ⟨rfl, rfl, rfl, rfl, rfl, rfl, logs_same rfl⟩
  refine ⟨told, ?_, aside.trans same, radio, counters, cntx⟩
  rw [ran_bind (show setCntx _ fuota = (some (), counted) from rfl)]
  exact updated

/-- The part of both retries behind the status: nothing without routers, else the search, and the
transmit buffer rebuilt along the route that was found. -/
def switchRoute (search : Bytes -> UInt8 -> Prog Fuota Bool) (payload : Option Bytes)
    (payloadLen : Nat) (kept : Prog Fuota Unit) (exhausted : RetryContext -> Nat) :
    Prog Fuota Unit := do
  let buffer <- observe fun fuota => fuota.radio.clientTxBuffer
  let routerCount := byteAt buffer 12
  if routerCount = 0 then return ()
  else if <- search buffer routerCount then
    updateClientTxBufferWithRoute payload payloadLen
    kept
  else setCntx fun cntx => { cntx with alternateRetry := exhausted cntx }

/-- What is done behind the rebuilding leaves all that counts. -/
def Keeping (kept : Prog Fuota Unit) : Prop :=
  forall fuota, exists radio, kept fuota = (some (), { fuota with radio := radio }) /\
    radio.currentFuotaRoute = fuota.radio.currentFuotaRoute /\
    radio.clientTxBuffer = fuota.radio.clientTxBuffer /\ radio.built = fuota.radio.built

theorem switchRoute_prepares (sameHops : Bool) (search : Bytes -> UInt8 -> Prog Fuota Bool)
    (payload : Option Bytes) (payloadLen : Nat) (kept : Prog Fuota Unit) (keeping : Keeping kept)
    (exhausted : RetryContext -> Nat) (fuota counted : Fuota) (same : Told fuota counted)
    (radio : counted.radio = fuota.radio) (counters : counted.counters = fuota.counters)
    (cntx : counted.machine.cntx = { fuota.machine.cntx with
      retryCount := 0, alternateRetry := fuota.machine.cntx.alternateRetry + 1 })
    (spends : fuota.machine.cntx.alternateMaxcnt ≤ exhausted counted.machine.cntx \/
      fuota.machine.cntx.maxRetries ≤ exhausted counted.machine.cntx)
    (sought : byteAt counted.radio.clientTxBuffer 12 ≠ 0 -> exists told, Told counted told /\
      told.radio = counted.radio /\ told.counters = counted.counters /\
      told.machine.cntx = counted.machine.cntx /\
      search counted.radio.clientTxBuffer (byteAt counted.radio.clientTxBuffer 12) counted =
        (some (chosenRoute sameHops told).isSome, routed sameHops told)) :
    exists after, switchRoute search payload payloadLen kept exhausted counted = (some (), after) /\
      Prepared sameHops payloadLen fuota after := by
  have chosen := chosenRoute_congr sameHops fuota counted radio same.inputs counters
  have spent : fuota.machine.cntx.alternateRetry < counted.machine.cntx.alternateRetry := by
    rw [cntx]
    exact Nat.lt_succ_self _
  rw [switchRoute, ran_bind (show observe _ counted = (some counted.radio.clientTxBuffer, counted) from rfl)]
  by_cases none : byteAt counted.radio.clientTxBuffer 12 = 0
  next =>
    rw [if_pos none]
    refine ⟨counted, rfl, same, fun path known => ?_, by rw [cntx], by rw [cntx], by rw [cntx],
      Or.inl spent⟩
    rw [← chosen, chosenRoute_none sameHops counted (by rw [configuredRoutes, if_pos none])] at known
    exact absurd known (by simp)
  next =>
    obtain ⟨told, later, radioToo, countersToo, cntxToo, ran⟩ := sought none
    have chosenToo := chosenRoute_congr sameHops counted told radioToo later.inputs countersToo
    have aside := routed_told sameHops told
    rw [if_neg none, ran_bind ran]
    cases known : chosenRoute sameHops told with
    | none =>
      rw [Option.isSome_none, if_neg (by simp)]
      refine ⟨_, rfl, ?_, fun path other => ?_, ?_, ?_, ?_, Or.inr ?_⟩
      next =>
        exact same.trans (later.trans (aside.1.trans ⟨rfl, rfl, rfl, rfl, rfl, rfl, logs_same rfl⟩))
      next => exact absurd (known.symm.trans (chosenToo.trans (chosen.trans other))) (by simp)
      next => simp [aside.2, cntxToo, cntx]
      next => simp [aside.2, cntxToo, cntx]
      next => simp [aside.2, cntxToo, cntx]
      next => simpa [aside.2, cntxToo] using spends
    | some path =>
      have taken : routed sameHops told =
          { searched told with radio := takeRoute (searched told).radio path } := by
        rw [routed, known]
      obtain ⟨rebuilt, updated, rerouted⟩ :=
        updateClientTxBufferWithRoute_reroutes payload payloadLen path (searched told)
      obtain ⟨last, ended, route, buffer, built⟩ := keeping { searched told with radio := rebuilt }
      rw [Option.isSome_some, if_pos rfl, taken, ran_bind updated, ended]
      refine ⟨_, rfl, ?_, fun other also => ?_, ?_, ?_, ?_, Or.inl ?_⟩
      next => exact same.trans (later.trans ⟨rfl, rfl, rfl, rfl, rfl, rfl, logs_same rfl⟩)
      next =>
        obtain rfl : path = other :=
          Option.some.inj (known.symm.trans (chosenToo.trans (chosen.trans also)))
        refine ⟨route.trans rerouted.route, ?_, ?_⟩
        next => rw [buffer]; exact rerouted.length
        next =>
          rw [built, rerouted.command]
          show told.radio.built.command = _
          rw [radioToo, radio]
      next => show told.machine.cntx.retryCount = 0; rw [cntxToo, cntx]
      next => show told.machine.cntx.maxRetries = _; rw [cntxToo, cntx]
      next => show told.machine.cntx.alternateMaxcnt = _; rw [cntxToo, cntx]
      next => show _ < told.machine.cntx.alternateRetry; rw [cntxToo]; exact spent

theorem prepareAlternateRouteRetry_prepares (payload : Option Bytes) (payloadLen : Nat) (fuota : Fuota) :
    exists after, prepareAlternateRouteRetry payload payloadLen fuota = (some (), after) /\
      Prepared false payloadLen fuota after := by
  obtain ⟨counted, ran, same, radio, counters, cntx⟩ := counted_told 18 fuota
  have split : prepareAlternateRouteRetry payload payloadLen fuota = switchRoute
      (fun buffer routerCount => buildAlternateRoute (lastRouterMac buffer routerCount)) payload payloadLen
      (setRadio fun radio => { radio with currentFuotaCommand := radio.frame })
      RetryContext.alternateMaxcnt counted := by
    rw [prepareAlternateRouteRetry, ← bind_assoc]
    exact ran_bind ran
  rw [split]
  apply switchRoute_prepares false _ payload payloadLen _ _ _ fuota counted same radio counters cntx
  next => exact Or.inl (by rw [cntx])
  next =>
    intro routers
    exact ⟨counted, told_refl counted, rfl, rfl, rfl, buildAlternateRoute_ran counted routers⟩
  next => exact fun fuota => ⟨_, rfl, rfl, rfl, rfl⟩

theorem prepareAlternateSamerouteRetry_prepares (payload : Option Bytes) (payloadLen : Nat)
    (positive : payloadLen ≠ 0) (fuota : Fuota) :
    exists after, prepareAlternateSamerouteRetry payload payloadLen fuota = (some (), after) /\
      Prepared true payloadLen fuota after := by
  obtain ⟨counted, ran, same, radio, counters, cntx⟩ := counted_told 22 fuota
  have split : prepareAlternateSamerouteRetry payload payloadLen fuota = switchRoute
      (fun _ routerCount => buildAlternaterouteImageTransfer routerCount) payload payloadLen
      (pure ()) RetryContext.maxRetries counted := by
    rw [prepareAlternateSamerouteRetry, if_neg positive, ← bind_assoc]
    exact (ran_bind ran).trans (by simp [switchRoute])
  rw [split]
  apply switchRoute_prepares true _ payload payloadLen _ _ _ fuota counted same radio counters cntx
  next => exact Or.inr (by rw [cntx])
  next => exact fun routers => buildAlternaterouteImageTransfer_ran counted routers
  next => exact fun fuota => ⟨_, rfl, rfl, rfl, rfl⟩

end Preparing

section Frames

def framesOf (events : List Event) : List Bytes :=
  events.filterMap fun
    | .sent sent => some sent.frame
    | .imageSent _ frame => some frame.bytes
    | _ => none

/-- The frames that were transmitted between two states of a run. -/
def framesBetween (before after : Fuota) : List Bytes := framesOf (after.log.drop before.log.length)

theorem framesOf_none (events : List Event) (quiet : ∀ event ∈ events, NoFrame event) :
    framesOf events = [] := by
  apply List.filterMap_eq_nil_iff.mpr
  intro event inside
  have none := quiet event inside
  cases event <;> first | rfl | exact absurd none (by simp [NoFrame])

/-- The frame in the transmit buffer behind the building, which a network command may replace. -/
def loadedFrame (fuota : Fuota) : Bytes := (buildNetworkCommand fuota).2.radio.frame

theorem buildNetworkCommand_loaded (fuota : Fuota) : exists radio,
    buildNetworkCommand fuota = (some (), { fuota with radio := radio }) := by
  unfold buildNetworkCommand
  rw [ran_bind (show observe _ fuota = (some fuota.machine, fuota) from rfl)]
  cases networkCommand fuota.machine with
  | none => exact ⟨fuota.radio, rfl⟩
  | some command => exact ⟨_, rfl⟩

/-- One frame goes out, and a command that was waited for still is. -/
structure Stays (before after : Fuota) : Prop where
  state : after.machine.ondemandFuotaState = before.machine.ondemandFuotaState
  path : after.client.firmwarePath = before.client.firmwarePath
  firmware : after.firmware = before.firmware
  cntx : after.machine.cntx = before.machine.cntx
  waiting : before.machine.waitingForResponse = true -> after.machine.waitingForResponse = true
  timer : before.client.timeoutState = .timerFuotaResponse ->
    after.client.timeoutState = .timerFuotaResponse

theorem buildAndStoreFuotaCmd_sends (fuota : Fuota) : exists written after sent,
    buildAndStoreFuotaCmd fuota = (some written, after) /\ Stays fuota after /\
      after.log = fuota.log ++ [.sent sent] /\ sent.frame = loadedFrame fuota := by
  obtain ⟨radio, ran⟩ := buildNetworkCommand_loaded fuota
  have frame : loadedFrame fuota = radio.frame := by rw [loadedFrame, ran]
  rw [frame, buildAndStoreFuotaCmd, ran_bind ran]
  rw [ran_bind (show writeFrame { fuota with radio := radio } =
    (some (fuota.inputs.write fuota.counters.writes), _) from rfl)]
  split
  next => exact ⟨true, _, _, rfl, ⟨rfl, rfl, rfl, rfl, fun _ => rfl, fun _ => rfl⟩, rfl, rfl⟩
  next => exact ⟨false, _, _, rfl, ⟨rfl, rfl, rfl, rfl, id, id⟩, rfl, rfl⟩

theorem commandFrame_length (gatewayId : Bytes) (packetType : UInt8) (route : RouterPath) (cmdData : Bytes) :
    (commandFrame gatewayId packetType route cmdData).length =
      13 + (if route.hopCount = 0 then 4 else route.hopCount.toNat * 4) + cmdData.length := by
  rw [CmdHeader.commandFrame_head]
  simp only [List.length_append, List.length_cons, List.length_nil, CmdHeader.info_length,
    CmdHeader.routePath_length]
  omega

theorem commandFrame_inj (gatewayId : Bytes) (first second : UInt8) (route : RouterPath)
    (command other : Bytes) : commandFrame gatewayId first route command =
        commandFrame gatewayId second route other <-> first = second /\ command = other := by
  constructor
  next =>
    intro same
    simp only [CmdHeader.commandFrame_head, List.append_assoc, List.cons_append, List.nil_append,
      List.cons.injEq, true_and] at same
    obtain ⟨infos, rest⟩ := List.append_inj same.2 (by simp [CmdHeader.info_length])
    have types : first = second := by
      simp only [CmdHeader.info, List.cons_append, List.cons.injEq] at infos
      exact infos.1
    simp only [List.cons.injEq, true_and] at rest
    exact ⟨types, List.append_cancel_left rest⟩
  next =>
    rintro ⟨rfl, rfl⟩
    rfl

theorem silenceCommand_some (step : Nat) (command : Bytes) (known : silenceCommand step = some command) :
    command ≠ [] /\ command.length ≤ 3 := by
  match step, known with
  | 0, known | 1, known | 2, known | 3, known =>
    obtain rfl := Option.some.inj known
    decide

/-- A command is in the transmit buffer: the length byte counts a whole number of addresses and the
command that was built. -/
def Outstanding (fuota : Fuota) : Prop :=
  exists addresses, byteAt fuota.radio.clientTxBuffer 1 =
    UInt8.ofNat (12 + 4 * addresses + fuota.radio.built.command.length)

theorem frame_outstanding (header : CmdHeader) (packetType : UInt8) (cmdData : Bytes) (fuota : Fuota)
    (some : header ≠ .ota -> cmdData ≠ []) (near : header.hopCount fuota ≤ 32) :
    Outstanding (header.frame packetType cmdData fuota).2 := by
  -- every builder leaves its command outstanding
  have built : (header.frame packetType cmdData fuota).2.radio.built.command = cmdData := by
    have far : ¬ header.hopCount fuota > 32 := UInt8.not_lt.mpr near
    cases header with
    | ota => rfl
    | targetNode =>
      rw [CmdHeader.frame_targetNode packetType (some nofun)]
      exact congrArg (fun radio : Radio => radio.built.command)
        (if_neg (show ¬ toUInt8 fuota.client.hopCount > 32 from far))
    | network =>
      rw [CmdHeader.frame_network packetType (some nofun)]
      exact congrArg (fun radio : Radio => radio.built.command)
        (if_neg (show ¬ fuota.radio.currentFuotaRoute.hopCount > 32 from far))
  have length : exists addresses, header.pktLength cmdData fuota = 12 + 4 * addresses + cmdData.length := by
    unfold CmdHeader.pktLength
    cases header with
    | ota => exact ⟨if header_none : CmdHeader.ota.hopCount fuota = 0 then 1
        else (CmdHeader.ota.hopCount fuota).toNat, by dsimp only; split <;> omega⟩
    | targetNode => exact ⟨if CmdHeader.targetNode.hopCount fuota > 0
        then (CmdHeader.targetNode.hopCount fuota).toNat else 1, by dsimp only; split <;> omega⟩
    | network => exact ⟨(CmdHeader.network.hopCount fuota).toNat, by dsimp only; omega⟩
  obtain ⟨addresses, length⟩ := length
  refine ⟨addresses, ?_⟩
  rw [built, CmdHeader.frame_near packetType some near, byteAt_overwrite, if_pos (by simp), length]
  rfl

/-- The frame a switch to the route should retransmit. -/
def keptFrame (path : AlternatePathInfo) (fuota : Fuota) : Bytes :=
  commandFrame fuota.client.gatewayId (byteAt fuota.radio.clientTxBuffer 2) path.route
    fuota.radio.built.command

theorem appended_wrong (path : AlternatePathInfo) (fuota : Fuota) (outstanding : Outstanding fuota)
    (frame : Bytes) (length : frame.length =
      (UInt8.ofNat (12 + path.hopCount.toNat * 4 +
        ((byteAt fuota.radio.clientTxBuffer 1).toNat + 1))).toNat + 1) :
    frame ≠ keptFrame path fuota := by
  -- the whole frame before was appended, and not the command: the lengths differ by four
  rintro rfl
  obtain ⟨addresses, known⟩ := outstanding
  rw [keptFrame, commandFrame_length, known] at length
  rw [UInt8.toNat_ofNat', UInt8.toNat_ofNat'] at length
  change 13 + (if path.hopCount = 0 then 4 else path.hopCount.toNat * 4) + _ = _ at length
  by_cases none : path.hopCount = 0
  next =>
    rw [if_pos none] at length
    omega
  next =>
    rw [if_neg none] at length
    omega

/-- Behind the switch the frame is the one of the network command along the route, or the whole
frame before behind the new header. -/
theorem loadedFrame_kept (path : AlternatePathInfo) (fuota prepared : Fuota)
    (outstanding : Outstanding fuota) (client : prepared.client = fuota.client)
    (rerouted : Rerouted path ((byteAt fuota.radio.clientTxBuffer 1).toNat + 1) fuota.radio
      prepared.radio)
    (flag : prepared.machine.useAlternateFuotaRoute = true) :
    loadedFrame prepared = keptFrame path fuota <->
      path.hopCount ≠ 0 /\ path.hopCount ≤ 32 /\
        byteAt fuota.radio.clientTxBuffer 2 = meshCommissionPacketType /\
        silenceCommand prepared.machine.networkSilenceState = some fuota.radio.built.command := by
  have network : networkCommand prepared.machine =
      silenceCommand prepared.machine.networkSilenceState := if_pos flag
  have hops : CmdHeader.network.hopCount prepared = path.hopCount :=
    congrArg RouterPath.hopCount rerouted.route
  cases known : silenceCommand prepared.machine.networkSilenceState with
  | none =>
    have same : loadedFrame prepared = prepared.radio.frame := by
      rw [loadedFrame, buildNetworkCommand,
        ran_bind (show observe _ prepared = (some prepared.machine, prepared) from rfl), network, known]
      rfl
    simp only [reduceCtorEq, and_false, iff_false]
    rw [same]
    apply appended_wrong path fuota outstanding
    rw [Radio.frame, slice_length, rerouted.length]
  | some command =>
    obtain ⟨some, short⟩ := silenceCommand_some _ command known
    have same : loadedFrame prepared =
        (CmdHeader.network.frame meshCommissionPacketType command prepared).2.radio.frame := by
      rw [loadedFrame, buildNetworkCommand,
        ran_bind (show observe _ prepared = (.some prepared.machine, prepared) from rfl), network, known,
        CmdHeader.frame_network _ some]
    rw [same]
    by_cases near : path.hopCount ≤ 32
    next =>
      have within : CmdHeader.network.hopCount prepared ≤ 32 := hops ▸ near
      by_cases none : path.hopCount = 0
      next =>
        -- the gateway's own address has no room in front of the command
        simp only [none, ne_eq, not_true, false_and, iff_false]
        intro kept
        have lengths := congrArg List.length kept
        rw [CmdHeader.frame_built (fun _ => some) within, slice_length, keptFrame, commandFrame_length,
          if_pos (show path.route.hopCount = 0 from none)] at lengths
        have counted : CmdHeader.network.pktLength command prepared = 12 + command.length := by
          simp [CmdHeader.pktLength, hops, none]
        rw [counted] at lengths
        simp only [UInt8.toNat_ofNat'] at lengths
        omega
      next =>
        have placed : CmdHeader.network.Yields meshCommissionPacketType command prepared := by
          have route : CmdHeader.network.route prepared.radio = path.route := rerouted.route
          have few : path.hopCount.toNat ≤ 32 := UInt8.le_iff_toNat_le.mp near
          refine (CmdHeader.yields_iff ?_ ?_).mpr ⟨some, ?_⟩
          next => rw [route]; exact near
          next =>
            rw [route, FitsFrame, if_neg (show ¬ path.route.hopCount = 0 from none)]
            show 12 + path.hopCount.toNat * 4 + command.length ≤ 255
            omega
          next => rw [route]; exact none
        have route : CmdHeader.network.route prepared.radio = path.route := rerouted.route
        rw [placed.2, keptFrame, client, route, commandFrame_inj]
        simp only [ne_eq, none, not_false_eq_true, near, true_and, Option.some.injEq]
        rw [eq_comm (a := meshCommissionPacketType)]
    next =>
      have far : CmdHeader.network.hopCount prepared > 32 := by
        rw [hops]
        exact UInt8.not_le.mp near
      simp only [near, false_and, and_false, iff_false]
      apply appended_wrong path fuota outstanding
      rw [Radio.frame, slice_length, CmdHeader.frame_far _ (fun _ => some) (by decide) far]
      simp only [headerInit]
      rw [byteAt_overwrite, if_neg (by omega), byteAt_overwrite, if_neg (by simp), rerouted.length]

end Frames

section Polls

/-- The last retry is over without a reply, with an alternate route allowed. -/
def PollSwitches (fuota : Fuota) : Prop :=
  fuota.client.timeoutState = .timerFuotaResponse /\ fuota.machine.waitingForResponse = true /\
    fuota.machine.cntx.maxRetries ≤ fuota.machine.cntx.retryCount /\
    fuota.machine.cntx.alternateRetry < fuota.machine.cntx.alternateMaxcnt

/-- The last retry is over without a reply, and the failure is reported. -/
def PollReports (fuota : Fuota) : Prop :=
  fuota.client.timeoutState = .timerFuotaResponse /\ fuota.machine.waitingForResponse = true /\
    fuota.machine.cntx.maxRetries ≤ fuota.machine.cntx.retryCount /\
    fuota.machine.cntx.alternateMaxcnt ≤ fuota.machine.cntx.alternateRetry

instance (fuota : Fuota) : Decidable (PollSwitches fuota) := inferInstanceAs (Decidable (_ /\ _))

/-- The route that a poll timeout switches to. -/
def pollSwitch (fuota : Fuota) : Option AlternatePathInfo :=
  let state := fuota.machine.ondemandFuotaState
  if PollSwitches fuota then chosenRoute (state = .fwImageTransfer || state = .fwimageOfSectorCount) fuota
  else none

/-- Poll timeouts, one after another. -/
def polls : Nat -> Fuota -> Fuota
  | 0, fuota => fuota
  | count + 1, fuota => polls count (pollTimeoutHandler fuota).2

/-- The alternate routes that are switched to on the way. -/
def triedRoutes : Nat -> Fuota -> List AlternatePathInfo
  | 0, _ => []
  | count + 1, fuota => (pollSwitch fuota).toList ++ triedRoutes count (pollTimeoutHandler fuota).2

/-- The frame behind a switch carries the command along the route, and up to the report of the
failure every configured route is switched to once. -/
def KeepsCommand (fuota : Fuota) : Prop :=
  (forall path, pollSwitch fuota = some path ->
    framesBetween fuota (pollTimeoutHandler fuota).2 = [keptFrame path fuota]) /\
  exists count, PollReports (polls count fuota) /\ (∀ fewer < count, ¬ PollReports (polls fewer fuota)) /\
    (triedRoutes count fuota).Perm (configuredRoutes fuota)

/-- The network commands alone are built anew, and a single route is tried. -/
def CommandKept (fuota : Fuota) : Prop :=
  match pollSwitch fuota with
  | some path => configuredRoutes fuota = [path] /\ path.hopCount ≠ 0 /\ path.hopCount ≤ 32 /\
      byteAt fuota.radio.clientTxBuffer 2 = meshCommissionPacketType /\
      silenceCommand fuota.machine.networkSilenceState = some fuota.radio.built.command
  | none => configuredRoutes fuota = []

/-- The numbers of tries that the machine begins with; nothing assigns them. -/
def Limits (cntx : RetryContext) : Prop := cntx.maxRetries = 3 /\ cntx.alternateMaxcnt = 2

def sendAgain : Prog Fuota Unit := do
  let _ <- buildAndStoreFuotaCmd

theorem sendAgain_sends (fuota : Fuota) : exists after sent, sendAgain fuota = (some (), after) /\
    Stays fuota after /\ after.log = fuota.log ++ [.sent sent] /\ sent.frame = loadedFrame fuota := by
  obtain ⟨written, after, sent, ran, stays, logged, frame⟩ := buildAndStoreFuotaCmd_sends fuota
  refine ⟨after, sent, ?_, stays, logged, frame⟩
  rw [sendAgain, ran_bind ran]
  rfl

/-- The machine with an alternate counted, in front of the search. -/
def began (fuota : Fuota) : Fuota :=
  { fuota with machine := { fuota.machine with
      cntx := { fuota.machine.cntx with
        retryCount := 0, alternateRetry := fuota.machine.cntx.alternateRetry + 1 }
      useAlternateFuotaRoute := true } }

def resent (fuota : Fuota) : Fuota :=
  { fuota with machine := { fuota.machine with
      cntx := { fuota.machine.cntx with retryCount := fuota.machine.cntx.retryCount + 1 } } }

theorem poll_resends (fuota : Fuota) (timer : fuota.client.timeoutState = .timerFuotaResponse)
    (waits : fuota.machine.waitingForResponse = true)
    (few : fuota.machine.cntx.retryCount < fuota.machine.cntx.maxRetries) :
    pollTimeoutHandler fuota = sendAgain (resent fuota) := by
  rw [pollTimeoutHandler, ran_bind (show observe _ fuota = (some fuota.machine, fuota) from rfl),
    ran_bind (show observe _ fuota = (some fuota.client.timeoutState, fuota) from rfl),
    if_neg (by simp [timer, waits]), if_pos few]
  exact ran_bind (show setCntx _ fuota = (some (), resent fuota) from rfl)

theorem poll_switches (fuota : Fuota) (due : PollSwitches fuota) : exists prepared,
    pollTimeoutHandler fuota = sendAgain prepared /\
      Prepared (fuota.machine.ondemandFuotaState = .fwImageTransfer ||
          fuota.machine.ondemandFuotaState = .fwimageOfSectorCount)
        ((byteAt fuota.radio.clientTxBuffer 1).toNat + 1) (began fuota) prepared := by
  obtain ⟨timer, waits, many, alternates⟩ := due
  rw [pollTimeoutHandler, ran_bind (show observe _ fuota = (some fuota.machine, fuota) from rfl),
    ran_bind (show observe _ fuota = (some fuota.client.timeoutState, fuota) from rfl),
    if_neg (by simp [timer, waits]), if_neg (by omega), if_pos alternates,
    ran_bind (show setMachine _ fuota = (some (), began fuota) from rfl),
    ran_bind (show observe _ (began fuota) = (some fuota.radio.clientTxBuffer, began fuota) from rfl)]
  rw [ran_bind (show getState (began fuota) = (some fuota.machine.ondemandFuotaState, began fuota) from rfl)]
  by_cases uploads : (fuota.machine.ondemandFuotaState = .fwImageTransfer ||
      fuota.machine.ondemandFuotaState = .fwimageOfSectorCount) = true
  next =>
    obtain ⟨prepared, ran, switched⟩ :=
      prepareAlternateSamerouteRetry_prepares none _ (Nat.succ_ne_zero _) (began fuota)
    rw [if_pos uploads, uploads]
    exact ⟨prepared, ran_bind ran, switched⟩
  next =>
    obtain ⟨prepared, ran, switched⟩ := prepareAlternateRouteRetry_prepares none _ (began fuota)
    rw [if_neg uploads, eq_false_of_ne_true uploads]
    exact ⟨prepared, ran_bind ran, switched⟩

/-- A resend is waited for again, with one retry fewer left. -/
theorem poll_counts (fuota : Fuota) (timer : fuota.client.timeoutState = .timerFuotaResponse)
    (waits : fuota.machine.waitingForResponse = true)
    (few : fuota.machine.cntx.retryCount < fuota.machine.cntx.maxRetries) :
    (pollTimeoutHandler fuota).2.client.timeoutState = .timerFuotaResponse /\
      (pollTimeoutHandler fuota).2.machine.waitingForResponse = true /\
      (pollTimeoutHandler fuota).2.machine.cntx = { fuota.machine.cntx with
        retryCount := fuota.machine.cntx.retryCount + 1 } := by
  obtain ⟨after, sent, ran, stays, _, _⟩ := sendAgain_sends (resent fuota)
  rw [poll_resends fuota timer waits few, ran]
  exact ⟨stays.timer timer, stays.waiting waits, stays.cntx⟩

/-- Without an alternate allowed, the polls send the rest of the retries, and report the failure. -/
theorem polls_report (fuota : Fuota) (timer : fuota.client.timeoutState = .timerFuotaResponse)
    (waits : fuota.machine.waitingForResponse = true)
    (spent : fuota.machine.cntx.alternateMaxcnt ≤ fuota.machine.cntx.alternateRetry)
    (left : Nat) (retries : fuota.machine.cntx.maxRetries = fuota.machine.cntx.retryCount + left) :
    PollReports (polls left fuota) /\ (∀ fewer < left, ¬ PollReports (polls fewer fuota)) /\
      triedRoutes left fuota = [] := by
  induction left generalizing fuota with
  | zero => exact ⟨⟨timer, waits, retries.le, spent⟩, by simp, rfl⟩
  | succ left ih =>
    have few : fuota.machine.cntx.retryCount < fuota.machine.cntx.maxRetries := by omega
    obtain ⟨timerToo, waitsToo, counted⟩ := poll_counts fuota timer waits few
    have less : fuota.machine.cntx.maxRetries = fuota.machine.cntx.retryCount + 1 + left := by omega
    obtain ⟨reports, quiet, tried⟩ := ih (pollTimeoutHandler fuota).2 timerToo waitsToo
      (by rw [counted]; exact spent) (by rw [counted]; exact less)
    refine ⟨reports, fun fewer less => ?_, ?_⟩
    next =>
      cases fewer with
      | zero => exact fun early => absurd early.2.2.1 (Nat.not_le.mpr few)
      | succ fewer => exact quiet fewer (by omega)
    next =>
      have none : pollSwitch fuota = none := if_neg fun due => absurd due.2.2.2 (by omega)
      rw [triedRoutes, none, tried]
      rfl

/-- What a switch leaves: its frame was sent, and no other alternate is allowed. -/
theorem switch_leaves (fuota : Fuota) (due : PollSwitches fuota) (limits : Limits fuota.machine.cntx) :
    exists prepared, Prepared (fuota.machine.ondemandFuotaState = .fwImageTransfer ||
          fuota.machine.ondemandFuotaState = .fwimageOfSectorCount)
        ((byteAt fuota.radio.clientTxBuffer 1).toNat + 1) (began fuota) prepared /\
      framesBetween fuota (pollTimeoutHandler fuota).2 = [loadedFrame prepared] /\
      (pollTimeoutHandler fuota).2.client.timeoutState = .timerFuotaResponse /\
      (pollTimeoutHandler fuota).2.machine.waitingForResponse = true /\
      (pollTimeoutHandler fuota).2.machine.cntx.maxRetries = 3 /\
      (pollTimeoutHandler fuota).2.machine.cntx.retryCount = 0 /\
      (pollTimeoutHandler fuota).2.machine.cntx.alternateMaxcnt ≤
        (pollTimeoutHandler fuota).2.machine.cntx.alternateRetry := by
  obtain ⟨prepared, ran, switched⟩ := poll_switches fuota due
  obtain ⟨after, sent, sends, stays, logged, frame⟩ := sendAgain_sends prepared
  obtain ⟨events, earlier, quiet⟩ := switched.told.logged
  have counted : (began fuota).machine.cntx = { fuota.machine.cntx with
      retryCount := 0, alternateRetry := fuota.machine.cntx.alternateRetry + 1 } := rfl
  have most := switched.maxRetries.trans ((congrArg RetryContext.maxRetries counted).trans limits.1)
  have few := switched.alternateMaxcnt.trans
    ((congrArg RetryContext.alternateMaxcnt counted).trans limits.2)
  have spent := switched.spent
  rw [counted] at spent
  simp only [limits.1, limits.2] at spent
  refine ⟨prepared, switched, ?_, ?_, ?_, ?_, ?_, ?_⟩
  next =>
    have log : after.log = fuota.log ++ (events ++ [.sent sent]) := by
      rw [logged, earlier, List.append_assoc]
      rfl
    rw [ran, sends, framesBetween, log, List.drop_left]
    rw [framesOf, List.filterMap_append, ← framesOf, framesOf_none events quiet]
    simp [frame]
  next =>
    rw [ran, sends]
    exact stays.timer ((congrArg _ switched.told.client).trans due.1)
  next =>
    rw [ran, sends]
    exact stays.waiting (switched.told.waiting.trans due.2.1)
  next => rw [ran, sends, stays.cntx, most]
  next => rw [ran, sends, stays.cntx, switched.retryCount]
  next =>
    rw [ran, sends, stays.cntx, few]
    omega

/-- Behind the switch three retries follow, and the report. -/
theorem switch_tried (fuota : Fuota) (due : PollSwitches fuota) (limits : Limits fuota.machine.cntx)
    (count : Nat) (reports : PollReports (polls count fuota))
    (quiet : ∀ fewer < count, ¬ PollReports (polls fewer fuota)) :
    triedRoutes count fuota = (pollSwitch fuota).toList := by
  obtain ⟨_, _, _, timer, waits, most, none, spent⟩ := switch_leaves fuota due limits
  obtain ⟨last, before, tried⟩ :=
    polls_report (pollTimeoutHandler fuota).2 timer waits spent 3 (by omega)
  have four : count = 4 := by
    rcases Nat.lt_trichotomy count 4 with less | same | more
    next =>
      cases count with
      | zero => exact absurd reports.2.2.2 (Nat.not_le.mpr due.2.2.2)
      | succ count => exact absurd reports (before count (by omega))
    next => exact same
    next => exact absurd last (quiet 4 more)
  rw [four, triedRoutes, tried, List.append_nil]

theorem switch_reports (fuota : Fuota) (due : PollSwitches fuota) (limits : Limits fuota.machine.cntx) :
    exists count, PollReports (polls count fuota) /\ ∀ fewer < count, ¬ PollReports (polls fewer fuota) := by
  obtain ⟨_, _, _, timer, waits, most, none, spent⟩ := switch_leaves fuota due limits
  obtain ⟨last, before, _⟩ :=
    polls_report (pollTimeoutHandler fuota).2 timer waits spent 3 (by omega)
  refine ⟨4, last, fun fewer less => ?_⟩
  cases fewer with
  | zero => exact fun early => absurd early.2.2.2 (Nat.not_le.mpr due.2.2.2)
  | succ fewer => exact before fewer (by omega)

theorem switch_frame (fuota : Fuota) (due : PollSwitches fuota) (limits : Limits fuota.machine.cntx)
    (outstanding : Outstanding fuota) (path : AlternatePathInfo) (known : pollSwitch fuota = some path) :
    framesBetween fuota (pollTimeoutHandler fuota).2 = [keptFrame path fuota] <->
      path.hopCount ≠ 0 /\ path.hopCount ≤ 32 /\
        byteAt fuota.radio.clientTxBuffer 2 = meshCommissionPacketType /\
        silenceCommand fuota.machine.networkSilenceState = some fuota.radio.built.command := by
  obtain ⟨prepared, switched, frames, _⟩ := switch_leaves fuota due limits
  rw [pollSwitch, if_pos due] at known
  have chosen := (chosenRoute_congr _ fuota (began fuota) rfl rfl rfl).trans known
  have kept := loadedFrame_kept path (began fuota) prepared outstanding switched.told.client
    (switched.rerouted path chosen) switched.told.alternate
  rw [switched.told.step] at kept
  rw [frames, List.cons.injEq, and_iff_left rfl]
  exact kept

/-- A poll timeout keeps the command on the alternate routes exactly for a network command and one
route. -/
theorem keepsCommand_iff (fuota : Fuota) (due : PollSwitches fuota)
    (limits : Limits fuota.machine.cntx) (outstanding : Outstanding fuota) :
    KeepsCommand fuota <-> CommandKept fuota := by
  have once : (exists count, PollReports (polls count fuota) /\
      (∀ fewer < count, ¬ PollReports (polls fewer fuota)) /\
        (triedRoutes count fuota).Perm (configuredRoutes fuota)) <->
      (pollSwitch fuota).toList.Perm (configuredRoutes fuota) := by
    constructor
    next =>
      intro ⟨count, reports, quiet, tried⟩
      rwa [switch_tried fuota due limits count reports quiet] at tried
    next =>
      intro tried
      obtain ⟨count, reports, quiet⟩ := switch_reports fuota due limits
      exact ⟨count, reports, quiet, by rwa [switch_tried fuota due limits count reports quiet]⟩
  rw [KeepsCommand, once, CommandKept]
  cases known : pollSwitch fuota with
  | none => simp
  | some path =>
    simp only [Option.some.injEq, forall_eq', Option.toList_some, List.singleton_perm]
    rw [switch_frame fuota due limits outstanding path known, eq_comm (a := [path])]
    exact and_comm

end Polls

section Uploads

/-- The third miss of an image frame: the upload goes over to the alternate path. -/
def UploadSwitches (before after : Fuota) : Prop :=
  retryHandling before = (some .retry, after) /\
    before.upload.usingAlternatePath = false /\ after.upload.usingAlternatePath = true

/-- The rest of the exchange begins with the image frame along another route. -/
def KeepsImage (frame : ImageFrame) (fuel : Nat) (after : Fuota) : Prop :=
  exists path, (framesBetween after (loop (fun _ => exchangeTurn frame) fuel () after).2).head? =
    some (commandFrame after.client.gatewayId (byteAt frame.bytes 2) (AlternatePathInfo.route path)
      (frame.bytes.drop frame.headerLen))

theorem retryHandling_used (before after : Fuota) (switches : UploadSwitches before after) :
    ¬ after.upload.fuotaImagetfRetryCount < maxFuotaRetries := by
  obtain ⟨ran, primary, alternate⟩ := switches
  rw [retryHandling, ran_bind (show observe (fun fuota : Fuota => fuota.upload) before =
    (some before.upload, before) from rfl), if_pos (by simp [primary])] at ran
  obtain ⟨_, counted, count, later⟩ := (returned_bind _ _ _ _ _).mp ran
  obtain rfl := (Prod.mk.inj count).2
  split at later
  next =>
    -- a retry on the primary path stays on it
    obtain ⟨_, restored, restore, later⟩ := (returned_bind _ _ _ _ _).mp later
    obtain rfl := (Prod.mk.inj restore).2
    obtain rfl := ((returned_pure _ _ _ _).mp later).2
    exact absurd (primary.symm.trans alternate) (by simp)
  next more =>
    obtain ⟨_, switched, switch, later⟩ := (returned_bind _ _ _ _ _).mp later
    obtain rfl := (Prod.mk.inj switch).2
    obtain ⟨_, prepared, prepare, later⟩ := (returned_bind _ _ _ _ _).mp later
    obtain rfl := ((returned_pure _ _ _ _).mp later).2
    rw [((untouched_prepareAlternateSamerouteRetry _ _).returned prepare).1]
    exact more

theorem exchange_over (frame : ImageFrame) (fuel : Nat) (after : Fuota)
    (used : ¬ after.upload.fuotaImagetfRetryCount < maxFuotaRetries) :
    (loop (fun _ => exchangeTurn frame) fuel () after).2 = after := by
  -- with the retries used up the exchange is over, and nothing is sent
  have turn : exchangeTurn frame after = (some (.done .exhausted), after) := by
    rw [exchangeTurn, ran_bind (show observe id after = (some after, after) from rfl), if_neg used]
    rfl
  cases fuel with
  | zero => rfl
  | succ fuel =>
    rw [loop, ran_bind turn]
    rfl

theorem upload_unkept (frame : ImageFrame) (fuel : Nat) (before after : Fuota)
    (switches : UploadSwitches before after) : ¬ KeepsImage frame fuel after := by
  intro ⟨path, first⟩
  rw [exchange_over frame fuel after (retryHandling_used before after switches), framesBetween,
    List.drop_length] at first
  exact absurd first nofun

theorem commandResponseTimeout_gives (fuota : Fuota) (inactive : fuota.machine.cntxActive = false) :
    framesBetween fuota (commandResponseTimeoutAtFuota fuota).2 = [] := by
  have ran : commandResponseTimeoutAtFuota fuota = (stopRetryContext >>= fun _ =>
      setState .rollbackToNormalCommMode) fuota := by
    rw [commandResponseTimeoutAtFuota]
    have terminates : decideTimeoutAction fuota = (some .terminate, fuota) := by
      simp [decideTimeoutAction, bind, observe, inactive, pure]
    rw [ran_bind terminates]
  rw [ran, framesBetween]
  show framesOf ((fuota.log ++ [Event.assigned .rollbackToNormalCommMode]).drop fuota.log.length) = []
  rw [List.drop_left]
  rfl

end Uploads

/-- One router, for which the query answers with one other route. -/
def behindRouter (cmdData : Bytes) (packetType : UInt8) (state : FuotaState) : Fuota :=
  (CmdHeader.network.frame packetType cmdData {
    inputs := { alternates := fun _ => some [{ routePath := [5, 6, 7, 8], hopCount := 1 }] }
    client := { gatewayId := "3CC1F60112345678".toUTF8.toList, hopCount := 1
                timeoutState := .timerFuotaResponse }
    machine := { ondemandFuotaState := state, waitingForResponse := true, cntx := { retryCount := 3 } }
    radio := { currentFuotaRoute := { paths := [1, 2, 3, 4], hopCount := 1 } } }).2

end Hes.Fuota
