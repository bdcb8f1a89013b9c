import Mathlib.Order.RelClasses
import Mathlib.Data.Fintype.Order
import Mathlib.Data.Prod.Lex
import Hes.Fuota.History
import Hes.Lib.Settle

set_option autoImplicit false

namespace Hes.Fuota

open Prog Mqtt

section Selection

/-- The last four bytes of the node's address are a hop of the other's route. -/
def Passes (node other : MeterVitalInfo) : Prop :=
  usedAsHop (slice node.meterMacAddress 4 4) other = true

def Beyond (node other : MeterVitalInfo) : Prop := node ≠ other /\ Passes node other

/-- A route that runs through a node runs through the other nodes of that node's route as well, so
no two nodes stand on each other's routes. -/
def Nested (meters : List MeterVitalInfo) : Prop :=
  ∀ first ∈ meters, ∀ second ∈ meters, ∀ third ∈ meters,
    Beyond first second -> Beyond second third -> Beyond first third

def distinctNodes (meters : List MeterVitalInfo) : Prop :=
  (meters.map MeterVitalInfo.meterMacAddress).Nodup

variable (meters : List MeterVitalInfo) (ondemandMac : Bytes)

theorem detectLeafNodes_sublist : (detectLeafNodes meters).Sublist meters := by
  have kept : (detectLeafNodes meters).Sublist (meters.zipIdx.map Prod.fst) :=
    List.Sublist.map Prod.fst List.filter_sublist
  rwa [List.zipIdx_map_fst] at kept

/-- A leaf is a node that is on no other node's route. -/
theorem mem_detectLeafNodes (distinct : meters.Nodup) (node : MeterVitalInfo) :
    node ∈ detectLeafNodes meters <-> node ∈ meters /\ ∀ other ∈ meters, ¬ Beyond node other := by
  have places (index place : Nat) (other : MeterVitalInfo) (here : meters[index]? = some node)
      (there : meters[place]? = some other) : place ≠ index <-> node ≠ other := by
    constructor
    next =>
      rintro apart rfl
      obtain ⟨inside, _⟩ := List.getElem?_eq_some_iff.mp here
      exact apart ((List.getElem?_inj inside distinct).mp (here.trans there.symm)).symm
    next =>
      rintro differ rfl
      exact differ (Option.some.inj (here.symm.trans there))
  simp only [detectLeafNodes, List.mem_map, List.mem_filter, Bool.not_eq_true', List.any_eq_false,
    Bool.and_eq_true, decide_eq_true_eq, Prod.exists, exists_and_right, exists_eq_right,
    List.mem_zipIdx_iff_getElem?, Prod.forall, not_and, Bool.not_eq_true]
  constructor
  next =>
    rintro ⟨index, here, alone⟩
    refine ⟨List.mem_of_getElem? here, fun other member beyond => ?_⟩
    obtain ⟨place, there⟩ := List.mem_iff_getElem?.mp member
    have used := alone other place there ((places index place other here there).mpr beyond.1)
    exact absurd beyond.2 (by simp [Passes, used])
  next =>
    rintro ⟨member, alone⟩
    obtain ⟨index, here⟩ := List.mem_iff_getElem?.mp member
    refine ⟨index, here, fun other place there apart => ?_⟩
    have unused := alone other (List.mem_of_getElem? there)
    by_contra used
    exact unused ⟨(places index place other here there).mp apart, by simpa [Passes] using used⟩

theorem mem_filterOutOnDemand (leaves : List MeterVitalInfo) (node : MeterVitalInfo) :
    node ∈ filterOutOnDemand leaves ondemandMac <->
      node ∈ leaves /\ node.meterMacAddress ≠ ondemandMac := by
  simp [filterOutOnDemand]

/-- On the nodes of one list, climbing to a node beyond comes to an end. -/
theorem beyond_wellFounded (nested : Nested meters) :
    WellFounded fun later earlier : { node // node ∈ meters } => Beyond earlier.1 later.1 := by
  have finite : Finite { node // node ∈ meters } := List.finite_toSet meters
  have transitive : IsTrans { node // node ∈ meters } fun later earlier =>
      Beyond earlier.1 later.1 :=
    ⟨fun first second third upper lower =>
      nested third.1 third.2 second.1 second.2 first.1 first.2 lower upper⟩
  have irreflexive : Std.Irrefl fun later earlier : { node // node ∈ meters } =>
      Beyond earlier.1 later.1 :=
    ⟨fun _ self => self.1 rfl⟩
  exact Finite.wellFounded_of_trans_of_irrefl _

/-- Along nested routes every node is a leaf or on the route of a leaf. -/
theorem leaves_cover (distinct : meters.Nodup) (nested : Nested meters) (node : MeterVitalInfo)
    (member : node ∈ meters) :
    node ∈ detectLeafNodes meters \/ ∃ leaf ∈ detectLeafNodes meters, Beyond node leaf := by
  have climbed := (beyond_wellFounded meters nested).induction
    (C := fun node => node.1 ∈ detectLeafNodes meters \/
      ∃ leaf ∈ detectLeafNodes meters, Beyond node.1 leaf) ⟨node, member⟩
  apply climbed
  rintro ⟨node, member⟩ ih
  by_cases leaf : node ∈ detectLeafNodes meters
  next => exact Or.inl leaf
  next =>
    rw [mem_detectLeafNodes meters distinct] at leaf
    push Not at leaf
    obtain ⟨other, there, beyond⟩ := leaf member
    rcases ih ⟨other, there⟩ beyond with top | ⟨top, found, above⟩
    next => exact Or.inr ⟨other, top, beyond⟩
    next =>
      have inside := (detectLeafNodes_sublist meters).subset found
      exact Or.inr ⟨top, found, nested node member other there top inside beyond above⟩

end Selection

section Upholding

/-- A fact holds after a move that logged events of some kinds alone. -/
def Upheld (kinds : Event -> Prop) (known : Fuota -> Prop) (before after : Fuota) : Prop :=
  known after /\ Logs kinds before after

def Upholds (kinds : Event -> Prop) (known : Fuota -> Prop) (before after : Fuota) : Prop :=
  known before -> Upheld kinds known before after

variable {kinds : Event -> Prop} {known : Fuota -> Prop}

theorem upholds_refl (fuota : Fuota) : Upholds kinds known fuota fuota :=
  fun held => ⟨held, logs_refl fuota⟩

theorem upholds_trans (first second third : Fuota) (before : Upholds kinds known first second)
    (behind : Upholds kinds known second third) : Upholds kinds known first third := by
  intro held
  obtain ⟨middle, logged⟩ := before held
  obtain ⟨last, continued⟩ := behind middle
  exact ⟨last, logs_trans first second third logged continued⟩

theorem upheld_bind {A B : Type} {middle : Fuota -> Prop} {first : Prog Fuota A}
    {next : A -> Prog Fuota B} {fuota : Fuota} (before : Upheld kinds middle fuota (first fuota).2)
    (waits : forall after, middle after -> known after)
    (behind : forall value after, first fuota = (some value, after) -> middle after ->
      Upheld kinds known after (next value after).2) :
    Upheld kinds known fuota ((first >>= next) fuota).2 := by
  simp only [bind]
  cases ran : first fuota with
  | mk outcome after =>
    rw [ran] at before
    obtain ⟨held, logged⟩ := before
    cases outcome with
    | none => exact ⟨waits after held, logged⟩
    | some value =>
      obtain ⟨last, continued⟩ := behind value after ran held
      exact ⟨last, logs_trans fuota after _ logged continued⟩

end Upholding

section Visits

/-- A frame with a silence command for the leaf, along the leaf's route. -/
structure BuiltFor (leaf : MeterVitalInfo) (built : Built) : Prop where
  builder : built.builder = .network
  targetMac : built.targetMac = leaf.meterMacAddress
  hopCount : built.hopCount = leaf.hopCount
  paths : built.paths = slice leaf.routePath 0 (leaf.hopCount.toNat * 4)
  command : exists step, silenceCommand step = some built.command

/-- What a visit of the leaf may log. -/
def OfVisit (leaf : MeterVitalInfo) : Event -> Prop
  | .sent sent => BuiltFor leaf sent.built
  | .acknowledged node _ => node = bytesToHexString leaf.meterMacAddress
  | .recorded _ _ => True
  | _ => False

variable (meters : List MeterVitalInfo) (leaf : MeterVitalInfo)

structure Toward (fuota : Fuota) : Prop where
  routes : fuota.radio.gatewayRouteInfo = meters
  flag : fuota.machine.useAlternateFuotaRoute = true
  target : fuota.radio.currentFuotaTargetMac = leaf.meterMacAddress
  route : fuota.radio.currentFuotaRoute =
    { paths := slice leaf.routePath 0 (leaf.hopCount.toNat * 4), hopCount := leaf.hopCount }

structure AtStep (fuota : Fuota) : Prop extends Toward meters leaf fuota where
  step : (silenceCommand fuota.machine.networkSilenceState).isSome = true

structure Loaded (fuota : Fuota) : Prop extends AtStep meters leaf fuota where
  built : BuiltFor leaf fuota.radio.built

theorem slice_twice (buffer : Bytes) (length : Nat) :
    slice (slice buffer 0 length) 0 length = slice buffer 0 length := by
  apply slice_congr
  intro index inside
  rw [Nat.zero_add, byteAt_slice _ _ _ _ inside, Nat.zero_add]

/-- In a step for a leaf the command of the step is loaded. -/
theorem buildNetworkCommand_loads (near : leaf.hopCount ≤ 32) (fuota : Fuota)
    (atStep : AtStep meters leaf fuota) : exists radio,
    buildNetworkCommand fuota = (some (), { fuota with radio := radio }) /\
      Loaded meters leaf { fuota with radio := radio } /\
      silenceCommand fuota.machine.networkSilenceState = some radio.built.command := by
  obtain ⟨command, known⟩ := Option.isSome_iff_exists.mp atStep.step
  have short : ¬ fuota.radio.currentFuotaRoute.hopCount > 32 := by
    rw [atStep.route]
    exact UInt8.not_lt.mpr near
  have framed : networkCommand fuota.machine = some command := by
    rw [networkCommand, if_pos atStep.flag, known]
  unfold buildNetworkCommand
  rw [ran_bind (show observe _ fuota = (some _, fuota) from rfl), framed]
  refine ⟨_, rfl, ?_⟩
  simp only [headerInit, short, if_false, placeFrame]
  refine ⟨⟨⟨⟨atStep.routes, atStep.flag, atStep.target, atStep.route⟩, atStep.step⟩, ?_⟩, known⟩
  refine ⟨rfl, atStep.target, ?_, ?_, _, known⟩
  next => rw [atStep.route]
  next => rw [atStep.route, slice_twice]

/-- The command of the step is written, whether the write succeeds or not. -/
theorem buildAndStoreFuotaCmd_loads (near : leaf.hopCount ≤ 32) (fuota : Fuota)
    (atStep : AtStep meters leaf fuota) : exists sent,
    Loaded meters leaf (buildAndStoreFuotaCmd fuota).2 /\
      (buildAndStoreFuotaCmd fuota).2.log = fuota.log ++ [.sent sent] /\
      BuiltFor leaf sent.built /\
      silenceCommand fuota.machine.networkSilenceState = some sent.built.command := by
  obtain ⟨radio, ran, loaded, command⟩ := buildNetworkCommand_loads meters leaf near fuota atStep
  rw [buildAndStoreFuotaCmd, ran_bind ran]
  rw [ran_bind (show writeFrame { fuota with radio := radio } =
    (some (fuota.inputs.write fuota.counters.writes), _) from rfl)]
  split
  next => exact ⟨_, { loaded with }, rfl, loaded.built, command⟩
  next => exact ⟨_, { loaded with }, rfl, loaded.built, command⟩

theorem writeFrame_loaded :
    Respects (Upholds (OfVisit leaf) (Loaded meters leaf)) writeFrame := by
  intro fuota loaded
  refine ⟨{ loaded with }, logs_event (.sent _) ?_ rfl⟩
  exact loaded.built

theorem waitForSocketResponse_loaded :
    Respects (Upholds (OfVisit leaf) (Loaded meters leaf)) waitForSocketResponse :=
  waitForSocketResponse_respects upholds_refl upholds_trans (writeFrame_loaded meters leaf)
    fun _ loaded => ⟨{ loaded with }, logs_same rfl⟩

theorem executeStep_visits (near : leaf.hopCount ≤ 32) (attempts : Nat) :
    Respects (Upholds (OfVisit leaf) (AtStep meters leaf)) (executeStep attempts) := by
  induction attempts with
  | zero => exact respects_pure upholds_refl false
  | succ attempts ih =>
    intro fuota atStep
    obtain ⟨sent, loaded, logged, built, _⟩ := buildAndStoreFuotaCmd_loads meters leaf near fuota atStep
    rw [executeStep]
    apply upheld_bind ⟨loaded, logs_event (.sent sent) built logged⟩ fun _ held => held.toAtStep
    intro written after _ held
    split
    next =>
      apply upheld_bind (waitForSocketResponse_loaded meters leaf after held)
        fun _ held => held.toAtStep
      intro success heard _ held
      split
      next =>
        refine ⟨{ held with }, logs_event (.acknowledged _ _) ?_ rfl⟩
        show bytesToHexString heard.radio.currentFuotaTargetMac = _
        rw [held.target]
      next => exact ih heard held.toAtStep
    next => exact ih after held.toAtStep

theorem executeFuotasequence_visits (near : leaf.hopCount ≤ 32) (states : List Nat)
    (inside : ∀ state ∈ states, (silenceCommand state).isSome = true) :
    Respects (Upholds (OfVisit leaf) (Toward meters leaf)) (executeFuotasequence states) := by
  induction states with
  | nil => exact respects_pure upholds_refl true
  | cons state rest ih =>
    intro fuota toward
    have stepped : Upheld (OfVisit leaf) (AtStep meters leaf) fuota
        (setMachine (fun machine => { machine with networkSilenceState := state }) fuota).2 :=
      ⟨{ toward with step := inside state (by simp) }, logs_same rfl⟩
    apply upheld_bind stepped fun _ held => held.toToward
    intro _ begun _ atStep
    apply upheld_bind (executeStep_visits meters leaf near 3 begun atStep) fun _ held => held.toToward
    intro answered after _ held
    split
    next => exact ih (fun state behind => inside state (List.mem_cons_of_mem _ behind)) after held.toToward
    next => exact ⟨held.toToward, logs_refl after⟩

theorem anything_visits : Visits fun _ _ => True where
  sent _ _ _ := trivial
  updated _ _ _ := trivial
  assigned _ _ _ := trivial
  dequeued _ _ := trivial
  opened _ _ := trivial
  acknowledged _ _ _ := trivial
  recorded _ _ _ := trivial

theorem logs_behind {A B : Type} {kinds : Event -> Prop} {first : Prog Fuota A}
    {next : A -> Prog Fuota B} (behind : forall value, Respects (Logs kinds) (next value))
    (fuota : Fuota) : Logs kinds (first fuota).2 ((first >>= next) fuota).2 := by
  simp only [bind]
  cases first fuota with
  | mk outcome after =>
    cases outcome with
    | none => exact logs_refl after
    | some value => exact behind value after

theorem executeStep_begins (near : leaf.hopCount ≤ 32) (attempts : Nat) (fuota : Fuota)
    (atStep : AtStep meters leaf fuota) : exists sent events,
    (executeStep (attempts + 1) fuota).2.log = fuota.log ++ .sent sent :: events /\
      silenceCommand fuota.machine.networkSilenceState = some sent.built.command := by
  obtain ⟨sent, _, logged, _, command⟩ := buildAndStoreFuotaCmd_loads meters leaf near fuota atStep
  have steps (attempts : Nat) : Respects (Logs fun _ => True) (executeStep attempts) :=
    executeStep_respects (logs_frame _) anything_visits attempts
  have later : Logs (fun _ => True) (buildAndStoreFuotaCmd fuota).2
      (executeStep (attempts + 1) fuota).2 := by
    rw [executeStep]
    apply logs_behind
    intro written
    split
    next =>
      apply respects_bind logs_trans (waitForSocketResponse_respects logs_refl logs_trans
        (writeFrame_respects (logs_frame _).toSendFrame anything_visits.toSends)
        (nextArrival_respects (logs_frame _).toSendFrame))
      intro success
      split
      next =>
        apply respects_bind logs_trans (respects_observe logs_refl _)
        intro radio
        apply respects_bind logs_trans (note_respects (logs_frame _).toSendFrame _ fun _ => trivial)
        exact fun _ => respects_pure logs_refl true
      next => exact steps attempts
    next => exact steps attempts
  obtain ⟨events, continued, _⟩ := later
  exact ⟨sent, events, by rw [continued, logged, List.append_assoc]; rfl, command⟩

theorem executeFuotasequence_begins (near : leaf.hopCount ≤ 32) (fuota : Fuota)
    (toward : Toward meters leaf fuota) : exists sent events,
    (executeFuotasequenceToSilenceNetwork fuota).2.log = fuota.log ++ .sent sent :: events /\
      sent.built.command = fuotaEnable := by
  have begun : AtStep meters leaf (setMachine (fun machine =>
      { machine with networkSilenceState := atFuotaEnable }) fuota).2 := { toward with step := rfl }
  obtain ⟨sent, events, logged, command⟩ := executeStep_begins meters leaf near 2 _ begun
  have later : Logs (fun _ => True)
      (executeStep 3 (setMachine (fun machine =>
        { machine with networkSilenceState := atFuotaEnable }) fuota).2).2
      (executeFuotasequenceToSilenceNetwork fuota).2 := by
    rw [executeFuotasequenceToSilenceNetwork, sequenceSteps, executeFuotasequence,
      ran_bind (show setMachine _ fuota = (some (), _) from rfl)]
    apply logs_behind
    intro answered
    split
    next => exact executeFuotasequence_respects (logs_frame _) anything_visits _
    next => exact respects_pure logs_refl false
  obtain ⟨others, continued, _⟩ := later
  refine ⟨sent, events ++ others, ?_, (Option.some.inj command).symm⟩
  rw [continued, logged]
  simp [setMachine, update]

/-- The events of a visit: the silence command goes out, and every frame is for the leaf. -/
structure Visit (events : List Event) : Prop where
  own : ∀ event ∈ events, OfVisit leaf event
  enabled : exists sent, Event.sent sent ∈ events /\ sent.built.command = fuotaEnable

theorem find_node (distinct : distinctNodes meters) (member : leaf ∈ meters) :
    meters.find? (fun entry => entry.meterMacAddress = leaf.meterMacAddress) = some leaf := by
  cases found : meters.find? fun entry => entry.meterMacAddress = leaf.meterMacAddress with
  | none =>
    have missing := List.find?_eq_none.mp found leaf member
    simp at missing
  | some entry =>
    have same := List.find?_some found
    simp only [decide_eq_true_eq] at same
    exact congrArg some (List.inj_on_of_nodup_map distinct (List.mem_of_find?_eq_some found) member same)

theorem recorded_visit (earlier events : List Event) (visit : Visit leaf events) (status : Nat)
    (fuota : Fuota) (logged : fuota.log = earlier ++ events) : exists events,
    (insertUpdateUnsilencedMeter leaf.meterMacAddress status leaf.hopCount fuota).2.log =
        earlier ++ events /\ Visit leaf events := by
  let node := if leaf.hopCount ≠ 0 then bytesToHexString leaf.meterMacAddress
    else fuota.client.gatewayId
  refine ⟨events ++ [.recorded node status], ?_, ?_, ?_⟩
  next =>
    rw [← List.append_assoc, ← logged]
    rfl
  next =>
    intro event inside
    rcases List.mem_append.mp inside with own | last
    next => exact visit.own event own
    next =>
      rw [List.mem_singleton.mp last]
      trivial
  next =>
    obtain ⟨sent, inside, command⟩ := visit.enabled
    exact ⟨sent, List.mem_append_left _ inside, command⟩

/-- One leaf is visited, and its row recorded behind the visit. -/
theorem enableLeaf_visit (distinct : distinctNodes meters) (member : leaf ∈ meters)
    (near : leaf.hopCount.toNat ≤ maxRouteHops) (fuota : Fuota)
    (routes : fuota.radio.gatewayRouteInfo = meters) : exists events,
    (enableLeaf leaf fuota).2.log = fuota.log ++ events /\ Visit leaf events /\
      (enableLeaf leaf fuota).2.radio.gatewayRouteInfo = meters := by
  let path : RouterPath :=
    { paths := slice leaf.routePath 0 (leaf.hopCount.toNat * 4), hopCount := leaf.hopCount }
  let placed : Fuota := { fuota with
    radio := { fuota.radio with
      currentFuotaTargetMac := leaf.meterMacAddress, currentFuotaRoute := path }
    machine := { fuota.machine with useAlternateFuotaRoute := true } }
  have within : leaf.hopCount ≤ 32 := by
    rw [UInt8.le_iff_toNat_le]
    exact le_trans near (by decide)
  have toward : Toward meters leaf placed := ⟨routes, rfl, rfl, rfl⟩
  have addressed : addressLeaf leaf fuota = (some true, { fuota with radio := placed.radio }) := by
    have hops : min leaf.hopCount.toNat maxRouteHops = leaf.hopCount.toNat := min_eq_left near
    simp [addressLeaf, setRadio, observe, update, bind, pure, computeRouterPath, routes,
      find_node meters leaf distinct member, hops, slice_twice, path, placed]
  have ran : sendFuotaEnableToLeaf leaf fuota = (executeFuotasequenceToSilenceNetwork >>= fun success => do
      setMachine fun machine => { machine with useAlternateFuotaRoute := false }
      return success) placed := by
    rw [sendFuotaEnableToLeaf, ran_bind addressed, if_pos rfl]
    rfl
  obtain ⟨held, events, logged, own⟩ :=
    executeFuotasequence_visits meters leaf within sequenceSteps (by decide) placed toward
  obtain ⟨sent, others, begun, command⟩ := executeFuotasequence_begins meters leaf within placed toward
  have visit : Visit leaf events := by
    refine ⟨own, sent, ?_, command⟩
    have same : events = .sent sent :: others :=
      List.append_cancel_left (logged.symm.trans begun)
    rw [same]
    exact List.mem_cons_self
  rw [enableLeaf]
  cases ended : executeFuotasequenceToSilenceNetwork placed with
  | mk outcome after =>
    have sequence : executeFuotasequence sequenceSteps placed = (outcome, after) := ended
    rw [sequence] at held logged
    cases outcome with
    | none =>
      have waited : sendFuotaEnableToLeaf leaf fuota = (none, after) := by
        rw [ran, waited_bind ended]
      rw [waited_bind waited]
      exact ⟨events, logged, visit, held.routes⟩
    | some success =>
      have returned : sendFuotaEnableToLeaf leaf fuota = (some success, { after with
          machine := { after.machine with useAlternateFuotaRoute := false } }) := by
        rw [ran, ran_bind ended]
        rfl
      rw [ran_bind returned]
      have recorded (status : Nat) := recorded_visit leaf fuota.log events visit status { after with
        machine := { after.machine with useAlternateFuotaRoute := false } } logged
      cases success with
      | true =>
        obtain ⟨events, logged, visit⟩ := recorded 1
        exact ⟨events, logged, visit, held.routes⟩
      | false =>
        obtain ⟨events, logged, visit⟩ := recorded 0
        exact ⟨events, logged, visit, held.routes⟩

theorem forEach_visits (distinct : distinctNodes meters) (leaves : List MeterVitalInfo)
    (known : ∀ leaf ∈ leaves, leaf ∈ meters /\ leaf.hopCount.toNat ≤ maxRouteHops) (fuota : Fuota)
    (routes : fuota.radio.gatewayRouteInfo = meters) : exists visits : List (MeterVitalInfo × List Event),
    (forEach enableLeaf leaves fuota).2.log = fuota.log ++ visits.flatMap Prod.snd /\
      visits.map Prod.fst <+: leaves /\ (∀ visit ∈ visits, Visit visit.1 visit.2) /\
      ((forEach enableLeaf leaves fuota).1 = some () -> visits.map Prod.fst = leaves) := by
  induction leaves generalizing fuota with
  | nil => exact ⟨[], by simp [forEach, pure], by simp, by simp, fun _ => rfl⟩
  | cons leaf rest ih =>
    obtain ⟨member, near⟩ := known leaf (by simp)
    obtain ⟨events, logged, visit, kept⟩ := enableLeaf_visit meters leaf distinct member near fuota routes
    rw [forEach]
    cases ran : enableLeaf leaf fuota with
    | mk outcome after =>
      rw [ran] at logged kept
      cases outcome with
      | none =>
        rw [waited_bind ran]
        exact ⟨[(leaf, events)], by simpa using logged, by simp, by simpa using visit, by simp⟩
      | some value =>
        obtain ⟨visits, continued, before, own, complete⟩ :=
          ih (fun leaf inside => known leaf (List.mem_cons_of_mem _ inside)) after kept
        rw [ran_bind ran]
        refine ⟨(leaf, events) :: visits, ?_, ?_, ?_, ?_⟩
        next => rw [continued, show after.log = fuota.log ++ events from logged]; simp
        next => simpa using before
        next => exact List.forall_mem_cons.mpr ⟨visit, own⟩
        next => exact fun done => by simpa using complete done

end Visits

section Ending

def fuelled (fuel : Nat) (fuota : Fuota) : Fuota :=
  { fuota with inputs := { fuota.inputs with fuel := fuel } }

/-- What goes down with every turn: the retries that are left, the room in front of a complete
frame, and behind the last retry the bytes that are still to be handled. -/
def socketRank (vars : SocketVars) : Nat ×ₗ Nat :=
  if vars.rfRetryCount < rfMaxRetries then
    toLex (rfMaxRetries - vars.rfRetryCount,
      if (firstFrame vars.recvbuf).isSome then 0 else 257 - vars.recvbuf.length)
  else toLex (0, vars.recvbuf.length)

theorem firstFrame_rest (recvbuf frame rest : Bytes) (found : firstFrame recvbuf = some (frame, rest)) :
    rest.length < recvbuf.length := by
  simp only [firstFrame] at found
  split at found
  next => exact absurd found (by simp)
  next complete =>
    obtain ⟨_, rfl⟩ := Prod.mk.inj (Option.some.inj found)
    simp at complete ⊢
    omega

theorem firstFrame_none (recvbuf : Bytes) (missing : firstFrame recvbuf = none) :
    recvbuf.length < 256 := by
  have bounded := (byteAt recvbuf 1).toNat_lt
  simp only [firstFrame] at missing
  split at missing
  next incomplete => simp at incomplete; omega
  next => exact absurd missing (by simp)

theorem rank_retry (vars next : SocketVars) (counted : next.rfRetryCount = vars.rfRetryCount + 1)
    (consumed : vars.rfRetryCount < rfMaxRetries \/ next.recvbuf.length < vars.recvbuf.length) :
    socketRank next < socketRank vars := by
  unfold socketRank
  by_cases left : vars.rfRetryCount < rfMaxRetries
  next =>
    rw [if_pos left]
    split
    next => exact Prod.Lex.toLex_lt_toLex.mpr (Or.inl (by simp only; omega))
    next => exact Prod.Lex.toLex_lt_toLex.mpr (Or.inl (by simp only; omega))
  next =>
    rw [if_neg left, if_neg (by omega)]
    exact Prod.Lex.toLex_lt_toLex.mpr (Or.inr ⟨rfl, by simp only; omega⟩)

theorem rank_data (vars : SocketVars) (bytes : Bytes) (left : vars.rfRetryCount < rfMaxRetries)
    (missing : firstFrame vars.recvbuf = none) (some : bytes ≠ []) :
    socketRank { vars with recvbuf := vars.recvbuf ++ bytes } < socketRank vars := by
  have short := firstFrame_none vars.recvbuf missing
  have positive := List.length_pos_iff.mpr some
  unfold socketRank
  rw [if_pos left, if_pos left, missing]
  refine Prod.Lex.toLex_lt_toLex.mpr (Or.inr ⟨rfl, ?_⟩)
  simp only [List.length_append, Option.isSome_none]
  split
  next => simp; omega
  next => simp; omega

theorem writeFrame_steadies (fuota : Fuota) : Steadies fuelled writeFrame fuota :=
  ⟨fuota.inputs.write fuota.counters.writes, (writeFrame fuota).2, fun _ => rfl⟩

theorem setMachine_steadies (change : Machine -> Machine) (fuota : Fuota) :
    Steadies fuelled (setMachine change) fuota :=
  ⟨(), (setMachine change fuota).2, fun _ => rfl⟩

theorem setRadio_steadies (change : Radio -> Radio) (fuota : Fuota) :
    Steadies fuelled (setRadio change) fuota :=
  ⟨(), (setRadio change fuota).2, fun _ => rfl⟩

theorem resend_turns (vars : SocketVars) (fuota : Fuota) : exists outcome after,
    (forall fuel, resend vars (fuelled fuel fuota) = (some outcome, fuelled fuel after)) /\
      forall next, outcome = .again next -> next = { vars with rfRetryCount := vars.rfRetryCount + 1 } := by
  obtain ⟨written, after, ran⟩ := writeFrame_steadies fuota
  cases written with
  | true =>
    refine ⟨.again { vars with rfRetryCount := vars.rfRetryCount + 1 }, after, fun fuel => ?_, ?_⟩
    next => rw [resend, ran_bind (ran fuel)]; rfl
    next => exact fun next same => (Turn.again.inj same).symm
  | false =>
    refine ⟨.done false, after, fun fuel => ?_, by simp⟩
    rw [resend, ran_bind (ran fuel)]
    rfl

theorem socketTurn_turns (vars : SocketVars) (fuota : Fuota) : exists outcome after,
    (forall fuel, socketTurn vars (fuelled fuel fuota) = (some outcome, fuelled fuel after)) /\
      forall next, outcome = .again next -> socketRank next < socketRank vars := by
  -- a turn returns with any fuel, and another one behind it ranks lower
  unfold socketTurn
  cases found : firstFrame vars.recvbuf with
  | some complete =>
    obtain ⟨frame, rest⟩ := complete
    have shorter := firstFrame_rest vars.recvbuf frame rest found
    simp only [handleFrame]
    split
    next =>
      obtain ⟨outcome, after, ran, next⟩ := resend_turns { vars with recvbuf := rest } fuota
      refine ⟨outcome, after, ran, fun later again => ?_⟩
      rw [next later again]
      exact rank_retry vars _ rfl (Or.inr shorter)
    next =>
      split
      next =>
        exact ⟨.done (validResponse fuota.radio.clientTxBuffer frame), fuota, fun _ => rfl, by simp⟩
      next => exact ⟨.done false, fuota, fun _ => rfl, by simp⟩
  | none =>
    simp only
    by_cases left : vars.rfRetryCount < rfMaxRetries
    next =>
      simp only [if_pos left]
      let read := (nextArrival fuota).2
      have arrived (fuel : Nat) : nextArrival (fuelled fuel fuota) =
          (some (fuota.inputs.arrival fuota.counters.arrivals), fuelled fuel read) := rfl
      cases arrival : fuota.inputs.arrival fuota.counters.arrivals with
      | failed =>
        refine ⟨.done false, read, fun fuel => ?_, by simp⟩
        rw [ran_bind (arrived fuel), arrival]
        rfl
      | timedOut =>
        obtain ⟨outcome, after, ran, next⟩ := resend_turns vars read
        refine ⟨outcome, after, fun fuel => ?_, fun later again => ?_⟩
        next => rw [ran_bind (arrived fuel), arrival]; exact ran fuel
        next =>
          rw [next later again]
          exact rank_retry vars _ rfl (Or.inl left)
      | data bytes =>
        by_cases closed : bytes = []
        next =>
          refine ⟨.done false, read, fun fuel => ?_, by simp⟩
          rw [ran_bind (arrived fuel), arrival]
          simp only [if_pos closed]
          rfl
        next =>
          refine ⟨.again { vars with recvbuf := vars.recvbuf ++ bytes }, read, fun fuel => ?_, ?_⟩
          next =>
            rw [ran_bind (arrived fuel), arrival]
            simp only [if_neg closed]
            rfl
          next =>
            intro later again
            rw [← Turn.again.inj again]
            exact rank_data vars bytes left found closed
    next =>
      simp only [if_neg left]
      exact ⟨.done false, fuota, fun _ => rfl, by simp⟩

/-- The wait for a reply ends, whatever arrives. -/
theorem waitForSocketResponse_settles (fuota : Fuota) : Settles fuelled waitForSocketResponse fuota := by
  have ranked : WellFounded fun next vars : SocketVars => socketRank next < socketRank vars :=
    InvImage.wf socketRank wellFounded_lt
  obtain ⟨enough, result, after, ends⟩ :=
    loop_ends socketTurn _ ranked socketTurn_turns {} fuota
  exact ⟨enough, result, after, fun fuel above => ends fuel above fuel⟩

theorem buildAndStoreFuotaCmd_steadies (fuota : Fuota) :
    Steadies fuelled buildAndStoreFuotaCmd fuota := by
  have built : Steadies fuelled buildNetworkCommand fuota := by
    unfold buildNetworkCommand
    refine steadies_bind (steadies_observe _ _ fun _ => rfl) fun machine after => ?_
    split
    next command _ =>
      exact ⟨(), (frameFuotaCmdheaderForNetwork meshCommissionPacketType command after).2, fun _ => rfl⟩
    next => exact steadies_pure () after
  refine steadies_bind built fun _ after => steadies_bind (writeFrame_steadies after) ?_
  intro written after
  split
  next =>
    refine steadies_bind (setMachine_steadies _ after) fun _ begun => ?_
    exact ⟨true, { begun with client := { begun.client with timeoutState := .timerFuotaResponse } },
      fun _ => rfl⟩
  next => exact steadies_pure false after

theorem executeStep_settles (attempts : Nat) (fuota : Fuota) :
    Settles fuelled (executeStep attempts) fuota := by
  induction attempts generalizing fuota with
  | zero => exact (steadies_pure false fuota).settles
  | succ attempts ih =>
    rw [executeStep]
    refine settles_bind (buildAndStoreFuotaCmd_steadies fuota).settles fun written after => ?_
    split
    next =>
      refine settles_bind (waitForSocketResponse_settles after) fun success heard => ?_
      split
      next =>
        let told := Event.acknowledged (bytesToHexString heard.radio.currentFuotaTargetMac)
          heard.radio.built.command
        exact Steadies.settles ⟨true, { heard with log := heard.log ++ [told] }, fun _ => rfl⟩
      next => exact ih heard
    next => exact ih after

theorem executeFuotasequence_settles (states : List Nat) (fuota : Fuota) :
    Settles fuelled (executeFuotasequence states) fuota := by
  induction states generalizing fuota with
  | nil => exact (steadies_pure true fuota).settles
  | cons state rest ih =>
    rw [executeFuotasequence]
    refine settles_bind (setMachine_steadies _ fuota).settles fun _ begun => ?_
    refine settles_bind (executeStep_settles 3 begun) fun answered after => ?_
    split
    next => exact ih after
    next => exact (steadies_pure false after).settles

theorem enableLeaf_settles (leaf : MeterVitalInfo) (fuota : Fuota) :
    Settles fuelled (enableLeaf leaf) fuota := by
  have addressed : Steadies fuelled (addressLeaf leaf) fuota := by
    unfold addressLeaf
    refine steadies_bind (setRadio_steadies _ fuota) fun _ after => ?_
    refine steadies_bind (steadies_observe _ after fun _ => rfl) fun routes after => ?_
    split
    next => exact steadies_pure false after
    next => exact steadies_bind (setRadio_steadies _ after) fun _ last => steadies_pure true last
  unfold enableLeaf sendFuotaEnableToLeaf
  refine settles_bind (settles_bind addressed.settles fun found after => ?_) fun success after => ?_
  next =>
    split
    next =>
      refine settles_bind (setMachine_steadies _ after).settles fun _ begun => ?_
      refine settles_bind (executeFuotasequence_settles sequenceSteps begun) fun success last => ?_
      exact (steadies_bind (setMachine_steadies _ last) fun _ done => steadies_pure success done).settles
    next => exact (steadies_pure false after).settles
  next =>
    have recorded (status : Nat) : Steadies fuelled
        (insertUpdateUnsilencedMeter leaf.meterMacAddress status leaf.hopCount) after :=
      ⟨(), (insertUpdateUnsilencedMeter leaf.meterMacAddress status leaf.hopCount after).2, fun _ => rfl⟩
    split
    next => exact (recorded 1).settles
    next => exact (recorded 0).settles

theorem forEach_settles (leaves : List MeterVitalInfo) (fuota : Fuota) :
    Settles fuelled (forEach enableLeaf leaves) fuota := by
  induction leaves generalizing fuota with
  | nil => exact (steadies_pure () fuota).settles
  | cons leaf rest ih => exact settles_bind (enableLeaf_settles leaf fuota) fun _ after => ih after

end Ending

section Network

/-- The leaves that the silence command is sent to. -/
def silencedLeaves (meters : List MeterVitalInfo) (ondemandMac : Bytes) : List MeterVitalInfo :=
  filterOutOnDemand (detectLeafNodes meters) ondemandMac

-- `meter_vital_info::route_path`, and `router_path_t::paths` that a route is copied to
def routePathSize : Nat := 100
def routerPathSize : Nat := 32 * 4

/-- Where the parts of a route end that are compared with an address or copied. -/
def routeEnds (meter : MeterVitalInfo) : List Nat :=
  (List.range meter.hopCount.toNat).map fun hop => 4 * hop + 4

variable (meters : List MeterVitalInfo) (ondemandMac : Bytes)

theorem mem_silencedLeaves (distinct : distinctNodes meters) (node : MeterVitalInfo) :
    node ∈ silencedLeaves meters ondemandMac <->
      node ∈ meters /\ node.meterMacAddress ≠ ondemandMac /\ ∀ other ∈ meters, ¬ Beyond node other := by
  rw [silencedLeaves, mem_filterOutOnDemand, mem_detectLeafNodes meters distinct.of_map, and_assoc]
  apply and_congr_right
  intro _
  rw [and_comm]

theorem silencedLeaves_sublist : (silencedLeaves meters ondemandMac).Sublist meters :=
  List.Sublist.trans List.filter_sublist (detectLeafNodes_sublist meters)

theorem silencedLeaves_cover (distinct : distinctNodes meters) (nested : Nested meters)
    (node : MeterVitalInfo) (member : node ∈ meters) (other : node.meterMacAddress ≠ ondemandMac) :
    node ∈ silencedLeaves meters ondemandMac \/
      (∃ leaf ∈ silencedLeaves meters ondemandMac, Passes node leaf) \/
      ∃ target ∈ meters, target.meterMacAddress = ondemandMac /\ Passes node target := by
  rcases leaves_cover meters distinct.of_map nested node member with leaf | ⟨leaf, found, beyond⟩
  next => exact Or.inl ((mem_filterOutOnDemand ondemandMac _ node).mpr ⟨leaf, other⟩)
  next =>
    by_cases target : leaf.meterMacAddress = ondemandMac
    next =>
      have inside := (detectLeafNodes_sublist meters).subset found
      exact Or.inr (Or.inr ⟨leaf, inside, target, beyond.2⟩)
    next =>
      have kept := (mem_filterOutOnDemand ondemandMac _ leaf).mpr ⟨found, target⟩
      exact Or.inr (Or.inl ⟨leaf, kept, beyond.2⟩)

theorem routeEnds_inside (meter : MeterVitalInfo) (near : meter.hopCount.toNat ≤ maxRouteHops) :
    ∀ place ∈ routeEnds meter, place ≤ routePathSize /\ place ≤ routerPathSize := by
  intro place inside
  obtain ⟨hop, below, rfl⟩ := List.mem_map.mp inside
  have counted := List.mem_range.mp below
  unfold maxRouteHops at near
  unfold routePathSize routerPathSize
  omega

theorem enableNetwork_visits (fuota : Fuota)
    (listed : fuota.inputs.meters fuota.counters.metersRead = some meters)
    (distinct : distinctNodes meters)
    (near : ∀ meter ∈ meters, meter.hopCount.toNat ≤ maxRouteHops) :
    exists enough, forall fuel, enough ≤ fuel -> exists result,
      exists visits : List (MeterVitalInfo × List Event),
        (enableNetwork ondemandMac (fuelled fuel fuota)).1 = some result /\
        (enableNetwork ondemandMac (fuelled fuel fuota)).2.log =
          fuota.log ++ visits.flatMap Prod.snd /\
        visits.map Prod.fst = silencedLeaves meters ondemandMac /\
        ∀ visit ∈ visits, Visit visit.1 visit.2 := by
  -- the visits of a run over a known list of nodes: one for each leaf, in the order of the list
  let asked := (getGatewayUndernodes fuota).2
  let known : Fuota := { asked with radio := { asked.radio with gatewayRouteInfo := meters } }
  obtain ⟨enough, _, after, ends⟩ := forEach_settles (silencedLeaves meters ondemandMac) known
  refine ⟨enough, fun fuel above => ?_⟩
  have answered : undernodes (fuelled fuel fuota) = (some meters, fuelled fuel asked) := by
    rw [undernodes, ran_bind (show getGatewayUndernodes (fuelled fuel fuota) =
      (some (fuota.inputs.meters fuota.counters.metersRead), fuelled fuel asked) from rfl), listed]
    rfl
  rw [enableNetwork, ran_bind answered]
  by_cases empty : meters = []
  next =>
    rw [if_pos empty]
    refine ⟨false, [], rfl, by simp [pure, fuelled, asked, getGatewayUndernodes], ?_, by simp⟩
    simp [silencedLeaves, empty, detectLeafNodes, filterOutOnDemand]
  next =>
    have inside : ∀ leaf ∈ silencedLeaves meters ondemandMac,
        leaf ∈ meters /\ leaf.hopCount.toNat ≤ maxRouteHops := by
      intro leaf member
      have here := (silencedLeaves_sublist meters ondemandMac).subset member
      exact ⟨here, near leaf here⟩
    obtain ⟨visits, logged, _, own, complete⟩ :=
      forEach_visits meters distinct (silencedLeaves meters ondemandMac) inside (fuelled fuel known) rfl
    have ran := ends fuel above
    rw [ran] at logged complete
    have visited : visitLeaves enableLeaf meters ondemandMac (fuelled fuel asked) =
        (some (), fuelled fuel after) := ran
    rw [if_neg empty, ran_bind visited]
    exact ⟨true, visits, rfl, logged, complete rfl, own⟩

-- a router, the target behind it, and another node behind it
def routerNode : MeterVitalInfo :=
  { meterMacAddress := [0x3C, 0xC1, 0xF6, 0x01, 0, 0, 0, 1], routePath := [0, 0, 0, 1], hopCount := 1 }

def targetNode : MeterVitalInfo :=
  { meterMacAddress := [0x3C, 0xC1, 0xF6, 0x01, 0, 0, 0, 2], routePath := [0, 0, 0, 1, 0, 0, 0, 2]
    hopCount := 2 }

def otherNode : MeterVitalInfo :=
  { meterMacAddress := [0x3C, 0xC1, 0xF6, 0x01, 0, 0, 0, 3], routePath := [0, 0, 0, 1, 0, 0, 0, 3]
    hopCount := 2 }

def threeNodes : Fuota :=
  { inputs := { meters := fun _ => some [routerNode, targetNode, otherNode] } }

end Network

end Hes.Fuota
