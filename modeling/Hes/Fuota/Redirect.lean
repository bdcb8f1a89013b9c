import Mathlib.Logic.Relation
import Hes.Fuota.LeafCover

set_option autoImplicit false

namespace Hes.Fuota

open Prog Mqtt

/-- The route that a leaf is addressed along: that of the first node with its address. -/
def routeTo (routes : List MeterVitalInfo) (leaf : MeterVitalInfo) : Option RouterPath :=
  (computeRouterPath routes leaf.meterMacAddress).map fun route =>
    { paths := slice route.paths 0 (min route.hopCount.toNat maxRouteHops * 4)
      hopCount := route.hopCount }

/-- The members that address a frame are those of the leaf, where there is one, or as before. -/
structure AimedAt (leaf : Option MeterVitalInfo) (before after : Fuota) : Prop where
  mac : after.radio.currentFuotaTargetMac =
    (leaf.map MeterVitalInfo.meterMacAddress).getD before.radio.currentFuotaTargetMac
  route : after.radio.currentFuotaRoute =
    (leaf.bind (routeTo before.radio.gatewayRouteInfo)).getD before.radio.currentFuotaRoute
  routes : after.radio.gatewayRouteInfo = before.radio.gatewayRouteInfo
  hopCount : after.client.hopCount = before.client.hopCount

/-- The frame for the target that is built of a command. -/
def targetFrame (packetType : UInt8) (command : Bytes) (fuota : Fuota) : Built :=
  (framePmeshFuotaCmdHeaderForTargetNode packetType command fuota).2.radio.built

/-- Whatever is sent to the target goes to the same node as before, along the same route. -/
def SameTarget (before after : Fuota) : Prop :=
  forall packetType command, toUInt8 before.client.hopCount ≤ 32 ->
    (targetFrame packetType command after).targetMac =
        (targetFrame packetType command before).targetMac /\
      (targetFrame packetType command after).paths = (targetFrame packetType command before).paths /\
      (targetFrame packetType command after).hopCount =
        (targetFrame packetType command before).hopCount

/-- The bytes of a route that a frame for the target has. -/
def hopBytes (fuota : Fuota) (route : RouterPath) : Bytes :=
  slice route.paths 0 ((toUInt8 fuota.client.hopCount).toNat * 4)

/-- The node list that the leaves are found in is the second one that is asked for. -/
def leavesAsked (fuota : Fuota) : List MeterVitalInfo :=
  silencedLeaves ((fuota.inputs.meters (fuota.counters.metersRead + 1)).getD [])
    (fuota.radio.ondemandMacAddr.take 8)

/-- No frame is built at all, or the last node that is addressed is the one addressed before. -/
def Spared (fuota : Fuota) : Prop :=
  toUInt8 fuota.client.hopCount ≤ 32 ->
    if fuota.inputs.nodelistEmpty fuota.counters.listsCounted then
      overwrite fuota.radio.currentFuotaTargetMac 4 fuota.radio.dcuShortAddr =
        fuota.radio.currentFuotaTargetMac
    else ∀ leaf ∈ (leavesAsked fuota).getLast?,
      leaf.meterMacAddress = fuota.radio.currentFuotaTargetMac /\
        ∀ route ∈ routeTo ((fuota.inputs.meters (fuota.counters.metersRead + 1)).getD []) leaf,
          hopBytes fuota route = hopBytes fuota fuota.radio.currentFuotaRoute

theorem aimed_refl (fuota : Fuota) : AimedAt none fuota fuota := ⟨rfl, rfl, rfl, rfl⟩

theorem AimedAt.behind {leaf : Option MeterVitalInfo} {first second third : Fuota}
    (before : AimedAt leaf first second) (behind : AimedAt none second third) :
    AimedAt leaf first third where
  mac := behind.mac.trans before.mac
  route := behind.route.trans before.route
  routes := behind.routes.trans before.routes
  hopCount := behind.hopCount.trans before.hopCount

theorem aimed_trans (first second third : Fuota) (before : AimedAt none first second)
    (behind : AimedAt none second third) : AimedAt none first third := before.behind behind

theorem buildNetworkCommand_aimed : Respects (AimedAt none) buildNetworkCommand := by
  intro fuota
  unfold buildNetworkCommand
  rw [ran_bind (show observe _ fuota = (some _, fuota) from rfl)]
  cases networkCommand fuota.machine with
  | none => exact aimed_refl fuota
  | some command =>
    by_cases far : fuota.radio.currentFuotaRoute.hopCount > 32
    next =>
      constructor <;>
        simp [frameFuotaCmdheaderForNetwork, setRadio, observe, update, bind, headerInit, far]
    next =>
      constructor <;>
        simp [frameFuotaCmdheaderForNetwork, setRadio, observe, update, bind, headerInit, placeFrame,
          far]

theorem writeFrame_aimed : Respects (AimedAt none) writeFrame := fun _ => ⟨rfl, rfl, rfl, rfl⟩

theorem buildAndStoreFuotaCmd_aimed : Respects (AimedAt none) buildAndStoreFuotaCmd := by
  apply respects_bind aimed_trans buildNetworkCommand_aimed
  intro _
  apply respects_bind aimed_trans writeFrame_aimed
  intro written
  split
  next => exact fun _ => ⟨rfl, rfl, rfl, rfl⟩
  next => exact respects_pure aimed_refl false

theorem executeStep_aimed (attempts : Nat) : Respects (AimedAt none) (executeStep attempts) := by
  have waits : Respects (AimedAt none) waitForSocketResponse :=
    waitForSocketResponse_respects aimed_refl aimed_trans writeFrame_aimed
      fun _ => ⟨rfl, rfl, rfl, rfl⟩
  induction attempts with
  | zero => exact respects_pure aimed_refl false
  | succ attempts ih =>
    apply respects_bind aimed_trans buildAndStoreFuotaCmd_aimed
    intro written
    split
    next =>
      apply respects_bind aimed_trans waits
      intro answered
      split
      next => exact fun _ => ⟨rfl, rfl, rfl, rfl⟩
      next => exact ih
    next => exact ih

theorem executeFuotasequence_aimed (states : List Nat) :
    Respects (AimedAt none) (executeFuotasequence states) := by
  induction states with
  | nil => exact respects_pure aimed_refl true
  | cons state rest ih =>
    refine respects_bind aimed_trans (fun _ => ⟨rfl, rfl, rfl, rfl⟩) ?_
    intro _
    apply respects_bind aimed_trans (executeStep_aimed 3)
    intro answered
    split
    next => exact ih
    next => exact respects_pure aimed_refl false

theorem aimedAt_bind {A B : Type} {leaf : Option MeterVitalInfo} {first : Prog Fuota A}
    {next : A -> Prog Fuota B} {fuota : Fuota} (before : AimedAt leaf fuota (first fuota).2)
    (behind : forall value, Respects (AimedAt none) (next value)) :
    AimedAt leaf fuota ((first >>= next) fuota).2 := by
  simp only [bind]
  cases ran : first fuota with
  | mk outcome after =>
    rw [ran] at before
    cases outcome with
    | none => exact before
    | some value => exact before.behind (behind value after)

theorem addressLeaf_aimed (leaf : MeterVitalInfo) (fuota : Fuota) :
    AimedAt (some leaf) fuota (addressLeaf leaf fuota).2 := by
  cases found : computeRouterPath fuota.radio.gatewayRouteInfo leaf.meterMacAddress with
  | none => constructor <;> simp [addressLeaf, setRadio, observe, update, bind, pure, found, routeTo]
  | some route =>
    constructor <;> simp [addressLeaf, setRadio, observe, update, bind, pure, found, routeTo]

theorem enableLeaf_aimed (leaf : MeterVitalInfo) (fuota : Fuota) :
    AimedAt (some leaf) fuota (enableLeaf leaf fuota).2 := by
  rw [enableLeaf, sendFuotaEnableToLeaf]
  refine aimedAt_bind (aimedAt_bind (addressLeaf_aimed leaf fuota) fun found => ?_) fun success => ?_
  next =>
    split
    next =>
      refine respects_bind aimed_trans (fun _ => ⟨rfl, rfl, rfl, rfl⟩) fun _ => ?_
      refine respects_bind aimed_trans (executeFuotasequence_aimed sequenceSteps) fun success => ?_
      exact fun _ => ⟨rfl, rfl, rfl, rfl⟩
    next => exact respects_pure aimed_refl false
  next =>
    split
    next => exact fun _ => ⟨rfl, rfl, rfl, rfl⟩
    next => exact fun _ => ⟨rfl, rfl, rfl, rfl⟩

theorem routeTo_listed (routes : List MeterVitalInfo) (leaf : MeterVitalInfo) (listed : leaf ∈ routes) :
    (routeTo routes leaf).isSome = true := by
  rw [routeTo, Option.isSome_map, computeRouterPath, Option.isSome_map, List.find?_isSome]
  exact ⟨leaf, listed, by simp⟩

theorem forEach_aimed (leaves : List MeterVitalInfo) (fuota last : Fuota)
    (listed : ∀ leaf ∈ leaves, leaf ∈ fuota.radio.gatewayRouteInfo)
    (ran : forEach enableLeaf leaves fuota = (some (), last)) :
    AimedAt leaves.getLast? fuota last := by
  induction leaves generalizing fuota with
  | nil =>
    obtain rfl : fuota = last := congrArg Prod.snd ran
    exact aimed_refl fuota
  | cons leaf rest ih =>
    have aimed := enableLeaf_aimed leaf fuota
    rw [forEach] at ran
    cases visited : enableLeaf leaf fuota with
    | mk outcome after =>
      rw [visited] at aimed
      cases outcome with
      | none =>
        rw [waited_bind visited] at ran
        cases ran
      | some value =>
        rw [ran_bind visited] at ran
        have later := ih after (fun leaf inside =>
          aimed.routes ▸ listed leaf (List.mem_cons_of_mem _ inside)) ran
        cases behind : rest.getLast? with
        | none =>
          obtain rfl := List.getLast?_eq_none_iff.mp behind
          exact aimed.behind later
        | some other =>
          -- the last leaf has a route of its own, so that nothing of the first one is left
          have inside : other ∈ fuota.radio.gatewayRouteInfo :=
            listed other (List.mem_cons_of_mem _ (List.mem_of_getLast? behind))
          obtain ⟨route, known⟩ := Option.isSome_iff_exists.mp (routeTo_listed _ other inside)
          rw [behind] at later
          rw [List.getLast?_cons, behind]
          refine ⟨later.mac, ?_, later.routes.trans aimed.routes,
            later.hopCount.trans aimed.hopCount⟩
          rw [later.route, aimed.routes]
          simp [known]

/-- What the visits of the leaves of a node list leave of the members that address the target. -/
structure Silenced (meters : List MeterVitalInfo) (ondemandMac : Bytes) (before after : Fuota) :
    Prop where
  mac : after.radio.currentFuotaTargetMac =
    ((silencedLeaves meters ondemandMac).getLast?.map MeterVitalInfo.meterMacAddress).getD
      before.radio.currentFuotaTargetMac
  paths : after.radio.currentFuotaRoute.paths =
    (((silencedLeaves meters ondemandMac).getLast?.bind (routeTo meters)).getD
      before.radio.currentFuotaRoute).paths
  hopCount : after.client.hopCount = before.client.hopCount

theorem silencedLeaves_nil (ondemandMac : Bytes) : silencedLeaves [] ondemandMac = [] := rfl

theorem undernodes_ran (fuota : Fuota) : undernodes fuota =
    (fuota.inputs.meters fuota.counters.metersRead, (getGatewayUndernodes fuota).2) := by
  cases found : fuota.inputs.meters fuota.counters.metersRead with
  | none => simp [undernodes, getGatewayUndernodes, bind, found, waiting]
  | some meters => simp [undernodes, getGatewayUndernodes, bind, found, pure]

theorem enableNetwork_silenced (ondemandMac : Bytes) (fuota last : Fuota) (result : Bool)
    (ran : enableNetwork ondemandMac fuota = (some result, last)) :
    Silenced ((fuota.inputs.meters fuota.counters.metersRead).getD []) ondemandMac fuota last := by
  have asked := undernodes_ran fuota
  rw [enableNetwork] at ran
  cases found : fuota.inputs.meters fuota.counters.metersRead with
  | none =>
    rw [found] at asked
    rw [waited_bind asked] at ran
    cases ran
  | some meters =>
    rw [found] at asked
    rw [ran_bind asked] at ran
    rw [Option.getD_some]
    by_cases empty : meters = []
    next =>
      rw [if_pos empty] at ran
      obtain rfl : _ = last := congrArg Prod.snd ran
      constructor <;> simp [empty, silencedLeaves_nil, getGatewayUndernodes, pure]
    next =>
      rw [if_neg empty] at ran
      let known : Fuota := (setGatewayRouteInfo meters (getGatewayUndernodes fuota).2).2
      have begun : visitLeaves enableLeaf meters ondemandMac (getGatewayUndernodes fuota).2 =
          forEach enableLeaf (silencedLeaves meters ondemandMac) known := rfl
      cases visited : visitLeaves enableLeaf meters ondemandMac (getGatewayUndernodes fuota).2 with
      | mk outcome after =>
        cases outcome with
        | none =>
          rw [waited_bind visited] at ran
          cases ran
        | some value =>
          rw [ran_bind visited] at ran
          obtain rfl : after = last := congrArg Prod.snd ran
          have aimed := forEach_aimed (silencedLeaves meters ondemandMac) known after
            (fun leaf inside => (silencedLeaves_sublist meters ondemandMac).subset inside)
            (begun ▸ visited)
          exact ⟨aimed.mac, congrArg RouterPath.paths aimed.route, aimed.hopCount⟩

/-- The header that is built for the target puts the client's hop count into the route. -/
structure SameAddress (before after : Fuota) : Prop where
  mac : after.radio.currentFuotaTargetMac = before.radio.currentFuotaTargetMac
  paths : after.radio.currentFuotaRoute.paths = before.radio.currentFuotaRoute.paths
  hopCount : after.client.hopCount = before.client.hopCount

theorem sameAddress_trans (first second third : Fuota) (before : SameAddress first second)
    (behind : SameAddress second third) : SameAddress first third where
  mac := behind.mac.trans before.mac
  paths := behind.paths.trans before.paths
  hopCount := behind.hopCount.trans before.hopCount

theorem AimedAt.sameAddress {before after : Fuota} (aimed : AimedAt none before after) :
    SameAddress before after where
  mac := aimed.mac
  paths := congrArg RouterPath.paths aimed.route
  hopCount := aimed.hopCount

theorem sendToTarget_sameAddress (packetType : UInt8) (command : Bytes) :
    Respects SameAddress (sendToTarget packetType command) := by
  refine respects_bind sameAddress_trans ?_ fun _ => ?_
  next =>
    intro fuota
    by_cases far : toUInt8 fuota.client.hopCount > 32
    next =>
      constructor <;>
        simp [framePmeshFuotaCmdHeaderForTargetNode, setRadio, observe, update, bind, headerInit, far]
    next =>
      constructor <;>
        simp [framePmeshFuotaCmdHeaderForTargetNode, setRadio, observe, update, bind, headerInit,
          placeFrame, far]
  next =>
    refine respects_bind sameAddress_trans (fun fuota => (buildAndStoreFuotaCmd_aimed fuota).sameAddress)
      fun _ fuota => (aimed_refl fuota).sameAddress

theorem sectorRead_sameAddress : Respects SameAddress prepareGetSectorReadForTargetNode :=
  sendToTarget_sameAddress fuotaDataQuery sectorRead

theorem calculateCrc_sameAddress : Respects SameAddress calculateCrcForTargetNode := by
  have refl (fuota : Fuota) : SameAddress fuota fuota := ⟨rfl, rfl, rfl⟩
  have tabled : Respects SameAddress ensureCrcTable := by
    intro fuota
    dsimp only [ensureCrcTable, update]
    split
    next => exact refl fuota
    next => exact ⟨rfl, rfl, rfl⟩
  have read (count : Nat) : Respects SameAddress (fread count) := by
    intro fuota
    unfold fread
    split
    next => exact refl fuota
    next => exact ⟨rfl, rfl, rfl⟩
  have turn (remaining : Nat) : Respects SameAddress (crcTurn remaining) := by
    unfold crcTurn
    split
    next =>
      apply respects_bind sameAddress_trans (respects_observe refl _)
      intro sectorValue
      apply respects_bind sameAddress_trans (read _)
      intro chunk
      split
      next => exact respects_pure refl _
      next => exact fun _ => ⟨rfl, rfl, rfl⟩
    next => exact respects_pure refl _
  apply respects_bind sameAddress_trans tabled
  intro _
  apply respects_bind sameAddress_trans (respects_observe refl _)
  intro fuota
  split
  next => exact fun _ => ⟨rfl, rfl, rfl⟩
  next =>
    split
    next => exact respects_pure refl ()
    next =>
      apply respects_bind sameAddress_trans fun _ => ⟨rfl, rfl, rfl⟩
      intro _
      apply respects_bind sameAddress_trans
        (respects_loop refl sameAddress_trans crcTurn turn _ _)
      intro complete
      split
      next => exact fun _ => ⟨rfl, rfl, rfl⟩
      next => exact respects_pure refl ()

/-- The states whose command is built for the target; the frames of an upload have the header of
the command in front of them. -/
def FuotaState.targeting (state : FuotaState) : Bool :=
  state = .sectorRead || state = .fwimageOfSectorCount || state = .eraseFlash ||
    state = .fwImageEndofPageTransfer || state = .newFwimageCrcCalculate ||
    state = .activateNewFwimage || state = .sendActivateCmd || state = .readAndCompareFwVersion

/-- A command of these states, where anything but the address may have changed before it. -/
def Commands (before after : Fuota) : Prop :=
  exists begun : Fuota, SameAddress before begun /\
    begun.machine.ondemandFuotaState.targeting = true /\ after = (cansendFuotaNextCommand begun).2

theorem cansendFuotaNextCommand_sameAddress (fuota : Fuota)
    (targeting : fuota.machine.ondemandFuotaState.targeting = true) :
    SameAddress fuota (cansendFuotaNextCommand fuota).2 := by
  have refl (fuota : Fuota) : SameAddress fuota fuota := ⟨rfl, rfl, rfl⟩
  rw [cansendFuotaNextCommand,
    ran_bind (show getState fuota = (some fuota.machine.ondemandFuotaState, fuota) from rfl)]
  cases state : fuota.machine.ondemandFuotaState with
  | sectorRead => exact sendToTarget_sameAddress _ _ fuota
  | fwimageOfSectorCount =>
    exact respects_bind sameAddress_trans (respects_observe refl _)
      (fun firmware => sendToTarget_sameAddress _ (fwInfo firmware)) fuota
  | eraseFlash => exact sendToTarget_sameAddress _ _ fuota
  | fwImageEndofPageTransfer => exact sendToTarget_sameAddress fuotaDataQuery endofImageTransfer fuota
  | newFwimageCrcCalculate =>
    refine respects_bind sameAddress_trans calculateCrc_sameAddress (fun _ => ?_) fuota
    exact respects_bind sameAddress_trans (respects_observe refl _)
      fun value => sendToTarget_sameAddress _ (verifyCommand value)
  | activateNewFwimage => exact sendToTarget_sameAddress _ _ fuota
  | sendActivateCmd => exact sendToTarget_sameAddress _ _ fuota
  | readAndCompareFwVersion => exact sendToTarget_sameAddress _ _ fuota
  | openFile | gatewayPathSilence | targetNodeSilence | networkSilence | fwImageTransfer
  | lastUpdateFwimageOfSectorcount | networkUnsilence | targetNodeUnsilence | gatewayPathUnsilence
  | rollbackToNormalCommMode | idle | unset => simp [state, FuotaState.targeting] at targeting

theorem commands_sameAddress (before after : Fuota)
    (commands : Relation.ReflTransGen Commands before after) : SameAddress before after := by
  induction commands with
  | refl => exact ⟨rfl, rfl, rfl⟩
  | tail _ command ih =>
    obtain ⟨begun, same, targeting, rfl⟩ := command
    exact sameAddress_trans _ _ _ (sameAddress_trans _ _ _ ih same)
      (cansendFuotaNextCommand_sameAddress begun targeting)

theorem targetFrame_near (packetType : UInt8) (command : Bytes) (fuota : Fuota)
    (near : toUInt8 fuota.client.hopCount ≤ 32) :
    (targetFrame packetType command fuota).targetMac = fuota.radio.currentFuotaTargetMac /\
      (targetFrame packetType command fuota).paths = hopBytes fuota fuota.radio.currentFuotaRoute /\
      (targetFrame packetType command fuota).hopCount = toUInt8 fuota.client.hopCount := by
  have close : ¬ toUInt8 fuota.client.hopCount > 32 := UInt8.not_lt.mpr near
  simp [targetFrame, framePmeshFuotaCmdHeaderForTargetNode, setRadio, observe, update, bind, headerInit,
    placeFrame, close, hopBytes]

theorem sameTarget_iff (before after : Fuota) (hops : after.client.hopCount = before.client.hopCount) :
    SameTarget before after <-> (toUInt8 before.client.hopCount ≤ 32 ->
      after.radio.currentFuotaTargetMac = before.radio.currentFuotaTargetMac /\
        hopBytes before after.radio.currentFuotaRoute =
          hopBytes before before.radio.currentFuotaRoute) := by
  have same : hopBytes after = hopBytes before := by
    funext route
    rw [hopBytes, hopBytes, hops]
  constructor
  next =>
    intro target near
    obtain ⟨mac, paths, _⟩ := target 0 [] near
    obtain ⟨macBefore, pathsBefore, _⟩ := targetFrame_near 0 [] before near
    obtain ⟨macAfter, pathsAfter, _⟩ := targetFrame_near 0 [] after (hops ▸ near)
    rw [macBefore, macAfter] at mac
    rw [pathsBefore, pathsAfter, same] at paths
    exact ⟨mac, paths⟩
  next =>
    intro address packetType command near
    obtain ⟨mac, paths⟩ := address near
    obtain ⟨macBefore, pathsBefore, hopsBefore⟩ := targetFrame_near packetType command before near
    obtain ⟨macAfter, pathsAfter, hopsAfter⟩ := targetFrame_near packetType command after (hops ▸ near)
    rw [macBefore, macAfter, pathsBefore, pathsAfter, hopsBefore, hopsAfter, same, hops]
    exact ⟨mac, paths, rfl⟩

theorem SameAddress.sameTarget {before last after : Fuota} (same : SameAddress last after)
    (hops : last.client.hopCount = before.client.hopCount) :
    SameTarget before after <-> SameTarget before last := by
  have paths : hopBytes before after.radio.currentFuotaRoute =
      hopBytes before last.radio.currentFuotaRoute := by
    rw [hopBytes, hopBytes, same.paths]
  rw [sameTarget_iff before after (same.hopCount.trans hops), sameTarget_iff before last hops, same.mac,
    paths]

/-- The phase up to its first frame for the target, over the leaves of the second node list. -/
theorem prepareSilence_silenced (fuota last : Fuota)
    (ran : prepareSilenceTheEntireNetworkForFuota fuota = (some (), last)) :
    Silenced ((fuota.inputs.meters (fuota.counters.metersRead + 1)).getD [])
      (fuota.radio.ondemandMacAddr.take 8) fuota last := by
  have asked := undernodes_ran fuota
  rw [prepareSilenceTheEntireNetworkForFuota] at ran
  cases found : fuota.inputs.meters fuota.counters.metersRead with
  | none =>
    rw [found] at asked
    rw [waited_bind asked] at ran
    cases ran
  | some first =>
    rw [found] at asked
    let known : Fuota := (setGatewayRouteInfo first (getGatewayUndernodes fuota).2).2
    let typed : Fuota := (setPacketType meshCommissionPacketType known).2
    rw [ran_bind asked, ran_bind (show setGatewayRouteInfo first _ = (some (), known) from rfl),
      ran_bind (show setPacketType _ known = (some (), typed) from rfl),
      ran_bind (show observe _ typed = (some fuota.radio.ondemandMacAddr, typed) from rfl)] at ran
    cases enabled : enableNetwork (fuota.radio.ondemandMacAddr.take 8) typed with
    | mk outcome after =>
      cases outcome with
      | none =>
        rw [waited_bind enabled] at ran
        cases ran
      | some result =>
        have silenced := enableNetwork_silenced _ typed after result enabled
        rw [ran_bind enabled] at ran
        cases result with
        | false =>
          obtain rfl : after = last := congrArg Prod.snd ran
          exact ⟨silenced.mac, silenced.paths, silenced.hopCount⟩
        | true =>
          have same : SameAddress (setState .sectorRead after).2 last := by
            have kept := sectorRead_sameAddress (setState .sectorRead after).2
            rwa [show (prepareGetSectorReadForTargetNode (setState .sectorRead after).2).2 = last from
              congrArg Prod.snd ran] at kept
          exact ⟨same.mac.trans silenced.mac, same.paths.trans silenced.paths,
            same.hopCount.trans silenced.hopCount⟩

theorem sendNetworkSilence_iff (fuota last : Fuota)
    (ran : sendNetworkSilence fuota = (some (), last)) :
    last.client.hopCount = fuota.client.hopCount /\ (SameTarget fuota last <-> Spared fuota) := by
  let counted : Fuota := (nodelistEmpty fuota).2
  have asked : nodelistEmpty fuota =
      (some (fuota.inputs.nodelistEmpty fuota.counters.listsCounted), counted) := rfl
  rw [sendNetworkSilence, ran_bind asked] at ran
  by_cases empty : fuota.inputs.nodelistEmpty fuota.counters.listsCounted = true
  next =>
    rw [if_pos empty] at ran
    let targeted : Fuota := (setState .sectorRead (targetTheGateway counted).2).2
    have same : SameAddress targeted last := by
      have kept := sectorRead_sameAddress targeted
      rwa [show (prepareGetSectorReadForTargetNode targeted).2 = last from congrArg Prod.snd ran] at kept
    have mac : last.radio.currentFuotaTargetMac =
        overwrite fuota.radio.currentFuotaTargetMac 4 fuota.radio.dcuShortAddr := same.mac
    have paths : hopBytes fuota last.radio.currentFuotaRoute =
        hopBytes fuota fuota.radio.currentFuotaRoute := by
      rw [hopBytes, hopBytes, same.paths]
      rfl
    refine ⟨same.hopCount, ?_⟩
    rw [sameTarget_iff fuota last same.hopCount, mac, paths, Spared, if_pos empty, and_iff_left rfl]
  next =>
    rw [if_neg empty] at ran
    obtain ⟨mac, paths, hops⟩ : Silenced
        ((fuota.inputs.meters (fuota.counters.metersRead + 1)).getD [])
        (fuota.radio.ondemandMacAddr.take 8) fuota last := by
      have silenced := prepareSilence_silenced counted last ran
      exact ⟨silenced.mac, silenced.paths, silenced.hopCount⟩
    refine ⟨hops, ?_⟩
    rw [sameTarget_iff fuota last hops, Spared, if_neg empty]
    apply imp_congr_right
    intro _
    rw [hopBytes, paths, mac, leavesAsked]
    cases visited : (silencedLeaves ((fuota.inputs.meters (fuota.counters.metersRead + 1)).getD [])
        (fuota.radio.ondemandMacAddr.take 8)).getLast? with
    | none => simp [hopBytes]
    | some leaf =>
      have inside := (silencedLeaves_sublist _ _).subset (List.mem_of_getLast? visited)
      obtain ⟨route, known⟩ := Option.isSome_iff_exists.mp (routeTo_listed _ leaf inside)
      simp [known, hopBytes]

/-- The queries of the phase are answered: a failing one frees the object that asks. -/
def ListsRead (fuota : Fuota) : Prop :=
  fuota.inputs.nodelistEmpty fuota.counters.listsCounted = true \/
    ((fuota.inputs.meters fuota.counters.metersRead).isSome = true /\
      (fuota.inputs.meters (fuota.counters.metersRead + 1)).isSome = true)

theorem undernodes_steadies (fuota : Fuota) (meters : List MeterVitalInfo)
    (found : fuota.inputs.meters fuota.counters.metersRead = some meters) (fuel : Nat) :
    undernodes (fuelled fuel fuota) = (some meters, fuelled fuel (getGatewayUndernodes fuota).2) := by
  rw [undernodes_ran, show (fuelled fuel fuota).inputs.meters (fuelled fuel fuota).counters.metersRead =
    some meters from found]
  rfl

theorem enableNetwork_settles (ondemandMac : Bytes) (fuota : Fuota) (meters : List MeterVitalInfo)
    (found : fuota.inputs.meters fuota.counters.metersRead = some meters) :
    Settles fuelled (enableNetwork ondemandMac) fuota := by
  by_cases empty : meters = []
  next =>
    refine ⟨0, false, (getGatewayUndernodes fuota).2, fun fuel _ => ?_⟩
    rw [enableNetwork, ran_bind (undernodes_steadies fuota meters found fuel), if_pos empty]
    rfl
  next =>
    let known : Fuota := (setGatewayRouteInfo meters (getGatewayUndernodes fuota).2).2
    obtain ⟨enough, value, after, ends⟩ := forEach_settles (silencedLeaves meters ondemandMac) known
    refine ⟨enough, true, after, fun fuel above => ?_⟩
    have visited : visitLeaves enableLeaf meters ondemandMac
        (fuelled fuel (getGatewayUndernodes fuota).2) = (some value, fuelled fuel after) :=
      ends fuel above
    rw [enableNetwork, ran_bind (undernodes_steadies fuota meters found fuel), if_neg empty,
      ran_bind visited]
    rfl

theorem sectorRead_steadies (fuota : Fuota) :
    Steadies fuelled prepareGetSectorReadForTargetNode fuota := by
  refine steadies_bind ⟨(), (framePmeshFuotaCmdHeaderForTargetNode fuotaDataQuery sectorRead fuota).2,
    fun _ => rfl⟩ fun _ after => ?_
  exact steadies_bind (buildAndStoreFuotaCmd_steadies after) fun _ last => steadies_pure () last

theorem setState_steadies (state : FuotaState) (fuota : Fuota) :
    Steadies fuelled (setState state) fuota := ⟨(), (setState state fuota).2, fun _ => rfl⟩

theorem prepareSilence_settles (fuota : Fuota) (first meters : List MeterVitalInfo)
    (found : fuota.inputs.meters fuota.counters.metersRead = some first)
    (again : fuota.inputs.meters (fuota.counters.metersRead + 1) = some meters) :
    Settles fuelled prepareSilenceTheEntireNetworkForFuota fuota := by
  let known : Fuota := (setGatewayRouteInfo first (getGatewayUndernodes fuota).2).2
  let typed : Fuota := (setPacketType meshCommissionPacketType known).2
  let ondemandMac := fuota.radio.ondemandMacAddr.take 8
  have enabled : Settles fuelled (do
      if <- enableNetwork ondemandMac then
        setState .sectorRead
        prepareGetSectorReadForTargetNode
      else return ()) typed := by
    refine settles_bind (enableNetwork_settles ondemandMac typed meters again) fun result after => ?_
    split
    next =>
      exact (steadies_bind (setState_steadies .sectorRead after)
        fun _ begun => sectorRead_steadies begun).settles
    next => exact (steadies_pure () after).settles
  obtain ⟨enough, value, after, ends⟩ := enabled
  refine ⟨enough, value, after, fun fuel above => ?_⟩
  rw [← ends fuel above, prepareSilenceTheEntireNetworkForFuota,
    ran_bind (undernodes_steadies fuota first found fuel)]
  rfl

theorem sendNetworkSilence_settles (fuota : Fuota) (listed : ListsRead fuota) :
    Settles fuelled sendNetworkSilence fuota := by
  let counted : Fuota := (nodelistEmpty fuota).2
  have asked (fuel : Nat) : nodelistEmpty (fuelled fuel fuota) =
      (some (fuota.inputs.nodelistEmpty fuota.counters.listsCounted), fuelled fuel counted) := rfl
  by_cases empty : fuota.inputs.nodelistEmpty fuota.counters.listsCounted = true
  next =>
    let targeted : Fuota := (setState .sectorRead (targetTheGateway counted).2).2
    obtain ⟨value, after, ran⟩ := sectorRead_steadies targeted
    refine ⟨0, value, after, fun fuel _ => ?_⟩
    rw [sendNetworkSilence, ran_bind (asked fuel), if_pos empty]
    exact ran fuel
  next =>
    obtain ⟨found, again⟩ := listed.resolve_left empty
    obtain ⟨first, found⟩ := Option.isSome_iff_exists.mp found
    obtain ⟨meters, again⟩ := Option.isSome_iff_exists.mp again
    obtain ⟨enough, value, after, ends⟩ := prepareSilence_settles counted first meters found again
    refine ⟨enough, value, after, fun fuel above => ?_⟩
    rw [sendNetworkSilence, ran_bind (asked fuel), if_neg empty]
    exact ends fuel above

-- a request for the target behind the router, where another node is a leaf as well
def redirected : Fuota where
  inputs := { meters := fun _ => some [routerNode, targetNode, otherNode]
              nodelistEmpty := fun _ => false }
  client := { hopCount := 2 }
  radio := {
    currentFuotaTargetMac := targetNode.meterMacAddress
    currentFuotaRoute := { paths := targetNode.routePath, hopCount := 2 }
    ondemandMacAddr := targetNode.meterMacAddress ++ [0, 0, 0, 0, 0, 0, 0, 0] }

theorem redirected_leaves : leavesAsked redirected = [otherNode] := by decide

theorem redirected_unspared : ¬ Spared redirected := by
  intro spared
  have last := spared (by decide)
  rw [if_neg (by decide), redirected_leaves] at last
  exact absurd (last otherNode rfl).1 (by decide)

end Hes.Fuota
