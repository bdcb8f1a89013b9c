import Hes.CycleStart

set_option autoImplicit false

namespace Hes.CycleActivity

open Prog Text NodeQueues

def Item.phase : Item -> Phase
  | .unsilenced => .unsilence
  | .firmwareVersion => .firmwareVersion
  | .profile .nameplate _ => .nameplate
  | .profile .instantaneous _ => .instantaneous
  | .profile .dailyLoad _ => .dailyLoad
  | .profile .blockLoad _ => .blockLoad
  | .profile .billingHistory _ => .billingHistory

theorem lacking_phase {available : Bool} {item other : Item} (inside : item ∈ lacking available other) :
    item = other := by
  cases available <;> simp [lacking] at inside
  exact inside

theorem due_phase {node : Entry} {phase : Phase} {item : Item} (due : item ∈ node.due phase) :
    item.phase = phase := by
  cases phase with
  | instantaneous =>
    obtain ⟨cycle, _, rfl⟩ := List.mem_map.mp due
    rfl
  | unsilence => rw [lacking_phase due]; rfl
  | firmwareVersion => rw [lacking_phase due]; rfl
  | nameplate => rw [lacking_phase due]; rfl
  | dailyLoad => rw [lacking_phase due]; rfl
  | blockLoad => rw [lacking_phase due]; rfl
  | billingHistory => rw [lacking_phase due]; rfl

theorem lacking_nodup (available : Bool) (item : Item) : (lacking available item).Nodup := by
  cases available <;> simp [lacking]

theorem due_nodup {node : Entry} (once : node.node.missingIpCycles.Nodup) (phase : Phase) :
    (node.due phase).Nodup := by
  cases phase with
  | instantaneous =>
    apply List.Nodup.map
    next => exact fun first second same => by simpa using same
    next => exact once.sublist (List.take_sublist 4 _)
  | unsilence => exact lacking_nodup _ _
  | firmwareVersion => exact lacking_nodup _ _
  | nameplate => exact lacking_nodup _ _
  | dailyLoad => exact lacking_nodup _ _
  | blockLoad => exact lacking_nodup _ _
  | billingHistory => exact lacking_nodup _ _

/-- What a turn can pass to the database, by the address of its node. -/
def turnItems (turn : Phase × Entry) : List (Bytes × Item) :=
  (turn.2.due turn.1).map fun item => (turn.2.mac, item)

def noted (visits : List Visit) : List (Bytes × Item) :=
  visits.flatMap fun visit => visit.updates.map fun update => (update.mac, update.item)

theorem plan_items_nodup {nodes : List Entry} (macs : (nodes.map Entry.mac).Nodup)
    (once : ∀ node ∈ nodes, node.node.missingIpCycles.Nodup) : ((plan nodes).flatMap turnItems).Nodup := by
  rw [List.nodup_flatMap]
  constructor
  next =>
    intro turn inside
    obtain ⟨phase, _, turned⟩ := List.mem_flatMap.mp inside
    obtain ⟨node, known, rfl⟩ := List.mem_map.mp turned
    apply List.Nodup.map _ (due_nodup (once node known) phase)
    exact fun first second same => congrArg Prod.snd same
  next =>
    -- two turns have another phase or another node
    have keys : ((plan nodes).map fun turn => (turn.1, turn.2.mac)).Nodup := by
      have pairs : ((plan nodes).map fun turn => (turn.1, turn.2.mac)) = phases ×ˢ nodes.map Entry.mac := by
        simp [plan, Phase.turns, List.map_flatMap, SProd.sprod, List.product, Function.comp_def]
      rw [pairs]
      exact List.Nodup.product (by decide) macs
    apply (List.pairwise_map.mp keys).imp
    intro first second other item inside inside'
    obtain ⟨item, due, rfl⟩ := List.mem_map.mp inside
    obtain ⟨item', due', same⟩ := List.mem_map.mp inside'
    obtain ⟨sameMac, rfl⟩ := Prod.mk.inj same
    exact other (by rw [<- due_phase due, <- due_phase due', sameMac])

theorem noted_sublist {turns : List (Phase × Entry)} {visits : List Visit}
    (served : List.Forall₂ Served turns visits) : (noted visits).Sublist (turns.flatMap turnItems) := by
  induction served with
  | nil => exact List.Sublist.refl _
  | @cons turn visit turns visits first _ ih =>
    have own : (visit.updates.map fun update => (update.mac, update.item)) =
        (visit.updates.map Update.item).map fun item => (turn.2.mac, item) := by
      rw [List.map_map]
      apply List.map_congr_left
      intro update inside
      simp [(first.sound update inside).1]
    have front : ((visit.updates.map fun update => (update.mac, update.item))).Sublist (turnItems turn) := by
      rw [own]
      exact (first.due.map _).sublist
    exact front.append ih

/-- Nothing is passed to the database twice. -/
theorem Planned.once {nodes : List Entry} {visits : List Visit} (planned : Planned nodes visits)
    (macs : (nodes.map Entry.mac).Nodup) (once : ∀ node ∈ nodes, node.node.missingIpCycles.Nodup) :
    (noted visits).Nodup := by
  obtain ⟨turns, inside, served⟩ := planned.served
  apply List.Nodup.sublist (noted_sublist served)
  apply List.Nodup.sublist _ (plan_items_nodup macs once)
  obtain ⟨behind, whole⟩ := inside
  rw [<- whole, List.flatMap_append]
  exact List.sublist_append_left _ _

theorem planOf_length (front : List Phase) (nodes : List Entry) :
    (planOf front nodes).length = front.length * nodes.length := by
  induction front with
  | nil => simp [planOf]
  | cons phase rest ih =>
    rw [planOf, List.flatMap_cons, List.length_append, <- planOf, ih, List.length_cons, Nat.add_one_mul]
    simp [Phase.turns, Nat.add_comm]

/-- A failed activity has not served the whole plan. -/
theorem Failed.unfinished {nodes : List Entry} {activity : Activity} (failed : Failed nodes activity)
    (some : nodes ≠ []) : ¬ AllServed (plan nodes) activity.visits := by
  intro all
  rcases failed with ⟨turns, _, broken⟩ | ⟨early, _⟩
  next =>
    obtain ⟨last, known, ends⟩ := broken.last
    have more := all.goesOn last (List.mem_of_getLast? known)
    rw [ends] at more
    cases more
  next =>
    have short : (planOf beforeScalars nodes).length = (planOf phases nodes).length :=
      early.served.length_eq.trans all.served.length_eq.symm
    have one : 1 ≤ nodes.length := List.length_pos_of_ne_nil some
    simp only [planOf_length, beforeScalars, phases, List.length_cons, List.length_nil] at short
    omega

/-- An activity that returns succeeds exactly when the whole plan was served. -/
theorem hesStartCycleActiviy_returned (fuel : Nat) (database : Database) (gatewayId : Bytes)
    (activity : Activity) (ret : Code)
    (returned : (hesStartCycleActiviy fuel database gatewayId activity).1 = some (.ok ret)) :
    let nodes := builtNodes database gatewayId
    let reached := (hesStartCycleActiviy fuel database gatewayId activity).2
    (ret = .success <-> database.acquire.Free /\ AllServed (plan nodes) reached.visits) /\
      (ret ≠ .success -> ret = .failure /\ (¬ database.acquire.Free \/ Failed nodes reached)) := by
  by_cases free : database.acquire.Free
  next =>
    rw [hesStartCycleActiviy_free free] at returned ⊢
    have ended : Ended (builtNodes database gatewayId) (.ok ret) (acquiredCycle fuel database gatewayId
        { activity.begun with syncTimes := activity.syncTimes ++ [1] }).2 :=
      (acquiredCycle_served fuel database gatewayId).returned rfl (returned_of_fst _ _ _ returned)
    obtain ⟨some, ⟨rfl, all⟩ | ⟨rfl, failed⟩⟩ := ended
    next => simpa [free] using all
    next => simpa [free, failed] using failed.unfinished some
  next =>
    rw [hesStartCycleActiviy_taken free] at returned ⊢
    cases returned
    simp [free]

/-- The visits of a cycle activity are those of the plan up to the first one that does not go on,
and the activity succeeds exactly when the whole plan was served. -/
theorem hesStartCycleActiviy_follows_plan (fuel : Nat) (database : Database) (gatewayId : Bytes)
    (activity : Activity) :
    let nodes := builtNodes database gatewayId
    let reached := hesStartCycleActiviy fuel database gatewayId activity
    Planned nodes reached.2.visits /\
      forall ret, reached.1 = some (.ok ret) ->
        (ret = .success <-> database.acquire.Free /\ AllServed (plan nodes) reached.2.visits) /\
        (ret ≠ .success -> ret = .failure /\ (¬ database.acquire.Free \/ Failed nodes reached.2)) :=
  ⟨hesStartCycleActiviy_planned fuel database gatewayId activity,
    hesStartCycleActiviy_returned fuel database gatewayId activity⟩

theorem Planned.visit {nodes : List Entry} {visits : List Visit} (planned : Planned nodes visits)
    {visit : Visit} (inside : visit ∈ visits) : ∃ node ∈ nodes, Served (visit.phase, node) visit := by
  obtain ⟨turns, first, served⟩ := planned.served
  obtain ⟨turn, known, here⟩ := Patrol.forall₂_front served visit inside
  obtain ⟨phase, _, turned⟩ := List.mem_flatMap.mp (first.subset known)
  obtain ⟨node, listed, rfl⟩ := List.mem_map.mp turned
  exact ⟨node, listed, here.phase ▸ here⟩

theorem builtNodes_once (database : Database) (gatewayId : Bytes) :
    ((builtNodes database gatewayId).map Entry.mac).Nodup /\
      ∀ node ∈ builtNodes database gatewayId, node.node.missingIpCycles.Nodup := by
  rw [builtNodes]
  cases built : buildNodeListFromDb database gatewayId with
  | error fault => simp [Except.toOption]
  | ok nodes =>
    obtain ⟨gatewayMac, _, map⟩ := buildNodeListFromDb_built built
    refine ⟨map.sorted.imp ?_, map.once⟩
    rintro first second smaller rfl
    exact List.lt_irrefl first smaller

/-- A visit passes on what was missing of its node when the list was built, from the front, and no
update is passed on twice in an activity. -/
theorem hesStartCycleActiviy_updates_once (fuel : Nat) (database : Database) (gatewayId : Bytes)
    (activity : Activity) :
    let visits := (hesStartCycleActiviy fuel database gatewayId activity).2.visits
    (∀ visit ∈ visits, ∃ node ∈ builtNodes database gatewayId, visit.entry.mac = node.mac /\
      (∀ update ∈ visit.updates, update.mac = node.mac) /\
      visit.updates.map Update.item <+: node.due visit.phase) /\
    (noted visits).Nodup := by
  have planned := hesStartCycleActiviy_planned fuel database gatewayId activity
  obtain ⟨macs, once⟩ := builtNodes_once database gatewayId
  refine ⟨fun visit inside => ?_, planned.once macs once⟩
  obtain ⟨node, listed, served⟩ := planned.visit inside
  exact ⟨node, listed, served.mac, fun update here => (served.sound update here).1, served.due⟩

/-- A profile that is passed on has the records of the frames that its visit met from its node, and
those of no other frame. -/
theorem hesStartCycleActiviy_profiles_sound (fuel : Nat) (database : Database) (gatewayId : Bytes)
    (activity : Activity) :
    ∀ visit ∈ (hesStartCycleActiviy fuel database gatewayId activity).2.visits,
      forall mac stored, .stored mac stored ∈ visit.updates -> mac = visit.entry.mac /\
        stored.contents = stored.profile.empty.mergeAll (mergedFrames stored.own) /\
        ∀ note ∈ stored.own, note.Sourced mac := by
  intro visit inside mac stored here
  have planned := hesStartCycleActiviy_planned fuel database gatewayId activity
  obtain ⟨node, _, served⟩ := planned.visit inside
  obtain ⟨same, sound⟩ := served.sound _ here
  obtain rfl : mac = node.mac := same
  have sound := sound stored rfl
  exact ⟨served.mac.symm, sound.merged, sound.sourced⟩

/-- A page of the node 01020304 that answers a command. -/
def meterReply (command profile count : UInt8) (records : Bytes) : Bytes :=
  [0x2E, UInt8.ofNat (26 + records.length), 0x08, 0x00, 0x00, 0x00, 0x00, 0x00, 0x00, 0x00, 0x00,
    0x01, 0x02, 0x03, 0x04, 0x00, 0x00] ++ withChecksum ([0x2D, 0x00,
      UInt8.ofNat (9 + records.length), 0x00, command, profile, 0x00, 0x00, count] ++ records)

/-- A gateway without routers, from which nothing is missing but its nameplate. -/
def gatewayAlone (nameplate : Bool) : Database where
  acquire := { acquiredByNms := .rows none, write := .success }
  release := { acquiredByNms := .rows none, write := .success }
  zone := fun _ => 0
  sourceRoutes := .rows []
  node := fun _ => {
    now := 0, storedCycles := fun _ => true, alternateRoutes := .noResult
    blockLoad := .rows true, dailyLoad := .rows true, billingHistory := .rows true
    nameplate := .rows nameplate, silenced := .rows false, firmwareVersion := .rows none }

def answering (replies : List Bytes) : Activity where
  client := { inputs := { recv := fun turn =>
    match replies[turn]? with
    | some frame => .data frame none
    | none => .timedOut } }
  scalarsMissing := true
  meterDetailsQueue := [{ pathRecord := ascii "01020304", hopCount := 0, profileId := 1 }]
  texts := { panId := ascii "00000304", sourceId := ascii "01020304" }

/-- What an activity with the gateway 01020304 reaches. -/
def reachedAlone (nameplate : Bool) (replies : List Bytes) : Activity :=
  (hesStartCycleActiviy 20 (gatewayAlone nameplate) (ascii "3CC1F60101020304") (answering replies)).2

def nameplateReply : Bytes := meterReply 0x0E 0x00 1 [0x01, 0x00, 0x11, 0x07]

/-- The nameplate of a gateway alone is stored, with the records of its one page. -/
theorem profiles_sound_alone : ∃ visit ∈ (reachedAlone false [nameplateReply]).visits,
    exists mac stored, .stored mac stored ∈ visit.updates /\ mac = visit.entry.mac /\
      stored.contents = stored.profile.empty.mergeAll (mergedFrames stored.own) /\
      ∀ note ∈ stored.own, note.Sourced mac := by
  have passed : ∃ visit ∈ (reachedAlone false [nameplateReply]).visits,
      ∃ update ∈ visit.updates, update.item.phase = .nameplate := by decide +kernel
  obtain ⟨visit, inside, update, here, phase⟩ := passed
  cases update with
  | unsilenced mac => simp [Update.item, Item.phase] at phase
  | firmwareVersion mac => simp [Update.item, Item.phase] at phase
  | stored mac stored =>
    refine ⟨visit, inside, mac, stored, here, ?_⟩
    -- unfolded by name, since unification would run the activity
    unfold reachedAlone at inside
    exact hesStartCycleActiviy_profiles_sound 20 (gatewayAlone false) (ascii "3CC1F60101020304")
      (answering [nameplateReply]) visit inside mac stored here

/-- An activity that returns a code gives the gateway back and is idle again. One that waits, or
that a fault left, has the gateway still, and one that did not get it changes nothing. -/
theorem hesStartCycleActiviy_released (fuel : Nat) (database : Database) (gatewayId : Bytes)
    (activity : Activity) :
    let reached := hesStartCycleActiviy fuel database gatewayId activity
    let times := activity.syncTimes ++ [1]
    (¬ database.acquire.Free ->
      reached = (some (.ok .failure), activity.begun)) /\
    (database.acquire.Free ->
      (forall ret, reached.1 = some (.ok ret) -> reached.2.client.control.targetState = .idle /\
        reached.2.client.control.currentState = .idle /\
        reached.2.syncTimes = times ++ if database.release.writes then [0] else []) /\
      ((forall ret, reached.1 ≠ some (.ok ret)) -> reached.2.syncTimes = times)) := by
  refine ⟨fun taken => hesStartCycleActiviy_taken taken fuel gatewayId activity, fun free => ?_⟩
  rw [hesStartCycleActiviy_free free]
  have released := acquiredCycle_released fuel database gatewayId (activity.syncTimes ++ [1])
    { activity.begun with syncTimes := activity.syncTimes ++ [1] } rfl
  cases ran : acquiredCycle fuel database gatewayId
      { activity.begun with syncTimes := activity.syncTimes ++ [1] } with
  | mk result last =>
    rw [ran] at released
    cases result with
    | none => exact ⟨by simp, fun _ => released⟩
    | some result =>
      cases result with
      | ok ret => exact ⟨fun _ _ => released, fun other => absurd rfl (other ret)⟩
      | error fault => exact ⟨by simp, fun _ => released⟩

/-- The list of the nodes: the gateway and the target of every route that can be read, each of them
once and in the order of the addresses, with the paths that fit and nothing pulled yet. It is built
exactly when every text in it is hexadecimal that is read as such. -/
theorem buildNodeListFromDb_map (database : Database) (gatewayId : Bytes) :
    match buildNodeListFromDb database gatewayId with
    | .ok nodes => Readable database gatewayId /\ exists gatewayMac,
        macFromHex gatewayId = .ok gatewayMac /\ BuiltMap database gatewayMac nodes
    | .error _ => ¬ Readable database gatewayId := by
  have readable : Read (buildNodeListFromDb database gatewayId) <-> Readable database gatewayId :=
    buildNodeListFromDb_read
  cases built : buildNodeListFromDb database gatewayId with
  | ok nodes => exact ⟨readable.mp ⟨nodes, built⟩, buildNodeListFromDb_built built⟩
  | error fault =>
    intro every
    obtain ⟨nodes, read⟩ := readable.mpr every
    rw [built] at read
    cases read

end Hes.CycleActivity
