import Hes.CycleActivity

set_option autoImplicit false

namespace Hes.CycleActivity

open Prog Client

/-- What can be passed to the database about a node. -/
inductive Item where
  | unsilenced
  | firmwareVersion
  | profile (profile : Profile) (cycle : Option Int)
  deriving DecidableEq, Repr

def Update.item : Update -> Item
  | .unsilenced _ => .unsilenced
  | .firmwareVersion _ => .firmwareVersion
  | .stored _ pulled => .profile pulled.profile pulled.cycle

def Update.mac : Update -> Bytes
  | .unsilenced mac => mac
  | .firmwareVersion mac => mac
  | .stored mac _ => mac

def lacking (available : Bool) (item : Item) : List Item := if available then [] else [item]

/-- What is missing of a node, by the loop that takes care of it. -/
def Entry.due (entry : Entry) : Phase -> List Item
  | .unsilence => lacking (!entry.missingInfo.isSilenced) .unsilenced
  | .firmwareVersion => lacking (entry.missingInfo.verifyIfvPresence ≠ 0) .firmwareVersion
  | .nameplate => lacking entry.missingInfo.isNamePlateAvailable (.profile .nameplate none)
  | .instantaneous =>
    (entry.node.missingIpCycles.take 4).map fun cycle => .profile .instantaneous (some cycle)
  | .dailyLoad => lacking entry.missingInfo.isDlpAvailable (.profile .dailyLoad none)
  | .blockLoad => lacking entry.missingInfo.isBlpAvailable (.profile .blockLoad none)
  | .billingHistory => lacking entry.missingInfo.isBhpAvailable (.profile .billingHistory none)

/-- A profile holds the records of the frames that its visit has met from its node, and no other
ones. -/
structure StoredProfile.Sound (stored : StoredProfile) (mac : Bytes) : Prop where
  merged : stored.contents = stored.profile.empty.mergeAll (mergedFrames stored.own)
  sourced : ∀ note ∈ stored.own, note.Sourced mac

/-- An update is about the node that is visited, and a profile in it is sound. -/
def Update.Sound (update : Update) (mac : Bytes) : Prop :=
  update.mac = mac /\ forall stored, update = .stored mac stored -> stored.Sound mac

/-- What a visit leaves: updates about what was missing, in its order, and a node that is still the
same one. The instantaneous profile is left alone by every other loop. -/
structure VisitDone (phase : Phase) (entry : Entry) (updates : List Update) (after : Client) : Prop where
  due : updates.map Update.item <+: entry.due phase
  sound : ∀ update ∈ updates, update.Sound entry.mac
  mac : after.pull.node.nodeMacAddress = entry.node.nodeMacAddress
  ip : phase ≠ .instantaneous -> after.pull.node.missingIpCycles = entry.node.missingIpCycles /\
    after.pull.ipBuffer = entry.node.profileData.instantaneousProfile

/-- The node of the entry, also behind programs that do not pull its instantaneous profile. -/
structure Visited (entry : Entry) (client : Client) : Prop where
  fixed : client.pull.node.fixed = entry.node.fixed
  ip : client.pull.ipBuffer = entry.node.profileData.instantaneousProfile

theorem Visited.done {phase : Phase} {entry : Entry} {updates : List Update} {after : Client}
    (visited : Visited entry after) (due : updates.map Update.item <+: entry.due phase)
    (sound : ∀ update ∈ updates, update.Sound entry.mac) : VisitDone phase entry updates after where
  due := due
  sound := sound
  mac := congrArg Prod.fst visited.fixed
  ip _ := ⟨congrArg Prod.snd visited.fixed, visited.ip⟩

theorem nothing_done {phase : Phase} {entry : Entry} {after : Client}
    (visited : Visited entry after) : VisitDone phase entry [] after :=
  visited.done (by simp) (by simp)

theorem lacking_item {available : Bool} (missing : available = false) (item : Item) :
    lacking available item = [item] := by simp [lacking, missing]

/-- A command that begins with a state of its own leaves the instantaneous profile alone, whatever
the state was. -/
theorem command_visited {A : Type} {entry : Entry} {state : CurrentState} {rest : Prog Client A}
    (other : state ≠ .instantaneousProfile)
    (sourcing : Moves Sourcing (setState state >>= fun _ => rest))
    (leaves : Moves LeavesIp (setState state >>= fun _ => rest)) :
    Returns (Visited entry) (setState state >>= fun _ => rest) fun _ => Visited entry := by
  apply returns_of_returned
  intro client result last visited ran
  have kept := sourcing _ _ _ ran
  -- the first step overwrites the state, so that the program may as well begin with it
  have same : (setState state >>= fun _ => rest) client = (setState state >>= fun _ => rest)
      { client with control := { client.control with currentState := state } } := rfl
  rw [same] at ran
  have left := (leaves _ _ _ ran) other
  exact ⟨kept.1.trans visited.fixed, left.2.trans visited.ip⟩

theorem unsilenceNode_done (fuel : Nat) (entry : Entry) :
    Returns (Visited entry) (unsilenceNode fuel entry) (VisitDone .unsilence entry) := by
  unfold unsilenceNode
  split
  next silenced =>
    -- both ways to an unsilenced node delete it from the table
    have deleted {after : Client} (visited : Visited entry after) :
        VisitDone .unsilence entry [.unsilenced entry.mac] after := by
      apply visited.done
      next =>
        rw [Entry.due, lacking_item (by simp [silenced])]
        simp [Update.item]
      next => simp [Update.Sound, Update.mac]
    apply triple_bind _ (command_visited (by decide) (sourcing_nodes.checksStatus fuel trivial trivial)
      (leavesIp_nodes.checksStatus fuel (by decide) (by decide)))
    intro fuotaStatus
    split
    next => exact triple_pure _ fun _ visited => deleted visited
    next =>
      split
      next =>
        apply triple_bind _ (command_visited (by decide)
          (sourcing_nodes.disables fuel trivial trivial trivial)
          (leavesIp_nodes.disables fuel (by decide) (by decide) (by decide)))
        intro result
        split
        next => exact triple_pure _ fun _ visited => deleted visited
        next => exact triple_pure _ fun _ visited => nothing_done visited
      next => exact triple_pure _ fun _ visited => nothing_done visited
  next => exact triple_pure _ fun _ visited => nothing_done visited

theorem pullMissingInternalFirmwareVersion_done (fuel : Nat) (entry : Entry) :
    Returns (Visited entry) (pullMissingInternalFirmwareVersion fuel entry)
      (VisitDone .firmwareVersion entry) := by
  unfold pullMissingInternalFirmwareVersion
  split
  next absent =>
    apply triple_bind _ (command_visited (by decide) (sourcing_nodes.pullsVersion fuel trivial trivial)
      (leavesIp_nodes.pullsVersion fuel (by decide) (by decide)))
    intro result
    split
    next =>
      apply triple_pure
      intro after visited
      apply visited.done
      next =>
        rw [Entry.due, lacking_item (by simp [absent])]
        simp [Update.item]
      next => simp [Update.Sound, Update.mac]
    next => exact triple_pure _ fun _ visited => nothing_done visited
  next => exact triple_pure _ fun _ visited => nothing_done visited

/-- The frames met since `start`, and the buffer with their records. -/
def Gathered (profile : Profile) (start : PullState) (client : Client) : Prop :=
  exists own, client.pull.notes = start.notes ++ own /\
    profile.contents client.pull.node.profileData =
      (profile.contents start.node.profileData).mergeAll (mergedFrames own)

theorem gathered_pulled {profile : Profile} {start : PullState} {outcome : Code × UInt8}
    {client : Client} (pulled : PagesPulled profile start outcome client) :
    Gathered profile start client := by
  obtain ⟨pages, _, reached⟩ := pulled
  split at reached
  next =>
    obtain ⟨asked, added, note, _, _, _, _, gathering⟩ := reached
    exact ⟨added ++ [note], gathering.notes, gathering.contents⟩
  next =>
    obtain ⟨asked, added, _, gathering⟩ := reached
    exact ⟨added, gathering.notes, gathering.contents⟩

/-- The pull of a profile starts with its buffer empty. -/
def cleared (profile : Profile) (pull : PullState) : PullState :=
  { pull with currentNode := true
              node := { pull.node with profileData := profile.clear pull.node.profileData } }

theorem pullProfileForANode_gathered (fuel : Nat) (profile : Profile) (start : PullState) :
    Returns (fun client => client.pull = start) (pullProfileForANode fuel profile)
      fun _ => Gathered profile (cleared profile start) := by
  apply triple_bind fun _ client => client.pull = start /\ client.control.currentState = profile.state
  next => exact fun client same => ⟨same, rfl⟩
  intro _
  apply triple_bind fun _ client => client.pull = { start with currentNode := true } /\
    client.control.currentState = profile.state
  next =>
    intro client known
    obtain ⟨rfl, state⟩ := known
    exact ⟨rfl, state⟩
  intro _
  apply triple_bind fun _ => InPull profile (cleared profile start) 0
  next =>
    intro client known
    obtain ⟨same, state⟩ := known
    refine ⟨client.pull.asked, [], Hes.Pulled.start, ?_⟩
    constructor
    next => simp [same, cleared]
    next => simp [same, cleared, mergedFrames, Contents.mergeAll]
    next => simp
    next => simp
    next => rfl
    next => exact Or.inl state
  intro _
  apply triple_bind fun _ => Gathered profile (cleared profile start)
  next =>
    exact (tryPathsForProfilePull_pulls fuel).weaken (fun _ begun => begun)
      fun _ _ pulled => gathered_pulled pulled
  intro outcome
  apply triple_bind fun _ => Gathered profile (cleared profile start)
  next => exact fun _ gathered => gathered
  exact fun _ => triple_pure outcome fun _ gathered => gathered

/-- A profile of pages: every loop but the one of the instantaneous profile has one. -/
structure PagedPhase (profile : Profile) (available : MissingInfo -> Bool) (phase : Phase) : Prop where
  other : profile ≠ .instantaneous
  due : forall entry : Entry,
    entry.due phase = lacking (available entry.missingInfo) (.profile profile none)

theorem pullMissingProfile_done (fuel : Nat) {profile : Profile} {available : MissingInfo -> Bool}
    {phase : Phase} (paged : PagedPhase profile available phase) (entry : Entry)
    (own : entry.node.nodeMacAddress = entry.mac) :
    Returns (Visited entry) (pullMissingProfile fuel profile available entry)
      (VisitDone phase entry) := by
  unfold pullMissingProfile
  split
  next => exact triple_pure _ fun _ visited => nothing_done visited
  next missing =>
    have state : profile.state ≠ .instantaneousProfile := by
      have other := paged.other
      cases profile <;> simp [Profile.state] at other ⊢
    apply triple_bind fun start client => client.pull = start /\ Visited entry client
    next => exact fun client visited => ⟨rfl, visited⟩
    intro start
    have sourcing := sourcing_nodes.pullsProfile fuel profile trivial paged.other
    apply triple_bind fun outcome client => Visited entry client /\
      Gathered profile (cleared profile start) client /\
      exists begun : Client, begun.pull = start /\ Visited entry begun /\ Sourcing begun client
    next =>
      apply returns_of_returned
      intro client outcome last known ran
      refine ⟨(command_visited state sourcing
        (leavesIp_nodes.pullsProfile fuel profile state paged.other)).returned known.2 ran,
        (pullProfileForANode_gathered fuel profile start).returned known.1 ran,
        client, known.1, known.2, sourcing _ _ _ ran⟩
    intro outcome
    split
    next ret page =>
    split
    next =>
      intro client known
      obtain ⟨visited, ⟨added, notes, contents⟩, begun, same, before, sourcing⟩ := known
      -- the frames of this visit are what its node added to the notes
      obtain ⟨_, new, grown, sourced⟩ := sourcing
      have mac : begun.pull.node.nodeMacAddress = entry.mac := (congrArg Prod.fst before.fixed).trans own
      rw [mac] at sourced
      have met : client.pull.notes.drop start.notes.length = new := by
        rw [grown, same, List.drop_left]
      have these : added = new := by
        rw [notes] at met
        simpa [cleared] using met
      let stored : StoredProfile := {
        profile := profile, own := client.pull.notes.drop start.notes.length, before := profile.empty
        contents := profile.contents client.pull.node.profileData }
      have sound : stored.Sound entry.mac := by
        constructor
        next =>
          rw [show stored.own = new from met, <- these]
          simpa [cleared, Profile.contents_clear] using contents
        next => simpa [stored, met] using sourced
      -- the buffer of the profile is cleared behind the insert, and it is not the instantaneous one
      have kept : Visited entry { client with pull := { client.pull with node := {
          client.pull.node with profileData := profile.clear client.pull.node.profileData } } } := by
        constructor
        next => exact visited.fixed
        next =>
          have other := paged.other
          cases profile <;> first | exact visited.ip | exact absurd rfl other
      change VisitDone phase entry [.stored entry.mac stored] _
      apply kept.done
      next =>
        rw [paged.due, lacking_item (by simpa using missing)]
        simp [Update.item, stored]
      next =>
        intro update inside
        rw [List.mem_singleton.mp inside]
        refine ⟨rfl, fun other same => ?_⟩
        cases same
        exact sound
    next => exact triple_pure _ fun _ known => nothing_done known.1

/-- The frames met since `start` are from its node, and their records are in the buffer. -/
def Filled (start : PullState) (notes : List Note) (contents : Contents) : Prop :=
  exists own, notes = start.notes ++ own /\
    contents = (Profile.contents .instantaneous start.node.profileData).mergeAll (mergedFrames own) /\
    ∀ note ∈ own, note.Sourced start.node.nodeMacAddress

/-- The cycles stored since `start`, in front of those that are left. -/
structure Storing (start : PullState) (missing : List Int) (client : Client) : Prop where
  filled : Filled start client.pull.notes (Profile.contents .instantaneous client.pull.node.profileData)
  mac : client.pull.node.nodeMacAddress = start.node.nodeMacAddress
  inserts : exists new, client.pull.inserts = start.inserts ++ new /\
    new.map CycleInsert.cycle ++ client.pull.node.missingIpCycles = missing /\
    ∀ insert ∈ new, Filled start (insert.earlier ++ insert.own) (.records insert.profile)

theorem sameInserts_frame :
    ReceiveFrame fun before after => after.pull.inserts = before.pull.inserts where
  refl _ := rfl
  trans _ _ _ before behind := behind.trans before
  control _ _ := rfl
  counters _ _ := rfl
  assign _ := rfl
  send _ _ _ := rfl
  profiles _ _ _ := rfl
  pull _ _ same := same

section Cycles

variable {start : PullState} {missing : List Int}

theorem storing_pulled {before last : Client} (storing : Storing start missing before)
    (pulled : CyclePulled before.pull last) (sourcing : Sourcing before last)
    (inserts : last.pull.inserts = before.pull.inserts) : Storing start missing last := by
  obtain ⟨own, notes, contents, sourced⟩ := storing.filled
  obtain ⟨more, grown, merged⟩ := pulled
  obtain ⟨fixed, new, same, from'⟩ := sourcing
  have mac : last.pull.node.nodeMacAddress = before.pull.node.nodeMacAddress := congrArg Prod.fst fixed
  have left : last.pull.node.missingIpCycles = before.pull.node.missingIpCycles :=
    congrArg Prod.snd fixed
  have these : more = new := by simpa [grown] using same
  constructor
  next =>
    refine ⟨own ++ more, by simp [grown, notes], ?_, ?_⟩
    next =>
      rw [merged, contents, mergedFrames_append]
      simp [Contents.mergeAll]
    next =>
      intro note inside
      rcases List.mem_append.mp inside with earlier | later
      next => exact sourced note earlier
      next => exact storing.mac ▸ from' note (these ▸ later)
  next => exact mac.trans storing.mac
  next =>
    rw [inserts, left]
    exact storing.inserts

/-- What a cycle met is stored, and the cycle is no longer missing. -/
theorem storing_stored {before last : Client} {cycle : Int} {rest : List Int}
    (storing : Storing start missing last) (pulled : CyclePulled before.pull last)
    (next : last.pull.node.missingIpCycles = cycle :: rest) :
    Storing start missing
      (setNode (fun node => { node with missingIpCycles := rest })
        (insertInstantaneous cycle before.pull last).2).2 := by
  obtain ⟨new, known, cycles, filled⟩ := storing.inserts
  obtain ⟨more, grown, _⟩ := pulled
  let added : CycleInsert :=
    { cycle := cycle, earlier := before.pull.notes
      own := last.pull.notes.drop before.pull.notes.length
      before := before.pull.node.profileData.instantaneousProfile.profileData
      profile := last.pull.node.profileData.instantaneousProfile.profileData }
  refine ⟨storing.filled, storing.mac, new ++ [added], ?_, ?_, ?_⟩
  next => simp [setNode, setPull, update, insertInstantaneous, known, added]
  next =>
    rw [next] at cycles
    simpa [setNode, setPull, update, insertInstantaneous, added] using cycles
  next =>
    intro insert inside
    rcases List.mem_append.mp inside with earlier | same
    next => exact filled insert earlier
    next =>
      rw [List.mem_singleton.mp same]
      have whole : added.earlier ++ added.own = last.pull.notes := by
        simp [added, grown]
      rw [whole]
      exact storing.filled

theorem pullMissingCycles_storing (fuel left : Nat) :
    Returns (Storing start missing) (pullMissingCycles fuel left) fun _ => Storing start missing := by
  induction left with
  | zero => exact triple_pure _ fun _ storing => storing
  | succ left ih =>
    apply triple_bind fun pull client => client.pull = pull /\ Storing start missing client
    next => exact fun client storing => ⟨rfl, storing⟩
    intro pull
    split
    next => exact triple_pure _ fun _ known => known.2
    next cycle rest first =>
      apply triple_bind fun _ last => Storing start missing last /\
        exists before : Client, before.pull = pull /\ CyclePulled pull last /\
          last.pull.node.missingIpCycles = cycle :: rest
      next =>
        apply returns_of_returned
        intro before ret last known ran
        obtain ⟨rfl, storing⟩ := known
        have pulled := (pullInstantaneousProfileForCycle_pulled fuel cycle before.pull).returned rfl ran
        have sourcing := sourcing_nodes.pullsCycle fuel cycle trivial _ _ _ ran
        have same := (pullInstantaneousProfileForCycle_respects sameInserts_frame fuel cycle).returned ran
        refine ⟨storing_pulled storing pulled sourcing same, before, rfl, pulled, ?_⟩
        exact (congrArg Prod.snd sourcing.1).trans first
      intro ret
      split
      next =>
        apply triple_bind fun _ client => exists last : Client,
          (Storing start missing last /\ exists before : Client, before.pull = pull /\
            CyclePulled pull last /\ last.pull.node.missingIpCycles = cycle :: rest) /\
          client = (insertInstantaneous cycle pull last).2
        next => exact fun last known => ⟨last, known, rfl⟩
        intro _
        apply triple_bind fun _ => Storing start missing
        next =>
          intro client known
          obtain ⟨last, ⟨storing, before, rfl, pulled, next⟩, rfl⟩ := known
          exact storing_stored storing pulled next
        exact fun _ => ih
      next => exact triple_pure _ fun _ known => known.1

end Cycles

/-- The cycles that were stored are the first of those that were missing, and four at most. -/
structure CyclesStored (start : PullState) (client : Client) : Prop where
  mac : client.pull.node.nodeMacAddress = start.node.nodeMacAddress
  inserts : exists new, client.pull.inserts = start.inserts ++ new /\
    new.map CycleInsert.cycle <+: start.node.missingIpCycles.take 4 /\
    ∀ insert ∈ new, Filled start (insert.earlier ++ insert.own) (.records insert.profile)

theorem Storing.stored {start : PullState} {client : Client}
    (storing : Storing start (start.node.missingIpCycles.take 4) client) : CyclesStored start client := by
  obtain ⟨new, known, cycles, filled⟩ := storing.inserts
  exact ⟨storing.mac, new, known, ⟨_, cycles⟩, filled⟩

theorem storing_begun (start : PullState) (client : Client) (missing : List Int)
    (same : client.pull = { start with node := { start.node with missingIpCycles := missing } }) :
    Storing start missing client := by
  constructor
  next => exact ⟨[], by simp [same], by simp [same, mergedFrames, Contents.mergeAll], by simp⟩
  next => simp [same]
  next => exact ⟨[], by simp [same]⟩

theorem pullMissingInstantaneousForANode_stored (fuel : Nat) (start : PullState) :
    Returns (fun client => client.pull = start) (pullMissingInstantaneousForANode fuel)
      fun _ => CyclesStored start := by
  apply triple_bind fun missing client => missing = start.node.missingIpCycles /\ client.pull = start
  next => exact fun client same => ⟨congrArg (fun pull => pull.node.missingIpCycles) same, same⟩
  intro missing
  apply triple_known
  rintro rfl
  have cycles (missing : List Int) (four : missing = start.node.missingIpCycles.take 4) :
      Returns (fun client => client.pull =
        { start with node := { start.node with missingIpCycles := missing } })
        (pullMissingCycles fuel 4) fun _ => CyclesStored start := by
    subst four
    exact (pullMissingCycles_storing fuel 4).weaken (fun client same => storing_begun start client _ same)
      fun _ _ storing => storing.stored
  split
  next none =>
    apply triple_pure
    intro client same
    exact ⟨by rw [same], [], by simp [same]⟩
  next =>
    split
    next =>
      apply triple_bind fun _ client => client.pull = { start with node := { start.node with
        missingIpCycles := start.node.missingIpCycles.take 4 } }
      next =>
        rintro client rfl
        rfl
      exact fun _ => cycles _ rfl
    next few => exact cycles start.node.missingIpCycles (List.take_of_length_le (by omega)).symm

/-- The buffer is cleared behind cycles that were all stored. -/
theorem pullMissingIpProfileForNode_stored (fuel : Nat) (start : PullState) :
    Returns (fun client => client.pull = start) (pullMissingIpProfileForNode fuel)
      fun _ => CyclesStored start := by
  apply triple_bind fun _ client => client.pull = start
  next => exact fun _ same => same
  intro missing
  split
  next =>
    apply triple_bind _ (pullMissingInstantaneousForANode_stored fuel start)
    intro ret
    split
    next => exact fun client stored => ⟨stored.mac, stored.inserts⟩
    next => exact triple_pure _ fun _ stored => stored
  next =>
    apply triple_pure
    intro client same
    exact ⟨by rw [same], [], by simp [same]⟩

theorem pullMissingIpProfile_done (fuel : Nat) (entry : Entry)
    (own : entry.node.nodeMacAddress = entry.mac)
    (empty : Profile.contents .instantaneous entry.node.profileData = Profile.empty .instantaneous) :
    Returns (fun client => client.pull.node = entry.node) (pullMissingIpProfile fuel entry)
      (VisitDone .instantaneous entry) := by
  apply triple_bind fun start client => start.node = entry.node /\ client.pull = start
  next => exact fun client same => ⟨same, rfl⟩
  intro start
  apply triple_known
  intro same
  apply triple_bind _ (pullMissingIpProfileForNode_stored fuel start)
  intro _ client known
  obtain ⟨mac, new, inserts, cycles, filled⟩ := known
  rw [same] at mac cycles
  have these : client.pull.inserts.drop start.inserts.length = new := by rw [inserts, List.drop_left]
  have address : client.pull.node.nodeMacAddress = entry.mac := mac.trans own
  change VisitDone .instantaneous entry ((client.pull.inserts.drop start.inserts.length).map
    (cycleUpdate client.pull.node.nodeMacAddress start)) client
  rw [these, address]
  constructor
  next =>
    have items : (new.map (cycleUpdate entry.mac start)).map Update.item =
        (new.map CycleInsert.cycle).map fun cycle => .profile .instantaneous (some cycle) := by
      simp [cycleUpdate, Update.item, Function.comp_def]
    rw [items]
    exact cycles.map _
  next =>
    intro update inside
    obtain ⟨insert, stored, rfl⟩ := List.mem_map.mp inside
    refine ⟨rfl, fun other same' => ?_⟩
    obtain ⟨notes, whole, contents, sourced⟩ := filled insert stored
    cases same'
    constructor
    next =>
      simp only [whole, List.drop_left]
      rw [contents, same, empty]
    next =>
      intro note met
      simp only [whole, List.drop_left] at met
      rw [<- own, <- same]
      exact sourced note met
  next => exact mac
  next => exact fun other => absurd rfl other

end Hes.CycleActivity
