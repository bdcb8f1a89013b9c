import Hes.PullPaging

set_option autoImplicit false

namespace Hes

open Prog

/-- The record a frame leaves in a buffer under an index. -/
def recordOf (id : UInt8) (frame : Bytes) : Option Dlms.DlmsValue :=
  ((Dlms.storedRecords frame).foldl Dlms.storeRecord fun _ => none) id

/-- The last reply that stored a record under an index, and the record. -/
def source (id : UInt8) (notes : List Note) : Option (Note × Dlms.DlmsValue) :=
  notes.reverse.findSome? fun note =>
    if note.merged then (recordOf id note.frame).map fun value => (note, value) else none

theorem source_append (id : UInt8) (earlier own : List Note) :
    source id (earlier ++ own) = (source id own).or (source id earlier) := by
  simp [source, List.findSome?_append]

theorem storeAll_apply (records : List (UInt8 × Dlms.DlmsValue)) (base : Dlms.DlmsRecordMap)
    (id : UInt8) : records.foldl Dlms.storeRecord base id =
      (records.foldl Dlms.storeRecord (fun _ => none) id).or (base id) := by
  induction records generalizing base with
  | nil => simp
  | cons record rest ih =>
    have stored : Dlms.storeRecord base record id =
        (Dlms.storeRecord (fun _ => none) record id).or (base id) := by
      by_cases same : id = record.1 <;> simp [Dlms.storeRecord, same]
    rw [List.foldl_cons, List.foldl_cons, ih, ih (Dlms.storeRecord (fun _ => none) record), stored,
      Option.or_assoc]

theorem mergeAll_records (base : Dlms.DlmsRecordMap) (notes : List Note) :
    exists map, (Contents.records base).mergeAll (mergedFrames notes) = .records map /\
      forall id, map id = ((source id notes).map Prod.snd).or (base id) := by
  induction notes using List.reverseRecOn with
  | nil => exact ⟨base, rfl, fun id => by simp [source]⟩
  | append_singleton front note ih =>
    obtain ⟨map, same, known⟩ := ih
    by_cases merged : note.merged = true
    next =>
      refine ⟨(Dlms.storedRecords note.frame).foldl Dlms.storeRecord map, ?_, ?_⟩
      next =>
        have last : mergedFrames [note] = [note.frame] := by simp [mergedFrames, merged]
        rw [mergedFrames_append, Contents.mergeAll, List.foldl_append, last]
        rw [Contents.mergeAll] at same
        simp [same, Contents.merge, Contents.foldl_records]
      next =>
        intro id
        rw [storeAll_apply, known, source_append]
        cases found : recordOf id note.frame with
        | none =>
          have missed : (Dlms.storedRecords note.frame).foldl Dlms.storeRecord (fun _ => none) id =
              none := found
          simp [source, merged, found, missed]
        | some value =>
          have hit : (Dlms.storedRecords note.frame).foldl Dlms.storeRecord (fun _ => none) id =
              some value := found
          simp [source, merged, found, hit]
    next =>
      refine ⟨map, ?_, ?_⟩
      next => simpa [mergedFrames, merged] using same
      next =>
        intro id
        rw [known, source_append]
        simp [source, merged]

namespace CycleInsert

/-- Every record of the profile was received in reply to a request of its cycle. -/
def OnlyOfCycle (insert : CycleInsert) : Prop :=
  forall id value, insert.profile id = some value ->
    exists note, source id (insert.earlier ++ insert.own) = some (note, value) /\
      note.cycle = some insert.cycle

/-- The replies whose records stay answer the cycle that was asked for, and so did those whose
records were in the buffer when its pull began and are not replaced. -/
structure Separate (insert : CycleInsert) : Prop where
  replies : forall id note value, source id insert.own = some (note, value) ->
    note.cycle = some insert.cycle
  left : forall id value, source id insert.own = none -> insert.before id = some value ->
    exists note, source id insert.earlier = some (note, value) /\ note.cycle = some insert.cycle

/-- The profile is what was in the buffer, with the records of the replies over it. -/
def Explained (insert : CycleInsert) : Prop :=
  forall id, insert.profile id = ((source id insert.own).map Prod.snd).or (insert.before id)

theorem onlyOfCycle_iff (insert : CycleInsert) (explained : insert.Explained) :
    insert.OnlyOfCycle <-> insert.Separate := by
  constructor
  next =>
    intro only
    constructor
    next =>
      intro id note value found
      have held : insert.profile id = some value := by simp [explained id, found]
      obtain ⟨last, same, cycle⟩ := only id value held
      rw [source_append, found] at same
      simp only [Option.some_or, Option.some.injEq, Prod.mk.injEq] at same
      rw [same.1]
      exact cycle
    next =>
      intro id value missed before
      have held : insert.profile id = some value := by simp [explained id, missed, before]
      obtain ⟨last, same, cycle⟩ := only id value held
      rw [source_append, missed, Option.none_or] at same
      exact ⟨last, same, cycle⟩
  next =>
    intro separate id value held
    rw [explained id] at held
    cases found : source id insert.own with
    | none =>
      rw [found] at held
      obtain ⟨note, same, cycle⟩ := separate.left id value found (by simpa using held)
      exact ⟨note, by simp [source_append, found, same], cycle⟩
    | some stored =>
      rw [found] at held
      obtain ⟨note, last⟩ := stored
      obtain rfl : last = value := by simpa using held
      exact ⟨note, by simp [source_append, found], separate.replies id note last found⟩

end CycleInsert

namespace Client

/-- The inserts since `start` are explained by the replies. -/
def Inserted (start : PullState) (client : Client) : Prop :=
  exists new, client.pull.inserts = start.inserts ++ new /\ ∀ insert ∈ new, insert.Explained

theorem inserted_frame (start : PullState) :
    ReceiveFrame fun before after => Inserted start before -> Inserted start after where
  refl _ inserted := inserted
  trans _ _ _ before behind inserted := behind (before inserted)
  control _ _ inserted := inserted
  counters _ _ inserted := inserted
  assign _ inserted := inserted
  send _ _ _ inserted := inserted
  profiles _ _ _ inserted := inserted
  pull client pull same inserted := by
    obtain ⟨new, known, explained⟩ := inserted
    exact ⟨new, same.trans known, explained⟩

/-- The replies of a cycle, and the buffer with their records. -/
def CyclePulled (start : PullState) (client : Client) : Prop :=
  exists own, client.pull.notes = start.notes ++ own /\
    Profile.contents .instantaneous client.pull.node.profileData =
      (Profile.contents .instantaneous start.node.profileData).mergeAll (mergedFrames own)

theorem pullInstantaneousProfileForCycle_pulled (fuel : Nat) (cycle : Int) (start : PullState) :
    Returns (fun client => start = client.pull) (pullInstantaneousProfileForCycle fuel cycle)
      fun _ => CyclePulled start := by
  let known : PullState := { start with currentNode := true }
  refine triple_bind (fun _ client => start = client.pull /\
    client.control.currentState = .instantaneousProfile) ?_ fun _ => ?_
  next => exact fun client same => ⟨same, rfl⟩
  refine triple_bind (fun _ client => known = client.pull /\
    client.control.currentState = .instantaneousProfile) ?_ fun _ => ?_
  next =>
    rintro client ⟨rfl, state⟩
    exact ⟨rfl, state⟩
  refine triple_bind (fun _ => InPull .instantaneous known 0) ?_ fun _ => ?_
  next =>
    rintro client ⟨same, state⟩
    refine ⟨known.asked, [], Pulled.start, ?_⟩
    constructor
    next => simp [<- same]
    next => simp [<- same, mergedFrames, Contents.mergeAll]
    next => simp
    next => simp
    next => simp [<- same]
    next => exact Or.inl state
  have pulled : Returns (InPull .instantaneous known 0)
      (tryPathsForProfilePull fuel .instantaneous 0) fun _ => CyclePulled start := by
    refine (tryPathsForProfilePull_pulls fuel).weaken (fun _ begun => begun) ?_
    rintro outcome client ⟨pages, _, reached⟩
    split at reached
    next =>
      obtain ⟨asked, added, note, _, _, _, _, gathering⟩ := reached
      exact ⟨added ++ [note], gathering.notes, gathering.contents⟩
    next =>
      obtain ⟨asked, added, _, gathering⟩ := reached
      exact ⟨added, gathering.notes, gathering.contents⟩
  refine triple_bind _ pulled fun outcome => ?_
  refine triple_bind (fun _ => CyclePulled start) (fun _ known => known) fun _ => ?_
  exact triple_bind (fun _ => CyclePulled start) (fun _ known => known)
    fun _ => triple_pure _ fun _ known => known

theorem pullInstantaneousProfileForCycle_respects {rel : Client -> Client -> Prop}
    (frame : ReceiveFrame rel) (fuel : Nat) (cycle : Int) :
    Respects rel (pullInstantaneousProfileForCycle fuel cycle) := by
  refine respects_bind frame.trans (setControl_respects frame.toFrame _) fun _ => ?_
  refine respects_bind frame.trans (setPull_respects frame _ fun _ => rfl) fun _ => ?_
  refine respects_bind frame.trans (setControl_respects frame.toFrame _) fun _ => ?_
  refine respects_bind frame.trans (tryPathsForProfilePull_respects frame fuel _ 0) fun outcome => ?_
  refine respects_bind frame.trans (setControl_respects frame.toFrame _) fun _ => ?_
  exact respects_bind frame.trans (setPull_respects frame _ fun _ => rfl)
    fun _ => respects_pure frame.refl _

theorem insertInstantaneous_inserted {base : PullState} (cycle : Int) (start : PullState) :
    Triple (Inserted base) (fun client => Inserted base client /\ CyclePulled start client)
      (insertInstantaneous cycle start) fun _ => Inserted base := by
  apply triple_update
  rintro client ⟨⟨new, known, explained⟩, own, notes, contents⟩
  let added : CycleInsert :=
    { cycle := cycle, earlier := start.notes, own := client.pull.notes.drop start.notes.length
      before := start.node.profileData.instantaneousProfile.profileData
      profile := client.pull.node.profileData.instantaneousProfile.profileData }
  refine ⟨new ++ [added], by simp [known, added], ?_⟩
  intro insert inside
  rcases List.mem_append.mp inside with earlier | same
  next => exact explained insert earlier
  rw [List.mem_singleton.mp same]
  obtain ⟨map, merged, held⟩ :=
    mergeAll_records start.node.profileData.instantaneousProfile.profileData own
  have profile := contents.trans merged
  simp only [Profile.contents, Contents.records.injEq] at profile
  intro id
  simp only [added, notes, List.drop_left, profile]
  exact held id

theorem pullMissingCycles_inserted {base : PullState} (fuel left : Nat) :
    Triple (Inserted base) (Inserted base) (pullMissingCycles fuel left)
      fun _ => Inserted base := by
  have frame := inserted_frame base
  induction left with
  | zero => exact triple_pure _ fun _ known => known
  | succ left ih =>
    refine triple_bind (fun start client => start = client.pull /\ Inserted base client)
      (triple_observe _ fun _ known => ⟨rfl, known⟩) fun start => ?_
    split
    next => exact triple_pure _ fun _ known => known.2
    next cycle rest missing =>
      have pulled : Triple (Inserted base) (fun client => start = client.pull /\ Inserted base client)
          (pullInstantaneousProfileForCycle fuel cycle)
          fun _ client => Inserted base client /\ CyclePulled start client :=
        (((pullInstantaneousProfileForCycle_respects frame fuel cycle).invariant
          fun _ known => known).weaken (fun _ known => known.2) fun _ _ known => known).and
          ((pullInstantaneousProfileForCycle_pulled fuel cycle start).weaken
            (fun _ known => known.1) fun _ _ known => known)
      refine triple_bind _ pulled fun ret => ?_
      split
      next =>
        refine triple_bind _ (insertInstantaneous_inserted cycle start) fun _ => ?_
        refine triple_bind _ ((setNode_respects frame _).invariant
          fun _ known => known) fun _ => ?_
        exact ih
      next => exact triple_pure _ fun _ known => known.1

theorem pullMissingInstantaneousForANode_inserted {base : PullState} (fuel : Nat) :
    Triple (Inserted base) (Inserted base) (pullMissingInstantaneousForANode fuel)
      fun _ => Inserted base := by
  refine triple_bind (fun _ => Inserted base) (triple_observe _ fun _ known => known)
    fun missing => ?_
  split
  next => exact triple_pure _ fun _ known => known
  next =>
    split
    next =>
      exact triple_bind _ ((setNode_respects (inserted_frame base) _).invariant
        fun _ known => known) fun _ => pullMissingCycles_inserted fuel 4
    next => exact pullMissingCycles_inserted fuel 4

-- the buffer is cleared behind the last cycle only
theorem pullMissingIpProfileForNode_inserted {base : PullState} (fuel : Nat) :
    Triple (Inserted base) (Inserted base) (pullMissingIpProfileForNode fuel)
      fun _ => Inserted base := by
  refine triple_bind (fun _ => Inserted base) (triple_observe _ fun _ known => known)
    fun missing => ?_
  split
  next =>
    refine triple_bind _ (pullMissingInstantaneousForANode_inserted fuel) fun ret => ?_
    split
    next => exact (setNode_respects (inserted_frame base) _).invariant fun _ known => known
    next => exact triple_pure _ fun _ known => known
  next => exact triple_pure _ fun _ known => known

end Client

/-- A profile that is inserted is of its cycle exactly when its replies, and what they left of the
buffer, are. -/
theorem cycles_separate_iff (fuel : Nat) (client : Client) :
    ∀ insert ∈ (Client.pullMissingInstantaneousForANode fuel client).2.pull.inserts.drop
        client.pull.inserts.length,
      insert.OnlyOfCycle <-> insert.Separate := by
  have begun : Client.Inserted client.pull client := ⟨[], by simp, by simp⟩
  obtain ⟨new, known, explained⟩ :=
    (Client.pullMissingInstantaneousForANode_inserted fuel).respects client begun
  intro insert inside
  rw [known, List.drop_left] at inside
  exact insert.onlyOfCycle_iff (explained insert inside)

/-- An instantaneous page of the node 01020304. -/
def cyclePage (count : UInt8) (records : Bytes) : Bytes :=
  [0x2E, UInt8.ofNat (26 + records.length), 0x08, 0x00, 0x00, 0x00, 0x00, 0x00, 0x00, 0x00, 0x00,
    0x01, 0x02, 0x03, 0x04, 0x00, 0x00] ++ withChecksum ([0x2D, 0x00,
      UInt8.ofNat (9 + records.length), 0x00, 0x0C, 0x01, 0x00, 0x00, count] ++ records)

/-- A node whose cycles 1 and 2 may be missing; the second reply lacks the record 2 of the first. -/
def missingCyclesClient (missing : List Int) : Client where
  inputs := { recv := fun turn => match turn with
    | 0 => .data (cyclePage 2 [0x01, 0x00, 0x11, 0x07, 0x02, 0x00, 0x11, 0x08]) (some 1)
    | 1 => .data (cyclePage 1 [0x01, 0x00, 0x11, 0x09]) (some 2)
    | _ => .timedOut }
  control := { targetState := .pull }
  pull := { node := { nodeMacAddress := [0x3C, 0xC1, 0xF6, 0x01, 1, 2, 3, 4]
                      missingIpCycles := missing, primaryPath := { path := [1, 2, 3, 4] } } }

theorem cycles_separate_one :
    ∃ insert ∈ (Client.pullMissingInstantaneousForANode 4 (missingCyclesClient [1])).2.pull.inserts,
      insert.OnlyOfCycle := by
  let first :=
    (Client.pullMissingInstantaneousForANode 4 (missingCyclesClient [1])).2.pull.inserts[0]?
  have cycle : first.map (fun insert => insert.cycle) = some 1 := by decide +kernel
  have replies : first.map (fun insert => insert.own.map fun note => note.cycle) =
      some [some 1] := by
    decide +kernel
  have empty : first.map (fun insert => (List.range 256).all fun id =>
      (insert.before (UInt8.ofNat id)).isNone) = some true := by
    decide +kernel
  cases same : first with
  | none => simp [same] at cycle
  | some insert =>
    simp only [same, Option.map_some, Option.some.injEq] at cycle replies empty
    have inside := List.mem_of_getElem? same
    refine ⟨insert, inside, (cycles_separate_iff 4 (missingCyclesClient [1]) insert inside).mpr ?_⟩
    constructor
    next =>
      intro id note value found
      obtain ⟨other, known, stored⟩ := List.exists_of_findSome?_eq_some found
      have own : other.cycle ∈ insert.own.map fun note => note.cycle :=
        List.mem_map.mpr ⟨other, List.mem_reverse.mp known, rfl⟩
      rw [replies, List.mem_singleton] at own
      have itself : other = note := by
        split at stored
        next =>
          cases held : recordOf id other.frame with
          | none => simp [held] at stored
          | some last => simpa [held] using (Prod.mk.inj (by simpa [held] using stored)).1
        next => simp at stored
      rw [<- itself, own, cycle]
    next =>
      intro id value _ before
      have unset := List.all_eq_true.mp empty id.toNat (List.mem_range.mpr id.toNat_lt)
      rw [UInt8.ofNat_toNat, before] at unset
      cases unset

/-- The record of cycle 1 is inserted for cycle 2 as well. -/
theorem earlier_cycle_survives :
    ∃ insert ∈ (Client.pullMissingInstantaneousForANode 4
        (missingCyclesClient [1, 2])).2.pull.inserts,
      insert.cycle = 2 /\ ¬ insert.OnlyOfCycle := by
  let second :=
    (Client.pullMissingInstantaneousForANode 4 (missingCyclesClient [1, 2])).2.pull.inserts[1]?
  have cycle : second.map (fun insert => insert.cycle) = some 2 := by decide +kernel
  have held : second.bind (fun insert => insert.profile 2) =
      some { type := 0x11, uint64Value := 8 } := by
    decide +kernel
  have received : second.map (fun insert => (source 2 (insert.earlier ++ insert.own)).map
      fun last => last.1.cycle) = some (some (some 1)) := by
    decide +kernel
  cases same : second with
  | none => simp [same] at cycle
  | some insert =>
    simp only [same, Option.map_some, Option.bind_some, Option.some.injEq] at cycle held received
    refine ⟨insert, List.mem_of_getElem? same, cycle, ?_⟩
    intro only
    obtain ⟨note, found, itsCycle⟩ := only 2 _ held
    rw [found, Option.map_some, itsCycle, cycle] at received
    simp at received

end Hes
