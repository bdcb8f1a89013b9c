import Hes.NodeQueues

set_option autoImplicit false

namespace Hes.NodeQueues

open BoundedQueue CommandFrames

/-- A record of the queue that has all the bytes it announces. -/
def FullRecord (record : NodeRecord) : Prop :=
  record.macAddress.length = 16 /\ record.pathRecord.length = (record.hopCount * 8).toNat

/-- The entry of `hesNPDataQueue` for a record. -/
def meterDataRecord (behind : Bytes -> Nat -> UInt8) (record : NodeRecord) : NodeRecord :=
  { macAddress := memcpy behind record.macAddress 16
    pathRecord := memcpy behind record.pathRecord (record.hopCount * 8).toNat
    hopCount := record.hopCount }

/-- The gateway has no hops; its path is the second half of its address. -/
def gatewayRecord (behind : Bytes -> Nat -> UInt8) (gatewayId : Bytes) : NodeRecord :=
  let address := (List.range 8).map fun i => gatewayId.getD (8 + i) (behind gatewayId (8 + i))
  { macAddress := memcpy behind gatewayId 16, pathRecord := memcpy behind (address ++ [0]) 8
    hopCount := 0 }

/-- The loop over the copied queue: a record whose query fails stays in front. The answers are
numbered in the order of the queries, and no result is left when the rounds run out. -/
def nameplateTurns (behind : Bytes -> Nat -> UInt8) (answers : Nat -> Answer Int) :
    Nat -> Nat -> List NodeRecord -> List NodeRecord -> Option (List NodeRecord)
  | _, _, [], queue => some queue
  | 0, _, _ :: _, _ => none
  | fuel + 1, asked, record :: rest, queue =>
    match answers asked with
    | .failed => nameplateTurns behind answers fuel (asked + 1) (record :: rest) queue
    | .noResult => nameplateTurns behind answers fuel (asked + 1) rest queue
    | .rows rowCount =>
      if rowCount > 0 then nameplateTurns behind answers fuel (asked + 1) rest queue
      else nameplateTurns behind answers fuel (asked + 1) rest
        (enqueue maxQueued queue (meterDataRecord behind record))

def isNPDataAvailable (behind : Bytes -> Nat -> UInt8) (answers : Nat -> Answer Int) (fuel : Nat)
    (gatewayId : Option Bytes) (pathSrcRouteQueue hesNPDataQueue : List NodeRecord) :
    Option (Code × List NodeRecord) :=
  match gatewayId with
  | none => some (.failure, hesNPDataQueue)
  | some gatewayId =>
    match answers 0 with
    | .failed => some (.failure, hesNPDataQueue)
    | .noResult =>
      (nameplateTurns behind answers fuel 1 pathSrcRouteQueue hesNPDataQueue).map (Code.success, ·)
    | .rows rowCount =>
      let queue := if rowCount > 0 then hesNPDataQueue
        else enqueue maxQueued hesNPDataQueue (gatewayRecord behind gatewayId)
      (nameplateTurns behind answers fuel 1 pathSrcRouteQueue queue).map (Code.success, ·)

/-- The answer says that no nameplate row exists. -/
def Answer.lacks : Answer Int -> Bool
  | .rows rowCount => rowCount ≤ 0
  | _ => false

/-- The answers about the records, each the first about its record that is no failure. -/
inductive Replies (answers : Nat -> Answer Int) :
    Nat -> List NodeRecord -> List (NodeRecord × Answer Int) -> Prop where
  | done (asked : Nat) : Replies answers asked [] []
  | failed {asked : Nat} {record : NodeRecord} {rest : List NodeRecord}
      {replies : List (NodeRecord × Answer Int)} (failure : answers asked = .failed)
      (later : Replies answers (asked + 1) (record :: rest) replies) :
      Replies answers asked (record :: rest) replies
  | answered {asked : Nat} {record : NodeRecord} {rest : List NodeRecord}
      {replies : List (NodeRecord × Answer Int)} (success : answers asked ≠ .failed)
      (later : Replies answers (asked + 1) rest replies) :
      Replies answers asked (record :: rest) ((record, answers asked) :: replies)

theorem Replies.records {answers : Nat -> Answer Int} {asked : Nat} {records : List NodeRecord}
    {replies : List (NodeRecord × Answer Int)} (given : Replies answers asked records replies) :
    replies.map Prod.fst = records := by
  induction given with
  | done => rfl
  | failed _ _ ih => exact ih
  | answered _ _ ih => rw [List.map_cons, ih]

theorem Replies.unique {answers : Nat -> Answer Int} {asked : Nat} {records : List NodeRecord}
    {first second : List (NodeRecord × Answer Int)} (given : Replies answers asked records first)
    (other : Replies answers asked records second) : first = second := by
  induction given generalizing second with
  | done => cases other; rfl
  | failed failure _ ih =>
    cases other with
    | failed _ later => exact ih later
    | answered success _ => exact absurd failure success
  | answered success _ ih =>
    cases other with
    | failed failure _ => exact absurd failure success
    | answered _ later => rw [ih later]

/-- The entries that the answers ask for, in the order of the records. -/
def missingNameplates (behind : Bytes -> Nat -> UInt8) (replies : List (NodeRecord × Answer Int)) :
    List NodeRecord :=
  (replies.filter fun reply => reply.2.lacks).map fun reply => meterDataRecord behind reply.1

/-- With its replies known the loop ends, and every missing nameplate is queued in its turn. -/
theorem nameplateTurns_ends (behind : Bytes -> Nat -> UInt8) (answers : Nat -> Answer Int)
    (asked : Nat) (records : List NodeRecord) (replies : List (NodeRecord × Answer Int))
    (given : Replies answers asked records replies) :
    exists enough, forall fuel, enough ≤ fuel -> forall queue,
      nameplateTurns behind answers fuel asked records queue =
        some (enqueueAll maxQueued queue (missingNameplates behind replies)) := by
  induction given with
  | done asked =>
    refine ⟨0, fun fuel _ queue => ?_⟩
    cases fuel <;> rfl
  | @failed asked record rest replies failure _ ih =>
    obtain ⟨enough, ends⟩ := ih
    refine ⟨enough + 1, fun fuel above queue => ?_⟩
    obtain ⟨fewer, rfl⟩ : exists fewer, fuel = fewer + 1 := ⟨fuel - 1, by omega⟩
    rw [nameplateTurns, failure]
    exact ends fewer (by omega) queue
  | @answered asked record rest replies success _ ih =>
    obtain ⟨enough, ends⟩ := ih
    refine ⟨enough + 1, fun fuel above queue => ?_⟩
    obtain ⟨fewer, rfl⟩ : exists fewer, fuel = fewer + 1 := ⟨fuel - 1, by omega⟩
    rw [nameplateTurns]
    cases known : answers asked with
    | failed => exact absurd known success
    | noResult => simpa [missingNameplates, Answer.lacks] using ends fewer (by omega) queue
    | rows rowCount =>
      by_cases present : rowCount > 0
      next =>
        simpa [missingNameplates, Answer.lacks, present, not_le.mpr present] using
          ends fewer (by omega) queue
      next =>
        simpa [missingNameplates, Answer.lacks, present, not_lt.mp present] using
          ends fewer (by omega) (enqueue maxQueued queue (meterDataRecord behind record))

/-- Queries that do not fail for ever answer about every record. -/
theorem replies_exist (answers : Nat -> Answer Int) (records : List NodeRecord)
    (recovers : forall asked, exists later, asked ≤ later /\ answers later ≠ .failed) (asked : Nat) :
    exists replies, Replies answers asked records replies := by
  induction records generalizing asked with
  | nil => exact ⟨[], .done asked⟩
  | cons record rest ih =>
    obtain ⟨later, above, success⟩ := recovers asked
    obtain ⟨wait, rfl⟩ := Nat.exists_eq_add_of_le above
    -- on the number of failures before the first answer
    induction wait generalizing asked with
    | zero =>
      obtain ⟨replies, given⟩ := ih (asked + 1)
      exact ⟨_, .answered success given⟩
    | succ wait again =>
      by_cases failure : answers asked = .failed
      next =>
        have moved : asked + (wait + 1) = asked + 1 + wait := by omega
        rw [moved] at success
        obtain ⟨replies, given⟩ := again (asked + 1) (by omega) success
        exact ⟨_, .failed failure given⟩
      next =>
        obtain ⟨replies, given⟩ := ih (asked + 1)
        exact ⟨_, .answered failure given⟩

/-- The gateway's own entry, when the first query found no row for it. -/
def gatewayEntry (behind : Bytes -> Nat -> UInt8) (answer : Answer Int) (gatewayId : Bytes) :
    List NodeRecord :=
  if answer.lacks then [gatewayRecord behind gatewayId] else []

theorem meterDataRecord_full (behind : Bytes -> Nat -> UInt8) (record : NodeRecord)
    (full : FullRecord record) : meterDataRecord behind record = record := by
  obtain ⟨mac, path⟩ := full
  rw [meterDataRecord, memcpy_inside _ _ _ (by omega), memcpy_inside _ _ _ (by omega),
    List.take_of_length_le (by omega), List.take_of_length_le (by omega)]

theorem isNPDataAvailable_ends (behind : Bytes -> Nat -> UInt8) (answers : Nat -> Answer Int)
    (gatewayId : Bytes) (records queue : List NodeRecord) (replies : List (NodeRecord × Answer Int))
    (given : Replies answers 1 records replies) (success : answers 0 ≠ .failed) :
    exists enough, forall fuel, enough ≤ fuel ->
      isNPDataAvailable behind answers fuel (some gatewayId) records queue =
        some (.success, enqueueAll maxQueued queue
          (gatewayEntry behind (answers 0) gatewayId ++ missingNameplates behind replies)) := by
  obtain ⟨enough, ends⟩ := nameplateTurns_ends behind answers 1 records replies given
  refine ⟨enough, fun fuel above => ?_⟩
  rw [isNPDataAvailable, enqueueAll_append]
  cases known : answers 0 with
  | failed => exact absurd known success
  | noResult =>
    simp only [ends fuel above]
    rfl
  | rows rowCount =>
    by_cases present : rowCount > 0
    next => simp [ends fuel above, present, gatewayEntry, Answer.lacks, not_le.mpr present]
    next => simp [ends fuel above, present, gatewayEntry, Answer.lacks, not_lt.mp present]

/-- After an answer about the gateway the build ends, unless a query fails for ever. -/
theorem isNPDataAvailable_exact (behind : Bytes -> Nat -> UInt8) (answers : Nat -> Answer Int)
    (gatewayId : Bytes) (records queue : List NodeRecord) :
    (answers 0 = .failed -> forall fuel,
        isNPDataAvailable behind answers fuel (some gatewayId) records queue =
          some (.failure, queue)) /\
      ((forall asked, exists later, asked ≤ later /\ answers later ≠ .failed) ->
        exists replies, Replies answers 1 records replies) /\
      (forall replies, Replies answers 1 records replies -> answers 0 ≠ .failed ->
        exists enough last,
          (forall fuel, enough ≤ fuel ->
            isNPDataAvailable behind answers fuel (some gatewayId) records queue =
              some (.success, last)) /\
          last = enqueueAll maxQueued queue
            (gatewayEntry behind (answers 0) gatewayId ++ missingNameplates behind replies) /\
          (queue.length + (gatewayEntry behind (answers 0) gatewayId ++
              missingNameplates behind replies).length ≤ maxQueued ->
            last = queue ++ (gatewayEntry behind (answers 0) gatewayId ++
              missingNameplates behind replies))) /\
      ∀ record ∈ records, FullRecord record -> meterDataRecord behind record = record := by
  refine ⟨fun failure fuel => ?_, fun recovers => replies_exist answers records recovers 1, ?_,
    fun record _ full => meterDataRecord_full behind record full⟩
  next => rw [isNPDataAvailable, failure]
  next =>
    intro replies given success
    obtain ⟨enough, ends⟩ :=
      isNPDataAvailable_ends behind answers gatewayId records queue replies given success
    exact ⟨enough, _, ends, rfl, enqueueAll_room maxQueued queue _⟩

def nodeRecord (number : Nat) : NodeRecord :=
  { macAddress := nodeText number, pathRecord := (nodeText number).drop 8, hopCount := 1 }

-- the second record's query fails once before it is answered
theorem isNPDataAvailable_exact_retried :
    exists replies, Replies (fun asked => if asked = 2 then .failed else .rows 0) 1
      [nodeRecord 1, nodeRecord 2] replies :=
  (isNPDataAvailable_exact (fun _ _ => 0) (fun asked => if asked = 2 then .failed else .rows 0)
    (nodeText 0) [nodeRecord 1, nodeRecord 2] []).2.1
    fun asked => ⟨asked + 3, by omega, by simp⟩

theorem replies_missing (records : List NodeRecord) (asked : Nat) :
    Replies (fun _ => .rows 0) asked records (records.map fun record => (record, .rows 0)) := by
  induction records generalizing asked with
  | nil => exact .done asked
  | cons record rest ih => exact .answered (by simp) (ih (asked + 1))

/-- The gateway and 50 records without a nameplate: the gateway's entry is the oldest. -/
theorem nameplate_dropped :
    ¬ forall (answers : Nat -> Answer Int) (gatewayId : Bytes) (records : List NodeRecord)
        (replies : List (NodeRecord × Answer Int)),
      Replies answers 1 records replies -> answers 0 ≠ .failed ->
        exists enough, forall fuel, enough ≤ fuel ->
          isNPDataAvailable (fun _ _ => 0) answers fuel (some gatewayId) records [] =
            some (.success, gatewayEntry (fun _ _ => 0) (answers 0) gatewayId ++
              missingNameplates (fun _ _ => 0) replies) := by
  intro exact
  have given := replies_missing ((List.range 50).map nodeRecord) 1
  obtain ⟨enough, appended⟩ := exact (fun _ => .rows 0) (nodeText 0) _ _ given (by simp)
  obtain ⟨known, ends⟩ := isNPDataAvailable_ends (fun _ _ => 0) (fun _ => .rows 0) (nodeText 0) _ [] _
    given (by simp)
  have same := (appended (enough + known) (by omega)).symm.trans (ends (enough + known) (by omega))
  have lengths := congrArg List.length (Prod.mk.inj (Option.some.inj same)).2
  have bounded := enqueueAll_length_le maxQueued [] (gatewayEntry (fun _ _ => 0) (.rows 0) (nodeText 0) ++
    missingNameplates (fun _ _ => 0)
      (((List.range 50).map nodeRecord).map fun record => (record, Answer.rows 0))) (by simp) (by decide)
  have entries : (gatewayEntry (fun _ _ => 0) (.rows 0) (nodeText 0)).length +
      (missingNameplates (fun _ _ => 0)
        (((List.range 50).map nodeRecord).map fun record => (record, Answer.rows 0))).length = 51 := by
    decide +kernel
  rw [List.length_append, entries] at lengths
  rw [← lengths] at bounded
  exact absurd bounded (by decide)

end Hes.NodeQueues
