import Hes.AlternatePath
import Hes.Lib.Transition
import Hes.NodeQueues

set_option autoImplicit false

namespace Hes.AlternateQueue

open AlternatePath BoundedQueue Client Mqtt NodeQueues Text Transition

/-- A row of `alternate_source_route_network`. -/
structure AlternateRow where
  gatewayId : Option Bytes
  targetMacAddress : Option Bytes
  hopCount : Option Bytes
  path : Option Bytes
  deriving DecidableEq, Repr

def maxAlternates : Nat := 10

def AlternateRow.hops (row : AlternateRow) : UInt8 := toUInt8 (atoi (row.hopCount.getD []))

def AlternateRow.skipped (row : AlternateRow) : Bool := row.gatewayId.isNone || row.targetMacAddress.isNone

/-- A NULL is read, or the path is written behind its buffer of 512 bytes. -/
def AlternateRow.faulty (row : AlternateRow) : Bool :=
  !row.skipped && (row.hopCount.isNone || (row.path.isNone && row.hops ≠ 0) || 32 ≤ row.hops.toNat)

structure Looked where
  queue : List PathDataRecord
  returned : Int
  deriving DecidableEq, Repr

section Lookup

variable (behind : Bytes -> Nat -> UInt8)

/-- The path without the first half of each hop. -/
def AlternateRow.destAddress (row : AlternateRow) : Bytes :=
  let total := row.hops.toNat * 16
  copyHops (memcpy behind (row.path.getD []) total) total total 8 ++ [0]

def AlternateRow.record (row : AlternateRow) : Option PathDataRecord :=
  -- a path is queued when its text is longer than one hop
  if row.skipped || (row.path.getD []).length ≤ 16 then none
  else some {
    routerMacAddress := memcpy behind (row.targetMacAddress.getD []) 16
    -- sixteen bytes are read for each hop, where the block has eight
    pathRecord := memcpy behind (row.destAddress behind) (row.hops * 16).toNat
    hopCount := row.hops }

def takeRow (looked : Looked) (row : AlternateRow) : Option Looked :=
  if row.faulty then none
  else match row.record behind with
    | none => some looked
    | some record => some { queue := enqueue maxAlternates looked.queue record, returned := 1 }

def queuedFor (router : Bytes) (record : PathDataRecord) : Bool :=
  -- `memcmp` over the bytes of the router in front of its first zero
  let known := router.takeWhile (· ≠ 0)
  record.routerMacAddress.take known.length = known

/-- What is left when the paths of a router were asked for; none when memory is overrun. -/
def getAlternateSourceRouteNetworkFromDb (router : Bytes) (answer : Answer (List AlternateRow))
    (queue : List PathDataRecord) : Option Looked :=
  if queue.any (queuedFor router) then some { queue := queue, returned := 0 }
  else match answer with
    | .rows rows => rows.foldlM (takeRow behind) { queue := queue, returned := -1 }
    | .failed | .noResult => some { queue := queue, returned := -1 }

def records (answer : Answer (List AlternateRow)) : List PathDataRecord :=
  match answer with
  | .rows rows => rows.filterMap (AlternateRow.record behind)
  | .failed | .noResult => []

/-- A query for the paths of a router: its rows are two at most, and name the router. -/
structure Lookup where
  router : Bytes
  answer : Answer (List AlternateRow)
  few : forall rows, answer = .rows rows -> rows.length ≤ 2
  names : ∀ record ∈ records behind answer, record.routerMacAddress = router

def Lookup.Faulty (lookup : Lookup behind) : Prop :=
  exists rows, lookup.answer = .rows rows /\ ∃ row ∈ rows, row.faulty = true

/-- The queue is filled by queries, and popped by a transmission that timed out. -/
inductive Event where
  | lookup (asked : Lookup behind)
  | timedOut (hopCount : Nat) (target : Bytes) (vars : RawVars)

def queueStep : Step (List PathDataRecord) (Event behind)
  | queue, .lookup asked =>
    (getAlternateSourceRouteNetworkFromDb behind asked.router asked.answer queue).map Looked.queue
  | queue, .timedOut hopCount target vars => some (queueAfter hopCount target queue vars)

def lookups (events : List (Event behind)) : List (Lookup behind) :=
  events.filterMap fun event => match event with
    | .lookup asked => some asked
    | .timedOut _ _ _ => none

def pathsOf (router : Bytes) (queue : List PathDataRecord) : List PathDataRecord :=
  queue.filter fun record => record.routerMacAddress = router

/-- What is queued for a router is the end of what one query brought back for it. -/
structure Sound (asked : List (Lookup behind)) (queue : List PathDataRecord) : Prop where
  bounded : queue.length ≤ maxAlternates
  oneAnswer : forall router, pathsOf router queue = [] \/
    ∃ lookup ∈ asked, lookup.router = router /\ pathsOf router queue <:+ records behind lookup.answer

variable {behind}

theorem takeRows_enqueued (rows : List AlternateRow) (looked : Looked) :
    (exists after, rows.foldlM (takeRow behind) looked = some after /\
        after.queue = enqueueAll maxAlternates looked.queue (records behind (.rows rows))) \/
      (rows.foldlM (takeRow behind) looked = none /\ ∃ row ∈ rows, row.faulty = true) := by
  induction rows generalizing looked with
  | nil => exact Or.inl ⟨looked, rfl, rfl⟩
  | cons row rest ih =>
    rw [List.foldlM_cons, takeRow]
    by_cases faulty : row.faulty = true
    next => exact Or.inr ⟨by simp [faulty], row, List.mem_cons_self, faulty⟩
    next =>
      rw [if_neg faulty]
      cases made : row.record behind with
      | none =>
        rcases ih looked with ⟨after, ran, queued⟩ | ⟨stopped, other, inside, wrong⟩
        next => exact Or.inl ⟨after, by simpa using ran, by simpa [records, made] using queued⟩
        next => exact Or.inr ⟨by simpa using stopped, other, List.mem_cons_of_mem _ inside, wrong⟩
      | some record =>
        rcases ih { queue := enqueue maxAlternates looked.queue record, returned := 1 } with
          ⟨after, ran, queued⟩ | ⟨stopped, other, inside, wrong⟩
        next => exact Or.inl ⟨after, by simpa using ran, by simpa [records, made] using queued⟩
        next => exact Or.inr ⟨by simpa using stopped, other, List.mem_cons_of_mem _ inside, wrong⟩

theorem pathsOf_unqueued {router : Bytes} {queue : List PathDataRecord}
    (unqueued : ¬ queue.any (queuedFor router) = true) : pathsOf router queue = [] := by
  rw [pathsOf, List.filter_eq_nil_iff]
  intro record inside same
  have same : record.routerMacAddress = router := by simpa using same
  refine unqueued (List.any_eq_true.mpr ⟨record, inside, ?_⟩)
  -- the compared bytes are the front of the router itself
  rw [queuedFor, same, decide_eq_true_iff]
  exact (List.prefix_iff_eq_take.mp (List.takeWhile_prefix _)).symm

theorem Sound.suffix {asked : List (Lookup behind)} {queue fewer : List PathDataRecord}
    (sound : Sound behind asked queue) (inside : fewer <:+ queue) : Sound behind asked fewer where
  bounded := inside.length_le.trans sound.bounded
  oneAnswer router := by
    have left : pathsOf router fewer <:+ pathsOf router queue := inside.filter _
    rcases sound.oneAnswer router with none | ⟨lookup, known, same, ends⟩
    next => exact Or.inl (List.suffix_nil.mp (none ▸ left))
    next => exact Or.inr ⟨lookup, known, same, left.trans ends⟩

theorem enqueueAll_suffix (queue entries : List PathDataRecord) :
    enqueueAll maxAlternates queue entries <:+ queue ++ entries := by
  rw [enqueueAll_drop _ _ _ (by decide)]
  exact List.drop_suffix _ _

theorem Sound.answered {asked : List (Lookup behind)} {queue : List PathDataRecord}
    (sound : Sound behind asked queue) (lookup : Lookup behind) (known : lookup ∈ asked)
    (unqueued : ¬ queue.any (queuedFor lookup.router) = true) :
    Sound behind asked (enqueueAll maxAlternates queue (records behind lookup.answer)) where
  bounded := enqueueAll_length_le _ _ _ sound.bounded (by decide)
  oneAnswer router := by
    have ends : pathsOf router (enqueueAll maxAlternates queue (records behind lookup.answer)) <:+
        pathsOf router queue ++ pathsOf router (records behind lookup.answer) := by
      rw [pathsOf, pathsOf, pathsOf, ← List.filter_append]
      exact (enqueueAll_suffix _ _).filter _
    by_cases same : lookup.router = router
    next =>
      -- nothing was queued for the router, so that all of its paths come from this answer
      refine Or.inr ⟨lookup, known, same, ?_⟩
      have whole : pathsOf lookup.router (records behind lookup.answer) = records behind lookup.answer :=
        List.filter_eq_self.mpr (by simpa using lookup.names)
      rw [← same, pathsOf_unqueued unqueued, List.nil_append, whole] at ends
      exact same ▸ ends
    next =>
      have others : pathsOf router (records behind lookup.answer) = [] := by
        rw [pathsOf, List.filter_eq_nil_iff]
        intro record inside
        simpa [lookup.names record inside] using same
      rw [others, List.append_nil] at ends
      rcases sound.oneAnswer router with none | ⟨other, told, named, before⟩
      next => exact Or.inl (List.suffix_nil.mp (none ▸ ends))
      next => exact Or.inr ⟨other, told, named, ends.trans before⟩

theorem lookup_ends (lookup : Lookup behind) (queue : List PathDataRecord) :
    (exists looked, getAlternateSourceRouteNetworkFromDb behind lookup.router lookup.answer queue =
        some looked /\
      looked.queue = if queue.any (queuedFor lookup.router) then queue
        else enqueueAll maxAlternates queue (records behind lookup.answer)) \/
      (getAlternateSourceRouteNetworkFromDb behind lookup.router lookup.answer queue = none /\
        lookup.Faulty behind) := by
  unfold getAlternateSourceRouteNetworkFromDb
  split
  next => exact Or.inl ⟨_, rfl, rfl⟩
  next =>
    cases answer : lookup.answer with
    | rows rows =>
      rcases takeRows_enqueued rows { queue := queue, returned := -1 } with kept | ⟨stopped, wrong⟩
      next => exact Or.inl kept
      next => exact Or.inr ⟨stopped, rows, answer, wrong⟩
    | failed => exact Or.inl ⟨_, rfl, rfl⟩
    | noResult => exact Or.inl ⟨_, rfl, rfl⟩

theorem queueAfter_suffix (hopCount : Nat) (target : Bytes) (queue : List PathDataRecord)
    (vars : RawVars) : queueAfter hopCount target queue vars <:+ queue := by
  rw [queueAfter]
  split
  next =>
    split
    next =>
      split
      next => exact List.tail_suffix queue
      next => exact List.suffix_refl _
    next => exact List.suffix_refl _
  next => exact List.suffix_refl _

theorem run_sound (events : List (Event behind)) (asked : List (Lookup behind))
    (known : ∀ lookup ∈ lookups behind events, lookup ∈ asked) (queue : List PathDataRecord)
    (sound : Sound behind asked queue) :
    (exists last, run (queueStep behind) queue events = some last /\ Sound behind asked last) \/
      (run (queueStep behind) queue events = none /\ ∃ lookup ∈ asked, lookup.Faulty behind) := by
  induction events generalizing queue with
  | nil => exact Or.inl ⟨queue, rfl, sound⟩
  | cons event rest ih =>
    cases event with
    | lookup asking =>
      have listed : asking ∈ asked := known asking (by simp [lookups])
      have later : ∀ lookup ∈ lookups behind rest, lookup ∈ asked := fun lookup inside =>
        known lookup (by simpa [lookups] using Or.inr (by simpa [lookups] using inside))
      rcases lookup_ends asking queue with ⟨looked, ran, left⟩ | ⟨stopped, wrong⟩
      next =>
        have kept : Sound behind asked looked.queue := by
          rw [left]
          split
          next => exact sound
          next unqueued => exact sound.answered asking listed unqueued
        simpa [run, queueStep, ran] using ih later looked.queue kept
      next => exact Or.inr ⟨by simp [run, queueStep, stopped], asking, listed, wrong⟩
    | timedOut hopCount target vars =>
      have later : ∀ lookup ∈ lookups behind rest, lookup ∈ asked := fun lookup inside =>
        known lookup (by simpa [lookups] using inside)
      simpa [run, queueStep] using
        ih later (queueAfter hopCount target queue vars) (sound.suffix (queueAfter_suffix _ _ _ _))

theorem Sound.few {asked : List (Lookup behind)} {queue : List PathDataRecord}
    (sound : Sound behind asked queue) (router : Bytes) : (pathsOf router queue).length ≤ 2 := by
  rcases sound.oneAnswer router with none | ⟨lookup, _, _, ends⟩
  next => simp [none]
  next =>
    refine ends.length_le.trans ?_
    cases answer : lookup.answer with
    | rows rows => exact (List.length_filterMap_le _ rows).trans (lookup.few rows answer)
    | failed => simp [records]
    | noResult => simp [records]

/-- The second halves of the hops of a path. -/
def AlternateRow.halves (row : AlternateRow) : Bytes :=
  (List.range row.hops.toNat).flatMap fun hop => ((row.path.getD []).drop (16 * hop + 8)).take 8

/-- The path has sixteen digits for each hop, of which there are fewer than sixteen. -/
def AlternateRow.Whole (row : AlternateRow) : Prop :=
  16 * row.hops.toNat ≤ (row.path.getD []).length /\ row.hops.toNat < 16

theorem memcpy_take (block : Bytes) (count first : Nat) (copied : first ≤ count)
    (inside : first ≤ block.length) : (memcpy behind block count).take first = block.take first := by
  rw [← memcpy_inside behind block first inside, memcpy, ← List.map_take, List.take_range,
    Nat.min_eq_left copied, memcpy]

theorem destAddress_halves (row : AlternateRow) (whole : row.Whole) :
    row.destAddress behind = row.halves ++ [0] := by
  have total : row.hops.toNat * 16 ≤ (row.path.getD []).length := by
    have := whole.1
    omega
  rw [AlternateRow.destAddress, memcpy_inside _ _ _ total]
  congr 1
  have copied := copyHops_complete ((row.path.getD []).take (row.hops.toNat * 16)) row.hops.toNat 0
    (row.hops.toNat * 16) (by simp; omega) (Nat.zero_le _) (by omega)
  rw [Nat.mul_zero, Nat.zero_add, Nat.sub_zero] at copied
  rw [copied, AlternateRow.halves, List.range_eq_range']
  apply List.flatMap_congr
  intro hop inside
  have below : hop < row.hops.toNat := by simpa using inside
  rw [List.drop_take, List.take_take, Nat.min_eq_left (by omega)]

theorem halves_length (row : AlternateRow) (whole : row.Whole) :
    row.halves.length = 8 * row.hops.toNat := flatMap_hops_length _ _ whole.1

/-- A record has the halves of its path in front, and behind them what the memory held. -/
theorem record_path (row : AlternateRow) (record : PathDataRecord) (whole : row.Whole)
    (made : row.record behind = some record) :
    record.pathRecord.take (8 * row.hops.toNat) = row.halves /\
      record.pathRecord.length = 16 * row.hops.toNat := by
  have count : (row.hops * 16).toNat = 16 * row.hops.toNat := by
    have := whole.2
    rw [UInt8.toNat_mul, show (16 : UInt8).toNat = 16 from rfl, Nat.mod_eq_of_lt (by omega), Nat.mul_comm]
  unfold AlternateRow.record at made
  split at made
  next => cases made
  next =>
    cases made
    constructor
    next =>
      dsimp only
      rw [destAddress_halves row whole, memcpy_take _ _ _ (by omega) (by
        rw [List.length_append, halves_length row whole]
        omega), ← halves_length row whole, List.take_left']
      rfl
    next => simp [memcpy, count]

theorem record_router {row : AlternateRow} {record : PathDataRecord}
    (made : row.record behind = some record) : record.routerMacAddress.length = 16 := by
  unfold AlternateRow.record at made
  split at made
  next => cases made
  next =>
    cases made
    simp [memcpy]

theorem records_row {answer : Answer (List AlternateRow)} {record : PathDataRecord}
    (inside : record ∈ records behind answer) :
    exists rows, answer = .rows rows /\ ∃ row ∈ rows, row.record behind = some record := by
  cases answer with
  | rows rows =>
    obtain ⟨row, listed, made⟩ := List.mem_filterMap.mp inside
    exact ⟨rows, rfl, row, listed, made⟩
  | failed => exact absurd inside List.not_mem_nil
  | noResult => exact absurd inside List.not_mem_nil

theorem Sound.found {asked : List (Lookup behind)} {queue : List PathDataRecord}
    (sound : Sound behind asked queue) {target : Bytes} {record : PathDataRecord}
    (found : search target queue = some record) :
    ∃ lookup ∈ asked, lookup.router = target.take 16 /\ record ∈ records behind lookup.answer := by
  have queued : record ∈ pathsOf record.routerMacAddress queue :=
    List.mem_filter.mpr ⟨List.mem_of_find?_eq_some found, by simp⟩
  rcases sound.oneAnswer record.routerMacAddress with none | ⟨lookup, known, same, ends⟩
  next => exact absurd (none ▸ queued) List.not_mem_nil
  next =>
    have inside := ends.subset queued
    obtain ⟨_, _, row, _, made⟩ := records_row inside
    -- sixteen bytes of the record and of the target were compared
    have matched : record.routerMacAddress.take 16 = target.take 16 := by
      simpa using List.find?_some found
    refine ⟨lookup, known, ?_, inside⟩
    rw [same, ← matched, List.take_of_length_le (record_router made).le]

/-- In every run of queries and timed-out transmissions the queue has ten paths at most, two at most
for a router, and a transmission that timed out finds none but a path that a query brought back for
its target; unless a row makes a query overrun its memory. -/
theorem alternate_queue_sound (events : List (Event behind)) :
    (exists queue, run (queueStep behind) [] events = some queue /\
        Sound behind (lookups behind events) queue /\
        (forall router, (pathsOf router queue).length ≤ 2) /\
        forall target record, search target queue = some record ->
          ∃ lookup ∈ lookups behind events, lookup.router = target.take 16 /\
            exists rows, lookup.answer = .rows rows /\ ∃ row ∈ rows, row.record behind = some record /\
              (row.Whole -> record.pathRecord.take (8 * row.hops.toNat) = row.halves /\
                record.pathRecord.length = 16 * row.hops.toNat)) \/
      (run (queueStep behind) [] events = none /\
        ∃ lookup ∈ lookups behind events, lookup.Faulty behind) := by
  have empty : Sound behind (lookups behind events) [] := ⟨Nat.zero_le _, fun _ => Or.inl rfl⟩
  rcases run_sound events _ (fun _ inside => inside) [] empty with ⟨queue, ran, sound⟩ | wrong
  next =>
    refine Or.inl ⟨queue, ran, sound, sound.few, fun target record found => ?_⟩
    obtain ⟨lookup, known, same, inside⟩ := sound.found found
    obtain ⟨rows, answer, row, listed, made⟩ := records_row inside
    exact ⟨lookup, known, same, rows, answer, row, listed, made, fun whole => record_path row record whole made⟩
  next => exact Or.inr wrong

end Lookup

section Example

def twoHops (path : String) : AlternateRow where
  gatewayId := some (ascii "3CC1F60100000001")
  targetMacAddress := some (ascii "3CC1F60100000003")
  hopCount := some (ascii "2")
  path := some (ascii path)

def twoPaths : Lookup fun _ _ => 0 where
  router := ascii "3CC1F60100000003"
  answer := .rows [twoHops "3CC1F601000000023CC1F60100000003", twoHops "3CC1F601000000043CC1F60100000003"]
  few := by
    intro rows same
    cases same
    decide
  names := by decide

-- asked again, the router is found in the queue
example : (run (queueStep _) [] [.lookup twoPaths, .lookup twoPaths]).map
    (fun queue => queue.map fun record => record.pathRecord.take 16) =
      some [ascii "0000000200000003", ascii "0000000400000003"] := by decide

end Example

end Hes.AlternateQueue
