import Mathlib.Data.List.Sort
import Hes.PullCycles

set_option autoImplicit false

namespace Hes.MissingCycles

/-- The seconds by which the local time is ahead, at each time. -/
abbrev Zone := Int -> Int

def secondsOfDay (zone : Zone) (now : Int) : Nat := ((now + zone now) % 86400).toNat

def tmHour (zone : Zone) (now : Int) : Nat := secondsOfDay zone now / 3600

def tmMin (zone : Zone) (now : Int) : Nat := secondsOfDay zone now % 3600 / 60

def currentCycle (zone : Zone) (now : Int) : Nat := tmHour zone now * 4 + tmMin zone now / 15 + 1

def startCycle (current : Nat) : Nat := (current + 96 - 4) % 96 + 1

def inWindow (start current cycle : Nat) : Bool :=
  (start ≤ current && start ≤ cycle && cycle ≤ current) ||
    (start > current && (cycle ≥ start || cycle ≤ current))

/-- The query: `stored` says which cycles have a row of the last hour. -/
def missingRows (stored : Nat -> Bool) (start current : Nat) : List Nat :=
  (((List.range 96).map (· + 1)).filter fun cycle =>
    inWindow start current cycle && !stored cycle).insertionSort fun first second =>
      (first + 96 - start) % 96 ≤ (second + 96 - start) % 96

/-- `abs_cycles`: four rows of the result at most. -/
def absCycles (zone : Zone) (stored : Nat -> Bool) (now : Int) : List Nat :=
  (missingRows stored (startCycle (currentCycle zone now)) (currentCycle zone now)).take 4

def relativeCycle (current cycle : Nat) : Nat := (current + 96 - cycle) % 96

def getLastHourMissingIpCyclesForNode (zone : Zone) (stored : Nat -> Bool) (now : Int) :
    List Int :=
  (absCycles zone stored now).filterMap fun cycle =>
    let relative := relativeCycle (currentCycle zone now) cycle
    if relative ≤ 3 then some (relative : Int) else none

def calculateCycleId (zone : Zone) (now : Int) (subtractCycles : Int) : Nat :=
  let subtractCycles := if subtractCycles < 0 ∨ subtractCycles > 3 then 0 else subtractCycles
  let now := now - subtractCycles * 15 * 60
  let totalMinutes := tmHour zone now * 60 + tmMin zone now
  let cycleId := (totalMinutes + 5) / 15 + 1
  if cycleId > 96 then (cycleId - 1) % 96 + 1 else cycleId

/-- The cycle id of each row that is stored, by the time at which it is. -/
def storedCycles (zone : Zone) (clock : Nat -> Int) (inserts : List CycleInsert) : List Nat :=
  inserts.mapIdx fun index insert => calculateCycleId zone (clock index) insert.cycle

/-- Five minutes on, the local time is in the quarter of an hour of the day it was in at `start`;
the local time is taken where `calculate_cycle_id` takes it, `relative` quarters earlier. -/
def SameQuarter (zone : Zone) (start now relative : Int) : Prop :=
  let earlier := now - relative * 900
  (earlier + zone earlier + relative * 900 + 300) / 900 % 96 = (start + zone start) / 900 % 96

theorem sameQuarter_fixed (offset start now relative : Int) :
    SameQuarter (fun _ => offset) start now relative <->
      (now + offset + 300) / 900 % 96 = (start + offset) / 900 % 96 := by
  -- without a change of the offset the requested cycle does not matter
  simp only [SameQuarter]
  omega

theorem currentCycle_quarter (zone : Zone) (now : Int) :
    currentCycle zone now = secondsOfDay zone now / 900 + 1 := by
  simp only [currentCycle, tmHour, tmMin]
  omega

theorem currentCycle_range (zone : Zone) (now : Int) :
    1 ≤ currentCycle zone now /\ currentCycle zone now ≤ 96 := by
  have day : secondsOfDay zone now < 86400 := by
    simp only [secondsOfDay]
    omega
  rw [currentCycle_quarter]
  omega

theorem relativeCycle_window (current cycle : Nat) (low : 1 ≤ current) (high : current ≤ 96)
    (first : 1 ≤ cycle) (last : cycle ≤ 96)
    (inside : inWindow (startCycle current) current cycle = true) :
    relativeCycle current cycle ≤ 3 := by
  simp only [inWindow, Bool.or_eq_true, Bool.and_eq_true, decide_eq_true_eq] at inside
  simp only [startCycle] at inside
  simp only [relativeCycle]
  omega

theorem calculateCycleId_quarter (zone : Zone) (now : Int) (relative : Nat) (near : relative ≤ 3) :
    calculateCycleId zone now relative =
      (secondsOfDay zone (now - relative * 900) + 300) / 900 % 96 + 1 := by
  have kept : ¬ ((relative : Int) < 0 ∨ (relative : Int) > 3) := by omega
  have back : now - (relative : Int) * 15 * 60 = now - relative * 900 := by omega
  have day : secondsOfDay zone (now - relative * 900) < 86400 := by
    simp only [secondsOfDay]
    omega
  simp only [calculateCycleId, if_neg kept, back, tmHour, tmMin]
  split <;> omega

/-- The id that is stored is the one that was missing exactly in the same quarter. -/
theorem calculateCycleId_iff (zone : Zone) (start now : Int) (cycle : Nat) (first : 1 ≤ cycle)
    (last : cycle ≤ 96) (near : relativeCycle (currentCycle zone start) cycle ≤ 3) :
    calculateCycleId zone now (relativeCycle (currentCycle zone start) cycle : Nat) = cycle <->
      SameQuarter zone start now (relativeCycle (currentCycle zone start) cycle : Nat) := by
  rw [calculateCycleId_quarter zone now _ near]
  simp only [SameQuarter]
  generalize relative : relativeCycle (currentCycle zone start) cycle = back at near
  have range := currentCycle_range zone start
  rw [currentCycle_quarter] at relative range
  simp only [relativeCycle, secondsOfDay] at relative range ⊢
  generalize now - (back : Int) * 900 = earlier
  omega

theorem mem_absCycles (zone : Zone) (stored : Nat -> Bool) (now : Int) (cycle : Nat)
    (missing : cycle ∈ absCycles zone stored now) :
    1 ≤ cycle /\ cycle ≤ 96 /\ relativeCycle (currentCycle zone now) cycle ≤ 3 := by
  have row := (List.perm_insertionSort _ _).mem_iff.mp (List.mem_of_mem_take missing)
  obtain ⟨number, inside⟩ := List.mem_filter.mp row
  obtain ⟨index, below, rfl⟩ := List.mem_map.mp number
  have few := List.mem_range.mp below
  have range := currentCycle_range zone now
  have window := (Bool.and_eq_true_iff.mp inside).1
  exact ⟨by omega, by omega,
    relativeCycle_window _ _ range.1 range.2 (by omega) (by omega) window⟩

theorem missing_relative (zone : Zone) (stored : Nat -> Bool) (now : Int) :
    getLastHourMissingIpCyclesForNode zone stored now =
      (absCycles zone stored now).map fun cycle =>
        (relativeCycle (currentCycle zone now) cycle : Int) := by
  -- every missing cycle is asked for, none is skipped
  rw [getLastHourMissingIpCyclesForNode, <- List.filterMap_eq_map]
  apply List.filterMap_congr
  intro cycle missing
  simp [(mem_absCycles zone stored now cycle missing).2.2]

end Hes.MissingCycles

namespace Hes.Client

open Prog

section Listed

variable (base : PullState)

/-- The cycles of the inserts since `base`. -/
def CyclesDone (done : List Int) (client : Client) : Prop :=
  exists new, client.pull.inserts = base.inserts ++ new /\
    new.map (fun insert => insert.cycle) = done

/-- The first cycles of a list are done, in its order. -/
def CyclesStored (missing : List Int) (client : Client) : Prop :=
  exists done, done <+: missing /\ CyclesDone base done client

theorem cyclesDone_frame (done : List Int) :
    ReceiveFrame fun before after => CyclesDone base done before -> CyclesDone base done after where
  refl _ known := known
  trans _ _ _ before behind known := behind (before known)
  control _ _ known := known
  counters _ _ known := known
  assign _ known := known
  send _ _ _ known := known
  profiles _ _ _ known := known
  pull client pull same known := by
    obtain ⟨new, inserts, cycles⟩ := known
    exact ⟨new, same.trans inserts, cycles⟩

theorem insertInstantaneous_done (cycle : Int) (start : PullState) (done : List Int) :
    Returns (CyclesDone base done) (insertInstantaneous cycle start)
      fun _ => CyclesDone base (done ++ [cycle]) := by
  apply triple_update
  rintro client ⟨new, inserts, cycles⟩
  let added : CycleInsert :=
    { cycle := cycle, earlier := start.notes, own := client.pull.notes.drop start.notes.length
      before := start.node.profileData.instantaneousProfile.profileData
      profile := client.pull.node.profileData.instantaneousProfile.profileData }
  refine ⟨new ++ [added], by simp [inserts, added], ?_⟩
  simp [cycles, added]

theorem pullMissingCycles_listed (fuel turns : Nat) (done left : List Int) :
    Triple (CyclesStored base (done ++ left))
      (fun client => client.pull.node.missingIpCycles = left /\ CyclesDone base done client)
      (pullMissingCycles fuel turns) fun _ => CyclesStored base (done ++ left) := by
  -- a cycle is struck off the list by its insert, whatever the replies have done to it before
  have behind (client : Client) (known : CyclesDone base done client) :
      CyclesStored base (done ++ left) client := ⟨done, List.prefix_append _ _, known⟩
  induction turns generalizing done left with
  | zero => exact triple_pure _ fun client known => behind client known.2
  | succ turns ih =>
    refine triple_bind (fun start client => start.node.missingIpCycles = left /\
      CyclesDone base done client) (triple_observe _ fun _ known => known) fun start => ?_
    split
    next => exact triple_pure _ fun client known => behind client known.2
    next cycle rest missing =>
      have pulled : Triple (CyclesStored base (done ++ left)) (fun client =>
            start.node.missingIpCycles = left /\ CyclesDone base done client)
          (pullInstantaneousProfileForCycle fuel cycle)
          fun _ client => start.node.missingIpCycles = left /\ CyclesDone base done client := by
        apply triple_known
        intro same
        have kept := pullInstantaneousProfileForCycle_respects (cyclesDone_frame base done) fuel cycle
        exact (kept.invariant behind).weaken (fun _ known => known) fun _ _ known => ⟨same, known⟩
      refine triple_bind _ pulled fun ret => triple_known fun same => ?_
      obtain rfl : left = cycle :: rest := same.symm.trans missing
      split
      next =>
        refine triple_bind (fun _ => CyclesDone base (done ++ [cycle])) ?_ fun _ => ?_
        next =>
          intro client known
          exact (insertInstantaneous_done base cycle start done) client known
        refine triple_bind (fun _ client => client.pull.node.missingIpCycles = rest /\
          CyclesDone base (done ++ [cycle]) client) (triple_update _ fun _ known => ⟨rfl, known⟩)
          fun _ => ?_
        have later := ih (done ++ [cycle]) rest fun client known =>
          ⟨done ++ [cycle], List.prefix_append _ _, known⟩
        rwa [List.append_assoc] at later
      next => exact triple_pure _ behind

theorem pullMissingInstantaneousForANode_listed (fuel : Nat) (client : Client) :
    CyclesStored client.pull client.pull.node.missingIpCycles
      (pullMissingInstantaneousForANode fuel client).2 := by
  have nothing : CyclesDone client.pull [] client := ⟨[], by simp, rfl⟩
  unfold pullMissingInstantaneousForANode
  rw [ran_bind (show observe (fun client : Client => client.pull.node.missingIpCycles) client =
    (some client.pull.node.missingIpCycles, client) from rfl)]
  split
  next => exact ⟨[], List.nil_prefix, nothing⟩
  next =>
    split
    next =>
      let shorten : NodeInfo -> NodeInfo := fun node =>
        { node with missingIpCycles := node.missingIpCycles.take 4 }
      have four := pullMissingCycles_listed client.pull fuel 4 []
        (client.pull.node.missingIpCycles.take 4)
      obtain ⟨done, inside, known⟩ := @Triple.ends _ _ _ _ _ four (setNode shorten client).2
        ⟨rfl, nothing⟩
      exact ⟨done, inside.trans (List.take_prefix _ _), known⟩
    next => exact (pullMissingCycles_listed client.pull fuel 4 [] _).ends ⟨rfl, nothing⟩

end Listed

end Hes.Client

namespace Hes.MissingCycles

/-- The ids that are stored are the missing cycles, in their order, exactly when every row is stored
in time. -/
theorem stored_cycles_iff (zone : Zone) (stored : Nat -> Bool) (start : Int) (clock : Nat -> Int)
    (fuel : Nat) (client : Client)
    (listed : client.pull.node.missingIpCycles =
      getLastHourMissingIpCyclesForNode zone stored start) :
    let inserts := (Client.pullMissingInstantaneousForANode fuel client).2.pull.inserts.drop
      client.pull.inserts.length
    storedCycles zone clock inserts <+: absCycles zone stored start <->
      forall index insert, inserts[index]? = some insert ->
        SameQuarter zone start (clock index) insert.cycle := by
  intro inserts
  obtain ⟨done, inside, new, known, cycles⟩ :=
    Client.pullMissingInstantaneousForANode_listed fuel client
  have added : inserts = new := by
    simp only [inserts, known, List.drop_left]
  rw [listed, missing_relative, <- cycles, <- added] at inside
  obtain ⟨few, asked⟩ := List.prefix_iff_getElem.mp inside
  simp only [List.length_map, List.getElem_map] at few asked
  have row (index : Nat) (below : index < inserts.length) :
      calculateCycleId zone (clock index) inserts[index].cycle =
          (absCycles zone stored start).get ⟨index, by omega⟩ <->
        SameQuarter zone start (clock index) inserts[index].cycle := by
    obtain ⟨first, last, near⟩ := mem_absCycles zone stored start _
      (List.getElem_mem (show index < (absCycles zone stored start).length by omega))
    rw [asked index below]
    exact calculateCycleId_iff zone start (clock index) _ first last near
  rw [List.prefix_iff_getElem]
  simp only [storedCycles, List.length_mapIdx, List.getElem_mapIdx, List.getElem?_eq_some_iff]
  constructor
  next =>
    rintro ⟨_, same⟩ index insert ⟨below, rfl⟩
    exact (row index below).mp (same index below)
  next =>
    intro timely
    exact ⟨few, fun index below => (row index below).mpr (timely index _ ⟨below, rfl⟩)⟩

/-- Five and a half hours ahead of UTC. -/
def indianTime : Zone := fun _ => 19800

-- at 10:02 and at 10:12 only cycle 40, from 9:45 to 10:00, has no row
theorem stored_cycles_in_time :
    storedCycles indianTime (fun _ => 16380)
        (Client.pullMissingInstantaneousForANode 4 (missingCyclesClient [1])).2.pull.inserts <+:
      absCycles indianTime (fun cycle => cycle ≠ 40) 16320 /\
    storedCycles indianTime (fun _ => 16380)
      (Client.pullMissingInstantaneousForANode 4 (missingCyclesClient [1])).2.pull.inserts = [40] := by
  have one : (Client.pullMissingInstantaneousForANode 4 (missingCyclesClient [1])).2.pull.inserts.map
      (fun insert => insert.cycle) = [1] := by
    decide +kernel
  refine ⟨?_, by decide +kernel⟩
  next =>
    refine (stored_cycles_iff indianTime (fun cycle => cycle ≠ 40) 16320 (fun _ => 16380) 4
      (missingCyclesClient [1]) (by decide +kernel)).mpr ?_
    intro index insert found
    have among : insert.cycle ∈ [1] := one ▸ List.mem_map.mpr ⟨insert, List.mem_of_getElem? found, rfl⟩
    rw [List.mem_singleton.mp among]
    exact (sameQuarter_fixed 19800 16320 16380 1).mpr (by decide)

theorem cycle_stored_late :
    getLastHourMissingIpCyclesForNode indianTime (fun cycle => cycle ≠ 40) 16920 = [1] /\
    absCycles indianTime (fun cycle => cycle ≠ 40) 16920 = [40] /\
    storedCycles indianTime (fun _ => 16920)
      (Client.pullMissingInstantaneousForANode 4 (missingCyclesClient [1])).2.pull.inserts = [41] := by
  decide +kernel

end Hes.MissingCycles
